import TagTree.Command.Folder
import TagTree.Command.Options
import TagTree.Node.Build
import TagTree.Node.Json
import TagTree.Node.Outline
import TagTree.Text.Terminal
import TagTree.Warnings

/-!
# Running the command

A run reads a document, scans it, builds its tree and prints the selected
stages.  The tokens are printed before the tree is built, so they appear even
if the document is not properly nested.  What happens on the way is reported
on the diagnostic channel: warnings always, the rest on request.
-/

namespace TagTree.Command

/-- What a run leaves behind. -/
structure Outcome where
  /-- Zero for success, one for a document at fault, two for a command line at fault. -/
  exitCode : Nat
  /-- What was printed. -/
  output : String
  /-- What was reported. -/
  diagnostics : String
deriving DecidableEq

/-- Why a run fails. -/
inductive Failure where
  | reading (path : String) (error : ReadError)
  | scanning (stall : Stall)
  | building (error : StructureError)
deriving DecidableEq

namespace Failure

/-- What the run was about to do. -/
def context : Failure → String
  | reading path _ => "failed to read " ++ path
  | scanning _ => "failed to tokenize input"
  | building _ => "failed to build tree"

/-- Why that was impossible. -/
def cause : Failure → String
  | reading _ error => error.message
  | scanning stall => stall.message
  | building error => error.message

/-- The report of a failure. -/
def report (failure : Failure) : String :=
  "Error: " ++ failure.context ++ "\n\nCaused by:\n    " ++ failure.cause ++ "\n"

end Failure

/-- The field `name=value` behind a space, with quotes around a value that is a text. -/
def fieldText : String × FieldValue → String
  | (name, .text content) => " " ++ name ++ "=" ++ Quoted.encode content
  | (name, .shown written) => " " ++ name ++ "=" ++ written

/--
The line that reports an event.  The time stamp in front of it and its colours
are left out.
-/
def eventLine (event : Event) : String :=
  Terminal.padLeft 5 event.level.name ++ " " ++ Terminal.sanitize event.message ++
    String.join (event.fields.map fieldText) ++ "\n"

/--
Warnings are always reported, lesser matters on request, and traces never.  The
environment variable that could choose other levels is taken to be unset.
-/
def isReported (verbose : Bool) (event : Event) : Bool :=
  match event.level with
  | .warn => true
  | .debug => verbose
  | .trace => false

/-- The report of some events. -/
def eventLines (verbose : Bool) (events : List Event) : String :=
  String.join ((events.filter (isReported verbose)).map eventLine)

/-- The line above a stage. -/
def header (stage : Stage) : String :=
  Terminal.heading ("=== " ++ stage.name ++ " ===") ++ "\n"

/-- The line of a token: its kind and its markup. -/
def tokenLine (token : Token) : String :=
  Terminal.dimmed (Terminal.padRight 9 token.kind.name) ++ " " ++ token.display ++ "\n"

/-- What is printed of the tokens, before the tree is built. -/
def tokensOutput (selection : Selection) (tokens : List Token) : String :=
  if .tokens ∈ selection.stages then
    header .tokens ++ String.join (tokens.map tokenLine)
  else
    ""

/-- What a stage prints of the tree. -/
def stageOutput (tree : Node) : Stage → String
  | .tokens => ""
  | .tree => header .tree ++ tree.outline
  | .render => header .render ++ tree.markup ++ "\n"
  | .json => header .json ++ tree.toJson.pretty ++ "\n"

/-- What is printed of the tree. -/
def treeOutput (selection : Selection) (tree : Node) : String :=
  String.join (selection.stages.map (stageOutput tree))

/-- The document that is read if none is named. -/
def sampleDocument : String :=
  "<p>I'm NIX</p>\n" ++
  "<div>\n" ++
  "    <div>\n" ++
  "        <p>Hello</p>\n" ++
  "        <p>World</p>\n" ++
  "    </div>\n" ++
  "</div>"

/-- The document to read, with what is reported of choosing it. -/
def loadSource (options : Options) (read : String → Except ReadError ByteArray) :
    Except Failure (List Event × String) :=
  match options.markup?, options.path? with
  | some markup, _ => .ok ([], markup)
  | none, some path =>
    match (read path).bind decodeText with
    | .error error => .error (.reading path error)
    | .ok text => .ok ([], text)
  | none, none => .ok ([.sampleChosen], sampleDocument)

/-- The outcome of a run that fails after the given output and events. -/
def failed (verbose : Bool) (output : String) (events : List Event) (failure : Failure) :
    Outcome where
  exitCode := 1
  output := output
  diagnostics := eventLines verbose events ++ failure.report

/-- Reads a document and prints the selected stages, after the given events. -/
def runOn (options : Options) (earlier : List Event) (text : String) : Outcome :=
  let scan := Scan.ofText text
  let scanEvents := earlier ++ (Warnings.empty.sift scan.events).1
  match scan.stall? with
  | some stall => failed options.verbose "" scanEvents (.scanning stall)
  | none =>
    let construction := Construction.ofTokens scan.tokens
    let events := scanEvents ++ construction.allEvents options.rootName
    let output := tokensOutput options.selection scan.tokens
    match construction.tree options.rootName with
    | .error error => failed options.verbose output events (.building error)
    | .ok tree =>
      { exitCode := 0
        output := output ++ treeOutput options.selection tree
        diagnostics := eventLines options.verbose events }

/-- Runs the command with the given options. -/
def execute (options : Options) (read : String → Except ReadError ByteArray) : Outcome :=
  match loadSource options read with
  | .error failure => failed options.verbose "" [] failure
  | .ok (events, text) => runOn options events text

/-- The line that `--version` prints. -/
def versionText : String :=
  "twig 0.1.0\n"

/-- The text that `--help` prints. -/
def helpText : String :=
  "Command line front end for the twig markup parser\n" ++
  "\n" ++
  "Usage: twig [OPTIONS] [FILE]\n" ++
  "\n" ++
  "Arguments:\n" ++
  "  [FILE]  Path to a markup file\n" ++
  "\n" ++
  "Options:\n" ++
  "      --html <MARKUP>     Parse this string instead of a file\n" ++
  "      --emit <EMIT>       Which stage to print [default: all] " ++
  "[possible values: tokens, tree, render, json, all]\n" ++
  "  -v, --verbose           Log tokenizer and tree builder activity to stderr\n" ++
  "      --root-name <NAME>  Name of the element wrapping multiple top-level nodes " ++
  "[default: Root]\n" ++
  "  -h, --help              Print help\n" ++
  "  -V, --version           Print version\n" ++
  "\n" ++
  "EXAMPLES:\n" ++
  "    # Parse the built-in sample document\n" ++
  "    twig\n" ++
  "\n" ++
  "    # Parse a file and print only the tree\n" ++
  "    twig --emit tree ./page.twig\n" ++
  "\n" ++
  "    # Parse inline markup as JSON\n" ++
  "    twig --emit json --html '<a href=https://apple.com>Apple</a>'\n" ++
  "\n"

/-- The report of a command line at fault. -/
def usageReport (error : UsageError) : String :=
  "error: " ++ error.message ++ "\n\nUsage: twig [OPTIONS] [FILE]\n\n" ++
    "For more information, try '--help'.\n"

/-- Runs the command with the given arguments, reading files as told. -/
def run (arguments : List String) (read : String → Except ReadError ByteArray) : Outcome :=
  match Invocation.ofArguments arguments with
  | .error error => { exitCode := 2, output := "", diagnostics := usageReport error }
  | .ok .showVersion => { exitCode := 0, output := versionText, diagnostics := "" }
  | .ok .showHelp => { exitCode := 0, output := helpText, diagnostics := "" }
  | .ok (.run options) => execute options read

end TagTree.Command
