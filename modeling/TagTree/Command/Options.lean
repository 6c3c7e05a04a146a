import TagTree.Node.Basic

/-!
# Command lines

The arguments of the command name at most one file, or give the markup itself,
and choose what is printed.  Arguments are read from left to right and the
first fault ends the reading; a request for the version or for help ends it
too, so faults behind it do not count.  Only the conflict between a file and
given markup is found at the end.

An option with a value takes it from behind an equals sign or from the next
argument, which must not look like an option.  A lone dash is an ordinary
argument, and after two dashes every argument is one.
-/

namespace TagTree.Command

/-- What can be printed of a document, in the order in which it is printed. -/
inductive Stage where
  | tokens
  | tree
  | render
  | json
deriving DecidableEq

namespace Stage

/-- The name of a stage. -/
def name : Stage → String
  | tokens => "tokens"
  | tree => "tree"
  | render => "render"
  | json => "json"

/-- All stages in the order in which they are printed. -/
def all : List Stage :=
  [tokens, tree, render, json]

end Stage

/-- The stages that are to be printed: one of them, or all. -/
inductive Selection where
  | only (stage : Stage)
  | all
deriving DecidableEq

namespace Selection

/-- The selected stages in the order in which they are printed. -/
def stages : Selection → List Stage
  | only stage => [stage]
  | all => Stage.all

/-- The selection with the given name. -/
def ofName? (name : String) : Option Selection :=
  if name = "all" then
    some all
  else
    (Stage.all.find? fun stage => stage.name == name).map only

end Selection

/-- What a run is asked to do. -/
structure Options where
  /-- The file to read. -/
  path? : Option String
  /-- The markup to read instead of a file. -/
  markup? : Option String
  /-- The stages to print. -/
  selection : Selection
  /-- Whether to report more than warnings. -/
  verbose : Bool
  /-- The name of the element around several top-level nodes. -/
  rootName : String
deriving DecidableEq

/-- What a command line asks for. -/
inductive Invocation where
  | run (options : Options)
  | showVersion
  | showHelp
deriving DecidableEq

/-- The options that take a value. -/
inductive ValueOption where
  | html
  | emit
  | rootName
deriving DecidableEq

namespace ValueOption

/-- The name of an option, without dashes. -/
def name : ValueOption → String
  | html => "html"
  | emit => "emit"
  | rootName => "root-name"

/-- The option with the given name. -/
def ofName? (name : String) : Option ValueOption :=
  [html, emit, rootName].find? fun option => option.name == name

end ValueOption

/-- What is wrong with a command line. -/
inductive UsageError where
  /-- There is no such option, or no place for another file. -/
  | unexpected (argument : String)
  /-- The option needs a value. -/
  | missingValue (option : String)
  /-- The option takes no value. -/
  | unneededValue (option : String)
  /-- The option is given twice. -/
  | repeated (option : String)
  /-- The value is not one of those allowed. -/
  | invalidValue (option value : String)
  /-- A file and markup are both given. -/
  | conflict
deriving DecidableEq

namespace UsageError

/-- The sentence that reports the error. -/
def message : UsageError → String
  | unexpected argument => "unexpected argument '" ++ argument ++ "' found"
  | missingValue option => "a value is required for '" ++ option ++ "' but none was supplied"
  | unneededValue option => "no value may be given to '" ++ option ++ "'"
  | repeated option => "the argument '" ++ option ++ "' cannot be used multiple times"
  | invalidValue option value => "invalid value '" ++ value ++ "' for '" ++ option ++ "'"
  | conflict => "the argument '[FILE]' cannot be used with '--html <MARKUP>'"

end UsageError

/-- A single argument by its form. -/
inductive Argument where
  /-- Two dashes: every argument after them is an ordinary one. -/
  | separator
  /-- An option with a long name, and the value behind an equals sign. -/
  | long (name : String) (value? : Option String)
  /-- A group of options with one letter each. -/
  | short (letters : List Char)
  /-- An ordinary argument. -/
  | plain (text : String)
deriving DecidableEq

namespace Argument

/-- Splits what follows two dashes at the first equals sign. -/
def splitLong (characters : List Char) : Argument :=
  let name := String.ofList (characters.takeWhile (· != '='))
  match characters.dropWhile (· != '=') with
  | [] => .long name none
  | _ :: value => .long name (some (String.ofList value))

/-- The form of an argument. -/
def ofString (text : String) : Argument :=
  match text.toList with
  | ['-', '-'] => .separator
  | '-' :: '-' :: characters => splitLong characters
  | ['-'] => .plain text
  | '-' :: letters => .short letters
  | _ => .plain text

end Argument

/-- What the arguments read so far have set. -/
structure Draft where
  /-- The file to read. -/
  path? : Option String
  /-- The markup to read instead of a file. -/
  markup? : Option String
  /-- The stages to print. -/
  selection? : Option Selection
  /-- Whether to report more than warnings. -/
  verbose : Bool
  /-- The name of the element around several top-level nodes. -/
  rootName? : Option String
deriving DecidableEq

namespace Draft

/-- Nothing is set. -/
def empty : Draft where
  path? := none
  markup? := none
  selection? := none
  verbose := false
  rootName? := none

/-- Sets the file to read; it needs a name, and there can be only one. -/
def setPath (draft : Draft) (path : String) : Except UsageError Draft :=
  if draft.path?.isSome then
    .error (.unexpected path)
  else if path.isEmpty then
    .error (.invalidValue "[FILE]" path)
  else
    .ok { draft with path? := some path }

/-- Asks for more than warnings; once is enough. -/
def setVerbose (draft : Draft) : Except UsageError Draft :=
  if draft.verbose then .error (.repeated "--verbose") else .ok { draft with verbose := true }

/-- Sets the value of an option that was not given before. -/
def setValue (draft : Draft) (option : ValueOption) (value : String) :
    Except UsageError Draft :=
  match option with
  | .html =>
    if draft.markup?.isSome then
      .error (.repeated "--html")
    else
      .ok { draft with markup? := some value }
  | .emit =>
    if draft.selection?.isSome then
      .error (.repeated "--emit")
    else
      match Selection.ofName? value with
      | none => .error (.invalidValue "--emit" value)
      | some selection => .ok { draft with selection? := some selection }
  | .rootName =>
    if draft.rootName?.isSome then
      .error (.repeated "--root-name")
    else
      .ok { draft with rootName? := some value }

/-- The options of a whole command line, with defaults for what is not set. -/
def options (draft : Draft) : Except UsageError Options :=
  if draft.path?.isSome ∧ draft.markup?.isSome then
    .error .conflict
  else
    .ok
      { path? := draft.path?
        markup? := draft.markup?
        selection := draft.selection?.getD .all
        verbose := draft.verbose
        rootName := draft.rootName?.getD Node.syntheticRootName }

/-- Reads a group of options with one letter each; some of them end the reading. -/
def readShort (draft : Draft) : List Char → Except UsageError (Draft ⊕ Invocation)
  | [] => .ok (.inl draft)
  | 'v' :: others =>
    match draft.setVerbose with
    | .error error => .error error
    | .ok next => next.readShort others
  | 'V' :: _ => .ok (.inr .showVersion)
  | 'h' :: _ => .ok (.inr .showHelp)
  | letter :: _ => .error (.unexpected ("-" ++ String.singleton letter))

/-- Reads a long option without a value; some of them end the reading. -/
def readFlag (draft : Draft) (name : String) : Except UsageError (Draft ⊕ Invocation) :=
  match name with
  | "verbose" => draft.setVerbose.map .inl
  | "version" => .ok (.inr .showVersion)
  | "help" => .ok (.inr .showHelp)
  | _ => .error (.unexpected ("--" ++ name))

/-- Reads the arguments after the separator: each names a file. -/
def readPlain (draft : Draft) : List String → Except UsageError Draft
  | [] => .ok draft
  | text :: others =>
    match draft.setPath text with
    | .error error => .error error
    | .ok next => next.readPlain others

/-- The long names of options without a value. -/
def isFlag (name : String) : Bool :=
  name == "verbose" || name == "version" || name == "help"

/-- Reads arguments from left to right. -/
def read (draft : Draft) : List String → Except UsageError Invocation
  | [] => draft.options.map .run
  | argument :: others =>
    match Argument.ofString argument with
    | .separator =>
      match draft.readPlain others with
      | .error error => .error error
      | .ok next => next.options.map .run
    | .plain text =>
      match draft.setPath text with
      | .error error => .error error
      | .ok next => next.read others
    | .short letters =>
      match draft.readShort letters with
      | .error error => .error error
      | .ok (.inr invocation) => .ok invocation
      | .ok (.inl next) => next.read others
    | .long name value? =>
      match ValueOption.ofName? name, value? with
      | none, some _ =>
        if isFlag name then .error (.unneededValue ("--" ++ name))
        else .error (.unexpected ("--" ++ name))
      | none, none =>
        match draft.readFlag name with
        | .error error => .error error
        | .ok (.inr invocation) => .ok invocation
        | .ok (.inl next) => next.read others
      | some option, some value =>
        match draft.setValue option value with
        | .error error => .error error
        | .ok next => next.read others
      | some option, none =>
        match others with
        | [] => .error (.missingValue ("--" ++ name))
        | value :: remaining =>
          match Argument.ofString value with
          | .plain text =>
            match draft.setValue option text with
            | .error error => .error error
            | .ok next => next.read remaining
          | _ => .error (.missingValue ("--" ++ name))

end Draft

/-- What a command line asks for. -/
def Invocation.ofArguments (arguments : List String) : Except UsageError Invocation :=
  Draft.empty.read arguments

end TagTree.Command
