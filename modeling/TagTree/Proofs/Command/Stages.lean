import TagTree.Command.Run
import TagTree.Document
import TagTree.Proofs.Command.Selection

/-!
# Stages are printed independently

A run ends in one of three ways: the text cannot be scanned, its tokens are not
properly nested, or the selected stages are printed.  Which way it is, what is
reported and what each stage prints does not depend on the selection.  So a run
that prints all stages prints what four runs print that are asked for one stage
each, also if the tokens are all that can be printed.
-/

namespace TagTree.Command

/-! ## What is printed -/

/-- What stands below the heading of a stage. -/
def stageBody (tokens : List Token) (tree : Node) : Stage → String
  | .tokens => String.join (tokens.map tokenLine)
  | .tree => tree.outline
  | .render => tree.markup ++ "\n"
  | .json => tree.toJson.pretty ++ "\n"

/-- The selected stage below its heading, or all four stages one after the other. -/
def printed (tokens : List Token) (tree : Node) (selection : Selection) : String :=
  let stages : List Stage :=
    match selection with
    | .only stage => [stage]
    | .all => [.tokens, .tree, .render, .json]
  String.join (stages.map fun stage => header stage ++ stageBody tokens tree stage)

/-- The tokens are printed before the tree is built, and still in front of the other stages. -/
theorem tokensOutput_append_treeOutput
    (selection : Selection) (tokens : List Token) (tree : Node) :
    tokensOutput selection tokens ++ treeOutput selection tree =
      printed tokens tree selection := by
  cases selection with
  | all =>
      simp [tokensOutput, treeOutput, printed, Selection.stages, Stage.all, stageOutput,
        stageBody, String.append_assoc]
  | only stage =>
      cases stage <;>
        simp [tokensOutput, treeOutput, printed, Selection.stages, stageOutput, stageBody,
          String.append_assoc]

theorem printed_all (tokens : List Token) (tree : Node) :
    printed tokens tree .all =
      String.join (Stage.all.map fun stage => printed tokens tree (.only stage)) := by
  simp [printed, Stage.all]

/-- The tokens are printed if they or all stages are selected. -/
theorem tokensOutput_eq (selection : Selection) (tokens : List Token) :
    tokensOutput selection tokens =
      if selection = .only .tokens ∨ selection = .all then
        header .tokens ++ String.join (tokens.map tokenLine)
      else "" := by
  have selected :
      .tokens ∈ selection.stages ↔ selection = .only .tokens ∨ selection = .all := by
    cases selection with
    | all => simp [Selection.stages, Stage.all]
    | only stage => simp [Selection.stages, eq_comm]
  simp only [tokensOutput, selected]

theorem tokensOutput_all (tokens : List Token) :
    tokensOutput .all tokens =
      String.join (Stage.all.map fun stage => tokensOutput (.only stage) tokens) := by
  simp [tokensOutput, Selection.stages, Stage.all]

/-! ## The three ways a run ends -/

/-- What is reported of choosing and scanning a text. -/
def scanEvents (earlier : List Event) (text : String) : List Event :=
  earlier ++ (Warnings.empty.sift (Scan.ofText text).events).1

section

variable {text : String} (options : Options) (earlier : List Event)

theorem runOn_of_stall {stall : Stall}
    (stalled : (Scan.ofText text).stall? = some stall) :
    runOn options earlier text =
      failed options.verbose "" (scanEvents earlier text) (.scanning stall) := by
  simp only [runOn, stalled, scanEvents]

theorem runOn_of_error {error : StructureError}
    (scanned : (Scan.ofText text).stall? = none)
    (refused : (Construction.ofTokens (Scan.ofText text).tokens).result = .error error) :
    runOn options earlier text =
      failed options.verbose (tokensOutput options.selection (Scan.ofText text).tokens)
        (scanEvents earlier text ++ (Construction.ofTokens (Scan.ofText text).tokens).events)
        (.building error) := by
  simp only [runOn, scanned, Construction.tree, refused, Except.map, scanEvents,
    Construction.allEvents, Construction.gatherEvents, List.append_nil]

theorem runOn_of_ok {nodes : List Node}
    (scanned : (Scan.ofText text).stall? = none)
    (built : (Construction.ofTokens (Scan.ofText text).tokens).result = .ok nodes) :
    runOn options earlier text =
      { exitCode := 0
        output :=
          printed (Scan.ofText text).tokens (Node.gather options.rootName nodes)
            options.selection
        diagnostics :=
          eventLines options.verbose
            (scanEvents earlier text ++
              (Construction.ofTokens (Scan.ofText text).tokens).allEvents
                options.rootName) } := by
  simp only [runOn, scanned, Construction.tree, built, Except.map, scanEvents,
    tokensOutput_append_treeOutput]

end

/--
How far a text gets, with what parsing makes of it: up to a stall, up to a tag at
fault, or to its nodes.
-/
inductive Progress (text : String) : Except ParseError Node → Prop where
  | unreadable (stall : Stall)
      (stalled : (Scan.ofText text).stall? = some stall) :
      Progress text (.error (.unreadable stall))
  | malformed (error : StructureError)
      (scanned : (Scan.ofText text).stall? = none)
      (refused : (Construction.ofTokens (Scan.ofText text).tokens).result = .error error) :
      Progress text
        (.error
          (.malformed error
            (Position.ofOffset text
              (Document.tokenOffset text (Scan.ofText text) error.index))))
  | complete (nodes : List Node)
      (scanned : (Scan.ofText text).stall? = none)
      (built : (Construction.ofTokens (Scan.ofText text).tokens).result = .ok nodes) :
      Progress text (.ok (Node.gather Node.syntheticRootName nodes))

theorem progress_parse (text : String) : Progress text (Document.parse text) := by
  simp only [Document.parse, buildTree, Construction.tree]
  cases scanned : (Scan.ofText text).stall? with
  | some stall => exact .unreadable stall scanned
  | none =>
      cases result : (Construction.ofTokens (Scan.ofText text).tokens).result with
      | error error => exact .malformed error scanned result
      | ok nodes => exact .complete nodes scanned result

/-! ## Runs with different selections -/

/-- Printing all stages is printing one after the other, and all else stays the same. -/
structure PrintsStages (outcome : Selection → Outcome) : Prop where
  output_all :
    (outcome .all).output =
      String.join (Stage.all.map fun stage => (outcome (.only stage)).output)
  exitCode_eq : ∀ selection : Selection, (outcome selection).exitCode = (outcome .all).exitCode
  diagnostics_eq :
    ∀ selection : Selection, (outcome selection).diagnostics = (outcome .all).diagnostics

/-- A run that fails before anything is printed fails in the same way for all selections. -/
theorem printsStages_failed (verbose : Bool) (events : List Event) (failure : Failure) :
    PrintsStages fun _ => failed verbose "" events failure where
  output_all := by simp [failed, Stage.all]
  exitCode_eq _ := rfl
  diagnostics_eq _ := rfl

theorem printsStages_runOn (options : Options) (earlier : List Event) (text : String) :
    PrintsStages fun selection => runOn (options.select selection) earlier text := by
  have progress := progress_parse text
  generalize Document.parse text = parsed at progress
  cases progress with
  | unreadable stall stalled =>
      simp only [runOn_of_stall _ _ stalled]
      exact printsStages_failed options.verbose _ _
  | malformed error scanned refused =>
      simp only [runOn_of_error _ _ scanned refused]
      exact ⟨tokensOutput_all _, fun _ => rfl, fun _ => rfl⟩
  | complete nodes scanned built =>
      simp only [runOn_of_ok _ _ scanned built]
      exact ⟨printed_all _ _, fun _ => rfl, fun _ => rfl⟩

theorem printsStages_execute (options : Options) (read : String → Except ReadError ByteArray) :
    PrintsStages fun selection => execute (options.select selection) read := by
  have sameSource (selection : Selection) :
      loadSource (options.select selection) read = loadSource options read := rfl
  simp only [execute, sameSource]
  cases loadSource options read with
  | error failure => exact printsStages_failed options.verbose _ failure
  | ok source => exact printsStages_runOn options source.1 source.2

theorem run_emit
    {arguments : List String} {options : Options}
    (asked : Invocation.ofArguments ("--emit" :: "all" :: arguments) = .ok (.run options))
    (read : String → Except ReadError ByteArray) (selection : Selection) :
    run ("--emit" :: selection.name :: arguments) read =
      execute (options.select selection) read := by
  have selected := Invocation.ofArguments_select selection .all arguments
  rw [Selection.name.eq_def .all] at selected
  simp only [asked] at selected
  rw [run, selected]
  rfl

/--
A command that prints all stages of a document prints what it prints of the tokens,
the tree, the markup and the JSON if it is asked for one stage at a time, in this
order.  It ends with the same exit code and the same reports, whatever the
document, the source it is read from and the other arguments are.
-/
theorem run_emit_all
    {arguments : List String} {options : Options}
    (asked : Invocation.ofArguments ("--emit" :: "all" :: arguments) = .ok (.run options))
    (read : String → Except ReadError ByteArray) :
    (run ("--emit" :: "all" :: arguments) read).output =
      (run ("--emit" :: "tokens" :: arguments) read).output ++
      (run ("--emit" :: "tree" :: arguments) read).output ++
      (run ("--emit" :: "render" :: arguments) read).output ++
      (run ("--emit" :: "json" :: arguments) read).output ∧
    ∀ name ∈ ["tokens", "tree", "render", "json"],
      (run ("--emit" :: name :: arguments) read).exitCode =
        (run ("--emit" :: "all" :: arguments) read).exitCode ∧
      (run ("--emit" :: name :: arguments) read).diagnostics =
        (run ("--emit" :: "all" :: arguments) read).diagnostics := by
  have prints := printsStages_execute options read
  simp only [← run_emit asked read] at prints
  constructor
  · have joined := prints.output_all
    simp only [Stage.all, List.map_cons, List.map_nil, String.join_cons, String.join_nil,
      String.append_empty, Selection.name, Stage.name] at joined
    simp only [joined, String.append_assoc]
  · intro name member
    have named : name ∈ Stage.all.map Stage.name := member
    rcases List.mem_map.mp named with ⟨stage, _, rfl⟩
    exact ⟨prints.exitCode_eq (.only stage), prints.diagnostics_eq (.only stage)⟩

/--
Of a document that parses all four stages are printed, each of them by one of the
runs.  Of one with a tag that is never closed only the tokens are printed before
each of the runs fails.
-/
theorem run_emit_all_two_documents :
    let arguments := fun markup : String => ["-v", "--root-name=R", "--html", markup]
    let options := fun markup : String =>
      ({ path? := none, markup? := some markup, selection := .all, verbose := true,
         rootName := "R" } : Options)
    let read : String → Except ReadError ByteArray := fun _ => .error .notFound
    (Invocation.ofArguments ("--emit" :: "all" :: arguments "x<b></b>") =
        .ok (.run (options "x<b></b>")) ∧
      (∀ name ∈ ["tokens", "tree", "render", "json"],
        (run ("--emit" :: name :: arguments "x<b></b>") read).output ≠ "") ∧
      (run ("--emit" :: "all" :: arguments "x<b></b>") read).output =
        (run ("--emit" :: "tokens" :: arguments "x<b></b>") read).output ++
        (run ("--emit" :: "tree" :: arguments "x<b></b>") read).output ++
        (run ("--emit" :: "render" :: arguments "x<b></b>") read).output ++
        (run ("--emit" :: "json" :: arguments "x<b></b>") read).output ∧
      (run ("--emit" :: "json" :: arguments "x<b></b>") read).exitCode = 0) ∧
    (Invocation.ofArguments ("--emit" :: "all" :: arguments "x<b>y") =
        .ok (.run (options "x<b>y")) ∧
      (run ("--emit" :: "all" :: arguments "x<b>y") read).output =
        (run ("--emit" :: "tokens" :: arguments "x<b>y") read).output ∧
      (run ("--emit" :: "json" :: arguments "x<b>y") read).exitCode = 1) := by
  intro arguments options read
  constructor
  · have asked :
        Invocation.ofArguments ("--emit" :: "all" :: arguments "x<b></b>") =
          .ok (.run (options "x<b></b>")) :=
      rfl
    rcases run_emit_all asked read with ⟨joined, same⟩
    refine ⟨asked, ?_, joined, ?_⟩
    · decide +kernel
    · rw [(same "json" (by simp)).1]
      decide +kernel
  · have asked :
        Invocation.ofArguments ("--emit" :: "all" :: arguments "x<b>y") =
          .ok (.run (options "x<b>y")) :=
      rfl
    rcases run_emit_all asked read with ⟨joined, same⟩
    have noTree :
        ∀ name ∈ ["tree", "render", "json"],
          (run ("--emit" :: name :: arguments "x<b>y") read).output = "" := by
      decide +kernel
    refine ⟨asked, ?_, ?_⟩
    · rw [joined, noTree "tree" (by simp), noTree "render" (by simp),
        noTree "json" (by simp)]
      simp only [String.append_empty]
    · rw [(same "json" (by simp)).1]
      decide +kernel

end TagTree.Command
