import TagTree.Proofs.Command.Stages
import TagTree.Proofs.Node.Events

/-!
# The command and the parsing of documents

A run takes the same steps as parsing a document, but one by one: it prints the
tokens in between, it can name the element around several nodes, and it does not
look up the position of a tag at fault.  This file shows that the two never drift
apart.  A run succeeds exactly if the document parses and prints that tree; it
fails with the error of parsing, less the position.

The name of the element around several nodes is seen in the tree of such a
document, and in the report of putting it there, which is made on request only.
-/

namespace TagTree.Command

/-- The run succeeds with the given output and reports nothing but events. -/
def Outcome.SucceedsWith (outcome : Outcome) (verbose : Bool) (output : String) : Prop :=
  outcome.exitCode = 0 ∧
  outcome.output = output ∧
  ∃ events : List Event, outcome.diagnostics = eventLines verbose events

/-- The run fails behind the given output, and reports context and cause behind its events. -/
def Outcome.FailsWith
    (outcome : Outcome) (verbose : Bool) (output context cause : String) : Prop :=
  outcome.exitCode = 1 ∧
  outcome.output = output ∧
  ∃ events : List Event,
    outcome.diagnostics =
      eventLines verbose events ++
        ("Error: " ++ context ++ "\n\nCaused by:\n    " ++ cause ++ "\n")

/-- The options with another name for the element around several nodes. -/
def Options.rename (rootName : String) (options : Options) : Options :=
  { options with rootName }

section

variable {text : String} (options : Options) (earlier : List Event) (rootName : String)

/-- With any name around several nodes, a document that parses has its stages printed. -/
theorem runOn_rename_succeeds {nodes : List Node}
    (scanned : (Scan.ofText text).stall? = none)
    (built : (Construction.ofTokens (Scan.ofText text).tokens).result = .ok nodes) :
    (runOn (options.rename rootName) earlier text).SucceedsWith options.verbose
      (printed (Scan.ofText text).tokens (Node.gather rootName nodes)
        options.selection) := by
  rw [runOn_of_ok _ _ scanned built]
  exact ⟨rfl, rfl, _, rfl⟩

theorem runOn_rename_of_unreadable {stall : Stall}
    (failed : Document.parse text = .error (.unreadable stall)) :
    (runOn (options.rename rootName) earlier text).FailsWith options.verbose ""
      "failed to tokenize input" (ParseError.unreadable stall).message := by
  have progress := progress_parse text
  rw [failed] at progress
  cases progress with
  | unreadable _ stalled =>
      rw [runOn_of_stall _ _ stalled]
      exact ⟨rfl, rfl, _, rfl⟩

theorem runOn_rename_of_malformed {error : StructureError} {position : Position}
    (failed : Document.parse text = .error (.malformed error position)) :
    (runOn (options.rename rootName) earlier text).FailsWith options.verbose
      (if options.selection = .only .tokens ∨ options.selection = .all then
        header .tokens ++ String.join ((Scan.ofText text).tokens.map tokenLine)
      else "")
      "failed to build tree" error.message := by
  have progress := progress_parse text
  rw [failed] at progress
  cases progress with
  | malformed _ scanned refused =>
      rw [runOn_of_error _ _ scanned refused, ← tokensOutput_eq]
      exact ⟨rfl, rfl, _, rfl⟩

/-- If a document does not parse, the name of an element around several nodes is not seen. -/
theorem runOn_rename_of_parse_error {error : ParseError}
    (failed : Document.parse text = .error error)
    (otherName : String) :
    runOn (options.rename rootName) earlier text =
      runOn (options.rename otherName) earlier text := by
  have progress := progress_parse text
  rw [failed] at progress
  cases progress with
  | unreadable stall stalled =>
      rw [runOn_of_stall _ _ stalled, runOn_of_stall _ _ stalled]
      rfl
  | malformed error scanned refused =>
      rw [runOn_of_error _ _ scanned refused, runOn_of_error _ _ scanned refused]
      rfl

/-- A single node has no element around it, and no name of one is seen. -/
theorem runOn_rename_of_single {node : Node}
    (scanned : (Scan.ofText text).stall? = none)
    (built : (Construction.ofTokens (Scan.ofText text).tokens).result = .ok [node])
    (otherName : String) :
    runOn (options.rename rootName) earlier text =
      runOn (options.rename otherName) earlier text := by
  rw [runOn_of_ok _ _ scanned built, runOn_of_ok _ _ scanned built]
  simp only [Node.gather, Construction.allEvents, Construction.gatherEvents_of_ok built,
    List.length_singleton, if_true]
  rfl

/-- Unless more than warnings is asked for, the reports do not show the name. -/
theorem diagnostics_runOn_rename {nodes : List Node}
    (scanned : (Scan.ofText text).stall? = none)
    (built : (Construction.ofTokens (Scan.ofText text).tokens).result = .ok nodes)
    (warningsOnly : options.verbose = false)
    (otherName : String) :
    (runOn (options.rename rootName) earlier text).diagnostics =
      (runOn (options.rename otherName) earlier text).diagnostics := by
  have wrappedUnreported (name : String) :
      (Construction.gatherEvents (Construction.ofTokens (Scan.ofText text).tokens) name).filter
          (isReported false) =
        [] := by
    rw [Construction.gatherEvents_of_ok built]
    split
    · rfl
    · rfl
  rw [runOn_of_ok _ _ scanned built, runOn_of_ok _ _ scanned built]
  simp only [Options.rename, warningsOnly, eventLines, Construction.allEvents,
    List.filter_append, wrappedUnreported]

end

/--
A run agrees with the parsing of its document: it exits with zero exactly if the
document parses, and then prints the tree of parsing.  It fails with the error of
parsing, less the position of a tag at fault.  Another name for the element around
several nodes changes no error, and changes a tree only in the name of that
element.
-/
theorem runOn_agrees_with_parse (options : Options) (earlier : List Event) (text : String) :
    let outcome := fun rootName : String => runOn (options.rename rootName) earlier text
    let tokens := (Scan.ofText text).tokens
    -- The exit code tells whether the document parses.
    ((outcome Node.syntheticRootName).exitCode = 0 ↔
      ∃ tree : Node, Document.parse text = .ok tree) ∧
    -- The stages show the tree of parsing.
    (∀ tree : Node, Document.parse text = .ok tree →
      (outcome Node.syntheticRootName).SucceedsWith options.verbose
        (printed tokens tree options.selection)) ∧
    -- A text that cannot be scanned is reported as in parsing, and nothing is printed.
    (∀ stall : Stall, Document.parse text = .error (.unreadable stall) →
      (outcome Node.syntheticRootName).FailsWith options.verbose ""
        "failed to tokenize input" (ParseError.unreadable stall).message) ∧
    -- A tag at fault is reported without its position, behind the tokens if they are selected.
    (∀ (error : StructureError) (position : Position),
      Document.parse text = .error (.malformed error position) →
        ∃ cause : String,
          (ParseError.malformed error position).message =
            cause ++ " (at " ++ position.display ++ ")" ∧
          (outcome Node.syntheticRootName).FailsWith options.verbose
            (if options.selection = .only .tokens ∨ options.selection = .all then
              header .tokens ++ String.join (tokens.map tokenLine)
            else "")
            "failed to build tree" cause) ∧
    -- The name of the element around several nodes has no part in the errors.
    (∀ (rootName : String) (error : ParseError), Document.parse text = .error error →
      outcome rootName = outcome Node.syntheticRootName) ∧
    -- In the tree it is seen only if there is such an element.
    (∀ (rootName : String) (tree : Node), Document.parse text = .ok tree →
      ∃ nodes : List Node,
        tokens = nodes.flatMap Node.tokens ∧
        ((nodes = [tree] ∧ outcome rootName = outcome Node.syntheticRootName) ∨
          (nodes.length ≠ 1 ∧
            tree = .element Node.syntheticRootName [] nodes ∧
            (outcome rootName).SucceedsWith options.verbose
              (printed tokens (.element rootName [] nodes) options.selection) ∧
            (options.verbose = false →
              (outcome rootName).diagnostics =
                (outcome Node.syntheticRootName).diagnostics)))) := by
  intro outcome tokens
  have fails (error : ParseError) (failed : Document.parse text = .error error) :
      (outcome Node.syntheticRootName).exitCode = 1 := by
    cases error with
    | unreadable stall =>
        exact (runOn_rename_of_unreadable options earlier Node.syntheticRootName failed).1
    | malformed error position =>
        exact (runOn_rename_of_malformed options earlier Node.syntheticRootName failed).1
  have succeeds (tree : Node) (parsed : Document.parse text = .ok tree) :
      (outcome Node.syntheticRootName).SucceedsWith options.verbose
        (printed tokens tree options.selection) := by
    have progress := progress_parse text
    rw [parsed] at progress
    cases progress with
    | complete nodes scanned built =>
        exact runOn_rename_succeeds options earlier Node.syntheticRootName scanned built
  refine ⟨?_, succeeds, ?_, ?_, ?_, ?_⟩
  · constructor
    · intro exitsWithZero
      cases parsed : Document.parse text with
      | ok tree => exact ⟨tree, rfl⟩
      | error error =>
          have exitsWithOne := fails error parsed
          omega
    · rintro ⟨tree, parsed⟩
      exact (succeeds tree parsed).1
  · intro stall failed
    exact runOn_rename_of_unreadable options earlier Node.syntheticRootName failed
  · intro error position failed
    exact
      ⟨error.message, rfl,
        runOn_rename_of_malformed options earlier Node.syntheticRootName failed⟩
  · intro rootName error failed
    exact runOn_rename_of_parse_error options earlier rootName failed Node.syntheticRootName
  · intro rootName tree parsed
    have progress := progress_parse text
    rw [parsed] at progress
    cases progress with
    | complete nodes scanned built =>
        refine ⟨nodes, Construction.result_ofTokens_eq_ok_iff.mp built, ?_⟩
        by_cases single : nodes.length = 1
        · rcases List.length_eq_one_iff.mp single with ⟨node, rfl⟩
          exact
            Or.inl
              ⟨rfl,
                runOn_rename_of_single options earlier rootName scanned built
                  Node.syntheticRootName⟩
        · have wrapped (name : String) : Node.gather name nodes = .element name [] nodes :=
            Node.gather_eq_iff.mpr (Or.inr ⟨single, rfl⟩)
          have prints := runOn_rename_succeeds options earlier rootName scanned built
          rw [wrapped] at prints
          refine Or.inr ⟨single, wrapped Node.syntheticRootName, prints, ?_⟩
          intro warningsOnly
          exact
            diagnostics_runOn_rename options earlier rootName scanned built warningsOnly
              Node.syntheticRootName

/--
Two nodes are put into an element, which all stages but the tokens show; a tag
without an end is reported under any name.
-/
theorem runOn_agrees_with_parse_two_nodes :
    let options : Options :=
      { path? := none, markup? := none, selection := .all, verbose := true,
        rootName := "Root" }
    let tree : Node := .element "Root" [] [.text "x", .element "a" [] []]
    Document.parse "x<a></a>" = .ok tree ∧
    (runOn options [] "x<a></a>").output =
      header .tokens ++ tokenLine (.plainText "x") ++ tokenLine (.beginTag "a" []) ++
        tokenLine (.endTag "a") ++
      (header .tree ++ "<Root>\n  \"x\"\n  <a>\n") ++
      (header .render ++ "<Root>x<a></a></Root>\n") ++
      (header .json ++ tree.toJson.pretty ++ "\n") ∧
    Document.parse "x<a>" =
      .error (.malformed (.unclosedTag "a" 1) { line := 1, column := 2 }) ∧
    (runOn options [] "x<a>").output =
      header .tokens ++ tokenLine (.plainText "x") ++ tokenLine (.beginTag "a" []) ∧
    runOn (options.rename "a") [] "x<a>" = runOn options [] "x<a>" := by
  intro options tree
  have parsed : Document.parse "x<a></a>" = .ok tree := by
    decide +kernel
  have refused :
      Document.parse "x<a>" =
        .error (.malformed (.unclosedTag "a" 1) { line := 1, column := 2 }) := by
    decide +kernel
  rcases runOn_agrees_with_parse options [] "x<a></a>" with ⟨_, succeeds, _⟩
  rcases runOn_agrees_with_parse options [] "x<a>" with
    ⟨_, _, _, malformed, sameFailure, _⟩
  rcases malformed _ _ refused with ⟨_, _, fails⟩
  refine ⟨parsed, ?_, refused, ?_, sameFailure "a" _ refused⟩
  · exact (succeeds tree parsed).2.1.trans (by decide +kernel)
  · exact fails.2.1.trans (by decide +kernel)

end TagTree.Command
