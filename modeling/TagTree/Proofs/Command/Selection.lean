import TagTree.Command.Options

/-!
# Choosing what is printed

The option `--emit` sets the selection and has no other effect: two command lines
that begin with it and go on alike are both at fault, both ask for the version or
for help, or both ask for a run, with options that differ in the selection only.

Each way of reading an argument is shown to leave the selection alone, and the
whole command line follows by induction on the number of arguments.
-/

namespace TagTree.Command

/-- The name by which a selection is asked for. -/
def Selection.name : Selection → String
  | only stage => stage.name
  | all => "all"

theorem Selection.ofName?_name (selection : Selection) :
    ofName? selection.name = some selection := by
  cases selection with
  | all => rfl
  | only stage => cases stage <;> decide

/-- The same options with another selection. -/
def Options.select (selection : Selection) (options : Options) : Options :=
  { options with selection }

/-- The same request with another selection. -/
def Invocation.select (selection : Selection) : Invocation → Invocation
  | run options => run (options.select selection)
  | showVersion => showVersion
  | showHelp => showHelp

namespace Draft

/-- The same draft with the given selection. -/
def select (selection : Selection) (draft : Draft) : Draft :=
  { draft with selection? := some selection }

variable (selection : Selection) (draft : Draft)

theorem setPath_select (path : String) :
    (draft.select selection).setPath path = (draft.setPath path).map (select selection) := by
  rw [setPath, setPath, apply_ite (Except.map _), apply_ite (Except.map _)]
  rfl

theorem setVerbose_select :
    (draft.select selection).setVerbose = draft.setVerbose.map (select selection) := by
  rw [setVerbose, setVerbose, apply_ite (Except.map _)]
  rfl

/-- A second selection is refused, and any other option leaves the first one alone. -/
theorem setValue_select (option : ValueOption) (value : String) :
    (draft.select selection).setValue option value =
      if option = .emit then
        .error (.repeated "--emit")
      else
        (draft.setValue option value).map (select selection) := by
  cases option with
  | html =>
      simp only [setValue, apply_ite (Except.map _)]
      rfl
  | emit => rfl
  | rootName =>
      simp only [setValue, apply_ite (Except.map _)]
      rfl

theorem options_select :
    (draft.select selection).options = draft.options.map (Options.select selection) := by
  rw [options, options, apply_ite (Except.map _)]
  rfl

theorem readShort_select (letters : List Char) :
    (draft.select selection).readShort letters =
      (draft.readShort letters).map
        (Sum.map (select selection) (Invocation.select selection)) := by
  fun_induction readShort draft letters with
  | case1 draft => rfl
  | case2 draft others error refused =>
      simp only [readShort, setVerbose_select, refused, Except.map]
  | case3 draft others next accepted inductionHypothesis =>
      simp only [readShort, setVerbose_select, accepted, Except.map, inductionHypothesis]
  | case4 draft others => rfl
  | case5 draft others => rfl
  | case6 draft letter others notVerbose notVersion notHelp =>
      simp [readShort, Except.map]

theorem readFlag_select (name : String) :
    (draft.select selection).readFlag name =
      (draft.readFlag name).map
        (Sum.map (select selection) (Invocation.select selection)) := by
  unfold readFlag
  split
  · rw [setVerbose_select]
    cases draft.setVerbose <;> rfl
  · rfl
  · rfl
  · rfl

theorem readPlain_select (arguments : List String) :
    (draft.select selection).readPlain arguments =
      (draft.readPlain arguments).map (select selection) := by
  fun_induction readPlain draft arguments with
  | case1 draft => rfl
  | case2 draft text others error refused =>
      simp only [readPlain, setPath_select, refused, Except.map]
  | case3 draft text others next accepted inductionHypothesis =>
      simp only [readPlain, setPath_select, accepted, Except.map]
      exact inductionHypothesis

/--
What is read behind a selection does not depend on it: the same fault is found, or
the same is asked for up to the selection.
-/
def ReadsAlike (readOn : Draft → Except UsageError Invocation) : Prop :=
  ∀ (selection other : Selection) (draft : Draft),
    readOn (draft.select selection) =
      (readOn (draft.select other)).map (Invocation.select selection)

section

variable {readOn : Draft → Except UsageError Invocation}

/-- If the rest is read alike, so it is behind an argument that leaves the selection alone. -/
theorem ReadsAlike.bind_map_select
    (alike : ReadsAlike readOn)
    (selection other : Selection) (result : Except UsageError Draft) :
    (result.map (select selection)).bind readOn =
      ((result.map (select other)).bind readOn).map (Invocation.select selection) := by
  cases result with
  | error error => rfl
  | ok next => exact alike selection other next

/-- A second selection is a fault, and other values leave the selection alone. -/
theorem ReadsAlike.bind_setValue_select
    (alike : ReadsAlike readOn)
    (selection other : Selection) (option : ValueOption) (value : String) :
    ((draft.select selection).setValue option value).bind readOn =
      (((draft.select other).setValue option value).bind readOn).map
        (Invocation.select selection) := by
  rw [setValue_select, setValue_select]
  split
  · rfl
  · exact alike.bind_map_select selection other _

/-- An option without a value leaves the selection alone or ends the reading. -/
theorem ReadsAlike.bind_elim_select
    (alike : ReadsAlike readOn)
    (selection other : Selection) (result : Except UsageError (Draft ⊕ Invocation)) :
    (result.map (Sum.map (select selection) (Invocation.select selection))).bind
        (Sum.elim readOn .ok) =
      ((result.map (Sum.map (select other) (Invocation.select other))).bind
        (Sum.elim readOn .ok)).map (Invocation.select selection) := by
  cases result with
  | error error => rfl
  | ok outcome =>
      cases outcome with
      | inl next => exact alike selection other next
      | inr invocation => cases invocation <;> rfl

end

/-! ## One argument at a time -/

section

variable {argument : String} (others : List String)

theorem read_separator_cons (form : Argument.ofString argument = .separator) :
    draft.read (argument :: others) =
      (draft.readPlain others).bind fun next => next.options.map .run := by
  simp only [read, form]
  cases draft.readPlain others <;> rfl

theorem read_plain_cons {text : String} (form : Argument.ofString argument = .plain text) :
    draft.read (argument :: others) =
      (draft.setPath text).bind fun next => next.read others := by
  simp only [read, form]
  cases draft.setPath text <;> rfl

theorem read_short_cons {letters : List Char}
    (form : Argument.ofString argument = .short letters) :
    draft.read (argument :: others) =
      (draft.readShort letters).bind (Sum.elim (fun next => next.read others) .ok) := by
  simp only [read, form]
  rcases draft.readShort letters with error | next | invocation <;> rfl

theorem read_flag_cons {name : String}
    (form : Argument.ofString argument = .long name none)
    (unknown : ValueOption.ofName? name = none) :
    draft.read (argument :: others) =
      (draft.readFlag name).bind (Sum.elim (fun next => next.read others) .ok) := by
  simp only [read, form, unknown]
  rcases draft.readFlag name with error | next | invocation <;> rfl

theorem read_value_cons {name value : String} {option : ValueOption}
    (form : Argument.ofString argument = .long name (some value))
    (known : ValueOption.ofName? name = some option) :
    draft.read (argument :: others) =
      (draft.setValue option value).bind fun next => next.read others := by
  simp only [read, form, known]
  cases draft.setValue option value <;> rfl

theorem read_value_cons_cons {name value text : String} {option : ValueOption}
    (form : Argument.ofString argument = .long name none)
    (known : ValueOption.ofName? name = some option)
    (valueForm : Argument.ofString value = .plain text) :
    draft.read (argument :: value :: others) =
      (draft.setValue option text).bind fun next => next.read others := by
  simp only [read, form, known, valueForm]
  cases draft.setValue option text <;> rfl

end

theorem readsAlike_options : ReadsAlike fun draft => draft.options.map .run := by
  intro selection other draft
  simp only [options_select]
  cases draft.options <;> rfl

theorem readsAlike_read (arguments : List String) :
    ReadsAlike fun draft => draft.read arguments := by
  intro selection other draft
  match arguments with
  | [] => exact readsAlike_options selection other draft
  | argument :: others =>
      have alike := readsAlike_read others
      cases form : Argument.ofString argument with
      | separator =>
          simp only [read_separator_cons _ _ form, readPlain_select]
          exact readsAlike_options.bind_map_select selection other _
      | plain text =>
          simp only [read_plain_cons _ _ form, setPath_select]
          exact alike.bind_map_select selection other _
      | short letters =>
          simp only [read_short_cons _ _ form, readShort_select]
          exact alike.bind_elim_select selection other _
      | long name value? =>
          cases known : ValueOption.ofName? name with
          | none =>
              cases value? with
              | none =>
                  simp only [read_flag_cons _ _ form known, readFlag_select]
                  exact alike.bind_elim_select selection other _
              | some value =>
                  simp only [read, form, known]
                  split <;> rfl
          | some option =>
              cases value? with
              | some value =>
                  simp only [read_value_cons _ _ form known]
                  exact alike.bind_setValue_select draft selection other option value
              | none =>
                  -- Here the value is an argument of its own.
                  match others with
                  | [] => simp only [read, form, known, Except.map]
                  | value :: remaining =>
                      cases valueForm : Argument.ofString value with
                      | plain text =>
                          have alike := readsAlike_read remaining
                          simp only [read_value_cons_cons _ _ form known valueForm]
                          exact alike.bind_setValue_select draft selection other option text
                      | separator => simp only [read, form, known, valueForm, Except.map]
                      | long _ _ => simp only [read, form, known, valueForm, Except.map]
                      | short _ => simp only [read, form, known, valueForm, Except.map]

end Draft

theorem Invocation.ofArguments_emit
    (selection : Selection) (arguments : List String) :
    ofArguments ("--emit" :: selection.name :: arguments) =
      (Draft.empty.select selection).read arguments := by
  have option : Argument.ofString "--emit" = .long "emit" none := by decide
  have value : Argument.ofString selection.name = .plain selection.name := by
    cases selection with
    | all => decide
    | only stage => cases stage <;> decide
  have known : ValueOption.ofName? "emit" = some .emit := by decide
  rw [ofArguments, Draft.read_value_cons_cons _ _ option known value, Draft.setValue,
    selection.ofName?_name]
  rfl

/--
Command lines that select different stages and go on alike ask for the same, up to
the selection.
-/
theorem Invocation.ofArguments_select
    (selection other : Selection) (arguments : List String) :
    ofArguments ("--emit" :: selection.name :: arguments) =
      (ofArguments ("--emit" :: other.name :: arguments)).map (select selection) := by
  rw [ofArguments_emit, ofArguments_emit]
  exact Draft.readsAlike_read arguments selection other Draft.empty

end TagTree.Command
