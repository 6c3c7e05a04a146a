import TagTree.Proofs.Parser.Repeats

/-!
# Repetitions of at least one match

At least one match, and matches divided by separators, have loops of their own.
Both are the plain repetition in another form.

At least one match is any number of matches wherever there is a first one.  It
is not a match followed by any number of matches: a first match that reads
nothing would then be found and kept twice.

Matches divided by separators are a first item followed by any number of items
that each have a separator in front.  Such a pair matches as a whole or not at
all, so a separator without an item behind it is left where it is.
-/

namespace TagTree.Parser

universe u v w

variable {α : Type u} {β : Type v} {γ : Type w}
variable {item : Parser α} {separator : Parser β} {start next stop : Cursor}

open Cursor

/-- Where there is a first match, at least one match is any number of matches. -/
theorem run_many1_eq_run_many
    (matched : item.run start ≠ none) :
    item.many1.run start = item.many.run start := by
  rcases Option.ne_none_iff_exists'.mp matched with ⟨⟨first, next⟩, firstMatched⟩
  by_cases progress : start.offset < next.offset
  · exact run_many1_of_lt firstMatched progress
  · have unmoved : next = start := eq_of_le_of_not_lt (item.forward firstMatched) progress
    subst unmoved
    rw [run_many, manyFrom_of_not_lt [] firstMatched progress]
    simp only [many1, firstMatched, if_neg progress]
    rfl

/-! ## Items with separators in front -/

theorem run_skipThen_of_none
    (unmatched : separator.run start = none) :
    (separator.skipThen item).run start = none :=
  run_andThen_of_none (fun _ => item) unmatched

theorem run_skipThen_of_some
    {mark : β}
    (matched : separator.run start = some (mark, next)) :
    (separator.skipThen item).run start = item.run next := by
  rw [skipThen, run_andThen, matched]
  rfl

/-- The loop over separators and items repeats the pairs of both. -/
theorem sepByFrom_eq_manyFrom
    (item : Parser α) (separator : Parser β) (found : List α) (start : Cursor) :
    sepByFrom item separator found start =
      manyFrom (separator.skipThen item) found start := by
  fun_induction sepByFrom item separator found start with
  | case1 found start unseparated =>
      exact (manyFrom_of_none found (run_skipThen_of_none unseparated)).symm
  | case2 found start mark afterSeparator separated unmatched =>
      have paired := (run_skipThen_of_some separated).trans unmatched
      exact (manyFrom_of_none found paired).symm
  | case3 found start mark afterSeparator separated value next matched progress _
      inductionHypothesis =>
      have paired := (run_skipThen_of_some separated).trans matched
      rw [manyFrom_of_lt found paired progress]
      exact inductionHypothesis
  | case4 found start mark afterSeparator separated value next matched stuck =>
      have paired := (run_skipThen_of_some separated).trans matched
      exact (manyFrom_of_not_lt found paired stuck).symm

theorem run_sepBy1_of_none
    (unmatched : item.run start = none) :
    (item.sepBy1 separator).run start = none := by
  simp only [sepBy1, unmatched]

theorem run_sepBy1_of_some
    {first : α}
    (matched : item.run start = some (first, next)) :
    (item.sepBy1 separator).run start =
      some (manyFrom (separator.skipThen item) [first] next) := by
  simp only [sepBy1, matched, sepByFrom_eq_manyFrom]

/-- Items divided by separators are an item and any number of separators with items. -/
theorem run_sepBy1_eq_run_pair
    (item : Parser α) (separator : Parser β) (start : Cursor) :
    (item.sepBy1 separator).run start =
      ((item.pair (separator.skipThen item).many).map
        fun (first, others) => first :: others).run start := by
  rw [run_map, pair, run_andThen]
  cases matched : item.run start with
  | none => exact run_sepBy1_of_none matched
  | some result =>
      rcases result with ⟨first, next⟩
      rw [run_sepBy1_of_some matched, manyFrom_eq_append]
      rfl

/-- The list ends behind an item, in front of a separator that has no item behind it. -/
theorem run_sepBy1_of_advances
    {first : α} {steps : List α} {mark : β} {afterSeparator : Cursor}
    (firstMatched : item.run start = some (first, next))
    (advances : Advances (separator.skipThen item) next steps stop)
    (separated : separator.run stop = some (mark, afterSeparator))
    (unmatched : item.run afterSeparator = none) :
    (item.sepBy1 separator).run start = some (first :: steps, stop) := by
  have ends : Ends (separator.skipThen item) stop [] :=
    .unmatched ((run_skipThen_of_some separated).trans unmatched)
  rw [run_sepBy1_of_some firstMatched, manyFrom_of_advances [first] advances ends,
    List.append_nil]
  rfl

/--
The three repetitions agree.  At least one match fails exactly where the parser
does and is any number of matches elsewhere.  Items divided by separators fail
exactly where the item does; they are the item and any number of separators
with items, and a separator without an item behind it is not read.
-/
theorem run_repetitions_agree
    (repeated : Parser γ) (item : Parser α) (separator : Parser β) (start : Cursor) :
    (repeated.many1.run start = none ↔ repeated.run start = none) ∧
    (repeated.run start ≠ none →
      repeated.many1.run start = repeated.many.run start) ∧
    ((item.sepBy1 separator).run start = none ↔ item.run start = none) ∧
    (item.sepBy1 separator).run start =
      ((item.pair (separator.skipThen item).many).map
        fun (first, others) => first :: others).run start ∧
    ∀ (first : α) (next : Cursor) (steps : List α) (stop : Cursor)
      (mark : β) (afterSeparator : Cursor),
      item.run start = some (first, next) →
      Advances (separator.skipThen item) next steps stop →
      separator.run stop = some (mark, afterSeparator) →
      item.run afterSeparator = none →
        (item.sepBy1 separator).run start = some (first :: steps, stop) := by
  refine
    ⟨run_many1_eq_none_iff, run_many1_eq_run_many, ?_,
      run_sepBy1_eq_run_pair item separator start, ?_⟩
  · cases matched : item.run start with
    | none => simp [run_sepBy1_of_none matched]
    | some result => simp [run_sepBy1_of_some matched]
  · intro first next steps stop mark afterSeparator firstMatched advances separated unmatched
    exact run_sepBy1_of_advances firstMatched advances separated unmatched

theorem run_repetitions_agree_trailing_comma :
    (char 'b').optional.many1.run (Cursor.between [] ['a', ',', 'é', ',']) =
      (char 'b').optional.many.run (Cursor.between [] ['a', ',', 'é', ',']) ∧
    ((satisfy (· != ',')).sepBy1 (char ',')).run (Cursor.between [] ['a', ',', 'é', ',']) =
      some (['a', 'é'], Cursor.between ['a', ',', 'é'] [',']) := by
  rcases run_repetitions_agree (char 'b').optional (satisfy (· != ',')) (char ',')
      (Cursor.between [] ['a', ',', 'é', ',']) with
    ⟨_, many1, _, _, trailing⟩
  constructor
  · -- The first match reads nothing, so its value is the only one.
    have matched :
        (char 'b').optional.run (Cursor.between [] ['a', ',', 'é', ',']) =
          some (none, Cursor.between [] ['a', ',', 'é', ',']) := rfl
    exact many1 (by simp [matched])
  · have advances :
        Advances ((char ',').skipThen (satisfy (· != ',')))
          (Cursor.between ['a'] [',', 'é', ',']) ['é']
          (Cursor.between ['a', ',', 'é'] [',']) :=
      .step rfl (by decide) (.done _)
    exact
      trailing 'a' _ ['é'] _ ',' (Cursor.between ['a', ',', 'é', ','] []) rfl advances rfl rfl

-- A match followed by any number of matches finds a match that reads nothing twice.
example :
    (((char 'b').optional.pair (char 'b').optional.many).run (Cursor.start "a")).map
        (fun (values, _) => values) = some (none, [none]) ∧
    ((char 'b').optional.many1.run (Cursor.start "a")).map (fun (values, _) => values) =
      some [none] := by
  with_unfolding_all exact ⟨rfl, rfl⟩

end TagTree.Parser
