import TagTree.Proofs.Parser.Matches
import TagTree.Proofs.Text.Places

/-!
# Repetition as a chain of matches

Any number of matches is a chain of matches that all make progress, continued
for as long as there is one more.  The chain ends where the item does not
match, or where it matches without reading anything; such a match adds its
value but does not move the end.

Every match of the chain takes at least one character, so there are no more
of them than characters ahead.  At the end of the chain a second repetition
finds no match that makes progress and stays where it is.

Nothing is asked of the item but that it is a parser, so that its matches stay
in their text and do not go back (`Cursor.le_iff_source_eq`).
-/

namespace TagTree.Parser

universe u

variable {α : Type u} {item : Parser α} {start stop : Cursor}

open Cursor

/-- Matches one after the other, each of which makes progress. -/
inductive Advances (item : Parser α) : Cursor → List α → Cursor → Prop where
  | done (cursor : Cursor) : Advances item cursor [] cursor
  | step
      {start next stop : Cursor} {value : α} {values : List α}
      (matched : item.run start = some (value, next))
      (progress : start.offset < next.offset)
      (others : Advances item next values stop) :
      Advances item start (value :: values) stop

/--
The values that a repetition adds where it ends: none if the item does not
match there, and one if it matches and reads nothing.
-/
inductive Ends (item : Parser α) (stop : Cursor) : List α → Prop where
  | unmatched (nothing : item.run stop = none) : Ends item stop []
  | unmoved {last : α} (unread : item.run stop = some (last, stop)) : Ends item stop [last]

/-- There are no more matches in a chain than characters between its two ends. -/
theorem Advances.length_le {values : List α}
    (advances : Advances item start values stop) :
    values.length + stop.rest.length ≤ start.rest.length := by
  induction advances with
  | done cursor => simp
  | @step start next stop value values matched progress _ inductionHypothesis =>
      have shorter : next.rest.length < start.rest.length :=
        rest_length_lt (item.forward matched) progress
      rw [List.length_cons]
      omega

theorem Ends.length_le_one {values : List α}
    (ends : Ends item stop values) :
    values.length ≤ 1 := by
  cases ends with
  | unmatched _ => simp
  | unmoved _ => simp

/-! ## The loop builds such a chain -/

theorem exists_advances_manyFrom
    (item : Parser α) (found : List α) (start : Cursor) :
    ∃ steps ending : List α,
      (manyFrom item found start).1 = found.reverse ++ (steps ++ ending) ∧
      Advances item start steps (manyFrom item found start).2 ∧
      Ends item (manyFrom item found start).2 ending := by
  fun_induction manyFrom item found start with
  | case1 found start unmatched =>
      exact ⟨[], [], by simp, .done start, .unmatched unmatched⟩
  | case2 found start value next matched progress _ inductionHypothesis =>
      rcases inductionHypothesis with ⟨steps, ending, collected, advances, ends⟩
      refine ⟨value :: steps, ending, ?_, .step matched progress advances, ends⟩
      rw [collected]
      simp
  | case3 found start value next matched stuck =>
      have unmoved : next = start := eq_of_le_of_not_lt (item.forward matched) stuck
      subst unmoved
      exact ⟨[], [value], by simp, .done next, .unmoved matched⟩

theorem manyFrom_of_advances
    {steps ending : List α}
    (found : List α)
    (advances : Advances item start steps stop)
    (ends : Ends item stop ending) :
    manyFrom item found start = (found.reverse ++ (steps ++ ending), stop) := by
  induction advances generalizing found with
  | done cursor =>
      cases ends with
      | unmatched nothing =>
          rw [manyFrom_of_none found nothing]
          simp
      | unmoved unread =>
          rw [manyFrom_of_not_lt found unread (Nat.lt_irrefl _)]
          simp
  | @step start next stop value values matched progress _ inductionHypothesis =>
      rw [manyFrom_of_lt found matched progress, inductionHypothesis (value :: found) ends]
      simp

/-- Any number of matches is exactly a chain of matches with its end. -/
theorem run_many_eq_some_iff {values : List α} :
    item.many.run start = some (values, stop) ↔
      ∃ steps ending : List α,
        values = steps ++ ending ∧
        Advances item start steps stop ∧
        Ends item stop ending := by
  rw [run_many, Option.some.injEq]
  constructor
  · intro collected
    rcases exists_advances_manyFrom item [] start with
      ⟨steps, ending, values, advances, ends⟩
    rw [collected] at values advances ends
    exact ⟨steps, ending, values, advances, ends⟩
  · rintro ⟨steps, ending, rfl, advances, ends⟩
    exact manyFrom_of_advances [] advances ends

/-- At the end of a repetition the item is repeated without reading anything. -/
theorem Ends.run_many {values : List α}
    (ends : Ends item stop values) :
    item.many.run stop = some (values, stop) :=
  run_many_eq_some_iff.mpr ⟨[], values, rfl, .done stop, ends⟩

/--
Any number of matches always matches.  Its values are those of a chain of
matches that make progress, and behind them the value of a match that reads
nothing where the chain ends, if there is one.  So there is at most one value
more than there are characters ahead, and repeating the item once more reads
nothing.
-/
theorem run_many_advances (item : Parser α) (start : Cursor) :
    ∃ (values : List α) (stop : Cursor),
      item.many.run start = some (values, stop) ∧
      (∃ steps : List α,
        Advances item start steps stop ∧
        ((item.run stop = none ∧ values = steps) ∨
          ∃ last : α, item.run stop = some (last, stop) ∧ values = steps ++ [last])) ∧
      values.length ≤ start.rest.length + 1 ∧
      ∃ again : List α, item.many.run stop = some (again, stop) := by
  rcases collected : manyFrom item [] start with ⟨values, stop⟩
  have repeated : item.many.run start = some (values, stop) :=
    congrArg some collected
  rcases run_many_eq_some_iff.mp repeated with ⟨steps, ending, rfl, advances, ends⟩
  refine ⟨steps ++ ending, stop, repeated, ⟨steps, advances, ?_⟩, ?_, ending, ends.run_many⟩
  · cases ends with
    | unmatched nothing => exact Or.inl ⟨nothing, List.append_nil steps⟩
    | @unmoved last unread => exact Or.inr ⟨last, unread, rfl⟩
  · have stepsBound := advances.length_le
    have endingBound := ends.length_le_one
    rw [List.length_append]
    omega

-- The last of the three values is that of a match that reads nothing in front of `b`.
example :
    ((char 'a').optional.many.run (Cursor.start "aab")).map
        (fun (values, stop) => (values, stop.rest)) =
      some ([some 'a', some 'a', none], ['b']) := by
  with_unfolding_all rfl

end TagTree.Parser
