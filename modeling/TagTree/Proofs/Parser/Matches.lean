import TagTree.Parser.Repetition
import TagTree.Parser.Sequence
import TagTree.Proofs.Text.Reads

/-!
# What parsers match

For each way of building a parser, this file says when it matches: which text
lies between the place where it starts and the place where it stops, and which
value it yields.  A sequence matches through a place in the middle; a run of
accepted characters matches the longest such run.

Later files describe the parsers of the grammar by these statements alone.
-/

namespace TagTree.Parser

universe u v w

variable {α : Type u} {β : Type v} {γ : Type w}
variable {start stop : Cursor}

open Cursor

/-! ## Sequences -/

theorem run_andThen_eq_some_iff
    {first : Parser α} {continuation : α → Parser β} {value : β} :
    (first.andThen continuation).run start = some (value, stop) ↔
      ∃ (left : α) (middle : Cursor),
        first.run start = some (left, middle) ∧
        (continuation left).run middle = some (value, stop) := by
  rw [run_andThen, Option.bind_eq_some_iff]
  constructor
  · rintro ⟨⟨left, middle⟩, firstMatched, secondMatched⟩
    exact ⟨left, middle, firstMatched, secondMatched⟩
  · rintro ⟨left, middle, firstMatched, secondMatched⟩
    exact ⟨(left, middle), firstMatched, secondMatched⟩

theorem run_andThen_of_none
    {first : Parser α} (continuation : α → Parser β)
    (unmatched : first.run start = none) :
    (first.andThen continuation).run start = none := by
  rw [run_andThen, unmatched]
  rfl

theorem run_map_eq_some_iff
    {transform : α → β} {parser : Parser α} {value : β} :
    (parser.map transform).run start = some (value, stop) ↔
      ∃ read : α, parser.run start = some (read, stop) ∧ transform read = value := by
  simp only [map, run_andThen_eq_some_iff, run_succeed, Option.some.injEq, Prod.mk.injEq]
  constructor
  · rintro ⟨read, middle, matched, transformed, rfl⟩
    exact ⟨read, matched, transformed⟩
  · rintro ⟨read, matched, transformed⟩
    exact ⟨read, stop, matched, transformed, rfl⟩

theorem run_map_eq_none_iff {transform : α → β} {parser : Parser α} :
    (parser.map transform).run start = none ↔ parser.run start = none := by
  rw [run_map, Option.map_eq_none_iff]

theorem run_pair_eq_some_iff
    {first : Parser α} {second : Parser β} {left : α} {right : β} :
    (first.pair second).run start = some ((left, right), stop) ↔
      ∃ middle : Cursor,
        first.run start = some (left, middle) ∧
        second.run middle = some (right, stop) := by
  simp only [pair, run_andThen_eq_some_iff, run_map_eq_some_iff, Prod.mk.injEq]
  constructor
  · rintro ⟨_, middle, firstMatched, _, secondMatched, rfl, rfl⟩
    exact ⟨middle, firstMatched, secondMatched⟩
  · rintro ⟨middle, firstMatched, secondMatched⟩
    exact ⟨left, middle, firstMatched, right, secondMatched, rfl, rfl⟩

theorem run_skipThen_eq_some_iff
    {first : Parser α} {second : Parser β} {value : β} :
    (first.skipThen second).run start = some (value, stop) ↔
      ∃ (skipped : α) (middle : Cursor),
        first.run start = some (skipped, middle) ∧
        second.run middle = some (value, stop) :=
  run_andThen_eq_some_iff

theorem run_thenSkip_eq_some_iff
    {first : Parser α} {second : Parser β} {value : α} :
    (first.thenSkip second).run start = some (value, stop) ↔
      ∃ (middle : Cursor) (skipped : β),
        first.run start = some (value, middle) ∧
        second.run middle = some (skipped, stop) := by
  simp only [thenSkip, run_andThen_eq_some_iff, run_map_eq_some_iff]
  constructor
  · rintro ⟨_, middle, firstMatched, skipped, secondMatched, rfl⟩
    exact ⟨middle, skipped, firstMatched, secondMatched⟩
  · rintro ⟨middle, skipped, firstMatched, secondMatched⟩
    exact ⟨value, middle, firstMatched, skipped, secondMatched, rfl⟩

theorem run_between_eq_some_iff
    {opening : Parser α} {body : Parser β} {closing : Parser γ} {value : β} :
    (between opening body closing).run start = some (value, stop) ↔
      ∃ (opened : α) (bodyStart bodyStop : Cursor) (closed : γ),
        opening.run start = some (opened, bodyStart) ∧
        body.run bodyStart = some (value, bodyStop) ∧
        closing.run bodyStop = some (closed, stop) := by
  simp only [between, run_skipThen_eq_some_iff, run_thenSkip_eq_some_iff]
  constructor
  · rintro ⟨opened, bodyStart, openingMatched, bodyStop, closed, bodyMatched, closingMatched⟩
    exact ⟨opened, bodyStart, bodyStop, closed, openingMatched, bodyMatched, closingMatched⟩
  · rintro ⟨opened, bodyStart, bodyStop, closed, openingMatched, bodyMatched, closingMatched⟩
    exact ⟨opened, bodyStart, openingMatched, bodyStop, closed, bodyMatched, closingMatched⟩

/-! ## Single characters and words -/

theorem run_satisfy_eq_some_iff
    {accepts : Char → Bool} {character : Char} :
    (satisfy accepts).run start = some (character, stop) ↔
      accepts character = true ∧ Reads start [character] stop := by
  cases restShape : start.rest with
  | nil =>
      rw [run_satisfy_of_rest_nil accepts restShape]
      simp [Reads, restShape]
  | cons first others =>
      rw [run_satisfy_of_rest_cons accepts restShape]
      have read := reads_advance restShape
      constructor
      · intro matched
        split at matched
        · next accepted =>
          cases matched
          exact ⟨accepted, read⟩
        · cases matched
      · rintro ⟨accepted, otherRead⟩
        have sameCharacter : first = character := by
          have sameRest := restShape.symm.trans otherRead.rest_eq
          exact (List.cons.inj sameRest).1
        subst sameCharacter
        rw [if_pos accepted, read.stop_unique otherRead]

theorem run_satisfy_eq_none_iff {accepts : Char → Bool} :
    (satisfy accepts).run start = none ↔ StopsAt accepts start.rest := by
  cases restShape : start.rest with
  | nil =>
      rw [run_satisfy_of_rest_nil accepts restShape]
      simp [stopsAt_nil]
  | cons first others =>
      rw [run_satisfy_of_rest_cons accepts restShape]
      simp

theorem run_char_eq_some_iff {expected character : Char} :
    (char expected).run start = some (character, stop) ↔
      character = expected ∧ Reads start [expected] stop := by
  rw [char, run_satisfy_eq_some_iff, beq_iff_eq]
  constructor
  · rintro ⟨rfl, read⟩
    exact ⟨rfl, read⟩
  · rintro ⟨rfl, read⟩
    exact ⟨rfl, read⟩

theorem run_chars_eq_some_iff {expected : List Char} {value : Unit} :
    (chars expected).run start = some (value, stop) ↔ Reads start expected stop := by
  induction expected generalizing start with
  | nil =>
      simp only [chars, run_succeed, Option.some.injEq, Prod.mk.injEq, true_and,
        Reads.nil_iff]
  | cons first others inductionHypothesis =>
      simp only [chars, run_andThen_eq_some_iff, run_char_eq_some_iff, inductionHypothesis]
      constructor
      · rintro ⟨_, middle, ⟨_, firstRead⟩, othersRead⟩
        exact firstRead.trans othersRead
      · intro reads
        rcases reads.uncons with ⟨middle, firstRead, othersRead⟩
        exact ⟨first, middle, ⟨rfl, firstRead⟩, othersRead⟩

/-- A word matches exactly where it stands. -/
theorem run_word_eq_some_iff {expected value : String} :
    (word expected).run start = some (value, stop) ↔
      value = expected ∧ Reads start expected.toList stop := by
  simp only [word, run_andThen_eq_some_iff, run_chars_eq_some_iff, run_succeed,
    Option.some.injEq, Prod.mk.injEq]
  constructor
  · rintro ⟨_, middle, reads, rfl, rfl⟩
    exact ⟨rfl, reads⟩
  · rintro ⟨rfl, reads⟩
    exact ⟨(), stop, reads, rfl, rfl⟩

/-! ## Runs of characters -/

theorem manyFrom_satisfy
    {accepts : Char → Bool} {text : List Char}
    (found : List Char)
    (reads : Reads start text stop)
    (accepted : ∀ character ∈ text, accepts character = true)
    (stops : StopsAt accepts stop.rest) :
    manyFrom (satisfy accepts) found start = (found.reverse ++ text, stop) := by
  induction text generalizing start found with
  | nil =>
      rw [Reads.nil_iff] at reads
      subst reads
      rw [manyFrom_of_none found (run_satisfy_eq_none_iff.mpr stops), List.append_nil]
  | cons first others inductionHypothesis =>
      rcases reads.uncons with ⟨middle, firstRead, othersRead⟩
      rcases List.forall_mem_cons.mp accepted with ⟨firstAccepted, othersAccepted⟩
      have matched : (satisfy accepts).run start = some (first, middle) :=
        run_satisfy_eq_some_iff.mpr ⟨firstAccepted, firstRead⟩
      have progress : start.offset < middle.offset :=
        firstRead.offset_lt (by simp)
      rw [manyFrom_of_lt found matched progress,
        inductionHypothesis (first :: found) othersRead othersAccepted]
      simp

/-- After a first match that makes progress, at least one match is as good as any number. -/
theorem run_many1_of_lt
    {item : Parser α} {first : α} {next : Cursor}
    (matched : item.run start = some (first, next))
    (progress : start.offset < next.offset) :
    item.many1.run start = some (manyFrom item [] start) := by
  simp only [many1, matched, if_pos progress, manyFrom_of_lt [] matched progress]

theorem run_many1_of_none
    {item : Parser α}
    (unmatched : item.run start = none) :
    item.many1.run start = none := by
  simp only [many1, unmatched]

theorem run_many1_eq_none_iff {item : Parser α} :
    item.many1.run start = none ↔ item.run start = none := by
  constructor
  · intro unmatched
    cases matched : item.run start with
    | none => rfl
    | some result =>
        simp only [many1, matched] at unmatched
        split at unmatched
        · cases unmatched
        · cases unmatched
  · exact run_many1_of_none

theorem run_many1_satisfy_eq_some_iff
    {accepts : Char → Bool} {text : List Char} :
    (satisfy accepts).many1.run start = some (text, stop) ↔
      Reads start text stop ∧ IsRun accepts text ∧ StopsAt accepts stop.rest := by
  rcases exists_longest_reads accepts start with
    ⟨longest, longestStop, longestReads, longestAccepted, longestStops⟩
  have collected := manyFrom_satisfy [] longestReads longestAccepted longestStops
  cases longest with
  | nil =>
      rw [Reads.nil_iff] at longestReads
      subst longestReads
      rw [run_many1_of_none (run_satisfy_eq_none_iff.mpr longestStops)]
      constructor
      · intro impossible
        cases impossible
      · rintro ⟨reads, run, _⟩
        rw [reads.rest_eq] at longestStops
        exact absurd longestStops (not_stopsAt_append_of_isRun run stop.rest)
  | cons first others =>
      rcases longestReads.uncons with ⟨middle, firstRead, _⟩
      have matched : (satisfy accepts).run start = some (first, middle) :=
        run_satisfy_eq_some_iff.mpr ⟨longestAccepted first (by simp), firstRead⟩
      rw [run_many1_of_lt matched (firstRead.offset_lt (by simp)), collected]
      constructor
      · intro same
        cases same
        exact ⟨longestReads, ⟨by simp, longestAccepted⟩, longestStops⟩
      · rintro ⟨reads, ⟨_, accepted⟩, stops⟩
        rcases longestReads.longest_unique longestAccepted longestStops
          reads accepted stops with ⟨rfl, rfl⟩
        rfl

/-- At least one accepted character, read as a text, is the longest run of them. -/
theorem run_many1_ofList_eq_some_iff
    {accepts : Char → Bool} {value : String} :
    ((satisfy accepts).many1.map String.ofList).run start = some (value, stop) ↔
      Reads start value.toList stop ∧
      IsRun accepts value.toList ∧
      StopsAt accepts stop.rest := by
  rw [run_map_eq_some_iff]
  constructor
  · rintro ⟨text, matched, rfl⟩
    rw [String.toList_ofList]
    exact run_many1_satisfy_eq_some_iff.mp matched
  · intro longest
    exact
      ⟨value.toList, run_many1_satisfy_eq_some_iff.mpr longest,
        String.ofList_toList⟩

theorem run_many1_ofList_eq_none_iff {accepts : Char → Bool} :
    ((satisfy accepts).many1.map String.ofList).run start = none ↔
      StopsAt accepts start.rest := by
  rw [run_map_eq_none_iff, run_many1_eq_none_iff, run_satisfy_eq_none_iff]

end TagTree.Parser
