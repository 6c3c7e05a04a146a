import TagTree.Proofs.Parser.Lists

/-!
# Runs that are read in pieces

A run of accepted characters can be read one character at a time or in pieces of
several characters.  Two such loops go through different places and make different
numbers of matches, so they cannot be compared match by match.

They agree on the whole.  Every piece lies inside the run, and a loop ends only
where no accepted character is ahead, so each of them reads the longest run.
-/

namespace TagTree.Parser

open Cursor

variable {accepts : Char → Bool} {piece : Parser String} {start stop : Cursor}

/-- Any number of accepted characters is the longest run of them, which may be empty. -/
theorem run_many_satisfy_eq_some_iff {text : List Char} :
    (satisfy accepts).many.run start = some (text, stop) ↔
      Reads start text stop ∧
      (∀ character ∈ text, accepts character = true) ∧
      StopsAt accepts stop.rest := by
  constructor
  · intro matched
    rcases exists_longest_reads accepts start with
      ⟨longest, longestStop, reads, accepted, stops⟩
    rw [run_many, manyFrom_satisfy [] reads accepted stops] at matched
    cases matched
    exact ⟨reads, accepted, stops⟩
  · rintro ⟨reads, accepted, stops⟩
    rw [run_many, manyFrom_satisfy [] reads accepted stops]
    rfl

/-- Wherever an accepted character is ahead, one or more of them are read. -/
structure ReadsPieces (accepts : Char → Bool) (piece : Parser String) : Prop where
  /-- A piece is made of accepted characters and its value is what it reads. -/
  reads :
    ∀ {start stop : Cursor} {value : String},
      piece.run start = some (value, stop) →
        Reads start value.toList stop ∧ IsRun accepts value.toList
  /-- Nothing is read only where no accepted character is ahead. -/
  stops :
    ∀ {start : Cursor}, piece.run start = none → StopsAt accepts start.rest

theorem readsPieces_singleton (accepts : Char → Bool) :
    ReadsPieces accepts ((satisfy accepts).map String.singleton) where
  reads := by
    intro start stop value matched
    rcases run_map_eq_some_iff.mp matched with ⟨character, single, rfl⟩
    rcases run_satisfy_eq_some_iff.mp single with ⟨accepted, reads⟩
    rw [String.toList_singleton]
    exact ⟨reads, by simp, by simpa using accepted⟩
  stops := by
    intro start unmatched
    exact run_satisfy_eq_none_iff.mp (run_map_eq_none_iff.mp unmatched)

namespace ReadsPieces

/-- A word of accepted characters may be tried in front of any other piece. -/
theorem word_orElse
    {expected : String}
    (pieces : ReadsPieces accepts piece)
    (isRun : IsRun accepts expected.toList) :
    ReadsPieces accepts ((word expected).orElse piece) where
  reads := by
    intro start stop value matched
    rw [run_orElse, Option.or_eq_some_iff] at matched
    rcases matched with wordMatched | ⟨_, pieceMatched⟩
    · rcases run_word_eq_some_iff.mp wordMatched with ⟨rfl, reads⟩
      exact ⟨reads, isRun⟩
    · exact pieces.reads pieceMatched
  stops := by
    intro start unmatched
    rw [run_orElse, Option.or_eq_none_iff] at unmatched
    exact pieces.stops unmatched.2

/-- A piece and a single accepted character match at the same places. -/
theorem run_eq_none_iff (pieces : ReadsPieces accepts piece) :
    piece.run start = none ↔ (satisfy accepts).run start = none := by
  rw [run_satisfy_eq_none_iff]
  constructor
  · exact pieces.stops
  · intro stops
    cases matched : piece.run start with
    | none => rfl
    | some result =>
        rcases pieces.reads matched with ⟨reads, isRun⟩
        rw [reads.rest_eq] at stops
        exact absurd stops (not_stopsAt_append_of_isRun isRun _)

/-- Pieces one after the other read accepted characters only, and lose none of them. -/
theorem reads_of_advances
    {values : List String}
    (pieces : ReadsPieces accepts piece)
    (advances : Advances piece start values stop) :
    Reads start (String.join values).toList stop ∧
      ∀ character ∈ (String.join values).toList, accepts character = true := by
  induction advances with
  | done cursor =>
      rw [String.join_nil, String.toList_empty]
      exact ⟨Reads.refl cursor, by simp⟩
  | step matched _ _ inductionHypothesis =>
      rcases pieces.reads matched with ⟨firstReads, _, firstAccepted⟩
      rcases inductionHypothesis with ⟨othersRead, othersAccepted⟩
      rw [String.join_cons, String.toList_append]
      exact
        ⟨firstReads.trans othersRead,
          List.forall_mem_append.mpr ⟨firstAccepted, othersAccepted⟩⟩

/-- A piece takes at least one character, so a loop over pieces ends where none is read. -/
theorem stopsAt_of_ends
    {ending : List String}
    (pieces : ReadsPieces accepts piece)
    (ends : Ends piece stop ending) :
    ending = [] ∧ StopsAt accepts stop.rest := by
  cases ends with
  | unmatched nothing => exact ⟨rfl, pieces.stops nothing⟩
  | unmoved unread =>
      rcases pieces.reads unread with ⟨reads, nonempty, _⟩
      exact absurd (reads.offset_lt nonempty) (Nat.lt_irrefl _)

/-- Characters are read one by one up to the place where the pieces end. -/
theorem run_many_satisfy_of_run_many
    {values : List String}
    (pieces : ReadsPieces accepts piece)
    (matched : piece.many.run start = some (values, stop)) :
    (satisfy accepts).many.run start = some ((String.join values).toList, stop) := by
  rcases run_many_eq_some_iff.mp matched with ⟨steps, ending, rfl, advances, ends⟩
  rcases pieces.stopsAt_of_ends ends with ⟨rfl, stops⟩
  rcases pieces.reads_of_advances advances with ⟨reads, accepted⟩
  rw [List.append_nil]
  exact run_many_satisfy_eq_some_iff.mpr ⟨reads, accepted, stops⟩

/-- However a run is divided into pieces, the joined pieces are the run. -/
theorem join_many (pieces : ReadsPieces accepts piece) :
    piece.many.map String.join = (satisfy accepts).many.map String.ofList := by
  apply Parser.ext
  intro start
  rcases collected : manyFrom piece [] start with ⟨values, stop⟩
  have matched : piece.many.run start = some (values, stop) :=
    congrArg some collected
  rw [run_map, run_map, matched, pieces.run_many_satisfy_of_run_many matched]
  simp only [Option.map_some, String.ofList_toList]

theorem join_many1 (pieces : ReadsPieces accepts piece) :
    piece.many1.map String.join = (satisfy accepts).many1.map String.ofList := by
  apply Parser.ext
  intro start
  by_cases unmatched : piece.run start = none
  · rw [run_map_eq_none_iff.mpr (run_many1_of_none unmatched),
      run_map_eq_none_iff.mpr (run_many1_of_none (pieces.run_eq_none_iff.mp unmatched))]
  · rw [run_map, run_many1_eq_run_many unmatched, run_map,
      run_many1_eq_run_many (mt pieces.run_eq_none_iff.mpr unmatched),
      ← run_map, ← run_map, pieces.join_many]

end ReadsPieces

end TagTree.Parser
