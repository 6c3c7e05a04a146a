import TagTree.Proofs.Parser.Lists

/-!
# Joined pieces are read back

Pieces joined by a separator are read as the list of these pieces, if the
separator is no character of a piece.  Each piece but the last then ends at a
separator, and the last one ends at the tail behind it.

The tail may begin with a separator.  As long as no piece follows, the separator
does not belong to the list and is left with the tail.
-/

namespace TagTree.Parser

open Cursor

variable {accepts : Char → Bool} {separator : Char} {start stop : Cursor}

/-- The text begins neither with a piece nor with a separator and a piece behind it. -/
def EndsPieces (accepts : Char → Bool) (separator : Char) (text : List Char) : Prop :=
  StopsAt accepts text ∧
  ∀ others : List Char, text = separator :: others → StopsAt accepts others

/-- Where no more pieces follow, a separator is not read either. -/
theorem EndsPieces.run_skipThen_eq_none
    (ends : EndsPieces accepts separator stop.rest) :
    ((char separator).skipThen ((satisfy accepts).many1.map String.ofList)).run stop =
      none := by
  cases separated : (char separator).run stop with
  | none => exact run_skipThen_of_none separated
  | some result =>
      rcases result with ⟨mark, afterSeparator⟩
      rw [run_skipThen_of_some separated]
      apply run_many1_ofList_eq_none_iff.mpr
      exact ends.2 afterSeparator.rest (run_char_eq_some_iff.mp separated).2.rest_eq

/-- Pieces with a separator in front of each. -/
def separatedPieces (separator : Char) (pieces : List String) : List Char :=
  pieces.flatMap fun piece => separator :: piece.toList

/-- No character is accepted at the separator in front of a piece. -/
theorem stopsAt_separatedPieces_append
    {tail : List Char}
    (rejected : accepts separator = false)
    (stops : StopsAt accepts tail)
    (pieces : List String) :
    StopsAt accepts (separatedPieces separator pieces ++ tail) := by
  cases pieces with
  | nil => exact stops
  | cons piece others => exact stopsAt_cons.mpr rejected

theorem advances_separatedPieces
    {pieces : List String}
    (rejected : accepts separator = false)
    (isRun : ∀ piece ∈ pieces, IsRun accepts piece.toList)
    (reads : Reads start (separatedPieces separator pieces) stop)
    (stops : StopsAt accepts stop.rest) :
    Advances ((char separator).skipThen ((satisfy accepts).many1.map String.ofList))
      start pieces stop := by
  induction pieces generalizing start with
  | nil =>
      rw [Reads.nil_iff.mp reads]
      exact .done stop
  | cons piece others inductionHypothesis =>
      rcases List.forall_mem_cons.mp isRun with ⟨pieceIsRun, othersAreRuns⟩
      rcases Reads.split reads with ⟨next, firstReads, othersRead⟩
      rcases firstReads.uncons with ⟨afterSeparator, separatorRead, pieceReads⟩
      -- The piece ends at the next separator, or at the tail if it is the last one.
      have pieceStops : StopsAt accepts next.rest := by
        rw [othersRead.rest_eq]
        exact stopsAt_separatedPieces_append rejected stops others
      have separated : (char separator).run start = some (separator, afterSeparator) :=
        run_char_eq_some_iff.mpr ⟨rfl, separatorRead⟩
      have matched :=
        (run_skipThen_of_some separated).trans
          (run_many1_ofList_eq_some_iff.mpr ⟨pieceReads, pieceIsRun, pieceStops⟩)
      exact
        .step matched (firstReads.offset_lt (by simp))
          (inductionHypothesis othersAreRuns othersRead)

theorem toList_intercalate_singleton_cons
    (separator : Char) (first : String) (others : List String) :
    ((String.singleton separator).intercalate (first :: others)).toList =
      first.toList ++ separatedPieces separator others := by
  rw [intercalate_cons_eq_append_join, String.toList_append, String.toList_join,
    List.flatMap_map]
  simp [separatedPieces]

/--
Pieces joined by a separator that is no character of a piece are read back exactly,
wherever they stand.  The tail behind them is left as it is, also if it begins
with a separator that has no piece behind it.
-/
theorem run_sepBy1_joined
    {pieces : List String} {tail : String}
    (rejected : accepts separator = false)
    (nonempty : pieces ≠ [])
    (isRun : ∀ piece ∈ pieces, IsRun accepts piece.toList)
    (ends : EndsPieces accepts separator tail.toList)
    (before : List Char) :
    (((satisfy accepts).many1.map String.ofList).sepBy1 (char separator)).run
        (Cursor.between before
          ((String.singleton separator).intercalate pieces ++ tail).toList) =
      some
        (pieces,
          Cursor.between
            (before ++ ((String.singleton separator).intercalate pieces).toList)
            tail.toList) := by
  rcases List.exists_cons_of_ne_nil nonempty with ⟨first, others, rfl⟩
  rcases List.forall_mem_cons.mp isRun with ⟨firstIsRun, othersAreRuns⟩
  rw [String.toList_append, toList_intercalate_singleton_cons]
  have reads := Cursor.reads_between before (first.toList ++ separatedPieces separator others)
    tail.toList
  rcases Reads.split reads with ⟨next, firstReads, othersRead⟩
  have firstStops : StopsAt accepts next.rest := by
    rw [othersRead.rest_eq]
    exact stopsAt_separatedPieces_append rejected ends.1 others
  have firstMatched := run_many1_ofList_eq_some_iff.mpr ⟨firstReads, firstIsRun, firstStops⟩
  have advances := advances_separatedPieces rejected othersAreRuns othersRead ends.1
  rw [run_sepBy1_of_some firstMatched,
    manyFrom_of_advances [first] advances (.unmatched ends.run_skipThen_eq_none),
    List.append_nil]
  rfl

theorem run_sepBy1_joined_tail_with_comma :
    EndsPieces Char.isAlphanum ',' ",<".toList ∧
    (((satisfy Char.isAlphanum).many1.map String.ofList).sepBy1 (char ',')).run
        (Cursor.between ['é'] "ab,c,12,<".toList) =
      some (["ab", "c", "12"], Cursor.between "éab,c,12".toList ",<".toList) := by
  have ends : EndsPieces Char.isAlphanum ',' ",<".toList := by
    constructor
    · exact stopsAt_cons.mpr (by decide)
    · intro others shape
      cases shape
      exact stopsAt_cons.mpr (by decide)
  have isRun : ∀ piece ∈ ["ab", "c", "12"], IsRun Char.isAlphanum piece.toList := by
    simp [IsRun]
  exact ⟨ends, run_sepBy1_joined (by decide) (by simp) isRun ends ['é']⟩

end TagTree.Parser
