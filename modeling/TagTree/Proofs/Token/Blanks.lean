import TagTree.Proofs.Parser.Runs
import TagTree.Proofs.Text.Places
import TagTree.Proofs.Token.Written

/-!
# Runs of blanks

A carriage return with its newline is read as one blank, and every other blank
character as a blank of its own.  So a run of blanks is read in pieces of one or
two characters, and it depends on the order of carriage returns and newlines
where these pieces divide.

What is read in all does not depend on it: this is the longest run of blank
characters, as if they were read one by one.  Names, values, keys and plain texts
are such runs of a class of characters too, with at least one character each.
-/

namespace TagTree.Grammar

open TagTree.Parser Cursor

variable {start stop : Cursor}

theorem run_runOf_eq_some_iff {accepts : Char → Bool} {value : String} :
    (runOf accepts).run start = some (value, stop) ↔
      Reads start value.toList stop ∧
      IsRun accepts value.toList ∧
      StopsAt accepts stop.rest :=
  run_many1_ofList_eq_some_iff

theorem run_runOf_eq_none_iff {accepts : Char → Bool} :
    (runOf accepts).run start = none ↔ StopsAt accepts start.rest :=
  run_many1_ofList_eq_none_iff

/-! ## Blanks are pieces of a run -/

/-- A line end of two characters is read in front of single blank characters. -/
theorem readsPieces_blank : ReadsPieces isBlank blank := by
  apply (readsPieces_singleton isBlank).word_orElse
  exact ⟨by decide, by simp [isBlank]⟩

theorem blanks_eq_many_satisfy :
    blanks = (satisfy isBlank).many.map String.ofList :=
  readsPieces_blank.join_many

theorem blanks1_eq_runOf : blanks1 = runOf isBlank :=
  readsPieces_blank.join_many1

theorem run_blanks_eq_some_iff {value : String} :
    blanks.run start = some (value, stop) ↔
      Reads start value.toList stop ∧
      (∀ character ∈ value.toList, isBlank character = true) ∧
      StopsAt isBlank stop.rest := by
  rw [blanks_eq_many_satisfy, run_map_eq_some_iff]
  constructor
  · rintro ⟨text, matched, rfl⟩
    rw [String.toList_ofList]
    exact run_many_satisfy_eq_some_iff.mp matched
  · intro longest
    exact
      ⟨value.toList, run_many_satisfy_eq_some_iff.mpr longest, String.ofList_toList⟩

theorem exists_run_blanks (start : Cursor) :
    ∃ (value : String) (stop : Cursor), blanks.run start = some (value, stop) :=
  ⟨_, _, rfl⟩

theorem run_blanks1_eq_some_iff {value : String} :
    blanks1.run start = some (value, stop) ↔
      Reads start value.toList stop ∧
      IsRun isBlank value.toList ∧
      StopsAt isBlank stop.rest := by
  rw [blanks1_eq_runOf, run_runOf_eq_some_iff]

/-- At least one blank is any number of blanks, wherever that number is not zero. -/
theorem run_blanks1_of_run_blanks {value : String}
    (matched : blanks.run start = some (value, stop)) :
    blanks1.run start = if value = "" then none else some (value, stop) := by
  rcases run_blanks_eq_some_iff.mp matched with ⟨reads, blank, stops⟩
  by_cases empty : value = ""
  · subst empty
    rw [String.toList_empty, Reads.nil_iff] at reads
    subst reads
    rw [if_pos rfl, blanks1_eq_runOf, run_runOf_eq_none_iff]
    exact stops
  · rw [if_neg empty, run_blanks1_eq_some_iff]
    exact ⟨reads, ⟨mt String.toList_eq_nil_iff.mp empty, blank⟩, stops⟩

/-! ## The longest run of blanks -/

/-- The longest text that consists of blanks and that the given text begins with. -/
structure LongestBlank (text leading : List Char) : Prop where
  begins : leading <+: text
  blank : BlankText leading
  longest :
    ∀ candidate : List Char,
      candidate <+: text → BlankText candidate → candidate.length ≤ leading.length

/-- Blanks that no further blank follows are the longest. -/
theorem longestBlank_append
    {leading rest : List Char}
    (blank : BlankText leading)
    (unblank : StartsUnblank rest) :
    LongestBlank (leading ++ rest) leading where
  begins := List.prefix_append leading rest
  blank := blank
  longest := by
    rintro candidate ⟨others, shape⟩ candidateBlank
    have candidateTaken :
        (leading ++ rest).takeWhile isBlank = candidate ++ others.takeWhile isBlank := by
      rw [← shape, List.takeWhile_append_of_pos (blankText_iff.mp candidateBlank)]
    have leadingTaken : (leading ++ rest).takeWhile isBlank = leading :=
      takeWhile_append_of_stopsAt (blankText_iff.mp blank) (startsUnblank_iff.mp unblank)
    have begins : candidate <+: leading :=
      ⟨others.takeWhile isBlank, candidateTaken.symm.trans leadingTaken⟩
    exact begins.length_le

/--
Blanks are read as if they were read one character at a time.  At every place of
every text, any number of blanks matches, and its value is the longest run of spaces,
tabs, carriage returns and newlines ahead.  It stops right behind this run.  At least
one blank does the same, and fails exactly if the run is empty.
-/
theorem run_blanks_longest :
    blanks = (satisfy isBlank).many.map String.ofList ∧
    blanks1 = (satisfy isBlank).many1.map String.ofList ∧
    ∀ start : Cursor,
      ∃ (leading : String) (stop : Cursor),
        LongestBlank start.rest leading.toList ∧
        start.rest = leading.toList ++ stop.rest ∧
        stop.source = start.source ∧
        stop.offset = start.offset + leading.utf8ByteSize ∧
        blanks.run start = some (leading, stop) ∧
        blanks1.run start = if leading = "" then none else some (leading, stop) := by
  refine ⟨blanks_eq_many_satisfy, blanks1_eq_runOf, ?_⟩
  intro start
  rcases exists_run_blanks start with ⟨leading, stop, matched⟩
  rcases run_blanks_eq_some_iff.mp matched with ⟨reads, blank, stops⟩
  have longest : LongestBlank start.rest leading.toList := by
    rw [reads.rest_eq]
    exact longestBlank_append (blankText_iff.mpr blank) (startsUnblank_iff.mpr stops)
  have width : stop.offset = start.offset + leading.utf8ByteSize := by
    rw [reads.offset_eq, utf8Width_toList]
  exact
    ⟨leading, stop, longest, reads.rest_eq, source_eq_of_le ⟨leading.toList, reads⟩, width,
      matched, run_blanks1_of_run_blanks matched⟩

-- Four matches for five characters: only the second carriage return has its newline.
example :
    (blank.many.run (Cursor.start "\r\r\n\n\rx")).map
        (fun (values, stop) => (values, stop.rest)) =
      some (["\r", "\r\n", "\n", "\r"], ['x']) := by
  with_unfolding_all rfl

end TagTree.Grammar
