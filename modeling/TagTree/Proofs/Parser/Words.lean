import TagTree.Proofs.Parser.Matches
import TagTree.Proofs.Text.Places

/-!
# Where a word matches

A word is read one character after the other, so it could fail behind any number
of them.  Seen from outside it matches exactly where the text ahead begins with
it, at every place of every text, and it moves on by its own width in bytes.

Two words one after the other are therefore the same parser as the joined word.
-/

namespace TagTree

/-- What is read between two places is told by what lies ahead of them in one text. -/
theorem Cursor.reads_iff_source_eq {start stop : Cursor} {text : List Char} :
    Reads start text stop ↔
      start.rest = text ++ stop.rest ∧ stop.source = start.source := by
  constructor
  · intro reads
    exact ⟨reads.rest_eq, source_eq_of_le ⟨text, reads⟩⟩
  · rintro ⟨restShape, sameSource⟩
    refine ⟨restShape, ?_⟩
    rw [source, source, restShape, ← List.append_assoc, String.ofList_inj,
      List.append_left_inj] at sameSource
    rw [← List.reverse_inj, sameSource, List.reverse_append, List.reverse_reverse]

namespace Parser

open Cursor

variable {start : Cursor}

/-- A word matches exactly where the text ahead begins with it. -/
theorem isSome_run_word_iff {expected : String} :
    ((word expected).run start).isSome ↔ expected.toList <+: start.rest := by
  rw [Option.isSome_iff_exists]
  constructor
  · rintro ⟨⟨value, stop⟩, matched⟩
    exact ⟨stop.rest, (run_word_eq_some_iff.mp matched).2.rest_eq.symm⟩
  · rintro ⟨rest, shape⟩
    rcases exists_reads shape.symm with ⟨stop, reads, _⟩
    exact ⟨(expected, stop), run_word_eq_some_iff.mpr ⟨rfl, reads⟩⟩

/-- Reading a joined word is reading its parts one after the other. -/
theorem word_append (left right : String) :
    word (left ++ right) =
      ((word left).pair (word right)).map fun parts => parts.1 ++ parts.2 := by
  apply Parser.ext
  intro cursor
  apply Option.ext
  rintro ⟨value, stop⟩
  simp only [run_word_eq_some_iff, run_map_eq_some_iff, Prod.exists, run_pair_eq_some_iff,
    String.toList_append]
  constructor
  · rintro ⟨rfl, reads⟩
    rcases reads.split with ⟨middle, leftReads, rightReads⟩
    exact ⟨left, right, ⟨middle, ⟨rfl, leftReads⟩, ⟨rfl, rightReads⟩⟩, rfl⟩
  · rintro ⟨_, _, ⟨middle, ⟨rfl, leftReads⟩, ⟨rfl, rightReads⟩⟩, rfl⟩
    exact ⟨rfl, leftReads.trans rightReads⟩

/-- A text that ends inside a word does not begin with it. -/
theorem run_word_eq_none_of_prefix
    {expected : String}
    (isPrefix : start.rest <+: expected.toList)
    (isProper : start.rest ≠ expected.toList) :
    (word expected).run start = none := by
  rw [← Option.not_isSome_iff_eq_none, isSome_run_word_iff]
  intro begins
  exact isProper (isPrefix.eq_of_length_le begins.length_le)

/--
At every place of every text, a word matches exactly if the text ahead begins with
it.  The value is then the word, the text behind the word is left, and the offset
has grown by the width of the word.  A joined word matches exactly where its parts
match one after the other, and stops at the same place.  A text that ends inside
the word is not matched.
-/
theorem run_word_at_place (start : Cursor) (expected : String) :
    (((word expected).run start).isSome ↔ expected.toList <+: start.rest) ∧
    (∀ (value : String) (stop : Cursor),
      (word expected).run start = some (value, stop) ↔
        value = expected ∧
        start.rest = expected.toList ++ stop.rest ∧
        stop.source = start.source ∧
        stop.offset = start.offset + expected.utf8ByteSize) ∧
    (∀ left right : String,
      (word (left ++ right)).run start =
        (((word left).pair (word right)).map fun parts => parts.1 ++ parts.2).run start) ∧
    (start.rest <+: expected.toList → start.rest ≠ expected.toList →
      (word expected).run start = none) := by
  refine ⟨isSome_run_word_iff, ?_, ?_, run_word_eq_none_of_prefix⟩
  · intro value stop
    rw [run_word_eq_some_iff]
    constructor
    · rintro ⟨rfl, reads⟩
      rcases reads_iff_source_eq.mp reads with ⟨restShape, sameSource⟩
      refine ⟨rfl, restShape, sameSource, ?_⟩
      rw [reads.offset_eq, utf8Width_toList]
    · rintro ⟨rfl, restShape, sameSource, _⟩
      exact ⟨rfl, reads_iff_source_eq.mpr ⟨restShape, sameSource⟩⟩
  · intro left right
    rw [word_append]

/-- The word is three bytes wide; its first letter alone is no match. -/
theorem run_word_at_place_behind_two_bytes :
    (word "né").run (Cursor.between ['é'] "née".toList) =
      some ("né", Cursor.between "éné".toList ['e']) ∧
    ['n'] <+: "né".toList ∧
    (word "né").run (Cursor.between ['é'] ['n']) = none := by
  have isPrefix : ['n'] <+: "né".toList := ⟨['é'], by decide⟩
  refine ⟨?_, isPrefix, ?_⟩
  · exact
      ((run_word_at_place (Cursor.between ['é'] "née".toList) "né").2.1 _ _).mpr
        ⟨rfl, by decide, by decide, by decide⟩
  · exact
      (run_word_at_place (Cursor.between ['é'] ['n']) "né").2.2.2 isPrefix (by decide)

end Parser

end TagTree
