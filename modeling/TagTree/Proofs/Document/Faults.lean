import TagTree.Document
import TagTree.Proofs.Node.Prefixes
import TagTree.Proofs.Text.Lines
import TagTree.Proofs.Token.Segments

/-!
# Where a malformed document is at fault

An error of building names a tag by its index among the tokens.  The scan keeps
an offset for every token, and the text at that offset is the segment of the
token.  So the error of a document leads back to its text: at the reported
position stands the tag at fault, and the end of the text is never reported in
its place.
-/

namespace TagTree

open Cursor Grammar

/-! ## The segment of a token -/

/-- The token behind any others has its segment at the offset of the same index. -/
theorem Tiling.exists_occupied
    {rest before : List Char} {tokens : List Token} {offsets : List Nat}
    {segments : List (List Char)}
    (tiling : Tiling rest before tokens offsets segments)
    {earlier later : List Token} {token : Token}
    (shape : tokens = earlier ++ token :: later) :
    ∃ front segment behind : List Char,
      segments.flatten = front ++ (segment ++ behind) ∧
      offsets[earlier.length]? = some (utf8Width (before ++ front)) ∧
      token.Occupies (before ++ front) segment (behind ++ rest) := by
  induction tiling generalizing earlier with
  | nil before => simp at shape
  | @cons before segment first tokens offsets segments occupies _ inductionHypothesis =>
      cases earlier with
      | nil =>
          cases shape
          refine ⟨[], segment, segments.flatten, rfl, ?_, ?_⟩
          · simp
          · simpa using occupies
      | cons earliest earlier =>
          cases shape
          rcases inductionHypothesis rfl with
            ⟨front, laterSegment, behind, flattened, offset, laterOccupies⟩
          refine ⟨segment ++ front, laterSegment, behind, ?_, ?_, ?_⟩
          · simp [flattened]
          · simpa using offset
          · simpa using laterOccupies

theorem Token.Occupies.isTagSegment
    {token : Token} {before segment behind : List Char}
    (occupies : token.Occupies before segment behind)
    (notText : token.isText = false) :
    IsTagSegment token before segment behind := by
  cases token with
  | plainText text => cases notText
  | beginTag name attributes => exact occupies
  | endTag name => exact occupies

/-! ## The beginning of a tag -/

namespace WrittenTag

/-- Behind its name a tag goes on with a blank or ends. -/
theorem exists_behind_name (tag : WrittenTag) (rest : List Char) :
    ∃ (next : Char) (others : List Char),
      tag.body ++ '>' :: rest = tag.name.toList ++ next :: others ∧
      next ∈ '>' :: blankCharacters := by
  have startsBlank :
      ∀ first ∈ (tag.attributes.flatMap WrittenAttribute.characters ++ tag.ending).head?,
        first ∈ blankCharacters := by
    intro first isFirst
    cases shape : tag.attributes with
    | nil =>
        rw [shape] at isFirst
        exact tag.ending_blank first (List.mem_of_mem_head? isFirst)
    | cons written others =>
        rw [shape, List.flatMap_cons, WrittenAttribute.characters, List.append_assoc,
          List.append_assoc, List.head?_append_of_ne_nil _ written.gap_nonempty] at isFirst
        exact written.gap_blank first (List.mem_of_mem_head? isFirst)
  rw [body, List.append_assoc]
  cases shape : tag.attributes.flatMap WrittenAttribute.characters ++ tag.ending with
  | nil => exact ⟨'>', rest, rfl, by simp⟩
  | cons first others =>
      rw [shape] at startsBlank
      exact ⟨first, others ++ '>' :: rest, rfl, List.mem_cons_of_mem _ (startsBlank first rfl)⟩

end WrittenTag

namespace StructureError

/-- How the tag at fault begins in the text. -/
def opening : StructureError → String
  | unmatchedEndTag name _ => "</" ++ name
  | unclosedTag name _ => "<" ++ name

theorem Blames.isText_eq_false
    {error : StructureError} {token : Token}
    (blamed : error.Blames token) :
    token.isText = false := by
  cases error with
  | unmatchedEndTag name index =>
      subst blamed
      rfl
  | unclosedTag name index =>
      rcases blamed with ⟨attributes, rfl⟩
      rfl

theorem Blames.toList_opening
    {error : StructureError} {tag : WrittenTag}
    (blamed : error.Blames tag.token) :
    error.opening.toList = '<' :: tag.name.toList := by
  by_cases slash : tag.name.toList.head? = some '/'
  · have closing : tag.token = .endTag (String.ofList tag.name.toList.tail) :=
      if_pos slash
    rw [closing] at blamed
    cases error with
    | unmatchedEndTag name index =>
        cases blamed
        rcases List.head?_eq_some_iff.mp slash with ⟨closed, shape⟩
        simp [opening, shape]
    | unclosedTag name index =>
        rcases blamed with ⟨attributes, impossible⟩
        cases impossible
  · have opens : tag.token = .beginTag tag.name tag.entries := if_neg slash
    rw [opens] at blamed
    cases error with
    | unmatchedEndTag name index => cases blamed
    | unclosedTag name index =>
        rcases blamed with ⟨attributes, named⟩
        cases named
        simp [opening]

/-- The segment of the tag at fault begins with its name. -/
theorem Blames.exists_opening
    {error : StructureError} {token : Token} {before segment behind : List Char}
    (blamed : error.Blames token)
    (occupies : token.Occupies before segment behind) :
    ∃ (next : Char) (others : List Char),
      segment ++ behind = error.opening.toList ++ next :: others ∧
      next ∈ '>' :: blankCharacters := by
  have isSegment := occupies.isTagSegment blamed.isText_eq_false
  rcases run_tag_eq_some_iff.mp isSegment.matched with ⟨written, gap, rfl, _, reads, _⟩
  rcases written.exists_behind_name (gap ++ behind) with ⟨next, others, shape, ended⟩
  refine ⟨next, others, ?_, ended⟩
  have wholeTag : segment ++ behind = '<' :: (written.body ++ '>' :: gap) ++ behind :=
    reads.rest_eq
  rw [wholeTag, blamed.toList_opening, List.cons_append, List.append_assoc,
    List.cons_append, shape]
  rfl

end StructureError

namespace Document

theorem parse_eq_malformed_iff
    {text : String} {error : StructureError} {position : Position} :
    parse text = .error (.malformed error position) ↔
      (Scan.ofText text).stall? = none ∧
      buildTree Node.syntheticRootName (Scan.ofText text).tokens = .error error ∧
      position =
        Position.ofOffset text (tokenOffset text (Scan.ofText text) error.index) := by
  simp only [parse]
  cases (Scan.ofText text).stall? with
  | some stall => simp
  | none =>
      cases buildTree Node.syntheticRootName (Scan.ofText text).tokens with
      | ok tree => simp
      | error otherError =>
          constructor
          · intro same
            cases same
            exact ⟨rfl, rfl, rfl⟩
          · rintro ⟨_, same, rfl⟩
            cases same
            rfl

/--
The error of a malformed document has an offset among those of the tokens.  At
that offset the tag at fault begins with its name, and the reported position is
the line and the column of its first character.
-/
theorem parse_malformed_at_tag
    {text : String} {error : StructureError} {position : Position}
    (failed : parse text = .error (.malformed error position)) :
    ∃ before behind : String,
      text = before ++ error.opening ++ behind ∧
      (∃ next ∈ behind.toList.head?, next ∈ '>' :: blankCharacters) ∧
      (Scan.ofText text).offsets[error.index]? = some before.utf8ByteSize ∧
      position = Position.ofOffset text before.utf8ByteSize ∧
      position.line = before.toList.count '\n' + 1 ∧
      position.column = (before.toList.reverse.takeWhile (· ≠ '\n')).length + 1 := by
  rcases parse_eq_malformed_iff.mp failed with ⟨_, refused, rfl⟩
  rcases exists_blamed_of_buildTree_eq_error refused with
    ⟨earlier, token, later, shape, sameIndex, blamed⟩
  rcases Scan.exists_division text with ⟨division, _⟩
  rcases division.tiling.exists_occupied shape with
    ⟨front, segment, behind, flattened, offset, occupies⟩
  rcases blamed.exists_opening occupies with ⟨next, others, opening, ended⟩
  have textShape :
      text.toList = (division.gap ++ front) ++ (error.opening.toList ++ next :: others) := by
    rw [← opening, division.text_eq, flattened]
    simp
  have position := Position.ofOffset_append textShape
  rw [sameIndex] at offset
  refine
    ⟨String.ofList (division.gap ++ front), String.ofList (next :: others), ?_, ?_, ?_⟩
  · apply String.toList_inj.mp
    rw [textShape]
    simp
  · exact ⟨next, by simp, ended⟩
  · rw [utf8ByteSize_ofList, String.toList_ofList, tokenOffset, offset, Option.getD_some,
      position, Position.line_foldl_after, Position.column_foldl_after]
    exact ⟨rfl, rfl, rfl, rfl⟩

theorem parse_malformed_at_closing_tag :
    parse "é\n<a>x\n</a> 日</b k=1>" =
      .error (.malformed (.unmatchedEndTag "b" 5) { line := 3, column := 7 }) ∧
    ∃ before behind : String,
      "é\n<a>x\n</a> 日</b k=1>" = before ++ "</b" ++ behind ∧
      (∃ next ∈ behind.toList.head?, next ∈ '>' :: blankCharacters) ∧
      (Scan.ofText "é\n<a>x\n</a> 日</b k=1>").offsets[5]? = some before.utf8ByteSize ∧
      3 = before.toList.count '\n' + 1 ∧
      7 = (before.toList.reverse.takeWhile (· ≠ '\n')).length + 1 := by
  have failed :
      parse "é\n<a>x\n</a> 日</b k=1>" =
        .error (.malformed (.unmatchedEndTag "b" 5) { line := 3, column := 7 }) := by
    decide +kernel
  rcases parse_malformed_at_tag failed with
    ⟨before, behind, shape, ended, offset, _, line, column⟩
  exact ⟨failed, before, behind, shape, ended, offset, line, column⟩

end Document

end TagTree
