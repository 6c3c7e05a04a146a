import TagTree.Proofs.Text.Places
import TagTree.Proofs.Token.Canonical

/-!
# The segments of a text

A scan divides its text without loss or overlap: the blanks in front, a segment
for each token, and a rest in which no token was found.  This holds whether the
scan reaches the end or stalls.  The segment of a text is that text, the
segment of a tag is all that the parser of tags reads, so the blanks behind a
tag belong to it.

The invariant is carried along the chain of tokens: no segment begins with a
blank, because every token is read up to the next character that is not one.
From the segments alone it follows that offsets increase, that they lie between
characters, and that no two texts are side by side.
-/

namespace TagTree

open Cursor Grammar

/-! ## Segments of single tokens -/

/-- The segment is a text that goes on to the next bracket or to the end. -/
structure IsTextSegment (text : String) (segment behind : List Char) : Prop where
  segment_eq : segment = text.toList
  isText : IsText text
  ended : ∀ first ∈ behind.head?, first ∈ ['<', '>']

/--
The segment is what the parser of tags reads behind the characters `before`: a
tag in brackets and all the blanks behind it.
-/
structure IsTagSegment (token : Token) (before segment behind : List Char) : Prop where
  matched :
    Grammar.tag.run (between before (segment ++ behind)) =
      some (token, between (before ++ segment) behind)
  segment_eq :
    ∃ body blanks : List Char,
      segment = '<' :: (body ++ '>' :: blanks) ∧
      FreeOf ['<', '>'] body ∧
      BlankText blanks
  ended : StartsUnblank behind

/-- The token stands in the segment between the characters `before` and `behind`. -/
def Token.Occupies (before segment behind : List Char) : Token → Prop
  | plainText text => IsTextSegment text segment behind
  | beginTag name attributes =>
    IsTagSegment (beginTag name attributes) before segment behind
  | endTag name => IsTagSegment (endTag name) before segment behind

theorem IsTagSegment.occupies
    {token : Token} {before segment behind : List Char}
    (isSegment : IsTagSegment token before segment behind)
    (notText : token.isText = false) :
    token.Occupies before segment behind := by
  cases token with
  | plainText text => cases notText
  | beginTag name attributes => exact isSegment
  | endTag name => exact isSegment

theorem Token.Occupies.segment_ne_nil
    {token : Token} {before segment behind : List Char}
    (occupies : token.Occupies before segment behind) :
    segment ≠ [] := by
  have tagNonempty : IsTagSegment token before segment behind → segment ≠ [] := by
    intro isSegment
    rcases isSegment.segment_eq with ⟨body, blanks, rfl, _⟩
    simp
  cases token with
  | plainText text =>
      rw [IsTextSegment.segment_eq occupies]
      exact (isText_iff.mp (IsTextSegment.isText occupies)).1.1
  | beginTag name attributes => exact tagNonempty occupies
  | endTag name => exact tagNonempty occupies

/-- A text ends in front of a bracket or at the end, where no other text begins. -/
theorem Token.Occupies.not_both_texts
    {token next : Token} {before segment nextBefore nextSegment behind : List Char}
    (occupies : token.Occupies before segment (nextSegment ++ behind))
    (nextOccupies : next.Occupies nextBefore nextSegment behind) :
    (token.isText && next.isText) = false := by
  cases token with
  | beginTag name attributes => rfl
  | endTag name => rfl
  | plainText text =>
      cases next with
      | beginTag name attributes => rfl
      | endTag name => rfl
      | plainText nextText =>
          rcases isText_iff.mp (IsTextSegment.isText nextOccupies) with ⟨run, _⟩
          have ended := stopsAt_isTextChar_iff.mpr (IsTextSegment.ended occupies)
          rw [IsTextSegment.segment_eq nextOccupies] at ended
          exact absurd ended (not_stopsAt_append_of_isRun run behind)

/-- Behind a place without blanks, a rule reads one segment up to such a place. -/
theorem Rule.exists_segment_of_match
    {start next : Cursor} {rule : Rule} {token : Token}
    (matched : rule.parser.run start = some (token, next))
    (unblank : StopsAt isBlank start.rest) :
    ∃ segment : List Char,
      Reads start segment next ∧
      token.Occupies start.passed.reverse segment next.rest ∧
      StopsAt isBlank next.rest := by
  cases rule with
  | plainText =>
      rcases run_plainText_eq_some_iff.mp matched with ⟨text, rfl, reads, run, stops⟩
      rw [reads.rest_eq, stopsAt_append_iff run.1] at unblank
      refine ⟨text.toList, reads, ?_, stopsAt_isBlank_of_isTextChar stops⟩
      exact
        { segment_eq := rfl
          isText := isText_iff.mpr ⟨run, unblank⟩
          ended := stopsAt_isTextChar_iff.mp stops }
  | tag =>
      rcases run_tag_eq_some_iff.mp matched with ⟨written, gap, rfl, gapBlank, reads, stops⟩
      refine ⟨_, reads, ?_, stops⟩
      apply IsTagSegment.occupies
      · exact
          { matched := by
              rw [← reads.rest_eq, ← reads.passed_reverse, between_passed_rest,
                between_passed_rest]
              exact matched
            segment_eq := ⟨written.body, gap, rfl, written.freeOf_body, gapBlank⟩
            ended := startsUnblank_iff.mpr stops }
      · exact written.isText_token

/-! ## Segments side by side -/

/--
Segments are laid side by side behind the characters `before`, up to the
characters `rest`.  Each is the segment of its token and starts at its offset.
-/
inductive Tiling (rest : List Char) :
    List Char → List Token → List Nat → List (List Char) → Prop where
  | nil (before : List Char) : Tiling rest before [] [] []
  | cons
      {before segment : List Char} {token : Token}
      {tokens : List Token} {offsets : List Nat} {segments : List (List Char)}
      (occupies : token.Occupies before segment (segments.flatten ++ rest))
      (others : Tiling rest (before ++ segment) tokens offsets segments) :
      Tiling rest before (token :: tokens) (utf8Width before :: offsets)
        (segment :: segments)

namespace Tiling

variable {before rest : List Char} {tokens : List Token} {offsets : List Nat}
variable {segments : List (List Char)}

theorem length_eq
    (tiling : Tiling rest before tokens offsets segments) :
    tokens.length = segments.length ∧ offsets.length = segments.length := by
  induction tiling with
  | nil before => exact ⟨rfl, rfl⟩
  | cons _ _ inductionHypothesis => simpa using inductionHypothesis

/-- An offset is the width of what lies before one of the segments. -/
theorem exists_append_of_mem_offsets
    (tiling : Tiling rest before tokens offsets segments)
    {offset : Nat}
    (member : offset ∈ offsets) :
    ∃ left right : List Char,
      segments.flatten = left ++ right ∧
      right ≠ [] ∧
      offset = utf8Width before + utf8Width left := by
  induction tiling with
  | nil before => cases member
  | @cons before segment token tokens offsets segments occupies others
      inductionHypothesis =>
      rcases List.mem_cons.mp member with rfl | later
      · exact ⟨[], segment ++ segments.flatten, rfl, by simp [occupies.segment_ne_nil], rfl⟩
      · rcases inductionHypothesis later with ⟨left, right, split, nonempty, offset⟩
        refine ⟨segment ++ left, right, ?_, nonempty, ?_⟩
        · rw [List.flatten_cons, split, List.append_assoc]
        · rw [offset, utf8Width_append, utf8Width_append, Nat.add_assoc]

theorem pairwise_offsets
    (tiling : Tiling rest before tokens offsets segments) :
    offsets.Pairwise (· < ·) := by
  induction tiling with
  | nil before => exact .nil
  | @cons before segment token tokens offsets segments occupies others
      inductionHypothesis =>
      apply List.Pairwise.cons
      · intro offset later
        rcases others.exists_append_of_mem_offsets later with ⟨left, _, _, _, rfl⟩
        have wide := utf8Width_pos occupies.segment_ne_nil
        rw [utf8Width_append]
        omega
      · exact inductionHypothesis

theorem separated_tokens
    (tiling : Tiling rest before tokens offsets segments) :
    Separated Token.isText tokens := by
  induction tiling with
  | nil before => exact .nil
  | @cons before segment token tokens offsets segments occupies others
      inductionHypothesis =>
      rw [separated_cons_iff]
      refine ⟨?_, inductionHypothesis⟩
      cases others with
      | nil => simp
      | cons nextOccupies _ =>
          rw [List.flatten_cons, List.append_assoc] at occupies
          exact occupies.not_both_texts nextOccupies

end Tiling

theorem Scan.exists_tiling_of_chain
    {start stop : Cursor} {lexemes : List Lexeme}
    (chain : Chain start lexemes stop)
    (unblank : StopsAt isBlank start.rest) :
    ∃ segments : List (List Char),
      Reads start segments.flatten stop ∧
      Tiling stop.rest start.passed.reverse
        (lexemes.map Lexeme.token) (lexemes.map Lexeme.offset) segments := by
  induction chain with
  | done cursor => exact ⟨[], Reads.refl cursor, .nil _⟩
  | @step start next stop rule token lexemes matched _ inductionHypothesis =>
      rcases Rule.exists_segment_of_match matched unblank with
        ⟨segment, reads, occupies, nextUnblank⟩
      rcases inductionHypothesis nextUnblank with ⟨segments, othersRead, tiling⟩
      refine ⟨segment :: segments, reads.trans othersRead, ?_⟩
      rw [reads.passed_reverse] at tiling
      rw [othersRead.rest_eq] at occupies
      rw [List.map_cons, List.map_cons, start.offset_eq_reverse]
      exact .cons occupies tiling

/-! ## The division of a text -/

/--
A text divided into the blanks in front of it, the segments of tokens that
start at the given offsets, and a rest.
-/
structure Division (text : String) (tokens : List Token) (offsets : List Nat) where
  /-- The blanks in front of the first token. -/
  gap : List Char
  /-- The segments of the tokens, in order. -/
  segments : List (List Char)
  /-- What is left behind the last token. -/
  rest : List Char
  text_eq : text.toList = gap ++ (segments.flatten ++ rest)
  gap_eq : gap = text.toList.takeWhile (· ∈ blankCharacters)
  tiling : Tiling rest gap tokens offsets segments

namespace Division

variable {text : String} {tokens : List Token} {offsets : List Nat}

/-- The place behind the last token. -/
def stop (division : Division text tokens offsets) : Cursor :=
  between (division.gap ++ division.segments.flatten) division.rest

theorem source_stop (division : Division text tokens offsets) :
    division.stop.source = text := by
  rw [stop, source_between, List.append_assoc, ← division.text_eq, String.ofList_toList]

theorem offset_stop (division : Division text tokens offsets) :
    division.stop.offset = text.utf8ByteSize - utf8Width division.rest := by
  rw [← utf8Width_toList, division.text_eq, stop, offset_between]
  simp only [utf8Width_append]
  omega

/-- Every offset lies in front of a character of the text. -/
theorem inside_of_mem_offsets
    (division : Division text tokens offsets)
    {offset : Nat}
    (member : offset ∈ offsets) :
    offset < text.utf8ByteSize ∧ String.Pos.Raw.IsValid text ⟨offset⟩ := by
  rcases division.tiling.exists_append_of_mem_offsets member with
    ⟨left, right, split, nonempty, rfl⟩
  have textShape :
      text.toList = (division.gap ++ left) ++ (right ++ division.rest) := by
    rw [division.text_eq, split]
    simp
  have source :
      (between (division.gap ++ left) (right ++ division.rest)).source = text := by
    rw [source_between, ← textShape, String.ofList_toList]
  constructor
  · have wide := utf8Width_pos nonempty
    rw [← utf8Width_toList, textShape]
    simp only [utf8Width_append]
    omega
  · have isValid := (between (division.gap ++ left) (right ++ division.rest)).isValid_offset
    rw [source, offset_between, utf8Width_append] at isValid
    exact isValid

end Division

/--
The stall is reported in front of a rest that begins with a bracket and at
which neither rule reads anything.
-/
structure Stall.IsBefore
    (stall : Stall) {text : String} {tokens : List Token} {offsets : List Nat}
    (division : Division text tokens offsets) : Prop where
  rest_eq : ∃ bracket others, division.rest = bracket :: others ∧ bracket ∈ ['<', '>']
  plainText_eq_none : Grammar.plainText.run division.stop = none
  tag_eq_none : Grammar.tag.run division.stop = none
  offset_eq : stall.offset = text.utf8ByteSize - utf8Width division.rest
  position_eq : stall.position = Position.ofOffset text stall.offset
  preview_eq : stall.preview = String.ofList (division.rest.take 24)

namespace Scan

theorem exists_division (text : String) :
    ∃ division : Division text (ofText text).tokens (ofText text).offsets,
      division.stop = (ofText text).stop := by
  rcases exists_reads_skipBlanks (Cursor.start text) with ⟨gap, blank, gapReads, unblank⟩
  rcases exists_tiling_of_chain (chain_ofText text).1 unblank with
    ⟨segments, segmentsRead, tiling⟩
  have passed : (ofText text).start.passed.reverse = gap := gapReads.passed_reverse
  have textShape : text.toList = gap ++ (ofText text).start.rest := gapReads.rest_eq
  rw [passed] at tiling
  refine
    ⟨{ gap := gap
       segments := segments
       rest := (ofText text).stop.rest
       text_eq := by rw [textShape, segmentsRead.rest_eq]
       gap_eq := ?_
       tiling := tiling }, ?_⟩
  · rw [← isBlank_eq_decide, textShape]
    exact (takeWhile_append_of_stopsAt (blankText_iff.mp blank) unblank).symm
  · show between (gap ++ segments.flatten) (ofText text).stop.rest = _
    rw [← passed, ← segmentsRead.passed_reverse, between_passed_rest]

/-- Where a scan stops in front of a rest, it stalls and reports that place. -/
theorem isBefore_ofCursor
    {text : String} {tokens : List Token} {offsets : List Nat}
    {division : Division text tokens offsets}
    (stuck : Stuck division.stop)
    (notAtEnd : division.rest ≠ []) :
    (Stall.ofCursor division.stop).IsBefore division where
  rest_eq := by
    have stops := run_plainText_eq_none_iff.mp (stuck .plainText)
    have bracket := stopsAt_isTextChar_iff.mp stops
    rcases List.exists_cons_of_ne_nil notAtEnd with ⟨first, others, shape⟩
    refine ⟨first, others, shape, bracket first ?_⟩
    rw [Division.stop, rest_between, shape]
    rfl
  plainText_eq_none := stuck .plainText
  tag_eq_none := stuck .tag
  offset_eq := division.offset_stop
  position_eq := by
    rw [Stall.ofCursor, division.source_stop]
  preview_eq := rfl

/--
The text of a scan is divided into the blanks in front, one segment for each
token at its offset, and a rest.  The offsets increase and lie in front of
characters, and no two texts are side by side.  The scan succeeds if nothing is
left, and otherwise reports the rest, at which no token can be read.
-/
theorem ofText_divides (text : String) :
    ∃ division : Division text (ofText text).tokens (ofText text).offsets,
      (ofText text).tokens.length = (ofText text).offsets.length ∧
      (ofText text).offsets.Pairwise (· < ·) ∧
      (∀ offset ∈ (ofText text).offsets,
        offset < text.utf8ByteSize ∧ String.Pos.Raw.IsValid text ⟨offset⟩) ∧
      Separated Token.isText (ofText text).tokens ∧
      ((division.rest = [] ∧ (ofText text).result = .ok (ofText text).tokens) ∨
        ∃ stall : Stall,
          (ofText text).result = .error stall ∧ stall.IsBefore division) := by
  rcases exists_division text with ⟨division, sameStop⟩
  rcases division.tiling.length_eq with ⟨tokensLength, offsetsLength⟩
  refine
    ⟨division, tokensLength.trans offsetsLength.symm, division.tiling.pairwise_offsets,
      fun offset => division.inside_of_mem_offsets, division.tiling.separated_tokens, ?_⟩
  have stuck := (chain_ofText text).2
  have sameRest : (ofText text).stop.rest = division.rest := by
    rw [← sameStop]
    rfl
  by_cases atEnd : division.rest = []
  · exact Or.inl ⟨atEnd, result_of_rest_nil (sameRest.trans atEnd)⟩
  · have notAtEnd : (ofText text).stop.rest ≠ [] := by
      rw [sameRest]
      exact atEnd
    refine Or.inr ⟨_, result_of_rest_ne_nil notAtEnd, ?_⟩
    rw [← sameStop] at stuck ⊢
    exact isBefore_ofCursor stuck atEnd

end Scan

end TagTree
