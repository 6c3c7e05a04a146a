import TagTree.Proofs.Token.Tag

/-!
# Tags can be read in one way only

A text begins with at most one written tag.  The attributes are those that the
loop over attributes reads, and each of them leaves no choice for the blanks in
front of it.  The name and the blanks at the end are the longest runs of their
characters, because what follows them begins with a character of another kind.

A tag ends at the first closing bracket, since there are no brackets inside
it.  Nothing behind that bracket decides whether a tag is read or which token
it is.
-/

namespace TagTree

attribute [ext] WrittenAttribute WrittenTag

namespace Grammar

open TagTree.Parser Cursor

variable {start stop other : Cursor}

/-! ## Written parts are determined by what is ahead -/

/-- From each place at most one attribute is written up to the end of its value. -/
theorem writtenAttribute_unique
    {left right : WrittenAttribute}
    (leftReads : Reads start left.characters stop)
    (leftStops : StopsAt isNameChar stop.rest)
    (rightReads : Reads start right.characters other)
    (rightStops : StopsAt isNameChar other.rest) :
    left = right ∧ stop = other := by
  rcases run_attribute_iff.mpr ⟨left, rfl, leftReads, leftStops⟩ with
    ⟨_, middle, leftSeparated, leftMatched⟩
  rcases run_attribute_iff.mpr ⟨right, rfl, rightReads, rightStops⟩ with
    ⟨_, _, rightSeparated, rightMatched⟩
  cases leftSeparated.symm.trans rightSeparated
  have sameMatch := leftMatched.symm.trans rightMatched
  rw [Option.some.injEq, Prod.mk.injEq] at sameMatch
  rcases sameMatch with ⟨sameEntry, rfl⟩
  have sameCharacters : left.characters = right.characters :=
    List.append_cancel_right (leftReads.rest_eq.symm.trans rightReads.rest_eq)
  rw [WrittenAttribute.characters, WrittenAttribute.characters, sameEntry] at sameCharacters
  exact ⟨WrittenAttribute.ext (List.append_cancel_right sameCharacters) sameEntry, rfl⟩

/-- From each place at most one list of attributes is written up to the end of a tag. -/
theorem writtenAttributes_unique
    {left right : List WrittenAttribute}
    (leftReads : Reads start (left.flatMap WrittenAttribute.characters) stop)
    (leftEnds : EndsTag stop.rest)
    (rightReads : Reads start (right.flatMap WrittenAttribute.characters) other)
    (rightEnds : EndsTag other.rest) :
    left = right ∧ stop = other := by
  have sameLoop :=
    (sepByFrom_written [] leftReads leftEnds).symm.trans
      (sepByFrom_written [] rightReads rightEnds)
  rw [Prod.mk.injEq] at sameLoop
  rcases sameLoop with ⟨sameEntries, rfl⟩
  refine ⟨?_, rfl⟩
  rw [List.reverse_nil, List.nil_append, List.nil_append] at sameEntries
  -- The loop finds the same attributes in both; what is left are the blanks between them.
  induction left generalizing start right with
  | nil => exact (List.map_eq_nil_iff.mp sameEntries.symm).symm
  | cons written others inductionHypothesis =>
      rcases List.map_eq_cons_iff.mp sameEntries.symm with
        ⟨rightWritten, rightOthers, rfl, _, otherEntries⟩
      rcases leftReads.split with ⟨leftNext, leftFirst, leftOthersRead⟩
      rcases rightReads.split with ⟨rightNext, rightFirst, rightOthersRead⟩
      rcases writtenAttribute_unique
          leftFirst (stopsAt_isNameChar_of_attributes leftOthersRead leftEnds)
          rightFirst (stopsAt_isNameChar_of_attributes rightOthersRead rightEnds) with
        ⟨rfl, rfl⟩
      rw [inductionHypothesis leftOthersRead otherEntries.symm rightOthersRead]

/-- From each place at most one tag is written up to a closing bracket. -/
theorem writtenTag_unique
    {left right : WrittenTag} {leftOthers rightOthers : List Char}
    (leftReads : Reads start left.body stop)
    (leftBracket : stop.rest = '>' :: leftOthers)
    (rightReads : Reads start right.body other)
    (rightBracket : other.rest = '>' :: rightOthers) :
    left = right ∧ stop = other := by
  have endsTag :
      ∀ {tag : WrittenTag} {place bracket : Cursor} {others : List Char},
        Reads place tag.ending bracket → bracket.rest = '>' :: others →
          EndsTag place.rest := by
    intro tag place bracket others reads shape
    exact ⟨tag.ending, others, tag.ending_blank, by rw [reads.rest_eq, shape]⟩
  rcases leftReads.split with ⟨leftNameStop, leftNameReads, leftBehindName⟩
  rcases rightReads.split with ⟨rightNameStop, rightNameReads, rightBehindName⟩
  rcases leftBehindName.split with ⟨leftAttributesStop, leftAttributesRead, leftEndingReads⟩
  rcases rightBehindName.split with
    ⟨rightAttributesStop, rightAttributesRead, rightEndingReads⟩
  have leftEnds := endsTag leftEndingReads leftBracket
  have rightEnds := endsTag rightEndingReads rightBracket
  rcases leftNameReads.longest_unique
      (isName_iff.mp left.isName).2
      (stopsAt_isNameChar_of_attributes leftAttributesRead leftEnds)
      rightNameReads (isName_iff.mp right.isName).2
      (stopsAt_isNameChar_of_attributes rightAttributesRead rightEnds) with
    ⟨sameName, rfl⟩
  rcases writtenAttributes_unique leftAttributesRead leftEnds
      rightAttributesRead rightEnds with
    ⟨sameAttributes, rfl⟩
  have bracketStops :
      ∀ {place : Cursor} {others : List Char},
        place.rest = '>' :: others → StopsAt isBlank place.rest := by
    intro place others shape
    rw [shape, stopsAt_cons]
    decide
  rcases leftEndingReads.longest_unique
      (blankText_iff.mp left.ending_blank) (bracketStops leftBracket)
      rightEndingReads (blankText_iff.mp right.ending_blank) (bracketStops rightBracket) with
    ⟨sameEnding, sameStop⟩
  exact ⟨WrittenTag.ext (String.toList_inj.mp sameName) sameAttributes sameEnding, sameStop⟩

/-! ## Texts that begin with a tag -/

/--
The text begins with the written tag in brackets.  Behind it are the given
blanks and then a rest that begins with no blank.
-/
structure BeginsWithTag
    (text : List Char) (written : WrittenTag) (gap rest : List Char) : Prop where
  text_eq : text = '<' :: (written.body ++ '>' :: (gap ++ rest))
  gap_blank : BlankText gap
  rest_unblank : StartsUnblank rest

/-- A text that begins with a tag is read up to the rest behind the blanks. -/
theorem BeginsWithTag.exists_reads
    {written : WrittenTag} {gap rest : List Char}
    (begins : BeginsWithTag start.rest written gap rest) :
    ∃ stop : Cursor,
      Reads start ('<' :: (written.body ++ '>' :: gap)) stop ∧ stop.rest = rest := by
  apply Cursor.exists_reads
  rw [begins.text_eq]
  simp

theorem BeginsWithTag.run_tag
    {written : WrittenTag} {gap rest : List Char}
    (begins : BeginsWithTag start.rest written gap rest) :
    ∃ stop : Cursor,
      tag.run start = some (written.token, stop) ∧ start ≤ stop ∧ stop.rest = rest := by
  rcases begins.exists_reads with ⟨stop, reads, stopRest⟩
  have unblank : StopsAt isBlank stop.rest := by
    rw [stopRest]
    exact startsUnblank_iff.mp begins.rest_unblank
  have matched : tag.run start = some (written.token, stop) :=
    run_tag_eq_some_iff.mpr ⟨written, gap, rfl, begins.gap_blank, reads, unblank⟩
  exact ⟨stop, matched, tag.forward matched, stopRest⟩

theorem exists_beginsWithTag_of_run_tag {token : Token}
    (matched : tag.run start = some (token, stop)) :
    ∃ (written : WrittenTag) (gap : List Char),
      written.token = token ∧ BeginsWithTag start.rest written gap stop.rest := by
  rcases run_tag_eq_some_iff.mp matched with ⟨written, gap, sameToken, blank, reads, stops⟩
  refine ⟨written, gap, sameToken, ?_⟩
  exact
    { text_eq := by rw [reads.rest_eq]; simp
      gap_blank := blank
      rest_unblank := startsUnblank_iff.mpr stops }

/-- A text begins with at most one tag, followed by at most one run of blanks and one rest. -/
theorem BeginsWithTag.unique
    {left right : WrittenTag} {leftGap rightGap leftRest rightRest : List Char}
    (leftBegins : BeginsWithTag start.rest left leftGap leftRest)
    (rightBegins : BeginsWithTag start.rest right rightGap rightRest) :
    left = right ∧ leftGap = rightGap ∧ leftRest = rightRest := by
  rcases leftBegins.exists_reads with ⟨leftStop, leftReads, leftStopRest⟩
  rcases rightBegins.exists_reads with ⟨rightStop, rightReads, rightStopRest⟩
  rcases leftReads.uncons with ⟨leftBody, leftOpening, leftBehindOpening⟩
  rcases rightReads.uncons with ⟨rightBody, rightOpening, rightBehindOpening⟩
  cases leftOpening.stop_unique rightOpening
  rcases leftBehindOpening.split with ⟨leftBracket, leftBodyReads, leftBehindBody⟩
  rcases rightBehindOpening.split with ⟨rightBracket, rightBodyReads, rightBehindBody⟩
  rcases writtenTag_unique leftBodyReads leftBehindBody.rest_eq
      rightBodyReads rightBehindBody.rest_eq with
    ⟨sameTag, rfl⟩
  rcases leftBehindBody.uncons with ⟨leftBehind, leftBracketReads, leftGapReads⟩
  rcases rightBehindBody.uncons with ⟨rightBehind, rightBracketReads, rightGapReads⟩
  cases leftBracketReads.stop_unique rightBracketReads
  rcases leftGapReads.longest_unique
      (blankText_iff.mp leftBegins.gap_blank)
      (leftStopRest ▸ startsUnblank_iff.mp leftBegins.rest_unblank)
      rightGapReads (blankText_iff.mp rightBegins.gap_blank)
      (rightStopRest ▸ startsUnblank_iff.mp rightBegins.rest_unblank) with
    ⟨sameGap, rfl⟩
  exact ⟨sameTag, sameGap, leftStopRest.symm.trans rightStopRest⟩

/-! ## Nothing behind the closing bracket matters -/

/-- The text up to its first closing bracket, with the bracket; all of it if there is none. -/
def throughBracket (text : List Char) : List Char :=
  text.take (text.idxOf '>' + 1)

theorem throughBracket_of_beginsWithTag
    {text gap rest : List Char} {written : WrittenTag}
    (begins : BeginsWithTag text written gap rest) :
    throughBracket text = '<' :: (written.body ++ ['>']) := by
  have notInside : '>' ∉ '<' :: written.body := by
    rw [List.mem_cons, not_or]
    refine ⟨by decide, fun member => ?_⟩
    exact written.freeOf_body '>' member (by simp)
  have place : text.idxOf '>' = ('<' :: written.body).length := by
    rw [begins.text_eq, ← List.cons_append, List.idxOf_append, if_neg notInside,
      List.idxOf_cons_self, Nat.zero_add]
  have split : text = '<' :: (written.body ++ ['>']) ++ (gap ++ rest) := by
    rw [begins.text_eq]
    simp
  rw [throughBracket, place, split]
  exact List.take_left' (by simp)

/-- The same tag is read in front of another rest. -/
theorem run_tag_of_throughBracket_eq
    {token : Token}
    (same : throughBracket start.rest = throughBracket other.rest)
    (matched : tag.run start = some (token, stop)) :
    ∃ otherStop : Cursor, tag.run other = some (token, otherStop) := by
  rcases exists_beginsWithTag_of_run_tag matched with ⟨written, gap, rfl, begins⟩
  rw [throughBracket_of_beginsWithTag begins] at same
  have split :
      other.rest =
        '<' :: (written.body ++ '>' :: other.rest.drop (other.rest.idxOf '>' + 1)) := by
    have whole := List.take_append_drop (other.rest.idxOf '>' + 1) other.rest
    rw [← throughBracket, ← same] at whole
    simpa using whole.symm
  rcases exists_run_tag_of_written written split with ⟨otherStop, otherMatched, _⟩
  exact ⟨otherStop, otherMatched⟩

theorem map_run_tag_of_throughBracket_eq
    (same : throughBracket start.rest = throughBracket other.rest) :
    (tag.run start).map Prod.fst = (tag.run other).map Prod.fst := by
  cases matched : tag.run start with
  | some result =>
      rcases result with ⟨token, stop⟩
      rcases run_tag_of_throughBracket_eq same matched with ⟨otherStop, otherMatched⟩
      rw [otherMatched]
      rfl
  | none =>
      cases otherMatched : tag.run other with
      | none => rfl
      | some result =>
          rcases result with ⟨token, otherStop⟩
          rcases run_tag_of_throughBracket_eq same.symm otherMatched with ⟨_, startMatched⟩
          cases matched.symm.trans startMatched

/--
A tag is read exactly where the text ahead begins with one.  Then there is only
one way to divide that text into the parts of a tag, the blanks behind it and
the rest; the token is that of the tag, and the rest is left to be read.
Whether a tag is read, and which token it is, depends only on the text up to its
first closing bracket.
-/
theorem run_tag_unambiguous (start : Cursor) :
    ((∃ (token : Token) (stop : Cursor), tag.run start = some (token, stop)) ↔
      ∃ (written : WrittenTag) (gap rest : List Char),
        BeginsWithTag start.rest written gap rest) ∧
    (∀ (written : WrittenTag) (gap rest : List Char),
      BeginsWithTag start.rest written gap rest →
        (∃ stop : Cursor,
          tag.run start = some (written.token, stop) ∧
          start ≤ stop ∧
          stop.rest = rest) ∧
        ∀ (otherWritten : WrittenTag) (otherGap otherRest : List Char),
          BeginsWithTag start.rest otherWritten otherGap otherRest →
            otherWritten = written ∧ otherGap = gap ∧ otherRest = rest) ∧
    ∀ other : Cursor,
      throughBracket start.rest = throughBracket other.rest →
        (tag.run start).map Prod.fst = (tag.run other).map Prod.fst := by
  refine ⟨⟨?_, ?_⟩, ?_, ?_⟩
  · rintro ⟨token, stop, matched⟩
    rcases exists_beginsWithTag_of_run_tag matched with ⟨written, gap, _, begins⟩
    exact ⟨written, gap, stop.rest, begins⟩
  · rintro ⟨written, gap, rest, begins⟩
    rcases begins.run_tag with ⟨stop, matched, _⟩
    exact ⟨written.token, stop, matched⟩
  · intro written gap rest begins
    refine ⟨begins.run_tag, ?_⟩
    intro otherWritten otherGap otherRest otherBegins
    exact otherBegins.unique begins
  · intro other same
    exact map_run_tag_of_throughBracket_eq same

theorem run_tag_unambiguous_blank_in_key :
    ∃ (written : WrittenTag) (stop : Cursor),
      BeginsWithTag (Cursor.start "<a k x =v > c").rest written [' '] ['c'] ∧
      written.token = .beginTag "a" [{ key := "k x ", value := "v" }] ∧
      tag.run (Cursor.start "<a k x =v > c") = some (written.token, stop) ∧
      stop.rest = ['c'] ∧
      (∀ (otherWritten : WrittenTag) (otherGap otherRest : List Char),
        BeginsWithTag (Cursor.start "<a k x =v > c").rest otherWritten otherGap otherRest →
          otherWritten = written ∧ otherGap = [' '] ∧ otherRest = ['c']) ∧
      (tag.run (Cursor.start "<a k x =v > c")).map Prod.fst =
        (tag.run (Cursor.start "<a k x =v ></b>")).map Prod.fst := by
  let keyed : WrittenAttribute :=
    { gap := [' ']
      entry := { key := "k x ", value := "v" }
      gap_nonempty := by simp
      gap_blank := by decide
      isKey := by decide
      isValue := by decide }
  let written : WrittenTag :=
    { name := "a"
      attributes := [keyed]
      ending := [' ']
      isName := by decide
      ending_blank := by decide }
  have begins : BeginsWithTag (Cursor.start "<a k x =v > c").rest written [' '] ['c'] :=
    { text_eq := by decide
      gap_blank := by decide
      rest_unblank := by decide }
  have unambiguous := run_tag_unambiguous (Cursor.start "<a k x =v > c")
  rcases unambiguous.2.1 written [' '] ['c'] begins with ⟨⟨stop, matched, _, stopRest⟩, unique⟩
  refine ⟨written, stop, begins, by decide, matched, stopRest, unique, ?_⟩
  exact unambiguous.2.2 (Cursor.start "<a k x =v ></b>") (by decide)

end Grammar

end TagTree
