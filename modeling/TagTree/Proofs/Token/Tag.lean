import TagTree.Proofs.Token.Blanks

/-!
# Tags are read as they are written

The parser of tags matches exactly the written tags, and reads the blanks
behind them.  Reading is greedy everywhere, and greed loses nothing: a name or
a value ends in front of a blank or a bracket, a key in front of its equals
sign, and blanks that no attribute follows are given back to the end of the
tag.
-/

namespace TagTree.Grammar

open TagTree.Parser Cursor

variable {start stop : Cursor}

/-! ## Attributes -/

theorem run_keyValue_eq_some_iff {entry : Attribute} :
    keyValue.run start = some (entry, stop) ↔
      Reads start (entry.key.toList ++ '=' :: entry.value.toList) stop ∧
      IsRun isKeyChar entry.key.toList ∧
      IsRun isNameChar entry.value.toList ∧
      StopsAt isNameChar stop.rest := by
  constructor
  · intro matched
    rw [keyValue, run_map_eq_some_iff] at matched
    rcases matched with ⟨⟨key, value⟩, pairMatched, rfl⟩
    rcases run_pair_eq_some_iff.mp pairMatched with ⟨afterSign, keyMatched, valueMatched⟩
    rcases run_thenSkip_eq_some_iff.mp keyMatched with
      ⟨afterKey, sign, keyRead, signMatched⟩
    rcases run_runOf_eq_some_iff.mp keyRead with ⟨keyReads, keyRun, _⟩
    rcases run_char_eq_some_iff.mp signMatched with ⟨_, signReads⟩
    rcases run_runOf_eq_some_iff.mp valueMatched with ⟨valueReads, valueRun, stops⟩
    exact ⟨keyReads.trans (signReads.trans valueReads), keyRun, valueRun, stops⟩
  · rintro ⟨reads, keyRun, valueRun, stops⟩
    rcases reads.split with ⟨afterKey, keyReads, signAndValue⟩
    rcases signAndValue.uncons with ⟨afterSign, signReads, valueReads⟩
    have keyStops : StopsAt isKeyChar afterKey.rest := by
      rw [signReads.rest_eq, List.singleton_append, stopsAt_cons]
      decide
    rw [keyValue, run_map_eq_some_iff]
    refine ⟨(entry.key, entry.value), run_pair_eq_some_iff.mpr ⟨afterSign, ?_, ?_⟩, rfl⟩
    · exact run_thenSkip_eq_some_iff.mpr
        ⟨afterKey, '=', run_runOf_eq_some_iff.mpr ⟨keyReads, keyRun, keyStops⟩,
          run_char_eq_some_iff.mpr ⟨rfl, signReads⟩⟩
    · exact run_runOf_eq_some_iff.mpr ⟨valueReads, valueRun, stops⟩

theorem run_keyValue_eq_none_of_stopsAt
    (stops : StopsAt isKeyChar start.rest) :
    keyValue.run start = none := by
  cases matched : keyValue.run start with
  | none => rfl
  | some result =>
      rcases result with ⟨entry, next⟩
      rcases run_keyValue_eq_some_iff.mp matched with ⟨reads, keyRun, _⟩
      rw [reads.rest_eq, List.append_assoc] at stops
      exact absurd stops (not_stopsAt_append_of_isRun keyRun _)

/-- Blanks and an attribute behind them are read as they are written. -/
theorem run_attribute_iff {next : Cursor} {entry : Attribute} :
    (∃ (gap : String) (middle : Cursor),
        blanks1.run start = some (gap, middle) ∧
        keyValue.run middle = some (entry, next)) ↔
      ∃ written : WrittenAttribute,
        written.entry = entry ∧
        Reads start written.characters next ∧
        StopsAt isNameChar next.rest := by
  constructor
  · rintro ⟨gap, middle, separated, matched⟩
    rcases run_blanks1_eq_some_iff.mp separated with
      ⟨gapReads, ⟨gapNonempty, gapBlank⟩, gapStops⟩
    rcases run_keyValue_eq_some_iff.mp matched with ⟨reads, keyRun, valueRun, stops⟩
    rw [reads.rest_eq, List.append_assoc, stopsAt_append_iff keyRun.1] at gapStops
    refine
      ⟨{ gap := gap.toList
         entry := entry
         gap_nonempty := gapNonempty
         gap_blank := blankText_iff.mpr gapBlank
         isKey := isKey_iff.mpr ⟨keyRun, gapStops⟩
         isValue := isName_iff.mpr valueRun },
        rfl, gapReads.trans reads, stops⟩
  · rintro ⟨written, rfl, reads, stops⟩
    rcases isKey_iff.mp written.isKey with ⟨keyRun, keyUnblank⟩
    rcases reads.split with ⟨middle, gapReads, keyReads⟩
    have gapStops : StopsAt isBlank middle.rest := by
      rw [keyReads.rest_eq, List.append_assoc, stopsAt_append_iff keyRun.1]
      exact keyUnblank
    refine ⟨String.ofList written.gap, middle, ?_, ?_⟩
    · rw [run_blanks1_eq_some_iff, String.toList_ofList]
      exact ⟨gapReads, ⟨written.gap_nonempty, blankText_iff.mp written.gap_blank⟩, gapStops⟩
    · exact run_keyValue_eq_some_iff.mpr
        ⟨keyReads, keyRun, isName_iff.mp written.isValue, stops⟩

/-- The list of attributes that the loop over them reads is one that can be written. -/
theorem exists_written_sepByFrom (found : List Attribute) (start : Cursor) :
    ∃ attributes : List WrittenAttribute,
      (sepByFrom keyValue blanks1 found start).1 =
        found.reverse ++ attributes.map WrittenAttribute.entry ∧
      Reads start (attributes.flatMap WrittenAttribute.characters)
        (sepByFrom keyValue blanks1 found start).2 := by
  fun_induction sepByFrom keyValue blanks1 found start with
  | case1 found start _ => exact ⟨[], by simp, Reads.refl start⟩
  | case2 found start gap afterGap _ _ => exact ⟨[], by simp, Reads.refl start⟩
  | case3 found start gap afterGap separated entry next matched _ _ inductionHypothesis =>
      rcases run_attribute_iff.mp ⟨gap, afterGap, separated, matched⟩ with
        ⟨written, rfl, reads, _⟩
      rcases inductionHypothesis with ⟨attributes, entries, othersRead⟩
      refine ⟨written :: attributes, ?_, reads.trans othersRead⟩
      rw [entries]
      simp
  | case4 found start gap afterGap separated entry next matched stuck =>
      rcases run_blanks1_eq_some_iff.mp separated with ⟨gapReads, ⟨nonempty, _⟩, _⟩
      rcases run_keyValue_eq_some_iff.mp matched with ⟨reads, _⟩
      exact absurd ((gapReads.trans reads).offset_lt (by simp [nonempty])) stuck

/-- Blanks and the closing bracket of a tag. -/
def EndsTag (text : List Char) : Prop :=
  ∃ ending others : List Char, BlankText ending ∧ text = ending ++ '>' :: others

theorem EndsTag.stopsAt_isNameChar {text : List Char}
    (ends : EndsTag text) :
    StopsAt isNameChar text := by
  rcases ends with ⟨ending, others, blank, rfl⟩
  apply stopsAt_append
  · intro character member
    exact isNameChar_of_isBlank (blankText_iff.mp blank character member)
  · rw [stopsAt_cons]
    decide

/-- At the end of a tag the loop over attributes reads nothing. -/
theorem sepByFrom_of_endsTag
    (found : List Attribute)
    (ends : EndsTag start.rest) :
    sepByFrom keyValue blanks1 found start = (found.reverse, start) := by
  rcases ends with ⟨ending, others, blank, restShape⟩
  cases separated : blanks1.run start with
  | none => exact sepByFrom_of_no_separator found separated
  | some result =>
      rcases result with ⟨gap, middle⟩
      rcases run_blanks1_eq_some_iff.mp separated with ⟨gapReads, ⟨_, gapBlank⟩, gapStops⟩
      -- The separator takes all the blanks in front of the bracket, where no key
      -- begins, so the loop stops in front of the blanks and not behind them.
      have bracketStops : StopsAt isBlank ('>' :: others) := by
        rw [stopsAt_cons]
        decide
      rcases exists_reads restShape with ⟨bracket, endingReads, bracketRest⟩
      rw [← bracketRest] at bracketStops
      rcases gapReads.longest_unique gapBlank gapStops
        endingReads (blankText_iff.mp blank) bracketStops with ⟨_, rfl⟩
      have unmatched : keyValue.run middle = none := by
        apply run_keyValue_eq_none_of_stopsAt
        rw [bracketRest, stopsAt_cons]
        decide
      rw [sepByFrom_of_separator found separated, unmatched]

/-- In front of written attributes and the end of a tag, names and values stop. -/
theorem stopsAt_isNameChar_of_attributes
    {attributes : List WrittenAttribute}
    (reads : Reads start (attributes.flatMap WrittenAttribute.characters) stop)
    (ends : EndsTag stop.rest) :
    StopsAt isNameChar start.rest := by
  rw [reads.rest_eq]
  cases attributes with
  | nil => exact ends.stopsAt_isNameChar
  | cons written others =>
      rw [List.flatMap_cons, WrittenAttribute.characters, List.append_assoc,
        List.append_assoc, stopsAt_append_iff written.gap_nonempty]
      intro character first
      have member : character ∈ written.gap := List.mem_of_mem_head? first
      exact isNameChar_of_isBlank (blankText_iff.mp written.gap_blank character member)

/-- The loop over attributes reads all attributes that are written up to the end of a tag. -/
theorem sepByFrom_written
    {attributes : List WrittenAttribute}
    (found : List Attribute)
    (reads : Reads start (attributes.flatMap WrittenAttribute.characters) stop)
    (ends : EndsTag stop.rest) :
    sepByFrom keyValue blanks1 found start =
      (found.reverse ++ attributes.map WrittenAttribute.entry, stop) := by
  induction attributes generalizing start found with
  | nil =>
      rw [List.flatMap_nil, Reads.nil_iff] at reads
      subst reads
      rw [sepByFrom_of_endsTag found ends]
      simp
  | cons written others inductionHypothesis =>
      rw [List.flatMap_cons] at reads
      rcases reads.split with ⟨next, firstReads, othersRead⟩
      have stops := stopsAt_isNameChar_of_attributes othersRead ends
      rcases run_attribute_iff.mpr ⟨written, rfl, firstReads, stops⟩ with
        ⟨gap, middle, separated, matched⟩
      have progress : start.offset < next.offset :=
        firstReads.offset_lt (by simp [WrittenAttribute.characters])
      rw [sepByFrom_of_separator found separated]
      simp only [matched, if_pos progress]
      rw [inductionHypothesis (written.entry :: found) othersRead]
      simp

/--
The optional attributes of a tag are read by the loop over attributes from the
end of the name on: a first attribute is no exception in it.
-/
theorem run_optional_attributes (start : Cursor) :
    ∃ attributes : Option (List Attribute),
      (blanks1.skipThen attributeList).optional.run start =
        some (attributes, (sepByFrom keyValue blanks1 [] start).2) ∧
      attributes.getD [] = (sepByFrom keyValue blanks1 [] start).1 := by
  cases separated : blanks1.run start with
  | none =>
      refine ⟨none, ?_, ?_⟩
      · rw [run_optional, skipThen, run_andThen_of_none _ separated,
          sepByFrom_of_no_separator [] separated]
      · rw [sepByFrom_of_no_separator [] separated]
        rfl
  | some result =>
      rcases result with ⟨gap, middle⟩
      cases matched : keyValue.run middle with
      | none =>
          have loop : sepByFrom keyValue blanks1 [] start = ([], start) := by
            rw [sepByFrom_of_separator [] separated, matched]
            rfl
          refine ⟨none, ?_, ?_⟩
          · simp [run_optional, skipThen, run_andThen, separated, attributeList,
              sepBy1, matched, loop]
          · rw [loop]
            rfl
      | some item =>
          rcases item with ⟨entry, next⟩
          rcases run_blanks1_eq_some_iff.mp separated with ⟨gapReads, ⟨nonempty, _⟩, _⟩
          rcases run_keyValue_eq_some_iff.mp matched with ⟨entryReads, _⟩
          have progress : start.offset < next.offset :=
            (gapReads.trans entryReads).offset_lt (by simp)
          have loop :
              sepByFrom keyValue blanks1 [] start =
                sepByFrom keyValue blanks1 [entry] next := by
            rw [sepByFrom_of_separator [] separated]
            simp only [matched, if_pos progress]
          refine ⟨some (sepByFrom keyValue blanks1 [entry] next).1, ?_, ?_⟩
          · simp [run_optional, skipThen, run_andThen, separated, attributeList,
              sepBy1, matched, loop]
          · rw [loop]
            rfl

/-! ## Tags -/

theorem exists_written_of_run_tagBody
    {name : String} {attributes : Option (List Attribute)}
    (matched : tagBody.run start = some ((name, attributes), stop)) :
    ∃ tag : WrittenTag,
      tag.name = name ∧
      tag.entries = attributes.getD [] ∧
      Reads start tag.body stop := by
  rcases run_thenSkip_eq_some_iff.mp matched with
    ⟨afterAttributes, ending, pairMatched, endingMatched⟩
  rcases run_pair_eq_some_iff.mp pairMatched with ⟨afterName, nameMatched, optionalMatched⟩
  rcases run_runOf_eq_some_iff.mp nameMatched with ⟨nameReads, nameRun, _⟩
  rcases run_blanks_eq_some_iff.mp endingMatched with ⟨endingReads, endingBlank, _⟩
  rcases run_optional_attributes afterName with ⟨otherAttributes, loopMatched, entries⟩
  rw [optionalMatched] at loopMatched
  cases loopMatched
  rcases exists_written_sepByFrom [] afterName with
    ⟨writtenAttributes, writtenEntries, attributesRead⟩
  refine
    ⟨{ name := name
       attributes := writtenAttributes
       ending := ending.toList
       isName := isName_iff.mpr nameRun
       ending_blank := blankText_iff.mpr endingBlank },
      rfl, ?_, ?_⟩
  · rw [entries, writtenEntries]
    rfl
  · exact nameReads.trans (attributesRead.trans endingReads)

theorem run_tagBody_written
    (tag : WrittenTag)
    {others : List Char}
    (reads : Reads start tag.body stop)
    (bracket : stop.rest = '>' :: others) :
    ∃ attributes : Option (List Attribute),
      tagBody.run start = some ((tag.name, attributes), stop) ∧
      attributes.getD [] = tag.entries := by
  rcases reads.split with ⟨afterName, nameReads, behindName⟩
  rcases behindName.split with ⟨afterAttributes, attributesRead, endingReads⟩
  have ends : EndsTag afterAttributes.rest :=
    ⟨tag.ending, others, tag.ending_blank, by rw [endingReads.rest_eq, bracket]⟩
  have nameStops := stopsAt_isNameChar_of_attributes attributesRead ends
  rcases run_optional_attributes afterName with ⟨attributes, optionalMatched, entries⟩
  rw [sepByFrom_written [] attributesRead ends] at optionalMatched entries
  refine ⟨attributes, ?_, entries⟩
  apply run_thenSkip_eq_some_iff.mpr
  refine ⟨afterAttributes, String.ofList tag.ending, ?_, ?_⟩
  · exact run_pair_eq_some_iff.mpr
      ⟨afterName,
        run_runOf_eq_some_iff.mpr ⟨nameReads, isName_iff.mp tag.isName, nameStops⟩,
        optionalMatched⟩
  · rw [run_blanks_eq_some_iff, String.toList_ofList]
    refine ⟨endingReads, blankText_iff.mp tag.ending_blank, ?_⟩
    rw [bracket, stopsAt_cons]
    decide

/--
The parser of tags matches exactly the written tags.  It stops behind the
blanks that follow the closing bracket.
-/
theorem run_tag_eq_some_iff {token : Token} :
    tag.run start = some (token, stop) ↔
      ∃ (written : WrittenTag) (gap : List Char),
        written.token = token ∧
        BlankText gap ∧
        Reads start ('<' :: (written.body ++ '>' :: gap)) stop ∧
        StopsAt isBlank stop.rest := by
  constructor
  · intro matched
    rw [tag, run_map_eq_some_iff] at matched
    rcases matched with ⟨⟨name, attributes⟩, matched, rfl⟩
    rcases run_between_eq_some_iff.mp matched with
      ⟨_, bodyStart, bodyStop, _, openingMatched, bodyMatched, closingMatched⟩
    rcases run_char_eq_some_iff.mp openingMatched with ⟨_, openingReads⟩
    rcases exists_written_of_run_tagBody bodyMatched with ⟨written, rfl, entries, bodyReads⟩
    rcases run_thenSkip_eq_some_iff.mp closingMatched with
      ⟨afterBracket, gap, bracketMatched, gapMatched⟩
    rcases run_char_eq_some_iff.mp bracketMatched with ⟨_, bracketReads⟩
    rcases run_blanks_eq_some_iff.mp gapMatched with ⟨gapReads, gapBlank, gapStops⟩
    refine ⟨written, gap.toList, ?_, blankText_iff.mpr gapBlank, ?_, gapStops⟩
    · rw [← written.tagToken_eq_token, entries]
    · exact openingReads.trans (bodyReads.trans (bracketReads.trans gapReads))
  · rintro ⟨written, gap, rfl, gapBlank, reads, gapStops⟩
    rcases reads.uncons with ⟨bodyStart, openingReads, behindOpening⟩
    rcases behindOpening.split with ⟨bodyStop, bodyReads, behindBody⟩
    rcases behindBody.uncons with ⟨afterBracket, bracketReads, gapReads⟩
    rcases run_tagBody_written written bodyReads bracketReads.rest_eq with
      ⟨attributes, bodyMatched, entries⟩
    rw [tag, run_map_eq_some_iff]
    refine ⟨(written.name, attributes), ?_, ?_⟩
    · apply run_between_eq_some_iff.mpr
      refine
        ⟨'<', bodyStart, bodyStop, '>',
          run_char_eq_some_iff.mpr ⟨rfl, openingReads⟩, bodyMatched, ?_⟩
      apply run_thenSkip_eq_some_iff.mpr
      refine
        ⟨afterBracket, String.ofList gap,
          run_char_eq_some_iff.mpr ⟨rfl, bracketReads⟩, ?_⟩
      rw [run_blanks_eq_some_iff, String.toList_ofList]
      exact ⟨gapReads, blankText_iff.mp gapBlank, gapStops⟩
    · rw [← written.tagToken_eq_token, ← entries]

/-- A written tag is read wherever it stands. -/
theorem exists_run_tag_of_written
    (written : WrittenTag)
    {rest : List Char}
    (shape : start.rest = '<' :: (written.body ++ '>' :: rest)) :
    ∃ next : Cursor,
      tag.run start = some (written.token, next) ∧
      next.rest = rest.dropWhile isBlank := by
  have split :
      start.rest =
        '<' :: (written.body ++ '>' :: rest.takeWhile isBlank) ++ rest.dropWhile isBlank := by
    rw [shape, List.cons_append, List.append_assoc, List.cons_append,
      List.takeWhile_append_dropWhile]
  rcases exists_reads split with ⟨next, reads, nextRest⟩
  refine
    ⟨next,
      run_tag_eq_some_iff.mpr ⟨written, rest.takeWhile isBlank, rfl, ?_, reads, ?_⟩,
      nextRest⟩
  · exact blankText_iff.mpr (List.all_eq_true.mp List.all_takeWhile)
  · rw [nextRest]
    exact stopsAt_dropWhile isBlank rest

theorem run_plainText_eq_some_iff {token : Token} :
    plainText.run start = some (token, stop) ↔
      ∃ text : String,
        Token.plainText text = token ∧
        Reads start text.toList stop ∧
        IsRun isTextChar text.toList ∧
        StopsAt isTextChar stop.rest := by
  rw [plainText, run_map_eq_some_iff]
  constructor
  · rintro ⟨text, matched, rfl⟩
    exact ⟨text, rfl, run_runOf_eq_some_iff.mp matched⟩
  · rintro ⟨text, rfl, longest⟩
    exact ⟨text, run_runOf_eq_some_iff.mpr longest, rfl⟩

theorem run_plainText_eq_none_iff :
    plainText.run start = none ↔ StopsAt isTextChar start.rest := by
  rw [plainText, run_map_eq_none_iff, run_runOf_eq_none_iff]

end TagTree.Grammar
