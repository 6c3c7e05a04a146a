import TagTree.Proofs.Parser.Locality
import TagTree.Proofs.Token.Segments

/-!
# Scanning a text in two parts

If the first part of a text is read to its end and its last token is not cut
off by the place of the division, a scan of the whole text reads the tokens of
the first part and then those of the second.  A tag is never cut off: it has
ended, and only the blanks behind it may go on in the second part.  A text is
not cut off if the second part begins with a bracket.

The two chains are carried over into the whole text, one with more text behind
and one with more text in front, and meet behind the blanks at the division.
Parsers look only ahead, so text in front changes nothing but offsets.  Text
behind matters only to a token that stands at the end.

Blanks are a part with no tokens, so they may be put in front of a text or
behind a closing bracket.  If the scan does not get past the bracket, nothing
behind the bracket helps it.
-/

namespace TagTree

open Cursor Grammar

/-- The token as it stands in a text with more in front. -/
def Lexeme.shift (width : Nat) (lexeme : Lexeme) : Lexeme :=
  { lexeme with offset := lexeme.offset + width }

namespace Rule

theorem isLocal (rule : Rule) : rule.parser.IsLocal := by
  cases rule with
  | plainText => exact isLocal_plainText
  | tag => exact isLocal_tag

theorem rest_ne_nil_of_match
    {rule : Rule} {token : Token} {start next : Cursor}
    (matched : rule.parser.run start = some (token, next)) :
    start.rest ≠ [] := by
  intro atEnd
  cases (run_parser_of_rest_nil atEnd rule).symm.trans matched

end Rule

namespace Scan

variable {start next stop cursor : Cursor} {lexemes : List Lexeme}

/-! ## Blanks at the division -/

theorem skipBlanks_of_reads
    {gap : List Char}
    (blank : BlankText gap)
    (reads : Reads cursor gap next) :
    skipBlanks cursor = skipBlanks next := by
  rcases exists_reads_skipBlanks cursor with ⟨whole, wholeBlank, wholeReads, wholeStops⟩
  rcases exists_reads_skipBlanks next with ⟨others, othersBlank, othersRead, othersStop⟩
  have together : ∀ character ∈ gap ++ others, isBlank character = true :=
    List.forall_mem_append.mpr ⟨blankText_iff.mp blank, blankText_iff.mp othersBlank⟩
  exact
    (wholeReads.longest_unique (blankText_iff.mp wholeBlank) wholeStops
      (reads.trans othersRead) together othersStop).2

theorem skipBlanks_of_stopsAt
    (stops : StopsAt isBlank cursor.rest) :
    skipBlanks cursor = cursor := by
  rcases exists_reads_skipBlanks cursor with ⟨gap, blank, reads, skippedStops⟩
  exact
    (reads.longest_unique (blankText_iff.mp blank) skippedStops
      (Reads.refl cursor) (by simp) stops).2

theorem skipBlanks_shift (front : List Char) (cursor : Cursor) :
    skipBlanks (cursor.shift front) = (skipBlanks cursor).shift front := by
  rcases exists_run_blanks cursor with ⟨gap, next, matched⟩
  have shifted := isLocal_blanks.run_of_some matched front
  simp only [skipBlanks, matched, shifted]

/-- Where a scan goes on if the given characters are put behind the text. -/
def resume (back : List Char) (cursor : Cursor) : Cursor :=
  skipBlanks (cursor.extend back)

theorem resume_of_rest_ne_nil
    (notAtEnd : cursor.rest ≠ [])
    (unblank : StopsAt isBlank cursor.rest)
    (back : List Char) :
    resume back cursor = cursor.extend back := by
  apply skipBlanks_of_stopsAt
  exact (stopsAt_append_iff notAtEnd back).mpr unblank

theorem skipBlanks_start_append (first second : String) :
    skipBlanks (Cursor.start (first ++ second)) =
      resume second.toList (skipBlanks (Cursor.start first)) := by
  rcases exists_reads_skipBlanks (Cursor.start first) with ⟨gap, blank, reads, _⟩
  rw [← extend_start]
  exact skipBlanks_of_reads blank (reads.extend second.toList)

/-! ## More text behind -/

/--
A token is read in the longer text as well.  Only a text at the end could go
on there; a tag at the end reads the blanks that follow.
-/
theorem run_extend
    {rule : Rule} {token : Token} {back : List Char}
    (matched : rule.parser.run start = some (token, next))
    (apart : next.rest = [] → token.isText = true → StopsAt isTextChar back) :
    rule.parser.run (start.extend back) = some (token, resume back next) := by
  cases rule with
  | plainText =>
      rcases run_plainText_eq_some_iff.mp matched with ⟨text, rfl, reads, run, stops⟩
      have stopsBehind : StopsAt isTextChar (next.rest ++ back) := by
        by_cases atEnd : next.rest = []
        · simpa [atEnd] using apart atEnd rfl
        · exact (stopsAt_append_iff atEnd back).mpr stops
      have resumed : resume back next = next.extend back :=
        skipBlanks_of_stopsAt (stopsAt_isBlank_of_isTextChar stopsBehind)
      rw [resumed]
      exact run_plainText_eq_some_iff.mpr ⟨text, rfl, reads.extend back, run, stopsBehind⟩
  | tag =>
      rcases run_tag_eq_some_iff.mp matched with ⟨written, gap, rfl, gapBlank, reads, _⟩
      rcases exists_reads_skipBlanks (next.extend back) with
        ⟨moreGap, moreBlank, moreReads, moreStops⟩
      apply run_tag_eq_some_iff.mpr
      refine ⟨written, gap ++ moreGap, rfl, ?_, ?_, moreStops⟩
      · exact List.forall_mem_append.mpr ⟨gapBlank, moreBlank⟩
      · simpa [resume] using (reads.extend back).trans moreReads

/-- The last token of the chain is a text. -/
def EndsInText (lexemes : List Lexeme) : Prop :=
  ∃ last ∈ (lexemes.map Lexeme.token).getLast?, last.isText = true

theorem Chain.extend
    {back : List Char}
    (chain : Chain start lexemes stop)
    (unblank : StopsAt isBlank start.rest)
    (apart : stop.rest = [] → EndsInText lexemes → StopsAt isTextChar back) :
    Chain (resume back start) lexemes (resume back stop) := by
  induction chain with
  | done cursor => exact .done _
  | @step start next stop rule token lexemes matched others inductionHypothesis =>
      rcases Rule.exists_segment_of_match matched unblank with ⟨_, _, _, nextUnblank⟩
      have notAtEnd : start.rest ≠ [] := Rule.rest_ne_nil_of_match matched
      have tokenApart :
          next.rest = [] → token.isText = true → StopsAt isTextChar back := by
        intro atEnd isText
        cases others with
        | done => exact apart atEnd ⟨token, rfl, isText⟩
        | step otherMatched _ => exact absurd atEnd (Rule.rest_ne_nil_of_match otherMatched)
      have othersApart :
          stop.rest = [] → EndsInText lexemes → StopsAt isTextChar back := by
        rintro atEnd ⟨last, isLast, isText⟩
        refine apart atEnd ⟨last, ?_, isText⟩
        simp [List.getLast?_cons, Option.mem_def.mp isLast]
      have extended :=
        Chain.step (run_extend matched tokenApart)
          (inductionHypothesis nextUnblank othersApart)
      rw [offset_extend] at extended
      -- More blanks are read only at the end, and a token is read from here on.
      rw [resume_of_rest_ne_nil notAtEnd unblank]
      exact extended

/-! ## More text in front -/

theorem Chain.shift
    (chain : Chain start lexemes stop)
    (front : List Char) :
    Chain (start.shift front) (lexemes.map (Lexeme.shift (utf8Width front)))
      (stop.shift front) := by
  induction chain with
  | done cursor => exact .done _
  | @step start next stop rule token lexemes matched _ inductionHypothesis =>
      have shifted :=
        Chain.step (rule.isLocal.run_of_some matched front) inductionHypothesis
      rw [offset_shift] at shifted
      exact shifted

theorem Stuck.shift
    (stuck : Stuck cursor)
    (front : List Char) :
    Stuck (cursor.shift front) := by
  intro rule
  exact rule.isLocal.run_of_none (stuck rule) front

/-! ## The two parts together -/

theorem toList_eq_stop_ofText (text : String) :
    text.toList = (ofText text).stop.passed.reverse ++ (ofText text).stop.rest := by
  rcases exists_division text with ⟨division, sameStop⟩
  have whole := division.source_stop
  rw [sameStop, Cursor.source] at whole
  simpa using (congrArg String.toList whole).symm

theorem stopsAt_start_ofText (text : String) :
    StopsAt isBlank (ofText text).start.rest := by
  rcases exists_reads_skipBlanks (Cursor.start text) with ⟨_, _, _, stops⟩
  exact stops

/-- Behind the first part the scan goes on as it begins in the second part. -/
theorem resume_stop_ofText
    {first : String}
    (atEnd : (ofText first).stop.rest = [])
    (second : String) :
    resume second.toList (ofText first).stop =
      (ofText second).start.shift first.toList := by
  have passed : (ofText first).stop.passed.reverse = first.toList := by
    simpa [atEnd] using (toList_eq_stop_ofText first).symm
  have atDivision :
      (ofText first).stop.extend second.toList =
        (Cursor.start second).shift first.toList := by
    rw [shift_start, Cursor.extend, passed, atEnd]
    rfl
  rw [resume, atDivision, skipBlanks_shift]
  rfl

theorem lexemes_ofText_append
    {first second : String}
    (atEnd : (ofText first).stop.rest = [])
    (apart : EndsInText (ofText first).lexemes → StopsAt isTextChar second.toList) :
    (ofText (first ++ second)).lexemes =
        (ofText first).lexemes ++
          (ofText second).lexemes.map (Lexeme.shift (utf8Width first.toList)) ∧
      (ofText (first ++ second)).stop = (ofText second).stop.shift first.toList := by
  rcases chain_ofText first with ⟨firstChain, _⟩
  rcases chain_ofText second with ⟨secondChain, secondStuck⟩
  have front := firstChain.extend (stopsAt_start_ofText first) fun _ => apart
  have back := secondChain.shift first.toList
  rw [resume_stop_ofText atEnd] at front
  apply ofText_eq_of_chain
  · rw [skipBlanks_start_append]
    exact front.append back
  · exact secondStuck.shift first.toList

theorem tokens_of_lexemes_append
    {whole first second : Scan} {width : Nat}
    (composed : whole.lexemes = first.lexemes ++ second.lexemes.map (Lexeme.shift width)) :
    whole.tokens = first.tokens ++ second.tokens := by
  simp [tokens, composed, Lexeme.shift, Function.comp_def]

theorem stall?_eq_none_iff {scan : Scan} :
    scan.stall? = none ↔ scan.stop.rest = [] := by
  simp [stall?, Cursor.isEmpty]

theorem map_stall?_of_shift
    {whole part : Scan} {front : List Char}
    (sameStop : whole.stop = part.stop.shift front) :
    whole.stall?.map (fun stall => (stall.offset, stall.preview)) =
      part.stall?.map fun stall => (stall.offset + utf8Width front, stall.preview) := by
  by_cases atEnd : part.stop.rest = []
  · simp [stall?, sameStop, Cursor.isEmpty, atEnd]
  · simp [stall?, sameStop, Cursor.isEmpty, atEnd, Stall.ofCursor]

/-! ## Blanks behind a bracket -/

/-- A closing bracket ahead settles whether a tag is read. -/
theorem exists_run_tag_of_extend
    {token : Token} {back : List Char}
    (bracket : '>' ∈ start.rest)
    (matched : Grammar.tag.run (start.extend back) = some (token, next)) :
    ∃ otherNext : Cursor, Grammar.tag.run start = some (token, otherNext) := by
  rcases run_tag_eq_some_iff.mp matched with ⟨written, gap, rfl, _, reads, _⟩
  have shape :
      start.rest ++ back = '<' :: written.body ++ '>' :: (gap ++ next.rest) := by
    simpa using reads.rest_eq
  have notInTag : '>' ∉ '<' :: written.body := by
    intro member
    rcases List.mem_cons.mp member with opening | inBody
    · cases opening
    · exact written.freeOf_body '>' inBody (by simp)
  rcases List.append_eq_append_iff.mp shape with
    ⟨middle, tagShape, _⟩ | ⟨middle, restShape, bracketShape⟩
  · rw [tagShape] at notInTag
    exact absurd (List.mem_append_left middle bracket) notInTag
  · cases middle with
    | nil =>
        rw [restShape, List.append_nil] at bracket
        exact absurd bracket notInTag
    | cons first others =>
        have sameBracket : '>' = first := (List.cons.inj bracketShape).1
        subst sameBracket
        rcases exists_run_tag_of_written written restShape with ⟨otherNext, found, _⟩
        exact ⟨otherNext, found⟩

theorem Stuck.extend
    (stuck : Stuck cursor)
    (bracket : '>' ∈ cursor.rest)
    (back : List Char) :
    Stuck (cursor.extend back) := by
  intro rule
  cases rule with
  | plainText =>
      apply run_plainText_eq_none_iff.mpr
      apply (stopsAt_append_iff (List.ne_nil_of_mem bracket) back).mpr
      exact run_plainText_eq_none_iff.mp (stuck .plainText)
  | tag =>
      cases matched : Rule.tag.parser.run (cursor.extend back) with
      | none => rfl
      | some result =>
          rcases exists_run_tag_of_extend bracket matched with ⟨otherNext, found⟩
          cases (stuck .tag).symm.trans found

/-- What is put behind a closing bracket at which a scan stalls, or behind that, is not read. -/
theorem lexemes_ofText_append_of_stall
    {first : String}
    (bracket : '>' ∈ (ofText first).stop.rest)
    (second : String) :
    (ofText (first ++ second)).lexemes = (ofText first).lexemes ∧
      (ofText (first ++ second)).stop = (ofText first).stop.extend second.toList := by
  rcases chain_ofText first with ⟨chain, stuck⟩
  have notAtEnd : (ofText first).stop.rest ≠ [] := List.ne_nil_of_mem bracket
  have unblank : StopsAt isBlank (ofText first).stop.rest :=
    stopsAt_isBlank_of_isTextChar (run_plainText_eq_none_iff.mp (stuck .plainText))
  have extended :
      Chain (resume second.toList (ofText first).start) (ofText first).lexemes
        (resume second.toList (ofText first).stop) :=
    chain.extend (stopsAt_start_ofText first) fun atEnd _ =>
      absurd atEnd notAtEnd
  rw [resume_of_rest_ne_nil notAtEnd unblank] at extended
  refine ofText_eq_of_chain ?_ (stuck.extend bracket second.toList)
  rw [skipBlanks_start_append]
  exact extended

theorem Chain.exists_last_match
    (chain : Chain start lexemes stop)
    {last : Lexeme}
    (isLast : lexemes.getLast? = some last) :
    ∃ middle : Cursor, last.rule.parser.run middle = some (last.token, stop) := by
  induction chain with
  | done => cases isLast
  | step matched others inductionHypothesis =>
      cases others with
      | done =>
          cases isLast
          exact ⟨_, matched⟩
      | step =>
          rw [List.getLast?_cons_cons] at isLast
          exact inductionHypothesis isLast

theorem not_endsInText_of_bracket
    {before : String}
    (atEnd : (ofText (before ++ ">")).stop.rest = []) :
    ¬ EndsInText (ofText (before ++ ">")).lexemes := by
  rintro ⟨lastToken, isLast, isText⟩
  rw [List.getLast?_map, Option.mem_def, Option.map_eq_some_iff] at isLast
  rcases isLast with ⟨last, lastLexeme, rfl⟩
  rcases (chain_ofText (before ++ ">")).1.exists_last_match lastLexeme with
    ⟨middle, matched⟩
  rcases last with ⟨rule, offset, token⟩
  cases rule with
  | plainText =>
      rcases run_plainText_eq_some_iff.mp matched with ⟨text, _, reads, run, _⟩
      have shape : before.toList ++ ['>'] = middle.passed.reverse ++ text.toList := by
        have whole := toList_eq_stop_ofText (before ++ ">")
        rw [atEnd, List.append_nil, reads.passed_reverse] at whole
        simpa using whole
      have bracket : text.toList.getLast? = some '>' := by
        have last := congrArg List.getLast? shape
        rw [List.getLast?_append_of_ne_nil _ run.1] at last
        simpa using last.symm
      have accepted := run.2 '>' (List.mem_of_getLast? bracket)
      cases accepted
  | tag =>
      rcases run_tag_eq_some_iff.mp matched with ⟨written, _, rfl, _⟩
      cases written.isText_token.symm.trans isText

theorem bracket_mem_stop_ofText
    {before : String}
    (notAtEnd : (ofText (before ++ ">")).stop.rest ≠ []) :
    '>' ∈ (ofText (before ++ ">")).stop.rest := by
  have last := congrArg List.getLast? (toList_eq_stop_ofText (before ++ ">"))
  rw [List.getLast?_append_of_ne_nil _ notAtEnd] at last
  apply List.mem_of_getLast?
  simpa using last.symm

/-! ## Blanks that change no token -/

/-- The scans read the same tokens, and both or neither of them to the end of its text. -/
structure ReadsAlike (left right : Scan) : Prop where
  tokens_eq : left.tokens = right.tokens
  stall?_iff : left.stall? = none ↔ right.stall? = none

theorem ofText_of_blankText
    {gap : String}
    (blank : BlankText gap.toList) :
    (ofText gap).lexemes = [] ∧ (ofText gap).stop.rest = [] := by
  have atEnd : (skipBlanks (Cursor.start gap)).rest = [] := by
    rw [rest_skipBlanks_start]
    simpa using dropWhile_append_of_stopsAt (blankText_iff.mp blank) (stopsAt_nil isBlank)
  rcases ofText_eq_of_chain (.done _) (stuck_of_rest_nil atEnd) with ⟨noLexemes, sameStop⟩
  rw [sameStop]
  exact ⟨noLexemes, atEnd⟩

/-- Blanks in front of a text are not read. -/
theorem readsAlike_gap
    {gap : String}
    (blank : BlankText gap.toList)
    (text : String) :
    ReadsAlike (ofText (gap ++ text)) (ofText text) := by
  rcases ofText_of_blankText blank with ⟨noLexemes, atEnd⟩
  have closed : ¬ EndsInText (ofText gap).lexemes := by
    simp [EndsInText, noLexemes]
  rcases lexemes_ofText_append atEnd fun endsInText => absurd endsInText closed with
    ⟨sameLexemes, sameStop⟩
  constructor
  · rw [tokens_of_lexemes_append sameLexemes, tokens, noLexemes]
    rfl
  · rw [stall?_eq_none_iff, stall?_eq_none_iff, sameStop, rest_shift]

/-- Texts that read alike do so as well behind a text that has ended. -/
theorem ReadsAlike.append
    {first left right : String}
    (alike : ReadsAlike (ofText left) (ofText right))
    (atEnd : (ofText first).stop.rest = [])
    (closed : ¬ EndsInText (ofText first).lexemes) :
    ReadsAlike (ofText (first ++ left)) (ofText (first ++ right)) := by
  rcases lexemes_ofText_append atEnd fun endsInText => absurd endsInText closed with
    ⟨leftLexemes, leftStop⟩
  rcases lexemes_ofText_append atEnd fun endsInText => absurd endsInText closed with
    ⟨rightLexemes, rightStop⟩
  constructor
  · rw [tokens_of_lexemes_append leftLexemes, tokens_of_lexemes_append rightLexemes,
      alike.tokens_eq]
  · have sameEnd := alike.stall?_iff
    rw [stall?_eq_none_iff, stall?_eq_none_iff] at sameEnd ⊢
    rw [leftStop, rightStop, rest_shift, rest_shift]
    exact sameEnd

/-- Blanks right behind a closing bracket are not read. -/
theorem readsAlike_gap_behind_bracket
    {gap : String}
    (blank : BlankText gap.toList)
    (before behind : String) :
    ReadsAlike (ofText (before ++ ">" ++ gap ++ behind)) (ofText (before ++ ">" ++ behind)) := by
  rw [String.append_assoc]
  by_cases atEnd : (ofText (before ++ ">")).stop.rest = []
  · exact (readsAlike_gap blank behind).append atEnd (not_endsInText_of_bracket atEnd)
  · have bracket := bracket_mem_stop_ofText atEnd
    rcases lexemes_ofText_append_of_stall bracket (gap ++ behind) with
      ⟨leftLexemes, leftStop⟩
    rcases lexemes_ofText_append_of_stall bracket behind with ⟨rightLexemes, rightStop⟩
    constructor
    · rw [tokens, tokens, leftLexemes, rightLexemes]
    · simp [stall?_eq_none_iff, leftStop, rightStop, atEnd]

/--
A scan of two texts in a row reads the tokens of the first and then those of
the second, at their offsets behind the first, and stalls where a scan of the
second stalls.  It is enough that the first text is read to its end and that
its last token is not a text, or else that the second text is empty or begins
with a bracket.  So blanks in front of a text or right behind a tag do not
matter.
-/
theorem ofText_append :
    (∀ first second : String,
      (ofText first).stall? = none →
      ((∀ last ∈ (ofText first).tokens.getLast?, last.isText = false) ∨
        ∀ next ∈ second.toList.head?, next ∈ ['<', '>']) →
      (ofText (first ++ second)).tokens = (ofText first).tokens ++ (ofText second).tokens ∧
      (ofText (first ++ second)).offsets =
        (ofText first).offsets ++ (ofText second).offsets.map (· + first.utf8ByteSize) ∧
      (ofText (first ++ second)).stall?.map (fun stall => (stall.offset, stall.preview)) =
        (ofText second).stall?.map
          fun stall => (stall.offset + first.utf8ByteSize, stall.preview)) ∧
    (∀ gap text : String,
      BlankText gap.toList →
      ReadsAlike (ofText (gap ++ text)) (ofText text)) ∧
    (∀ before gap behind : String,
      BlankText gap.toList →
      ReadsAlike
        (ofText (before ++ ">" ++ gap ++ behind))
        (ofText (before ++ ">" ++ behind))) := by
  refine ⟨?_, fun gap text blank => readsAlike_gap blank text,
    fun before gap behind blank => readsAlike_gap_behind_bracket blank before behind⟩
  intro first second succeeds apart
  have stops : EndsInText (ofText first).lexemes → StopsAt isTextChar second.toList := by
    rintro ⟨last, isLast, isText⟩
    rcases apart with noText | bracket
    · cases (noText last isLast).symm.trans isText
    · exact stopsAt_isTextChar_iff.mpr bracket
  rcases lexemes_ofText_append (stall?_eq_none_iff.mp succeeds) stops with
    ⟨sameLexemes, sameStop⟩
  rw [← utf8Width_toList first]
  refine ⟨tokens_of_lexemes_append sameLexemes, ?_, map_stall?_of_shift sameStop⟩
  simp [offsets, sameLexemes, Lexeme.shift, Function.comp_def]

/-- The division parts a carriage return from its newline, and the second text stalls. -/
theorem ofText_append_within_line_end :
    (ofText "<a>\r").stall? = none ∧
    (∀ last ∈ (ofText "<a>\r").tokens.getLast?, last.isText = false) ∧
    (ofText ("<a>\r" ++ "\né<b")).tokens = [.beginTag "a" [], .plainText "é"] ∧
    (ofText ("<a>\r" ++ "\né<b")).offsets = [0, 5] ∧
    (ofText ("<a>\r" ++ "\né<b")).stall?.map (fun stall => (stall.offset, stall.preview)) =
      some (7, "<b") ∧
    BlankText "\r\n".toList ∧
    ReadsAlike (ofText ("\r\n" ++ "é<b")) (ofText "é<b") ∧
    ReadsAlike (ofText ("<a" ++ ">" ++ "\r\n" ++ "é<b")) (ofText ("<a" ++ ">" ++ "é<b")) := by
  have succeeds : (ofText "<a>\r").stall? = none := by
    decide +kernel
  have closed : ∀ last ∈ (ofText "<a>\r").tokens.getLast?, last.isText = false := by
    decide +kernel
  have blank : BlankText "\r\n".toList := by
    decide
  rcases ofText_append with ⟨composes, inFront, behindBracket⟩
  rcases composes "<a>\r" "\né<b" succeeds (Or.inl closed) with ⟨tokens, offsets, stall⟩
  refine
    ⟨succeeds, closed, tokens.trans ?_, offsets.trans ?_, stall.trans ?_, blank,
      inFront "\r\n" "é<b" blank, behindBracket "<a" "\r\n" "é<b" blank⟩
  · decide +kernel
  · decide +kernel
  · decide +kernel

end Scan

end TagTree
