import TagTree.Proofs.Token.Chain

/-!
# The language of markup

A text can be read into tokens exactly if it is written markup, and its tokens
are then those of the markup.  From a chain of tokens the written form is put
together from the end: a tag hands the blanks behind it to the text that
follows.  From written markup a chain is built section by section: the text in
front of a tag is one token or none, and behind the tag the blanks of the next
text have been read already.
-/

namespace TagTree

open Cursor Grammar

namespace WrittenMarkup

theorem stopsAt_sectionCharacters
    (sections : List (WrittenTag × WrittenText)) :
    StopsAt isTextChar (sectionCharacters sections) := by
  cases sections with
  | nil => exact stopsAt_nil isTextChar
  | cons first others =>
      rcases first with ⟨tag, text⟩
      rw [sectionCharacters_cons, stopsAt_cons]
      decide

end WrittenMarkup

namespace Scan

variable {start stop : Cursor}

/-! ## Chains are written markup -/

theorem exists_written_of_chain
    {lexemes : List Lexeme}
    (chain : Chain start lexemes stop)
    (atEnd : stop.rest = [])
    (unblank : StopsAt isBlank start.rest) :
    ∃ markup : WrittenMarkup,
      start.rest = markup.characters ∧
      lexemes.map Lexeme.token = markup.tokens := by
  induction chain with
  | done cursor => exact ⟨.empty, atEnd, rfl⟩
  | @step start next stop rule token lexemes matched _ inductionHypothesis =>
      cases rule with
      | plainText =>
          rcases run_plainText_eq_some_iff.mp matched with ⟨text, rfl, reads, run, stops⟩
          rcases inductionHypothesis atEnd (stopsAt_isBlank_of_isTextChar stops) with
            ⟨markup, restShape, tokens⟩
          rw [restShape] at stops
          rw [reads.rest_eq, stopsAt_append_iff run.1] at unblank
          have isText := isText_iff.mpr ⟨run, unblank⟩
          refine ⟨markup.withText text isText, ?_, ?_⟩
          · rw [reads.rest_eq, restShape, WrittenMarkup.characters_withText]
          · rw [List.map_cons, tokens, WrittenMarkup.tokens_withText isText stops]
      | tag =>
          rcases run_tag_eq_some_iff.mp matched with
            ⟨written, gap, rfl, gapBlank, reads, stops⟩
          rcases inductionHypothesis atEnd stops with ⟨markup, restShape, tokens⟩
          -- The blanks were read with the tag but are written in the text behind it.
          refine ⟨(markup.withGap gap gapBlank).withTag written, ?_, ?_⟩
          · rw [reads.rest_eq, restShape]
            simp
          · rw [List.map_cons, tokens]
            simp

/-! ## Written markup is a chain -/

/-- A text without its leading blanks is one token, or none if nothing is left. -/
theorem exists_chain_of_writtenText
    (text : WrittenText)
    {rest : List Char}
    (stops : StopsAt isTextChar rest)
    (shape : start.rest = (text.characters ++ rest).dropWhile isBlank) :
    ∃ (lexemes : List Lexeme) (middle : Cursor),
      Chain start lexemes middle ∧
      middle.rest = rest ∧
      lexemes.map Lexeme.token = text.tokens := by
  rw [List.dropWhile_append] at shape
  rw [WrittenText.tokens_eq]
  cases shown : text.characters.dropWhile isBlank with
  | nil =>
      have atRest : start.rest = rest := by
        simpa [shown, dropWhile_of_stopsAt (stopsAt_isBlank_of_isTextChar stops)]
          using shape
      exact ⟨[], start, .done start, atRest, rfl⟩
  | cons first others =>
      have inTwo : start.rest = (first :: others) ++ rest := by
        simpa [shown] using shape
      rcases exists_reads inTwo with ⟨middle, reads, middleRest⟩
      have accepted :
          ∀ character ∈ first :: others, isTextChar character = true := by
        intro character member
        rw [← shown] at member
        exact freeOf_brackets_iff.mp text.freeOfBrackets character
          ((List.dropWhile_sublist isBlank).subset member)
      have matched :
          Rule.plainText.parser.run start =
            some (.plainText (String.ofList (first :: others)), middle) := by
        apply run_plainText_eq_some_iff.mpr
        refine ⟨String.ofList (first :: others), rfl, ?_, ?_, ?_⟩
        · rw [String.toList_ofList]
          exact reads
        · rw [String.toList_ofList]
          exact ⟨by simp, accepted⟩
        · rw [middleRest]
          exact stops
      exact ⟨_, middle, .step matched (.done middle), middleRest, rfl⟩

theorem exists_chain_of_written
    (sections : List (WrittenTag × WrittenText))
    (leading : WrittenText)
    (shape :
      start.rest =
        (leading.characters ++ WrittenMarkup.sectionCharacters sections).dropWhile
          isBlank) :
    ∃ (lexemes : List Lexeme) (stop : Cursor),
      Chain start lexemes stop ∧
      stop.rest = [] ∧
      lexemes.map Lexeme.token =
        leading.tokens ++ WrittenMarkup.sectionTokens sections := by
  induction sections generalizing start leading with
  | nil =>
      rcases exists_chain_of_writtenText leading (stopsAt_nil isTextChar) shape with
        ⟨lexemes, stop, chain, atEnd, tokens⟩
      refine ⟨lexemes, stop, chain, atEnd, ?_⟩
      rw [tokens]
      simp [WrittenMarkup.sectionTokens]
  | cons first others inductionHypothesis =>
      rcases first with ⟨tag, text⟩
      rcases exists_chain_of_writtenText leading
          (WrittenMarkup.stopsAt_sectionCharacters ((tag, text) :: others)) shape with
        ⟨textLexemes, middle, textChain, middleRest, textTokens⟩
      rw [WrittenMarkup.sectionCharacters_cons] at middleRest
      rcases exists_run_tag_of_written tag middleRest with ⟨next, matched, nextRest⟩
      rcases inductionHypothesis text nextRest with
        ⟨otherLexemes, stop, othersChain, atEnd, otherTokens⟩
      have tagMatched : Rule.tag.parser.run middle = some (tag.token, next) := matched
      refine ⟨_, stop, textChain.append (.step tagMatched othersChain), atEnd, ?_⟩
      rw [List.map_append, List.map_cons, textTokens, otherTokens,
        WrittenMarkup.sectionTokens_cons]

/-! ## The scan of a whole text -/

theorem result_of_rest_nil
    {scan : Scan}
    (atEnd : scan.stop.rest = []) :
    scan.result = .ok scan.tokens := by
  simp [result, stall?, Cursor.isEmpty, atEnd]

theorem result_of_rest_ne_nil
    {scan : Scan}
    (notAtEnd : scan.stop.rest ≠ []) :
    scan.result = .error (Stall.ofCursor scan.stop) := by
  simp [result, stall?, Cursor.isEmpty, notAtEnd]

end Scan

theorem tokenize_eq_ok_iff {text : String} {tokens : List Token} :
    tokenize text = .ok tokens ↔
      (Scan.ofText text).stop.rest = [] ∧
      (Scan.ofText text).tokens = tokens := by
  by_cases atEnd : (Scan.ofText text).stop.rest = []
  · rw [tokenize, Scan.result_of_rest_nil atEnd]
    simp [atEnd]
  · rw [tokenize, Scan.result_of_rest_ne_nil atEnd]
    simp [atEnd]

/-- The blanks in front of a text are no part of what a scan reads. -/
theorem rest_skipBlanks_start (text : String) :
    (Scan.skipBlanks (Cursor.start text)).rest = text.toList.dropWhile isBlank := by
  rcases Scan.exists_reads_skipBlanks (Cursor.start text) with ⟨gap, blank, reads, stops⟩
  have split : text.toList = gap ++ (Scan.skipBlanks (Cursor.start text)).rest :=
    reads.rest_eq
  rw [split, dropWhile_append_of_stopsAt (blankText_iff.mp blank) stops]

/-- The tokens of written markup are read from its characters. -/
theorem tokenize_of_written
    {text : String} {markup : WrittenMarkup}
    (shape : text.toList = markup.characters) :
    tokenize text = .ok markup.tokens := by
  have start := rest_skipBlanks_start text
  rw [shape] at start
  rcases Scan.exists_chain_of_written markup.sections markup.leading start with
    ⟨lexemes, stop, chain, atEnd, tokens⟩
  rcases Scan.ofText_eq_of_chain chain (Scan.stuck_of_rest_nil atEnd) with
    ⟨sameLexemes, sameStop⟩
  rw [tokenize_eq_ok_iff, sameStop, Scan.tokens, sameLexemes]
  exact ⟨atEnd, tokens⟩

theorem exists_written_of_tokenize
    {text : String} {tokens : List Token}
    (read : tokenize text = .ok tokens) :
    ∃ markup : WrittenMarkup,
      text.toList = markup.characters ∧ tokens = markup.tokens := by
  rcases tokenize_eq_ok_iff.mp read with ⟨atEnd, rfl⟩
  rcases Scan.chain_ofText text with ⟨chain, _⟩
  rcases Scan.exists_reads_skipBlanks (Cursor.start text) with ⟨gap, blank, reads, stops⟩
  rcases Scan.exists_written_of_chain chain atEnd stops with ⟨markup, restShape, tokens⟩
  refine ⟨markup.withGap gap blank, ?_, ?_⟩
  · have split : text.toList = gap ++ (Scan.ofText text).start.rest := reads.rest_eq
    rw [split, restShape, WrittenMarkup.characters_withGap]
  · rw [Scan.tokens, tokens, WrittenMarkup.tokens_withGap]

/--
A text can be read exactly if it is written markup: texts free of brackets
with tags between them.  Its tokens are then the tokens of the markup, each
text without its leading blanks and left out if nothing else is in it.
-/
theorem tokenize_eq_ok_iff_written (text : String) (tokens : List Token) :
    tokenize text = .ok tokens ↔
      ∃ markup : WrittenMarkup,
        text.toList = markup.characters ∧ tokens = markup.tokens := by
  constructor
  · exact exists_written_of_tokenize
  · rintro ⟨markup, shape, rfl⟩
    exact tokenize_of_written shape

end TagTree
