import TagTree.Proofs.Token.Tag
import TagTree.Token.Scan

/-!
# Scans as chains of tokens

A chain reads one token after the other, each with some rule.  The passes of a
scan are a way to build a chain that cannot be continued, and there is only one
such chain from each place: every token makes progress, and the two rules never
match at the same place, since a text cannot begin with a bracket and a tag
must.  So whatever is known about chains is known about scans, and to find the
outcome of a scan it is enough to show a chain.
-/

namespace TagTree

open Cursor Grammar

namespace Rule

variable {start next : Cursor} {token : Token}

theorem reads_of_match
    {rule : Rule}
    (matched : rule.parser.run start = some (token, next)) :
    ∃ text : List Char, text ≠ [] ∧ Reads start text next := by
  cases rule with
  | plainText =>
      rcases run_plainText_eq_some_iff.mp matched with ⟨text, _, reads, run, _⟩
      exact ⟨text.toList, run.1, reads⟩
  | tag =>
      rcases run_tag_eq_some_iff.mp matched with ⟨written, gap, _, _, reads, _⟩
      exact ⟨_, by simp, reads⟩

/-- Every token makes progress. -/
theorem offset_lt_of_match
    {rule : Rule}
    (matched : rule.parser.run start = some (token, next)) :
    start.offset < next.offset := by
  rcases reads_of_match matched with ⟨text, nonempty, reads⟩
  exact reads.offset_lt nonempty

theorem run_parser_of_rest_nil
    (atEnd : start.rest = [])
    (rule : Rule) :
    rule.parser.run start = none := by
  cases matched : rule.parser.run start with
  | none => rfl
  | some result =>
      rcases result with ⟨token, next⟩
      rcases reads_of_match matched with ⟨text, nonempty, reads⟩
      have shape := reads.rest_eq
      rw [atEnd, List.nil_eq_append_iff] at shape
      exact absurd shape.1 nonempty

theorem run_tag_eq_none_of_run_plainText
    (matched : Grammar.plainText.run start = some (token, next)) :
    Grammar.tag.run start = none := by
  rcases run_plainText_eq_some_iff.mp matched with ⟨text, _, reads, run, _⟩
  cases tagMatched : Grammar.tag.run start with
  | none => rfl
  | some result =>
      rcases result with ⟨otherToken, otherNext⟩
      rcases run_tag_eq_some_iff.mp tagMatched with ⟨written, gap, _, _, tagReads, _⟩
      have notText : StopsAt isTextChar start.rest := by
        rw [tagReads.rest_eq, List.cons_append, stopsAt_cons]
        decide
      rw [reads.rest_eq] at notText
      exact absurd notText (not_stopsAt_append_of_isRun run next.rest)

/-- At most one rule matches at a place. -/
theorem eq_of_matches
    {left right : Rule} {otherToken : Token} {otherNext : Cursor}
    (leftMatched : left.parser.run start = some (token, next))
    (rightMatched : right.parser.run start = some (otherToken, otherNext)) :
    left = right := by
  cases left with
  | plainText =>
      cases right with
      | plainText => rfl
      | tag =>
          have unmatched := run_tag_eq_none_of_run_plainText leftMatched
          cases unmatched.symm.trans rightMatched
  | tag =>
      cases right with
      | plainText =>
          have unmatched := run_tag_eq_none_of_run_plainText rightMatched
          cases unmatched.symm.trans leftMatched
      | tag => rfl

theorem mem_all (rule : Rule) : rule ∈ all := by
  cases rule <;> decide

end Rule

namespace Scan

variable {start middle stop : Cursor}

/-- Tokens read one after the other, each with some rule. -/
inductive Chain : Cursor → List Lexeme → Cursor → Prop where
  | done (cursor : Cursor) : Chain cursor [] cursor
  | step
      {start next stop : Cursor} {rule : Rule} {token : Token}
      {lexemes : List Lexeme}
      (matched : rule.parser.run start = some (token, next))
      (others : Chain next lexemes stop) :
      Chain start ({ rule, offset := start.offset, token } :: lexemes) stop

/-- No rule reads anything at the place. -/
def Stuck (cursor : Cursor) : Prop :=
  ∀ rule : Rule, rule.parser.run cursor = none

theorem stuck_of_rest_nil (atEnd : start.rest = []) : Stuck start :=
  Rule.run_parser_of_rest_nil atEnd

theorem Chain.append
    {left right : List Lexeme}
    (first : Chain start left middle)
    (second : Chain middle right stop) :
    Chain start (left ++ right) stop := by
  induction first with
  | done _ => exact second
  | step matched _ inductionHypothesis =>
      exact .step matched (inductionHypothesis second)

/-- From each place there is only one chain that cannot be continued. -/
theorem Chain.unique
    {left right : List Lexeme} {other : Cursor}
    (first : Chain start left stop)
    (firstStuck : Stuck stop)
    (second : Chain start right other)
    (secondStuck : Stuck other) :
    left = right ∧ stop = other := by
  induction first generalizing right with
  | done cursor =>
      cases second with
      | done _ => exact ⟨rfl, rfl⟩
      | step matched _ =>
          cases (firstStuck _).symm.trans matched
  | step matched _ inductionHypothesis =>
      cases second with
      | done _ =>
          cases (secondStuck _).symm.trans matched
      | step otherMatched others =>
          have sameRule := Rule.eq_of_matches matched otherMatched
          subst sameRule
          cases matched.symm.trans otherMatched
          rcases inductionHypothesis firstStuck others with ⟨rfl, rfl⟩
          exact ⟨rfl, rfl⟩

/-! ## Passes build chains -/

theorem chain_pass (rules : List Rule) (start : Cursor) :
    Chain start (pass rules start).1 (pass rules start).2 := by
  induction rules generalizing start with
  | nil => exact .done start
  | cons rule others inductionHypothesis =>
      unfold pass
      split
      · exact inductionHypothesis start
      · next token next matched =>
        exact .step matched (inductionHypothesis next)

/-- In a pass without progress every rule was tried at the same place and none matched. -/
theorem pass_of_not_lt
    {rules : List Rule} {lexemes : List Lexeme}
    (passed : pass rules start = (lexemes, stop))
    (stuck : ¬ start.offset < stop.offset) :
    lexemes = [] ∧ stop = start ∧ ∀ rule ∈ rules, rule.parser.run start = none := by
  induction rules with
  | nil =>
      cases passed
      exact ⟨rfl, rfl, by simp⟩
  | cons rule others inductionHypothesis =>
      cases matched : rule.parser.run start with
      | none =>
          rw [pass, matched] at passed
          rcases inductionHypothesis passed with ⟨empty, sameStop, unmatched⟩
          exact ⟨empty, sameStop, List.forall_mem_cons.mpr ⟨matched, unmatched⟩⟩
      | some result =>
          rcases result with ⟨token, next⟩
          -- A match makes progress, and the rest of the pass never goes back.
          have progress : start.offset < next.offset :=
            Rule.offset_lt_of_match matched
          have notLower : next.offset ≤ (pass others next).2.offset :=
            offset_le_of_le (le_pass others next)
          have sameStop : (pass others next).2 = stop := by
            rw [pass, matched] at passed
            exact (Prod.mk.inj passed).2
          rw [sameStop] at notLower
          exact absurd (Nat.lt_of_lt_of_le progress notLower) stuck

/--
Passes build a chain.  It ends at the end of the text or where none of the
rules matches.
-/
theorem exists_chain_passesFrom
    (rules : List Rule) (found : List Lexeme) (start : Cursor) :
    ∃ lexemes : List Lexeme,
      (passesFrom rules found start).1 = found.reverse ++ lexemes ∧
      Chain start lexemes (passesFrom rules found start).2 ∧
      ((passesFrom rules found start).2.rest = [] ∨
        ∀ rule ∈ rules, rule.parser.run (passesFrom rules found start).2 = none) := by
  fun_induction passesFrom rules found start with
  | case1 found start atEnd =>
      exact ⟨[], by simp, .done start, Or.inl (Cursor.isEmpty_iff.mp atEnd)⟩
  | case2 found start notAtEnd lexemes stop passed progress _ inductionHypothesis =>
      have firstChain := chain_pass rules start
      rw [passed] at firstChain
      rcases inductionHypothesis with ⟨others, collected, othersChain, ended⟩
      refine ⟨lexemes ++ others, ?_, firstChain.append othersChain, ended⟩
      rw [collected]
      simp
  | case3 found start notAtEnd lexemes stop passed stuck =>
      rcases pass_of_not_lt passed stuck with ⟨rfl, rfl, unmatched⟩
      exact ⟨[], by simp, .done _, Or.inr unmatched⟩

/-! ## Scans are chains -/

/-- In front of the first token a scan moves over the longest run of blanks. -/
theorem exists_reads_skipBlanks (cursor : Cursor) :
    ∃ gap : List Char,
      BlankText gap ∧
      Reads cursor gap (skipBlanks cursor) ∧
      StopsAt isBlank (skipBlanks cursor).rest := by
  rcases exists_run_blanks cursor with ⟨gap, next, matched⟩
  rcases run_blanks_eq_some_iff.mp matched with ⟨reads, blank, stops⟩
  rw [skipBlanks, matched]
  exact ⟨gap.toList, blankText_iff.mpr blank, reads, stops⟩

/-- With all rules, in whatever order, passes build a chain that cannot be continued. -/
theorem chain_withRules
    {rules : List Rule}
    (complete : ∀ rule : Rule, rule ∈ rules)
    (text : String) :
    Chain (skipBlanks (Cursor.start text)) (withRules rules text).lexemes
        (withRules rules text).stop ∧
      Stuck (withRules rules text).stop := by
  rcases exists_chain_passesFrom rules [] (skipBlanks (Cursor.start text)) with
    ⟨lexemes, collected, chain, ended⟩
  have sameLexemes : (withRules rules text).lexemes = lexemes := collected
  rw [sameLexemes]
  refine ⟨chain, ?_⟩
  rcases ended with atEnd | unmatched
  · exact stuck_of_rest_nil atEnd
  · intro rule
    exact unmatched rule (complete rule)

theorem chain_ofText (text : String) :
    Chain (ofText text).start (ofText text).lexemes (ofText text).stop ∧
      Stuck (ofText text).stop :=
  chain_withRules Rule.mem_all text

/-- A chain from the start of a scan that cannot be continued is the outcome of the scan. -/
theorem ofText_eq_of_chain
    {text : String} {lexemes : List Lexeme}
    (chain : Chain (skipBlanks (Cursor.start text)) lexemes stop)
    (stuck : Stuck stop) :
    (ofText text).lexemes = lexemes ∧ (ofText text).stop = stop := by
  rcases chain_ofText text with ⟨scanChain, scanStuck⟩
  exact scanChain.unique scanStuck chain stuck

end Scan

end TagTree
