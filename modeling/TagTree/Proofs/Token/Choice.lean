import TagTree.Proofs.Token.Chain

/-!
# One token at a time

A scan makes passes, and in one pass a text and the tag behind it can both be
read.  The same tokens are read without passes: a choice between the rules takes
a single token, again and again, until the text ends or no rule matches.

Both ways build a chain of tokens that cannot be continued, and from each place
there is only one.  For the same reason it does not matter in which order the
rules are tried, neither in the passes nor in the choice.
-/

namespace TagTree

attribute [ext] Scan

open Cursor

namespace Rule

variable {order : List Rule} {start next : Cursor} {token : Token}

/-- Reads a token with the first of the rules that matches. -/
def choice (order : List Rule) : Parser Token :=
  Parser.firstOf (order.map parser)

theorem exists_match_of_run_choice
    (chosen : (choice order).run start = some (token, next)) :
    ∃ rule ∈ order, rule.parser.run start = some (token, next) := by
  rw [choice, Parser.run_firstOf, List.findSome?_map] at chosen
  exact List.exists_of_findSome?_eq_some chosen

theorem run_choice_eq_none_iff :
    (choice order).run start = none ↔
      ∀ rule ∈ order, rule.parser.run start = none := by
  rw [choice, Parser.run_firstOf, List.findSome?_map]
  exact List.findSome?_eq_none_iff

theorem offset_lt_of_run_choice
    (chosen : (choice order).run start = some (token, next)) :
    start.offset < next.offset := by
  rcases exists_match_of_run_choice chosen with ⟨rule, _, matched⟩
  exact offset_lt_of_match matched

end Rule

/-- Tokens with the byte offsets at which they start, and the place behind them. -/
structure Reading where
  /-- The tokens read, in order. -/
  tokens : List Token
  /-- The byte offsets at which the tokens start. -/
  offsets : List Nat
  /-- The place where reading stopped. -/
  stop : Cursor

namespace Reading

/--
Reads one token after the other from `start` on, each with the first of the
rules that matches, until the text ends or none of them does.
-/
def readFrom (order : List Rule) (start : Cursor) : Reading :=
  if start.isEmpty then
    { tokens := [], offsets := [], stop := start }
  else
    match chosen : (Rule.choice order).run start with
    | none => { tokens := [], offsets := [], stop := start }
    | some (token, next) =>
      have : next.rest.length < start.rest.length :=
        rest_length_lt ((Rule.choice order).forward chosen)
          (Rule.offset_lt_of_run_choice chosen)
      let others := readFrom order next
      { tokens := token :: others.tokens
        offsets := start.offset :: others.offsets
        stop := others.stop }
termination_by start.rest.length

/-- Reads a text token by token, behind the blanks in front of it. -/
def ofText (order : List Rule) (text : String) : Reading :=
  readFrom order (Scan.skipBlanks (Cursor.start text))

/-- The tokens of the whole text, or the stall that kept it from being read. -/
def result (reading : Reading) : Except Stall (List Token) :=
  if reading.stop.isEmpty then .ok reading.tokens else .error (Stall.ofCursor reading.stop)

/-- Reading token by token builds a chain.  It ends where none of the rules matches. -/
theorem exists_chain_readFrom (order : List Rule) (start : Cursor) :
    ∃ lexemes : List Lexeme,
      (readFrom order start).tokens = lexemes.map Lexeme.token ∧
      (readFrom order start).offsets = lexemes.map Lexeme.offset ∧
      Scan.Chain start lexemes (readFrom order start).stop ∧
      ∀ rule ∈ order, rule.parser.run (readFrom order start).stop = none := by
  fun_induction readFrom order start with
  | case1 start atEnd =>
      refine ⟨[], rfl, rfl, .done start, ?_⟩
      intro rule _
      exact Rule.run_parser_of_rest_nil (isEmpty_iff.mp atEnd) rule
  | case2 start notAtEnd unmatched =>
      exact ⟨[], rfl, rfl, .done start, Rule.run_choice_eq_none_iff.mp unmatched⟩
  | case3 start notAtEnd token next chosen _ others inductionHypothesis =>
      rcases Rule.exists_match_of_run_choice chosen with ⟨rule, _, matched⟩
      rcases inductionHypothesis with ⟨lexemes, tokens, offsets, chain, ended⟩
      refine ⟨_ :: lexemes, ?_, ?_, .step matched chain, ended⟩
      · rw [List.map_cons, ← tokens]
      · rw [List.map_cons, ← offsets]

/-- With all rules, reading token by token stops behind the tokens of the scan. -/
theorem ofText_eq
    {order : List Rule}
    (complete : ∀ rule : Rule, rule ∈ order)
    (text : String) :
    ofText order text =
      { tokens := (Scan.ofText text).tokens
        offsets := (Scan.ofText text).offsets
        stop := (Scan.ofText text).stop } := by
  rcases exists_chain_readFrom order (Scan.skipBlanks (Cursor.start text)) with
    ⟨lexemes, tokens, offsets, chain, ended⟩
  have stuck : Scan.Stuck (ofText order text).stop :=
    fun rule => ended rule (complete rule)
  rcases Scan.ofText_eq_of_chain chain stuck with ⟨sameLexemes, sameStop⟩
  rw [Scan.tokens, Scan.offsets, sameLexemes, sameStop, ← tokens, ← offsets]
  rfl

end Reading

namespace Scan

theorem withRules_eq_ofText
    {order : List Rule}
    (complete : ∀ rule : Rule, rule ∈ order)
    (text : String) :
    withRules order text = ofText text := by
  rcases chain_withRules complete text with ⟨chain, stuck⟩
  rcases ofText_eq_of_chain chain stuck with ⟨sameLexemes, sameStop⟩
  exact Scan.ext rfl sameLexemes.symm sameStop.symm

/--
A scan reads what is read one token at a time by a choice between the rules:
the same tokens at the same offsets, with the same outcome.  The rules may be
tried in any order, both in the passes of the scan and in the choice.
-/
theorem ofText_eq_reading
    {order : List Rule}
    (complete : ∀ rule : Rule, rule ∈ order)
    (text : String) :
    withRules order text = ofText text ∧
    (Reading.ofText order text).tokens = (ofText text).tokens ∧
    (Reading.ofText order text).offsets = (ofText text).offsets ∧
    (Reading.ofText order text).result = (ofText text).result := by
  refine ⟨withRules_eq_ofText complete text, ?_⟩
  rw [Reading.ofText_eq complete text]
  refine ⟨rfl, rfl, ?_⟩
  rw [Reading.result, result, stall?]
  split <;> rfl

theorem ofText_eq_reading_tag_first :
    (∀ rule : Rule, rule ∈ [Rule.tag, Rule.plainText]) ∧
    withRules [.tag, .plainText] " é<b>c <" = ofText " é<b>c <" ∧
    (Reading.ofText [.tag, .plainText] " é<b>c <").tokens =
      [.plainText "é", .beginTag "b" [], .plainText "c "] ∧
    (Reading.ofText [.tag, .plainText] " é<b>c <").offsets = [1, 3, 6] ∧
    (Reading.ofText [.tag, .plainText] " é<b>c <").result =
      .error { offset := 8, position := { line := 1, column := 8 }, preview := "<" } := by
  have complete : ∀ rule : Rule, rule ∈ [Rule.tag, Rule.plainText] := by
    intro rule
    cases rule <;> decide
  rcases ofText_eq_reading complete " é<b>c <" with ⟨sameScan, tokens, offsets, result⟩
  refine ⟨complete, sameScan, tokens.trans ?_, offsets.trans ?_, result.trans ?_⟩
  · with_unfolding_all rfl
  · with_unfolding_all rfl
  · with_unfolding_all rfl

end Scan

end TagTree
