import TagTree.Proofs.Text.Places
import TagTree.Token.Grammar

/-!
# Parsers look only ahead

A parser is local if the text in front of a place has no part in what it reads
from there: in a longer text it matches at the shifted place exactly if it
matches at the place itself, with the same value, and it stops at the shifted
place.

The primitives are local and every way of building parsers from parsers keeps
them local.  For the loops this needs an induction over the places they go
through, since they compare offsets to find out whether they make progress; a
shift moves both sides of the comparison by the same number of bytes.
-/

namespace TagTree.Parser

open Cursor

universe u v w

variable {α : Type u} {β : Type v} {γ : Type w}

/-- The text in front of a place has no part in what is read from there. -/
def IsLocal (parser : Parser α) : Prop :=
  ∀ (front : List Char) (start : Cursor),
    parser.run (start.shift front) =
      (parser.run start).map (Prod.map id (shift front))

namespace IsLocal

variable {parser : Parser α} {start stop : Cursor} {value : α}

theorem run_of_some
    (isLocal : parser.IsLocal)
    (matched : parser.run start = some (value, stop))
    (front : List Char) :
    parser.run (start.shift front) = some (value, stop.shift front) := by
  rw [isLocal, matched]
  rfl

theorem run_of_none
    (isLocal : parser.IsLocal)
    (unmatched : parser.run start = none)
    (front : List Char) :
    parser.run (start.shift front) = none := by
  rw [isLocal, unmatched]
  rfl

end IsLocal

/-! ## Primitives -/

theorem isLocal_succeed (value : α) : (succeed value).IsLocal := by
  intro front start
  rfl

theorem isLocal_fail : (fail : Parser α).IsLocal := by
  intro front start
  rfl

theorem isLocal_anyChar : anyChar.IsLocal := by
  intro front start
  exact next?_shift front start

theorem isLocal_satisfy (accepts : Char → Bool) : (satisfy accepts).IsLocal := by
  intro front start
  simp only [satisfy, next?_shift]
  cases start.next? with
  | none => rfl
  | some result =>
      rcases result with ⟨character, next⟩
      by_cases accepted : accepts character = true
      · simp [accepted]
      · simp [accepted]

theorem isLocal_char (expected : Char) : (char expected).IsLocal :=
  isLocal_satisfy _

/-! ## Sequences and choices -/

theorem IsLocal.andThen
    {first : Parser α} {continuation : α → Parser β}
    (firstLocal : first.IsLocal)
    (continuationLocal : ∀ value : α, (continuation value).IsLocal) :
    (first.andThen continuation).IsLocal := by
  intro front start
  rw [run_andThen, run_andThen, firstLocal]
  cases first.run start with
  | none => rfl
  | some result =>
      rcases result with ⟨value, next⟩
      exact continuationLocal value front next

theorem isLocal_chars (expected : List Char) : (chars expected).IsLocal := by
  induction expected with
  | nil => exact isLocal_succeed ()
  | cons first others inductionHypothesis =>
      exact (isLocal_char first).andThen fun _ => inductionHypothesis

theorem isLocal_word (expected : String) : (word expected).IsLocal :=
  (isLocal_chars expected.toList).andThen fun _ => isLocal_succeed expected

theorem IsLocal.map
    {parser : Parser α}
    (isLocal : parser.IsLocal)
    (transform : α → β) :
    (parser.map transform).IsLocal :=
  isLocal.andThen fun value => isLocal_succeed (transform value)

theorem IsLocal.pair
    {first : Parser α} {second : Parser β}
    (firstLocal : first.IsLocal)
    (secondLocal : second.IsLocal) :
    (first.pair second).IsLocal :=
  firstLocal.andThen fun left => secondLocal.map fun right => (left, right)

theorem IsLocal.skipThen
    {first : Parser α} {second : Parser β}
    (firstLocal : first.IsLocal)
    (secondLocal : second.IsLocal) :
    (first.skipThen second).IsLocal :=
  firstLocal.andThen fun _ => secondLocal

theorem IsLocal.thenSkip
    {first : Parser α} {second : Parser β}
    (firstLocal : first.IsLocal)
    (secondLocal : second.IsLocal) :
    (first.thenSkip second).IsLocal :=
  firstLocal.andThen fun value => secondLocal.map fun _ => value

theorem IsLocal.between
    {opening : Parser α} {body : Parser β} {closing : Parser γ}
    (openingLocal : opening.IsLocal)
    (bodyLocal : body.IsLocal)
    (closingLocal : closing.IsLocal) :
    (Parser.between opening body closing).IsLocal :=
  openingLocal.skipThen (bodyLocal.thenSkip closingLocal)

theorem IsLocal.optional
    {parser : Parser α}
    (isLocal : parser.IsLocal) :
    parser.optional.IsLocal := by
  intro front start
  rw [run_optional, run_optional]
  cases matched : parser.run start with
  | none =>
      rw [isLocal.run_of_none matched]
      rfl
  | some result =>
      rw [isLocal.run_of_some matched]
      rfl

theorem IsLocal.orElse
    {first second : Parser α}
    (firstLocal : first.IsLocal)
    (secondLocal : second.IsLocal) :
    (first.orElse second).IsLocal := by
  intro front start
  rw [run_orElse, run_orElse, firstLocal, secondLocal]
  cases first.run start with
  | none => rfl
  | some result => rfl

theorem IsLocal.firstOf
    {alternatives : List (Parser α)}
    (eachLocal : ∀ alternative ∈ alternatives, alternative.IsLocal) :
    (firstOf alternatives).IsLocal := by
  induction alternatives with
  | nil => exact isLocal_fail
  | cons alternative others inductionHypothesis =>
      rcases List.forall_mem_cons.mp eachLocal with ⟨alternativeLocal, othersLocal⟩
      exact alternativeLocal.orElse (inductionHypothesis othersLocal)

/-! ## Loops -/

theorem IsLocal.manyFrom_shift
    {item : Parser α}
    (isLocal : item.IsLocal)
    (front : List Char) (found : List α) (start : Cursor) :
    manyFrom item found (start.shift front) =
      Prod.map id (shift front) (manyFrom item found start) := by
  fun_induction manyFrom item found start with
  | case1 found start unmatched =>
      rw [manyFrom_of_none found (isLocal.run_of_none unmatched front)]
      rfl
  | case2 found start value next matched progress _ inductionHypothesis =>
      rw [manyFrom_of_lt found (isLocal.run_of_some matched front)
        ((offset_shift_lt_iff front).mpr progress)]
      exact inductionHypothesis
  | case3 found start value next matched stuck =>
      rw [manyFrom_of_not_lt found (isLocal.run_of_some matched front)
        (mt (offset_shift_lt_iff front).mp stuck)]
      rfl

theorem IsLocal.many
    {item : Parser α}
    (isLocal : item.IsLocal) :
    item.many.IsLocal := by
  intro front start
  rw [run_many, run_many, isLocal.manyFrom_shift]
  rfl

theorem IsLocal.many1
    {item : Parser α}
    (isLocal : item.IsLocal) :
    item.many1.IsLocal := by
  intro front start
  simp only [Parser.many1]
  cases matched : item.run start with
  | none =>
      rw [isLocal.run_of_none matched]
      rfl
  | some result =>
      rcases result with ⟨first, next⟩
      rw [isLocal.run_of_some matched]
      by_cases progress : start.offset < next.offset
      · simp only [if_pos ((offset_shift_lt_iff front).mpr progress), if_pos progress]
        rw [isLocal.manyFrom_shift]
        rfl
      · simp only [if_neg (mt (offset_shift_lt_iff front).mp progress), if_neg progress]
        rfl

theorem IsLocal.sepByFrom_shift
    {item : Parser α} {separator : Parser β}
    (itemLocal : item.IsLocal)
    (separatorLocal : separator.IsLocal)
    (front : List Char) (found : List α) (start : Cursor) :
    sepByFrom item separator found (start.shift front) =
      Prod.map id (shift front) (sepByFrom item separator found start) := by
  fun_induction sepByFrom item separator found start with
  | case1 found start unseparated =>
      rw [sepByFrom_of_no_separator found (separatorLocal.run_of_none unseparated front)]
      rfl
  | case2 found start mark afterSeparator separated unmatched =>
      rw [sepByFrom_of_separator found (separatorLocal.run_of_some separated front),
        itemLocal.run_of_none unmatched]
      rfl
  | case3 found start mark afterSeparator separated value next matched progress _
      inductionHypothesis =>
      rw [sepByFrom_of_separator found (separatorLocal.run_of_some separated front),
        itemLocal.run_of_some matched]
      simp only [if_pos ((offset_shift_lt_iff front).mpr progress)]
      exact inductionHypothesis
  | case4 found start mark afterSeparator separated value next matched stuck =>
      rw [sepByFrom_of_separator found (separatorLocal.run_of_some separated front),
        itemLocal.run_of_some matched]
      simp only [if_neg (mt (offset_shift_lt_iff front).mp stuck)]
      rfl

theorem IsLocal.sepBy1
    {item : Parser α} {separator : Parser β}
    (itemLocal : item.IsLocal)
    (separatorLocal : separator.IsLocal) :
    (item.sepBy1 separator).IsLocal := by
  intro front start
  simp only [Parser.sepBy1]
  cases matched : item.run start with
  | none =>
      rw [itemLocal.run_of_none matched]
      rfl
  | some result =>
      rcases result with ⟨first, next⟩
      rw [itemLocal.run_of_some matched]
      simp only [itemLocal.sepByFrom_shift separatorLocal]
      rfl

end TagTree.Parser

/-! ## The rules of the grammar -/

namespace TagTree.Grammar

open TagTree.Parser

theorem isLocal_runOf (accepts : Char → Bool) : (runOf accepts).IsLocal :=
  (isLocal_satisfy accepts).many1.map String.ofList

theorem isLocal_blank : blank.IsLocal :=
  (isLocal_word "\r\n").orElse ((isLocal_satisfy isBlank).map String.singleton)

theorem isLocal_blanks : blanks.IsLocal :=
  isLocal_blank.many.map String.join

theorem isLocal_blanks1 : blanks1.IsLocal :=
  isLocal_blank.many1.map String.join

theorem isLocal_plainText : plainText.IsLocal :=
  (isLocal_runOf isTextChar).map Token.plainText

theorem isLocal_keyValue : keyValue.IsLocal :=
  (((isLocal_runOf isKeyChar).thenSkip (isLocal_char '=')).pair
    (isLocal_runOf isNameChar)).map _

theorem isLocal_attributeList : attributeList.IsLocal :=
  isLocal_keyValue.sepBy1 isLocal_blanks1

theorem isLocal_tagBody : tagBody.IsLocal :=
  ((isLocal_runOf isNameChar).pair
    (isLocal_blanks1.skipThen isLocal_attributeList).optional).thenSkip isLocal_blanks

theorem isLocal_tag : tag.IsLocal :=
  ((isLocal_char '<').between isLocal_tagBody
    ((isLocal_char '>').thenSkip isLocal_blanks)).map _

end TagTree.Grammar

/-! ## All parsers of the library -/

namespace TagTree.Parser

open Cursor

/--
The parsers put together from the primitives and the rules of the grammar by
any finite number of combinations.
-/
inductive Composed : {α : Type} → Parser α → Prop where
  | char (expected : Char) : Composed (char expected)
  | word (expected : String) : Composed (word expected)
  | satisfy (accepts : Char → Bool) : Composed (satisfy accepts)
  | succeed {α : Type} (value : α) : Composed (succeed value)
  | fail {α : Type} : Composed (fail : Parser α)
  | anyChar : Composed anyChar
  | many {α : Type} {item : Parser α}
      (composed : Composed item) :
      Composed item.many
  | many1 {α : Type} {item : Parser α}
      (composed : Composed item) :
      Composed item.many1
  | optional {α : Type} {parser : Parser α}
      (composed : Composed parser) :
      Composed parser.optional
  | map {α β : Type} {parser : Parser α}
      (transform : α → β)
      (composed : Composed parser) :
      Composed (parser.map transform)
  | orElse {α : Type} {first second : Parser α}
      (firstComposed : Composed first)
      (secondComposed : Composed second) :
      Composed (first.orElse second)
  | firstOf {α : Type} {alternatives : List (Parser α)}
      (eachComposed : ∀ alternative ∈ alternatives, Composed alternative) :
      Composed (firstOf alternatives)
  | pair {α β : Type} {first : Parser α} {second : Parser β}
      (firstComposed : Composed first)
      (secondComposed : Composed second) :
      Composed (first.pair second)
  | between {α β γ : Type}
      {opening : Parser α} {body : Parser β} {closing : Parser γ}
      (openingComposed : Composed opening)
      (bodyComposed : Composed body)
      (closingComposed : Composed closing) :
      Composed (Parser.between opening body closing)
  | skipThen {α β : Type} {first : Parser α} {second : Parser β}
      (firstComposed : Composed first)
      (secondComposed : Composed second) :
      Composed (first.skipThen second)
  | thenSkip {α β : Type} {first : Parser α} {second : Parser β}
      (firstComposed : Composed first)
      (secondComposed : Composed second) :
      Composed (first.thenSkip second)
  | sepBy1 {α β : Type} {item : Parser α} {separator : Parser β}
      (itemComposed : Composed item)
      (separatorComposed : Composed separator) :
      Composed (item.sepBy1 separator)
  | blanks : Composed Grammar.blanks
  | plainText : Composed Grammar.plainText
  | keyValue : Composed Grammar.keyValue
  | attributeList : Composed Grammar.attributeList
  | tag : Composed Grammar.tag

variable {α : Type} {parser : Parser α}

theorem Composed.isLocal
    (composed : Composed parser) :
    parser.IsLocal := by
  induction composed with
  | char expected => exact isLocal_char expected
  | word expected => exact isLocal_word expected
  | satisfy accepts => exact isLocal_satisfy accepts
  | succeed value => exact isLocal_succeed value
  | fail => exact isLocal_fail
  | anyChar => exact isLocal_anyChar
  | many _ itemLocal => exact itemLocal.many
  | many1 _ itemLocal => exact itemLocal.many1
  | optional _ isLocal => exact isLocal.optional
  | map transform _ isLocal => exact isLocal.map transform
  | orElse _ _ firstLocal secondLocal => exact firstLocal.orElse secondLocal
  | firstOf _ eachLocal => exact .firstOf eachLocal
  | pair _ _ firstLocal secondLocal => exact firstLocal.pair secondLocal
  | between _ _ _ openingLocal bodyLocal closingLocal =>
      exact openingLocal.between bodyLocal closingLocal
  | skipThen _ _ firstLocal secondLocal => exact firstLocal.skipThen secondLocal
  | thenSkip _ _ firstLocal secondLocal => exact firstLocal.thenSkip secondLocal
  | sepBy1 _ _ itemLocal separatorLocal => exact itemLocal.sepBy1 separatorLocal
  | blanks => exact Grammar.isLocal_blanks
  | plainText => exact Grammar.isLocal_plainText
  | keyValue => exact Grammar.isLocal_keyValue
  | attributeList => exact Grammar.isLocal_attributeList
  | tag => exact Grammar.isLocal_tag

/--
A parser of the library matches at a place in a text exactly if it matches at
the start of what lies ahead.  It reads the same value there, and it stops as
many bytes further on as lie behind the place.  Wherever it starts, it stops in
the same text, not before its start, not past the end, and between two
characters.
-/
theorem Composed.run_between_of_run_start
    (composed : Composed parser) :
    (∀ before text : String,
      (parser.run (Cursor.start text) = none →
        parser.run (Cursor.between before.toList text.toList) = none) ∧
      ∀ (value : α) (inner : Cursor),
        parser.run (Cursor.start text) = some (value, inner) →
          ∃ stop : Cursor,
            parser.run (Cursor.between before.toList text.toList) = some (value, stop) ∧
            stop.source = before ++ text ∧
            stop.offset = inner.offset + before.utf8ByteSize) ∧
    ∀ (start stop : Cursor) (value : α),
      parser.run start = some (value, stop) →
        stop.source = start.source ∧
        start.offset ≤ stop.offset ∧
        stop.offset ≤ start.source.utf8ByteSize ∧
        String.Pos.Raw.IsValid start.source ⟨stop.offset⟩ := by
  constructor
  · intro before text
    rw [← shift_start]
    constructor
    · intro unmatched
      exact composed.isLocal.run_of_none unmatched before.toList
    · intro value inner matched
      refine
        ⟨inner.shift before.toList, composed.isLocal.run_of_some matched before.toList,
          ?_, ?_⟩
      · rw [source_shift, source_eq_of_le (parser.forward matched), source_start,
          String.ofList_toList]
      · rw [offset_shift, utf8Width_toList]
  · intro start stop value matched
    have forward := parser.forward matched
    have sameSource := source_eq_of_le forward
    rw [← sameSource]
    exact
      ⟨rfl, offset_le_of_le forward, stop.offset_le_utf8ByteSize, stop.isValid_offset⟩

/-- Words of letters with commas between them, and a comma at the end that is not read. -/
theorem run_between_words_of_two_bytes :
    Composed ((satisfy (· == 'é')).many1.sepBy1 (word ",")) ∧
    ∃ stop : Cursor,
      ((satisfy (· == 'é')).many1.sepBy1 (word ",")).run
          (Cursor.between "日\n".toList "éé,é,x".toList) =
        some ([['é', 'é'], ['é']], stop) ∧
      stop.source = "日\néé,é,x" ∧
      stop.offset = 11 ∧
      String.Pos.Raw.IsValid "日\néé,é,x" ⟨stop.offset⟩ := by
  have composed : Composed ((satisfy (· == 'é')).many1.sepBy1 (word ",")) :=
    .sepBy1 (.many1 (.satisfy _)) (.word ",")
  have inner :
      ((satisfy (· == 'é')).many1.sepBy1 (word ",")).run (Cursor.start "éé,é,x") =
        some ([['é', 'é'], ['é']], Cursor.between "éé,é".toList ",x".toList) := by
    decide +kernel
  rcases composed.run_between_of_run_start with ⟨isLocal, staysInside⟩
  rcases (isLocal "日\n" "éé,é,x").2 _ _ inner with ⟨stop, matched, source, offset⟩
  rcases staysInside _ _ _ matched with ⟨sameSource, _, _, isValid⟩
  rw [← sameSource, source] at isValid
  exact ⟨composed, stop, matched, source, offset, isValid⟩

end TagTree.Parser
