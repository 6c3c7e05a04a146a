import Mathlib.Data.List.Infix
import TagTree.Proofs.Token.Canonical

/-!
# Repeated keys

An attribute repeats a key if an attribute in front of it in the same tag has
that key already.  A repetition is noted as the name of the tag with the key.
The remarks of a scan are exactly its repetitions, in the order in which they
are read, whether the scan reaches the end of its text or stalls.

Two repetitions are remarked on in different words.  The words quote the key
and the name one after the other without any escape, so this rests on the
grammar: a key contains no opening bracket, and so it ends in front of the
first one.
-/

namespace TagTree

open Grammar

/-! ## The repetitions of a tag -/

/--
The repetitions in an opening tag, in order: its name with the key of each
attribute whose key stands already in front of it.
-/
def Token.repetitions : Token → List (String × String)
  | plainText _ => []
  | beginTag name attributes =>
    (attributes.inits.zip attributes).filterMap fun (front, entry) =>
      if entry.key ∈ front.map Attribute.key then some (name, entry.key) else none
  | endTag _ => []

/-- Each element of a list goes with the elements in front of it. -/
theorem mem_zip_inits_iff {α : Type} {items front : List α} {item : α} :
    (front, item) ∈ items.inits.zip items ↔
      ∃ back : List α, items = front ++ item :: back := by
  induction items generalizing front item with
  | nil => simp
  | cons first others inductionHypothesis =>
      rw [List.inits, List.zip_cons_cons, List.zip_map_left, List.mem_cons, List.mem_map]
      constructor
      · rintro (same | ⟨⟨otherFront, otherItem⟩, member, same⟩)
        · cases same
          exact ⟨others, rfl⟩
        · rcases inductionHypothesis.mp member with ⟨back, rfl⟩
          cases same
          exact ⟨back, rfl⟩
      · rintro ⟨back, shape⟩
        cases front with
        | nil =>
            cases shape
            exact Or.inl rfl
        | cons frontFirst frontOthers =>
            cases shape
            exact Or.inr ⟨(frontOthers, item), inductionHypothesis.mpr ⟨back, rfl⟩, rfl⟩

/-- A key is repeated exactly if it stands at least twice in the tag. -/
theorem two_le_count_iff {attributes : List Attribute} {key : String} :
    2 ≤ (attributes.map Attribute.key).count key ↔
      ∃ (front : List Attribute) (entry : Attribute) (back : List Attribute),
        attributes = front ++ entry :: back ∧
        entry.key = key ∧
        key ∈ front.map Attribute.key := by
  constructor
  · intro twice
    have stands : key ∈ attributes.map Attribute.key :=
      List.count_pos_iff.mp (by omega)
    rcases List.mem_map.mp stands with ⟨entry, member, rfl⟩
    rcases List.append_of_mem member with ⟨front, back, rfl⟩
    by_cases inFront : entry.key ∈ front.map Attribute.key
    · exact ⟨front, entry, back, rfl, rfl, inFront⟩
    · have inBack : entry.key ∈ back.map Attribute.key := by
        rw [List.map_append, List.map_cons, List.count_append,
          List.count_eq_zero_of_not_mem inFront, List.count_cons_self] at twice
        exact List.count_pos_iff.mp (by omega)
      rcases List.mem_map.mp inBack with ⟨later, laterMember, sameKey⟩
      rcases List.append_of_mem laterMember with ⟨between, rest, rfl⟩
      refine ⟨front ++ entry :: between, later, rest, by simp, sameKey, ?_⟩
      simp
  · rintro ⟨front, entry, back, rfl, rfl, inFront⟩
    have once := List.count_pos_iff.mpr inFront
    rw [List.map_append, List.map_cons, List.count_append, List.count_cons_self]
    omega

theorem Token.mem_repetitions_iff {token : Token} {name key : String} :
    (name, key) ∈ token.repetitions ↔
      ∃ attributes : List Attribute,
        token = .beginTag name attributes ∧
        2 ≤ (attributes.map Attribute.key).count key := by
  cases token with
  | plainText text => simp [repetitions]
  | endTag name => simp [repetitions]
  | beginTag tagName attributes =>
      simp only [repetitions, List.mem_filterMap, Prod.exists, mem_zip_inits_iff,
        two_le_count_iff]
      constructor
      · rintro ⟨front, entry, ⟨back, shape⟩, noted⟩
        split at noted
        · next inFront =>
          cases noted
          exact ⟨attributes, rfl, front, entry, back, shape, rfl, inFront⟩
        · cases noted
      · rintro ⟨_, same, front, entry, back, shape, rfl, inFront⟩
        cases same
        exact ⟨front, entry, ⟨back, shape⟩, if_pos inFront⟩

/-- The keys found repeated are those that stand in front or were seen before. -/
theorem repeatedKeysFrom_eq_filterMap (seen : List String) (attributes : List Attribute) :
    Attribute.repeatedKeysFrom seen attributes =
      (attributes.inits.zip attributes).filterMap fun (front, entry) =>
        if entry.key ∈ front.map Attribute.key ++ seen then some entry.key else none := by
  induction attributes generalizing seen with
  | nil => simp [Attribute.repeatedKeysFrom]
  | cons first others inductionHypothesis =>
      rw [Attribute.repeatedKeysFrom, List.inits, List.zip_cons_cons, List.zip_map_left,
        List.filterMap_cons, List.filterMap_map]
      by_cases known : first.key ∈ seen
      · rw [if_pos known, inductionHypothesis seen]
        simp only [List.map_nil, List.nil_append, if_pos known]
        congr 1
        apply List.filterMap_congr
        rintro ⟨front, entry⟩ _
        refine if_congr ?_ rfl rfl
        -- The key of the first attribute adds nothing to the keys seen before.
        have redundant : entry.key = first.key → entry.key ∈ seen := by
          intro same
          rwa [same]
        simp only [Prod.map_apply, id_eq, List.mem_append, List.map_cons, List.mem_cons]
        tauto
      · rw [if_neg known, inductionHypothesis (first.key :: seen)]
        simp only [List.map_nil, List.nil_append, if_neg known]
        apply List.filterMap_congr
        rintro ⟨front, entry⟩ _
        refine if_congr ?_ rfl rfl
        simp only [Prod.map_apply, id_eq, List.mem_append, List.map_cons, List.mem_cons]
        tauto

/-! ## The remarks of a scan -/

namespace Warning

/-- The remark on a repetition of a key in a tag. -/
def ofRepetition : String × String → Warning
  | (name, key) =>
    { component := "Tokenizer"
      message := "duplicate attribute '" ++ key ++ "' on <" ++ name ++ ">" }

end Warning

/-- The repetitions in the tokens of a text, in the order in which they are read. -/
def Scan.repetitions (scan : Scan) : List (String × String) :=
  scan.tokens.flatMap Token.repetitions

theorem Lexeme.warnings_eq_map (lexeme : Lexeme) :
    lexeme.warnings = lexeme.token.repetitions.map Warning.ofRepetition := by
  rw [warnings]
  cases lexeme.token with
  | plainText text => rfl
  | endTag name => rfl
  | beginTag name attributes =>
      simp only [Attribute.repeatedKeys, repeatedKeysFrom_eq_filterMap, List.append_nil,
        Token.repetitions, List.map_filterMap]
      apply List.filterMap_congr
      rintro ⟨front, entry⟩ _
      split <;> rfl

namespace Scan

theorem mem_repetitions_iff {scan : Scan} {name key : String} :
    (name, key) ∈ scan.repetitions ↔
      ∃ attributes : List Attribute,
        .beginTag name attributes ∈ scan.tokens ∧
        2 ≤ (attributes.map Attribute.key).count key := by
  simp only [repetitions, List.mem_flatMap, Token.mem_repetitions_iff]
  constructor
  · rintro ⟨token, member, attributes, rfl, twice⟩
    exact ⟨attributes, member, twice⟩
  · rintro ⟨attributes, member, twice⟩
    exact ⟨_, member, attributes, rfl, twice⟩

/-- An opening tag of the scan has the given name and carries the given key. -/
def Carries (scan : Scan) (name key : String) : Prop :=
  ∃ attributes : List Attribute,
    .beginTag name attributes ∈ scan.tokens ∧ key ∈ attributes.map Attribute.key

theorem carries_of_mem_repetitions {scan : Scan} {name key : String}
    (repeated : (name, key) ∈ scan.repetitions) :
    scan.Carries name key := by
  rcases mem_repetitions_iff.mp repeated with ⟨attributes, member, twice⟩
  exact ⟨attributes, member, List.count_pos_iff.mp (by omega)⟩

theorem Chain.exists_match_of_mem
    {start stop : Cursor} {lexemes : List Lexeme} {lexeme : Lexeme}
    (chain : Chain start lexemes stop)
    (member : lexeme ∈ lexemes) :
    ∃ place next : Cursor, lexeme.rule.parser.run place = some (lexeme.token, next) := by
  induction chain with
  | done cursor => cases member
  | step matched _ inductionHypothesis =>
      rcases List.mem_cons.mp member with rfl | inOthers
      · exact ⟨_, _, matched⟩
      · exact inductionHypothesis inOthers

/-- The opening tags of a scan are grammatical, also if the scan stalls behind them. -/
theorem isGrammatical_of_beginTag_mem
    {text name : String} {attributes : List Attribute}
    (member : .beginTag name attributes ∈ (ofText text).tokens) :
    (Token.beginTag name attributes).IsGrammatical := by
  rcases List.mem_map.mp member with ⟨lexeme, lexemeMember, sameToken⟩
  rcases (chain_ofText text).1.exists_match_of_mem lexemeMember with ⟨place, next, matched⟩
  rw [sameToken] at matched
  cases rule : lexeme.rule with
  | plainText =>
      rw [rule] at matched
      rcases run_plainText_eq_some_iff.mp matched with ⟨_, impossible, _⟩
      cases impossible
  | tag =>
      rw [rule] at matched
      rcases run_tag_eq_some_iff.mp matched with ⟨written, _, writtenToken, _⟩
      rw [← writtenToken]
      exact written.isGrammatical_token

theorem Carries.bracket_not_mem
    {text name key : String}
    (carries : (ofText text).Carries name key) :
    '<' ∉ key.toList := by
  rcases carries with ⟨attributes, member, keyMember⟩
  rcases List.mem_map.mp keyMember with ⟨entry, entryMember, rfl⟩
  have isKey := ((isGrammatical_of_beginTag_mem member).2 entry entryMember).1
  intro bracket
  exact isKey.2.1 '<' bracket (by simp)

end Scan

/-! ## Different repetitions are remarked on in different words -/

namespace Warning

theorem toList_text_ofRepetition (name key : String) :
    (ofRepetition (name, key)).text.toList =
      "[Tokenizer] duplicate attribute '".toList ++
        (key.toList ++ "' on ".toList ++ '<' :: (name.toList ++ ['>'])) := by
  simp [text, ofRepetition]

/-- The key ends in front of the first opening bracket, and the name is all that follows. -/
theorem ofRepetition_inj
    {name key otherName otherKey : String}
    (bracketFree : '<' ∉ key.toList)
    (otherBracketFree : '<' ∉ otherKey.toList)
    (sameText :
      (ofRepetition (name, key)).text = (ofRepetition (otherName, otherKey)).text) :
    name = otherName ∧ key = otherKey := by
  have notBracket :
      ∀ {key : String}, '<' ∉ key.toList →
        ∀ character ∈ key.toList ++ "' on ".toList, (character != '<') = true := by
    intro key free character member
    rw [bne_iff_ne]
    rintro rfl
    rcases List.mem_append.mp member with inKey | inWords
    · exact free inKey
    · exact absurd inWords (by decide)
  rw [← String.toList_inj, toList_text_ofRepetition, toList_text_ofRepetition,
    List.append_cancel_left_eq] at sameText
  have sameFront :=
    eq_of_append_eq_append_of_stopsAt sameText
      (notBracket bracketFree) (notBracket otherBracketFree)
      (stopsAt_cons.mpr (by decide)) (stopsAt_cons.mpr (by decide))
  have sameKey : key = otherKey := String.toList_inj.mp (List.append_cancel_right sameFront)
  subst sameKey
  rw [List.append_cancel_left_eq, List.cons.injEq, List.append_cancel_right_eq] at sameText
  exact ⟨String.toList_inj.mp sameText.2, rfl⟩

end Warning

end TagTree
