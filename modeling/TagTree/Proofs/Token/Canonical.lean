import Mathlib.Data.List.Chain
import TagTree.Proofs.Token.Language

/-!
# Canonical tokens

A token is grammatical if its parts are those of the grammar: texts without
brackets or leading blanks, names, keys and values as tags have them.  The
tokens of a text are always grammatical, and no two of them are texts side by
side.  Conversely all such tokens are read from their spelling, which writes
values as they are.

A token is canonical if it is grammatical with its values in double quotes.
The display of a token is the spelling of the token with the quotes, so reading
undoes the display of canonical tokens up to the quotes, and of no others.
-/

namespace TagTree

open Grammar

/-- No two neighbours in the list both have the property. -/
def Separated {α : Type} (isText : α → Bool) (items : List α) : Prop :=
  items.IsChain fun left right => ¬ (isText left = true ∧ isText right = true)

instance {α : Type} (isText : α → Bool) (items : List α) :
    Decidable (Separated isText items) :=
  inferInstanceAs
    (Decidable (items.IsChain fun left right => ¬ (isText left = true ∧ isText right = true)))

theorem separated_cons_iff
    {α : Type} {isText : α → Bool} {first : α} {others : List α} :
    Separated isText (first :: others) ↔
      (isText first && others.head?.any isText) = false ∧
      Separated isText others := by
  rw [Separated, List.isChain_cons, Separated]
  cases others with
  | nil => simp
  | cons second following => simp

theorem separated_append_iff
    {α : Type} {isText : α → Bool} {left right : List α} :
    Separated isText (left ++ right) ↔
      Separated isText left ∧
      Separated isText right ∧
      (left.getLast?.any isText && right.head?.any isText) = false := by
  rw [Separated, List.isChain_append, Separated, Separated]
  cases left.getLast? with
  | none => simp
  | some last =>
      cases right.head? with
      | none => simp
      | some first => simp

namespace Attribute

/-- The attribute with its value in double quotes. -/
def quoted (entry : Attribute) : Attribute :=
  { entry with value := "\"" ++ entry.value ++ "\"" }

/-- The key is one of the grammar; the value, which may be empty, becomes one in quotes. -/
def IsCanonical (entry : Attribute) : Prop :=
  IsKey entry.key ∧
    FreeOf ('<' :: '>' :: '=' :: blankCharacters) entry.value.toList

instance (entry : Attribute) : Decidable entry.IsCanonical :=
  inferInstanceAs (Decidable (_ ∧ _))

theorem quoted_ne (entry : Attribute) : entry.quoted ≠ entry := by
  intro same
  have sameLength := congrArg (fun entry => entry.value.toList.length) same
  simp only [quoted, String.toList_append, List.length_append] at sameLength
  have := List.length_pos_iff.mpr (show "\"".toList ≠ [] by decide)
  omega

theorem quoted_inj
    {left right : Attribute}
    (same : left.quoted = right.quoted) :
    left = right := by
  simp only [quoted, mk.injEq, ← String.toList_inj, String.toList_append,
    List.append_cancel_right_eq, List.append_cancel_left_eq] at same
  cases left
  cases right
  simpa [String.toList_inj] using same

/-- The attribute is one of the grammar: it is canonical and its value is not empty. -/
def IsGrammatical (entry : Attribute) : Prop :=
  IsKey entry.key ∧ IsName entry.value

/-- The form `key=value`. -/
def spelling (entry : Attribute) : List Char :=
  entry.key.toList ++ '=' :: entry.value.toList

theorem isGrammatical_iff {entry : Attribute} :
    entry.IsGrammatical ↔ entry.IsCanonical ∧ entry.value ≠ "" := by
  rw [IsGrammatical, IsCanonical, IsName]
  tauto

theorem isGrammatical_quoted_iff {entry : Attribute} :
    entry.quoted.IsGrammatical ↔ entry.IsCanonical := by
  have quoteFree : FreeOf ('<' :: '>' :: '=' :: blankCharacters) ['"'] := by decide
  have valueFree :
      IsName entry.quoted.value ↔
        FreeOf ('<' :: '>' :: '=' :: blankCharacters) entry.value.toList := by
    rw [IsName, quoted, String.toList_append, String.toList_append, freeOf_append_iff,
      freeOf_append_iff]
    simp [quoteFree]
  exact and_congr_right fun _ => valueFree

theorem toList_markup (entry : Attribute) :
    entry.markup.toList = entry.quoted.spelling := by
  simp [markup, quoted, spelling]

end Attribute

namespace Token

/-- The token is a text. -/
def isText : Token → Bool
  | plainText _ => true
  | beginTag _ _ => false
  | endTag _ => false

/-- The parts of the token can be written as they are. -/
def IsCanonical : Token → Prop
  | plainText text => IsText text
  | beginTag name attributes =>
    IsElementName name ∧ ∀ entry ∈ attributes, entry.IsCanonical
  | endTag name => FreeOf ('<' :: '>' :: '=' :: blankCharacters) name.toList

/-- The token with the values of its attributes in double quotes. -/
def quoted : Token → Token
  | plainText text => plainText text
  | beginTag name attributes => beginTag name (attributes.map Attribute.quoted)
  | endTag name => endTag name

/-- The attributes of an opening tag; other tokens have none. -/
def attributes : Token → List Attribute
  | plainText _ => []
  | beginTag _ attributes => attributes
  | endTag _ => []

/-- The parts of the token are those of the grammar. -/
def IsGrammatical : Token → Prop
  | plainText text => IsText text
  | beginTag name attributes =>
    IsElementName name ∧ ∀ entry ∈ attributes, entry.IsGrammatical
  | endTag name => FreeOf ('<' :: '>' :: '=' :: blankCharacters) name.toList

/-- The token as markup, with its values as they are. -/
def spelling : Token → List Char
  | plainText text => text.toList
  | beginTag name attributes =>
    '<' :: (name.toList ++ (attributes.flatMap fun entry => ' ' :: entry.spelling) ++ ['>'])
  | endTag name => '<' :: '/' :: (name.toList ++ ['>'])

theorem isGrammatical_iff (token : Token) :
    token.IsGrammatical ↔
      token.IsCanonical ∧ ∀ entry ∈ token.attributes, entry.value ≠ "" := by
  cases token with
  | plainText text => simp [IsGrammatical, IsCanonical, attributes]
  | endTag name => simp [IsGrammatical, IsCanonical, attributes]
  | beginTag name entries =>
      simp only [IsGrammatical, IsCanonical, attributes, Attribute.isGrammatical_iff]
      rw [and_assoc, ← forall₂_and]

theorem isGrammatical_quoted_iff (token : Token) :
    token.quoted.IsGrammatical ↔ token.IsCanonical := by
  cases token with
  | plainText text => rfl
  | endTag name => rfl
  | beginTag name entries =>
      simp [quoted, IsGrammatical, IsCanonical, Attribute.isGrammatical_quoted_iff]

theorem toList_display (token : Token) :
    token.display.toList = token.quoted.spelling := by
  cases token with
  | plainText text => rfl
  | endTag name => simp [display, quoted, spelling]
  | beginTag name entries =>
      simp [display, quoted, spelling, List.flatMap_map, Attribute.toList_markup]

theorem isText_quoted (token : Token) : token.quoted.isText = token.isText := by
  cases token with
  | plainText text => rfl
  | beginTag name entries => rfl
  | endTag name => rfl

end Token

theorem separated_map_quoted_iff {tokens : List Token} :
    Separated Token.isText (tokens.map Token.quoted) ↔
      Separated Token.isText tokens := by
  simp only [Separated, List.isChain_map, Token.isText_quoted]

/-! ## Grammatical tokens are written markup -/

theorem exists_writtenAttributes
    {attributes : List Attribute}
    (grammatical : ∀ entry ∈ attributes, entry.IsGrammatical) :
    ∃ written : List WrittenAttribute,
      written.map WrittenAttribute.entry = attributes ∧
      written.flatMap WrittenAttribute.characters =
        attributes.flatMap fun entry => ' ' :: entry.spelling := by
  induction attributes with
  | nil => exact ⟨[], rfl, rfl⟩
  | cons entry others inductionHypothesis =>
      rcases List.forall_mem_cons.mp grammatical with ⟨⟨isKey, isValue⟩, othersGrammatical⟩
      rcases inductionHypothesis othersGrammatical with ⟨written, entries, characters⟩
      let first : WrittenAttribute :=
        { gap := [' ']
          entry := entry
          gap_nonempty := by simp
          gap_blank := by decide
          isKey := isKey
          isValue := isValue }
      refine ⟨first :: written, ?_, ?_⟩
      · rw [List.map_cons, entries]
      · rw [List.flatMap_cons, List.flatMap_cons, characters]
        rfl

/-- The spelling of a grammatical tag is a written tag. -/
theorem exists_writtenTag
    {token : Token}
    (grammatical : token.IsGrammatical)
    (notText : token.isText = false) :
    ∃ tag : WrittenTag,
      tag.token = token ∧
      token.spelling = '<' :: (tag.body ++ ['>']) := by
  cases token with
  | plainText text => cases notText
  | beginTag name attributes =>
      rcases grammatical with ⟨⟨isName, notSlash⟩, attributesGrammatical⟩
      rcases exists_writtenAttributes attributesGrammatical with
        ⟨written, entries, characters⟩
      refine
        ⟨{ name := name
           attributes := written
           ending := []
           isName := isName
           ending_blank := by decide },
          ?_, ?_⟩
      · rw [WrittenTag.token, if_neg notSlash, WrittenTag.entries, entries]
      · rw [WrittenTag.body, characters, List.append_nil]
        rfl
  | endTag name =>
      refine
        ⟨{ name := "/" ++ name
           attributes := []
           ending := []
           isName := ?_
           ending_blank := by decide },
          ?_, ?_⟩
      · have slashFree : FreeOf ('<' :: '>' :: '=' :: blankCharacters) "/".toList := by decide
        constructor
        · simp
        · rw [String.toList_append]
          exact slashFree.append grammatical
      · simp [WrittenTag.token]
      · simp [WrittenTag.body, Token.spelling]

/-- In front of the spelling of a tag, a run of text stops. -/
theorem stopsAt_spellings
    {tokens : List Token}
    (notText : tokens.head?.any Token.isText = false) :
    StopsAt isTextChar (tokens.flatMap Token.spelling) := by
  cases tokens with
  | nil => exact stopsAt_nil isTextChar
  | cons token others =>
      cases token with
      | plainText text => cases notText
      | beginTag name attributes => exact stopsAt_cons.mpr (by decide)
      | endTag name => exact stopsAt_cons.mpr (by decide)

/-- The spellings of grammatical tokens, no two of them texts side by side, are written markup. -/
theorem exists_written_of_grammatical
    {tokens : List Token}
    (grammatical : ∀ token ∈ tokens, token.IsGrammatical)
    (separated : Separated Token.isText tokens) :
    ∃ markup : WrittenMarkup,
      markup.characters = tokens.flatMap Token.spelling ∧
      markup.tokens = tokens := by
  induction tokens with
  | nil => exact ⟨.empty, rfl, rfl⟩
  | cons token others inductionHypothesis =>
      rcases List.forall_mem_cons.mp grammatical with ⟨tokenGrammatical, othersGrammatical⟩
      rcases separated_cons_iff.mp separated with ⟨notBothTexts, othersSeparated⟩
      rcases inductionHypothesis othersGrammatical othersSeparated with
        ⟨markup, characters, tokens⟩
      cases isText : token.isText with
      | false =>
          rcases exists_writtenTag tokenGrammatical isText with ⟨tag, tagToken, spelling⟩
          refine ⟨markup.withTag tag, ?_, ?_⟩
          · rw [List.flatMap_cons, spelling, ← characters]
            simp
          · rw [WrittenMarkup.tokens_withTag, tagToken, tokens]
      | true =>
          rw [isText, Bool.true_and] at notBothTexts
          have stops := stopsAt_spellings notBothTexts
          rw [← characters] at stops
          cases token with
          | beginTag name attributes => cases isText
          | endTag name => cases isText
          | plainText text =>
              have textGrammatical : IsText text := tokenGrammatical
              refine ⟨markup.withText text textGrammatical, ?_, ?_⟩
              · rw [List.flatMap_cons, ← characters, WrittenMarkup.characters_withText]
                rfl
              · rw [WrittenMarkup.tokens_withText textGrammatical stops, tokens]

theorem tokenize_of_grammatical
    {tokens : List Token} {text : String}
    (grammatical : ∀ token ∈ tokens, token.IsGrammatical)
    (separated : Separated Token.isText tokens)
    (spelled : text.toList = tokens.flatMap Token.spelling) :
    tokenize text = .ok tokens := by
  rcases exists_written_of_grammatical grammatical separated with
    ⟨markup, characters, sameTokens⟩
  rw [← sameTokens]
  exact tokenize_of_written (spelled.trans characters.symm)

/-! ## Tokens that are read are grammatical -/

theorem WrittenTag.isGrammatical_token (tag : WrittenTag) :
    tag.token.IsGrammatical := by
  rcases tag.isName with ⟨nonempty, free⟩
  rw [token]
  split
  · intro character member
    rw [String.toList_ofList] at member
    exact free character (List.mem_of_mem_tail member)
  · next notSlash =>
    refine ⟨⟨tag.isName, notSlash⟩, ?_⟩
    intro entry member
    rcases List.mem_map.mp member with ⟨written, _, rfl⟩
    exact ⟨written.isKey, written.isValue⟩

theorem WrittenTag.isText_token (tag : WrittenTag) :
    tag.token.isText = false := by
  rw [token]
  split <;> rfl

theorem WrittenText.isGrammatical_of_mem_tokens
    {text : WrittenText} {token : Token}
    (member : token ∈ text.tokens) :
    token.IsGrammatical := by
  rw [tokens_eq] at member
  have unblank := stopsAt_dropWhile isBlank text.characters
  split at member
  · cases member
  · next first others shown =>
    rw [List.mem_singleton] at member
    subst member
    rw [shown] at unblank
    refine ⟨?_, ?_, ?_⟩
    · simp
    · intro character inText
      rw [String.toList_ofList, ← shown] at inText
      exact text.freeOfBrackets character
        ((List.dropWhile_sublist isBlank).subset inText)
    · rw [String.toList_ofList, startsUnblank_iff]
      exact unblank

theorem WrittenMarkup.isGrammatical_of_mem_tokens
    {markup : WrittenMarkup} {token : Token}
    (member : token ∈ markup.tokens) :
    token.IsGrammatical := by
  rcases List.mem_append.mp member with inLeading | inSections
  · exact WrittenText.isGrammatical_of_mem_tokens inLeading
  · rcases List.mem_flatMap.mp inSections with ⟨⟨tag, text⟩, _, inSection⟩
    rcases List.mem_cons.mp inSection with rfl | inText
    · exact tag.isGrammatical_token
    · exact WrittenText.isGrammatical_of_mem_tokens inText

theorem WrittenText.separated_tokens (text : WrittenText) :
    Separated Token.isText text.tokens := by
  rw [tokens_eq]
  split
  · exact .nil
  · exact .singleton _

private theorem separated_append_sectionTokens
    (leading : WrittenText) (sections : List (WrittenTag × WrittenText)) :
    Separated Token.isText (leading.tokens ++ WrittenMarkup.sectionTokens sections) := by
  induction sections generalizing leading with
  | nil =>
      rw [WrittenMarkup.sectionTokens, List.flatMap_nil, List.append_nil]
      exact leading.separated_tokens
  | cons first others inductionHypothesis =>
      rcases first with ⟨tag, text⟩
      rw [WrittenMarkup.sectionTokens_cons, separated_append_iff, separated_cons_iff,
        List.head?_cons, Option.any_some, tag.isText_token]
      exact
        ⟨leading.separated_tokens, ⟨Bool.false_and _, inductionHypothesis text⟩,
          Bool.and_false _⟩

/-- The tokens of a text are grammatical, and no two of them are texts side by side. -/
theorem isGrammatical_of_tokenize
    {text : String} {tokens : List Token}
    (read : tokenize text = .ok tokens) :
    (∀ token ∈ tokens, token.IsGrammatical) ∧ Separated Token.isText tokens := by
  rcases exists_written_of_tokenize read with ⟨markup, _, rfl⟩
  constructor
  · intro token member
    exact WrittenMarkup.isGrammatical_of_mem_tokens member
  · exact separated_append_sectionTokens markup.leading markup.sections

/-- Grammatical tokens without texts side by side are all the tokens that texts have. -/
theorem exists_tokenize_eq_ok_iff {tokens : List Token} :
    (∃ text : String, tokenize text = .ok tokens) ↔
      (∀ token ∈ tokens, token.IsGrammatical) ∧ Separated Token.isText tokens := by
  constructor
  · rintro ⟨text, read⟩
    exact isGrammatical_of_tokenize read
  · rintro ⟨grammatical, separated⟩
    refine ⟨String.ofList (tokens.flatMap Token.spelling), ?_⟩
    exact tokenize_of_grammatical grammatical separated String.toList_ofList

/-! ## Canonical tokens are read from their display -/

theorem tokenize_of_canonical
    {tokens : List Token} {text : String}
    (canonical : ∀ token ∈ tokens, token.IsCanonical)
    (separated : Separated Token.isText tokens)
    (displayed : text.toList = tokens.flatMap fun token => token.display.toList) :
    tokenize text = .ok (tokens.map Token.quoted) := by
  apply tokenize_of_grammatical
  · rw [List.forall_mem_map]
    intro token member
    exact token.isGrammatical_quoted_iff.mpr (canonical token member)
  · exact separated_map_quoted_iff.mpr separated
  · rw [displayed, List.flatMap_map]
    simp only [Token.toList_display]

/--
Reading undoes the display of tokens, up to the quotes that it puts around
values, exactly if the tokens are canonical and no two of them are texts side
by side.
-/
theorem tokenize_join_display_iff (tokens : List Token) :
    tokenize (String.join (tokens.map Token.display)) = .ok (tokens.map Token.quoted) ↔
      (∀ token ∈ tokens, token.IsCanonical) ∧ Separated Token.isText tokens := by
  constructor
  · intro read
    rcases isGrammatical_of_tokenize read with ⟨grammatical, separated⟩
    refine ⟨?_, separated_map_quoted_iff.mp separated⟩
    intro token member
    exact token.isGrammatical_quoted_iff.mp
      (grammatical token.quoted (List.mem_map_of_mem member))
  · rintro ⟨canonical, separated⟩
    apply tokenize_of_canonical canonical separated
    rw [String.toList_join, List.flatMap_map]

example :
    tokenize "</><//>é <a k x =\"\">" =
      .ok
        [.endTag "", .endTag "/", .plainText "é ",
          .beginTag "a" [{ key := "k x ", value := "\"\"" }]] := by
  with_unfolding_all rfl

end TagTree
