import TagTree.Proofs.Text.Reads
import TagTree.Token.Grammar

/-!
# Markup as it is written

The language of markup without any reference to the way it is read.  A written
tag is a name, attributes with the blanks in front of each, and blanks at its
end; written markup is text and tags in turn.  Each written form carries the
proofs that its parts are well formed, spells a sequence of characters and
says which tokens it stands for.
-/

namespace TagTree

namespace Grammar

/-- Space, tab, carriage return and newline. -/
def blankCharacters : List Char := [' ', '\t', '\r', '\n']

/-- No character of the text is one of the excluded characters. -/
def FreeOf (excluded text : List Char) : Prop :=
  ∀ character ∈ text, character ∉ excluded

/-- The text consists of blanks; it may be empty. -/
def BlankText (text : List Char) : Prop :=
  ∀ character ∈ text, character ∈ blankCharacters

/-- The text does not begin with a blank. -/
def StartsUnblank (text : List Char) : Prop :=
  ∀ first ∈ text.head?, first ∉ blankCharacters

/-- Names of tags and values of attributes: neither brackets nor equals signs nor blanks. -/
def IsName (name : String) : Prop :=
  name ≠ "" ∧ FreeOf ('<' :: '>' :: '=' :: blankCharacters) name.toList

/-- Keys of attributes: neither brackets nor equals signs, and no blank in front. -/
def IsKey (key : String) : Prop :=
  key ≠ "" ∧ FreeOf ['<', '>', '='] key.toList ∧ StartsUnblank key.toList

/-- Names of elements: the names without a slash in front. -/
def IsElementName (name : String) : Prop :=
  IsName name ∧ name.toList.head? ≠ some '/'

/-- Texts outside of tags: no brackets, and no blank in front. -/
def IsText (text : String) : Prop :=
  text ≠ "" ∧ FreeOf ['<', '>'] text.toList ∧ StartsUnblank text.toList

instance (excluded text : List Char) : Decidable (FreeOf excluded text) :=
  List.decidableBAll (· ∉ excluded) text

instance (text : List Char) : Decidable (BlankText text) :=
  List.decidableBAll (· ∈ blankCharacters) text

instance (text : List Char) : Decidable (StartsUnblank text) :=
  Option.decidableForallMem text.head?

instance (name : String) : Decidable (IsName name) :=
  inferInstanceAs (Decidable (_ ∧ _))

instance (key : String) : Decidable (IsKey key) :=
  inferInstanceAs (Decidable (_ ∧ _ ∧ _))

instance (name : String) : Decidable (IsElementName name) :=
  inferInstanceAs (Decidable (_ ∧ _))

instance (text : String) : Decidable (IsText text) :=
  inferInstanceAs (Decidable (_ ∧ _ ∧ _))

theorem freeOf_append_iff {excluded left right : List Char} :
    FreeOf excluded (left ++ right) ↔ FreeOf excluded left ∧ FreeOf excluded right :=
  List.forall_mem_append

theorem FreeOf.append {excluded left right : List Char}
    (leftFree : FreeOf excluded left)
    (rightFree : FreeOf excluded right) :
    FreeOf excluded (left ++ right) :=
  freeOf_append_iff.mpr ⟨leftFree, rightFree⟩

theorem FreeOf.mono {fewer excluded text : List Char}
    (free : FreeOf excluded text)
    (subset : fewer ⊆ excluded) :
    FreeOf fewer text := by
  intro character member excludedToo
  exact free character member (subset excludedToo)

/-! ## The classes of characters -/

theorem isBlank_iff {character : Char} :
    isBlank character = true ↔ character ∈ blankCharacters := by
  simp [isBlank, blankCharacters, or_assoc]

theorem isBlank_eq_false_iff {character : Char} :
    isBlank character = false ↔ character ∉ blankCharacters := by
  rw [← isBlank_iff, Bool.not_eq_true]

theorem isBlank_eq_decide :
    isBlank = fun character => decide (character ∈ blankCharacters) := by
  funext character
  rw [Bool.eq_iff_iff, isBlank_iff, decide_eq_true_iff]

theorem isTextChar_iff {character : Char} :
    isTextChar character = true ↔ character ∉ ['<', '>'] := by
  simp [isTextChar, isBracket]

theorem isKeyChar_iff {character : Char} :
    isKeyChar character = true ↔ character ∉ ['<', '>', '='] := by
  simp [isKeyChar, isBracket, and_assoc]

theorem isNameChar_iff {character : Char} :
    isNameChar character = true ↔
      character ∉ '<' :: '>' :: '=' :: blankCharacters := by
  rw [isNameChar, Bool.and_eq_true, isKeyChar_iff, Bool.not_eq_true',
    isBlank_eq_false_iff]
  simp [and_assoc]

theorem blankText_iff {text : List Char} :
    BlankText text ↔ ∀ character ∈ text, isBlank character = true := by
  simp only [BlankText, isBlank_iff]

theorem freeOf_brackets_iff {text : List Char} :
    FreeOf ['<', '>'] text ↔ ∀ character ∈ text, isTextChar character = true := by
  simp only [FreeOf, isTextChar_iff]

theorem stopsAt_isTextChar_iff {text : List Char} :
    StopsAt isTextChar text ↔ ∀ first ∈ text.head?, first ∈ ['<', '>'] := by
  have bracket : ∀ first : Char, isTextChar first = false ↔ first ∈ ['<', '>'] := by
    intro first
    rw [← Bool.not_eq_true, isTextChar_iff, Decidable.not_not]
  simp only [StopsAt, bracket]

theorem startsUnblank_iff {text : List Char} :
    StartsUnblank text ↔ StopsAt isBlank text := by
  simp only [StartsUnblank, StopsAt, isBlank_eq_false_iff]

theorem isName_iff {name : String} :
    IsName name ↔ IsRun isNameChar name.toList := by
  simp only [IsName, IsRun, FreeOf, isNameChar_iff, ne_eq, String.toList_eq_nil_iff]

theorem isKey_iff {key : String} :
    IsKey key ↔ IsRun isKeyChar key.toList ∧ StopsAt isBlank key.toList := by
  simp only [IsKey, IsRun, FreeOf, isKeyChar_iff, startsUnblank_iff, ne_eq,
    String.toList_eq_nil_iff, and_assoc]

theorem isText_iff {text : String} :
    IsText text ↔ IsRun isTextChar text.toList ∧ StopsAt isBlank text.toList := by
  simp only [IsText, IsRun, freeOf_brackets_iff, startsUnblank_iff, ne_eq,
    String.toList_eq_nil_iff, and_assoc]

theorem isNameChar_of_isBlank {character : Char}
    (blank : isBlank character = true) :
    isNameChar character = false := by
  simp [isNameChar, blank]

theorem isTextChar_of_isBlank {character : Char}
    (blank : isBlank character = true) :
    isTextChar character = true := by
  rw [isBlank_iff] at blank
  rw [isTextChar_iff]
  intro bracket
  simp only [blankCharacters, List.mem_cons, List.not_mem_nil, or_false] at blank bracket
  rcases bracket with rfl | rfl <;> simp at blank

theorem BlankText.freeOf_brackets {text : List Char}
    (blank : BlankText text) :
    FreeOf ['<', '>'] text :=
  freeOf_brackets_iff.mpr fun character member =>
    isTextChar_of_isBlank (blankText_iff.mp blank character member)

theorem stopsAt_isBlank_of_isTextChar {text : List Char}
    (stops : StopsAt isTextChar text) :
    StopsAt isBlank text := by
  intro character first
  cases blank : isBlank character with
  | false => rfl
  | true =>
      have notText := stops character first
      rw [isTextChar_of_isBlank blank] at notText
      cases notText

end Grammar

open Grammar

/-! ## Written tags -/

/-- An attribute with the blanks in front of it, as it is written in a tag. -/
structure WrittenAttribute where
  /-- The blanks in front of the attribute. -/
  gap : List Char
  /-- The attribute itself. -/
  entry : Attribute
  gap_nonempty : gap ≠ []
  gap_blank : BlankText gap
  isKey : IsKey entry.key
  isValue : IsName entry.value

/-- What stands between the brackets of a tag: a name, attributes, and blanks at the end. -/
structure WrittenTag where
  /-- The name, with its slash if the tag closes an element. -/
  name : String
  /-- The attributes in order. -/
  attributes : List WrittenAttribute
  /-- The blanks in front of the closing bracket. -/
  ending : List Char
  isName : IsName name
  ending_blank : BlankText ending

/-- The characters of a written attribute. -/
def WrittenAttribute.characters (written : WrittenAttribute) : List Char :=
  written.gap ++ (written.entry.key.toList ++ '=' :: written.entry.value.toList)

namespace WrittenTag

/-- The characters between the brackets. -/
def body (tag : WrittenTag) : List Char :=
  tag.name.toList ++ (tag.attributes.flatMap WrittenAttribute.characters ++ tag.ending)

/-- The attributes without the blanks in front of them. -/
def entries (tag : WrittenTag) : List Attribute :=
  tag.attributes.map WrittenAttribute.entry

/--
The token of a tag.  A slash in front of the name makes it a closing tag of
the name without that slash, which has no attributes.
-/
def token (tag : WrittenTag) : Token :=
  if tag.name.toList.head? = some '/' then
    .endTag (String.ofList tag.name.toList.tail)
  else
    .beginTag tag.name tag.entries

/-- There are no brackets inside a tag. -/
theorem freeOf_body (tag : WrittenTag) : FreeOf ['<', '>'] tag.body := by
  have attributesFree :
      FreeOf ['<', '>'] (tag.attributes.flatMap WrittenAttribute.characters) := by
    intro character member
    rcases List.mem_flatMap.mp member with ⟨written, _, inAttribute⟩
    have signFree : FreeOf ['<', '>'] ['='] := by decide
    have entryFree :=
      (written.isKey.2.1.mono (by simp)).append
        (signFree.append (written.isValue.2.mono (by simp)))
    exact written.gap_blank.freeOf_brackets.append entryFree character inAttribute
  exact (tag.isName.2.mono (by simp)).append
    (attributesFree.append tag.ending_blank.freeOf_brackets)

theorem tagToken_eq_token (tag : WrittenTag) :
    tagToken tag.name tag.entries = tag.token := by
  rw [tagToken, token]
  split
  · next closed shape => simp [shape]
  · next notSlash =>
    rw [if_neg]
    intro slash
    rcases List.head?_eq_some_iff.mp slash with ⟨closed, shape⟩
    exact notSlash closed shape

end WrittenTag

/-! ## Written markup -/

/-- Characters outside of tags; they may be none. -/
structure WrittenText where
  /-- The characters. -/
  characters : List Char
  freeOfBrackets : FreeOf ['<', '>'] characters

/-- The token of a text without its leading blanks; there is none if nothing is left. -/
def WrittenText.tokens (text : WrittenText) : List Token :=
  match text.characters.dropWhile (· ∈ blankCharacters) with
  | [] => []
  | first :: others => [.plainText (String.ofList (first :: others))]

namespace WrittenText

/-- The text without characters. -/
def empty : WrittenText where
  characters := []
  freeOfBrackets := by simp [FreeOf]

/-- The text with blanks put in front of it. -/
def withGap (gap : List Char) (blank : BlankText gap) (text : WrittenText) :
    WrittenText where
  characters := gap ++ text.characters
  freeOfBrackets := blank.freeOf_brackets.append text.freeOfBrackets

theorem tokens_eq (text : WrittenText) :
    text.tokens =
      match text.characters.dropWhile isBlank with
      | [] => []
      | first :: others => [.plainText (String.ofList (first :: others))] := by
  rw [tokens, ← isBlank_eq_decide]

@[simp]
theorem tokens_empty : empty.tokens = [] := rfl

@[simp]
theorem tokens_withGap (gap : List Char) (blank : BlankText gap) (text : WrittenText) :
    (text.withGap gap blank).tokens = text.tokens := by
  rw [tokens_eq, tokens_eq, withGap,
    List.dropWhile_append_of_pos (blankText_iff.mp blank)]

theorem tokens_of_stopsAt
    {text : WrittenText}
    (nonempty : text.characters ≠ [])
    (unblank : StopsAt isBlank text.characters) :
    text.tokens = [.plainText (String.ofList text.characters)] := by
  rw [tokens_eq, dropWhile_of_stopsAt unblank]
  split
  · next empty => exact absurd empty nonempty
  · next first others shape => rw [shape]

end WrittenText

/-- A text, followed by tags each with a text behind it. -/
structure WrittenMarkup where
  /-- The text in front of the first tag. -/
  leading : WrittenText
  /-- The tags, each with the text behind it. -/
  sections : List (WrittenTag × WrittenText)

namespace WrittenMarkup

/-- The characters of tags and of the texts behind them. -/
def sectionCharacters (sections : List (WrittenTag × WrittenText)) : List Char :=
  sections.flatMap fun (tag, text) => '<' :: (tag.body ++ '>' :: text.characters)

/-- The tokens of tags and of the texts behind them. -/
def sectionTokens (sections : List (WrittenTag × WrittenText)) : List Token :=
  sections.flatMap fun (tag, text) => tag.token :: text.tokens

/-- All characters of the markup. -/
def characters (markup : WrittenMarkup) : List Char :=
  markup.leading.characters ++ sectionCharacters markup.sections

/-- All tokens of the markup. -/
def tokens (markup : WrittenMarkup) : List Token :=
  markup.leading.tokens ++ sectionTokens markup.sections

@[simp]
theorem sectionCharacters_cons
    (tag : WrittenTag) (text : WrittenText)
    (sections : List (WrittenTag × WrittenText)) :
    sectionCharacters ((tag, text) :: sections) =
      '<' :: (tag.body ++ '>' :: (text.characters ++ sectionCharacters sections)) := by
  simp [sectionCharacters]

@[simp]
theorem sectionTokens_cons
    (tag : WrittenTag) (text : WrittenText)
    (sections : List (WrittenTag × WrittenText)) :
    sectionTokens ((tag, text) :: sections) =
      tag.token :: (text.tokens ++ sectionTokens sections) := by
  simp [sectionTokens]

/-! ## Markup put together from the end -/

/-- The markup without characters. -/
def empty : WrittenMarkup where
  leading := .empty
  sections := []

/-- The markup with blanks put in front of it. -/
def withGap (gap : List Char) (blank : BlankText gap) (markup : WrittenMarkup) :
    WrittenMarkup where
  leading := markup.leading.withGap gap blank
  sections := markup.sections

/-- The markup with a tag put in front of it. -/
def withTag (tag : WrittenTag) (markup : WrittenMarkup) : WrittenMarkup where
  leading := .empty
  sections := (tag, markup.leading) :: markup.sections

/-- The markup with a text put in front of it. -/
def withText (text : String) (isText : IsText text) (markup : WrittenMarkup) :
    WrittenMarkup where
  leading :=
    { characters := text.toList ++ markup.leading.characters
      freeOfBrackets := isText.2.1.append markup.leading.freeOfBrackets }
  sections := markup.sections

@[simp]
theorem characters_withGap
    (gap : List Char) (blank : BlankText gap) (markup : WrittenMarkup) :
    (markup.withGap gap blank).characters = gap ++ markup.characters := by
  simp [withGap, characters, WrittenText.withGap]

@[simp]
theorem tokens_withGap
    (gap : List Char) (blank : BlankText gap) (markup : WrittenMarkup) :
    (markup.withGap gap blank).tokens = markup.tokens := by
  simp [withGap, tokens]

@[simp]
theorem characters_withTag (tag : WrittenTag) (markup : WrittenMarkup) :
    (markup.withTag tag).characters = '<' :: (tag.body ++ '>' :: markup.characters) := by
  simp [withTag, characters, WrittenText.empty]

@[simp]
theorem tokens_withTag (tag : WrittenTag) (markup : WrittenMarkup) :
    (markup.withTag tag).tokens = tag.token :: markup.tokens := by
  simp [withTag, tokens]

@[simp]
theorem characters_withText
    (text : String) (isText : IsText text) (markup : WrittenMarkup) :
    (markup.withText text isText).characters = text.toList ++ markup.characters := by
  simp [withText, characters]

/-- The text in front of the first tag is empty where a run of text stops. -/
theorem leading_characters_eq_nil
    {markup : WrittenMarkup}
    (stops : StopsAt isTextChar markup.characters) :
    markup.leading.characters = [] := by
  cases shape : markup.leading.characters with
  | nil => rfl
  | cons first others =>
      have accepted :=
        freeOf_brackets_iff.mp markup.leading.freeOfBrackets first (by simp [shape])
      rw [characters, shape, List.cons_append, stopsAt_cons, accepted] at stops
      cases stops

/-- A text in front of markup is a token of its own unless the markup begins with text. -/
theorem tokens_withText
    {text : String} (isText : IsText text) {markup : WrittenMarkup}
    (stops : StopsAt isTextChar markup.characters) :
    (markup.withText text isText).tokens = .plainText text :: markup.tokens := by
  rcases isText_iff.mp isText with ⟨run, unblank⟩
  have noLeading := leading_characters_eq_nil stops
  have noLeadingTokens : markup.leading.tokens = [] := by
    simp [WrittenText.tokens, noLeading]
  have leadingCharacters :
      (markup.withText text isText).leading.characters = text.toList := by
    simp [withText, noLeading]
  have leadingTokens :
      (markup.withText text isText).leading.tokens = [.plainText text] := by
    rw [WrittenText.tokens_of_stopsAt, leadingCharacters, String.ofList_toList]
    · rw [leadingCharacters]
      exact run.1
    · rw [leadingCharacters]
      exact unblank
  rw [tokens, tokens, leadingTokens, noLeadingTokens]
  rfl

end WrittenMarkup

end TagTree
