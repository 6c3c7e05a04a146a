import TagTree.Document
import TagTree.Proofs.Document.RoundTrip

/-!
# The visible text of a document

All text in the tree of a document can be found without reading its tags.  A
scanner passes over the characters once and keeps those outside of brackets,
except for blanks that follow a tag or stand in front of the document.  It
knows neither names nor attributes nor nesting.

The scanner and the tree are compared through the tokens between them.  The
scanner shows the texts of written markup section by section, and the text of
a tree is the text of its tokens in order.
-/

namespace TagTree

open Grammar

/-! ## The scanner -/

namespace VisibleText

/-- What the scanner does with the next character. -/
inductive Mode where
  /-- It is outside of tags, and blanks are left out. -/
  | skipping
  /-- It is outside of tags, and blanks are kept. -/
  | copying
  /-- It is inside a tag. -/
  | inside
deriving DecidableEq

/-- The characters that the scanner keeps. -/
def scan : Mode → List Char → List Char
  | _, [] => []
  | .inside, first :: others =>
    if first = '>' then scan .skipping others else scan .inside others
  | .skipping, first :: others =>
    if first = '<' then scan .inside others
    else if first ∈ blankCharacters then scan .skipping others
    else first :: scan .copying others
  | .copying, first :: others =>
    if first = '<' then scan .inside others else first :: scan .copying others

/-- The scanner drops a tag and leaves out the blanks behind it. -/
theorem scan_inside_append
    {body : List Char} (rest : List Char)
    (noBracket : '>' ∉ body) :
    scan .inside (body ++ '>' :: rest) = scan .skipping rest := by
  induction body with
  | nil => simp [scan]
  | cons first others inductionHypothesis =>
      rw [List.mem_cons, not_or] at noBracket
      rcases noBracket with ⟨notFirst, notOthers⟩
      rw [List.cons_append, scan, if_neg (Ne.symm notFirst), inductionHypothesis notOthers]

theorem scan_copying_append
    {text : List Char} (rest : List Char)
    (noBracket : '<' ∉ text) :
    scan .copying (text ++ rest) = text ++ scan .copying rest := by
  induction text with
  | nil => rfl
  | cons first others inductionHypothesis =>
      rw [List.mem_cons, not_or] at noBracket
      rcases noBracket with ⟨notFirst, notOthers⟩
      rw [List.cons_append, scan, if_neg (Ne.symm notFirst), inductionHypothesis notOthers,
        List.cons_append]

/-- In front of a tag or at the end it does not matter whether blanks are kept. -/
theorem scan_copying_of_tagOrEnd
    {rest : List Char}
    (tagOrEnd : ∀ first ∈ rest.head?, first = '<') :
    scan .copying rest = scan .skipping rest := by
  cases rest with
  | nil => rfl
  | cons first others =>
      have isBracket : first = '<' := tagOrEnd first rfl
      simp [scan, isBracket]

/-- Of a text up to the next tag the scanner keeps all but the blanks in front. -/
theorem scan_skipping_append
    {text rest : List Char}
    (noBracket : '<' ∉ text)
    (tagOrEnd : ∀ first ∈ rest.head?, first = '<') :
    scan .skipping (text ++ rest) = text.dropWhile isBlank ++ scan .skipping rest := by
  induction text with
  | nil => rfl
  | cons first others inductionHypothesis =>
      rw [List.mem_cons, not_or] at noBracket
      rcases noBracket with ⟨notFirst, notOthers⟩
      rw [List.cons_append, scan, if_neg (Ne.symm notFirst)]
      by_cases blank : first ∈ blankCharacters
      · rw [if_pos blank, inductionHypothesis notOthers,
          List.dropWhile_cons_of_pos (isBlank_iff.mpr blank)]
      · rw [if_neg blank, scan_copying_append rest notOthers,
          scan_copying_of_tagOrEnd tagOrEnd,
          List.dropWhile_cons_of_neg (mt isBlank_iff.mp blank), List.cons_append]

end VisibleText

/-! ## Texts of tokens -/

/-- The text that a token shows: that of a plain text, and none of a tag. -/
def Token.visible : Token → List Char
  | plainText text => text.toList
  | beginTag _ _ => []
  | endTag _ => []

theorem WrittenText.flatMap_visible_tokens (text : WrittenText) :
    text.tokens.flatMap Token.visible = text.characters.dropWhile isBlank := by
  rw [tokens_eq]
  split
  · next nothing => rw [nothing]; rfl
  · next first others shown => rw [shown]; simp [Token.visible]

theorem WrittenTag.visible_token (tag : WrittenTag) :
    tag.token.visible = [] := by
  rw [token]
  split <;> rfl

/-- The scanner keeps the texts of written markup. -/
theorem WrittenMarkup.scan_sections
    (leading : WrittenText) (sections : List (WrittenTag × WrittenText)) :
    VisibleText.scan .skipping (leading.characters ++ sectionCharacters sections) =
      (leading.tokens ++ sectionTokens sections).flatMap Token.visible := by
  have noBracket : ∀ text : WrittenText, '<' ∉ text.characters :=
    fun text member => text.freeOfBrackets '<' member (by simp)
  induction sections generalizing leading with
  | nil =>
      rw [VisibleText.scan_skipping_append (noBracket leading) (by simp [sectionCharacters])]
      simp [sectionCharacters, sectionTokens, leading.flatMap_visible_tokens,
        VisibleText.scan]
  | cons first others inductionHypothesis =>
      rcases first with ⟨tag, text⟩
      have noBracketInside : '>' ∉ tag.body :=
        fun member => tag.freeOf_body '>' member (by simp)
      rw [VisibleText.scan_skipping_append (noBracket leading) (by simp),
        sectionCharacters_cons, VisibleText.scan, if_pos rfl,
        VisibleText.scan_inside_append _ noBracketInside, inductionHypothesis text,
        sectionTokens_cons]
      simp only [List.flatMap_append, List.flatMap_cons, leading.flatMap_visible_tokens,
        tag.visible_token, List.nil_append]

/-! ## Texts of trees -/

theorem Node.toList_textContent (node : Node) :
    node.textContent.toList = node.tokens.flatMap Token.visible := by
  induction node with
  | text content => simp [textContent, Token.visible]
  | element name attributes children inductionHypothesis =>
      simp only [textContent, textContentEach_eq_map, String.toList_join, List.flatMap_map,
        tokens_element, List.flatMap_cons, List.flatMap_append, List.flatMap_assoc,
        Token.visible, List.nil_append, List.flatMap_nil, List.append_nil]
      exact List.flatMap_congr inductionHypothesis

theorem Node.toList_textContent_gather (rootName : String) (nodes : List Node) :
    (gather rootName nodes).textContent.toList =
      (nodes.flatMap tokens).flatMap Token.visible := by
  generalize gathered : gather rootName nodes = tree
  rw [tree.toList_textContent]
  rcases gather_eq_iff.mp gathered with rfl | ⟨_, rfl⟩
  · rw [List.flatMap_singleton]
  · simp [Token.visible]

namespace Document

/-- The characters of a text outside of brackets, without blanks at their beginnings. -/
def visibleText (text : String) : String :=
  String.ofList (VisibleText.scan .skipping text.toList)

/-- The text in the tree of a document is the text that the scanner finds in the document. -/
theorem textContent_eq_visibleText
    {text : String} {tree : Node}
    (parsed : parse text = .ok tree) :
    tree.textContent = visibleText text := by
  rcases parse_eq_ok_iff.mp parsed with ⟨tokens, read, built⟩
  rcases buildTree_eq_ok_iff.mp built with ⟨nodes, rfl, rfl⟩
  rcases exists_written_of_tokenize read with ⟨markup, characters, sameTokens⟩
  rw [← String.toList_inj, Node.toList_textContent_gather, sameTokens, visibleText,
    String.toList_ofList, characters]
  exact (WrittenMarkup.scan_sections markup.leading markup.sections).symm

theorem textContent_eq_visibleText_nested :
    parse " é <a k=v> \n1 <b>2 </b> 3</a>" =
      .ok
        (.element "Root" []
          [.text "é ",
            .element "a" [{ key := "k", value := "v" }]
              [.text "1 ", .element "b" [] [.text "2 "], .text "3"]]) ∧
    visibleText " é <a k=v> \n1 <b>2 </b> 3</a>" = "é 1 2 3" := by
  have parsed :
      parse " é <a k=v> \n1 <b>2 </b> 3</a>" =
        .ok
          (.element "Root" []
            [.text "é ",
              .element "a" [{ key := "k", value := "v" }]
                [.text "1 ", .element "b" [] [.text "2 "], .text "3"]]) := by
    with_unfolding_all rfl
  exact ⟨parsed, (textContent_eq_visibleText parsed).symm⟩

end Document

end TagTree
