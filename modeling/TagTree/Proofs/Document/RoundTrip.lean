import TagTree.Document
import TagTree.Proofs.Node.Canonical
import TagTree.Proofs.Node.Markup

/-!
# Parsing what was written

The markup of a canonical tree is parsed to that tree again, except that the
quotes around attribute values have become part of the values.  Every tree that
parsing returns is canonical, so this holds of all documents that have a tree.

Conversely every canonical tree is the tree of some document if none of its
attribute values is empty.  Its markup is not that document, because of the
quotes; the spelling of its tokens is.
-/

namespace TagTree

open Grammar

namespace Document

theorem parse_eq_ok_iff {text : String} {tree : Node} :
    parse text = .ok tree ↔
      ∃ tokens : List Token,
        tokenize text = .ok tokens ∧
        buildTree Node.syntheticRootName tokens = .ok tree := by
  simp only [tokenize, Scan.result, parse]
  cases (Scan.ofText text).stall? with
  | some stall => simp
  | none =>
      cases built : buildTree Node.syntheticRootName (Scan.ofText text).tokens with
      | error error => simp [built]
      | ok otherTree => simp [built]

theorem parse_markup_of_isCanonical
    {tree : Node}
    (canonical : tree.IsCanonical) :
    parse tree.markup = .ok tree.quoteValues := by
  rcases tree.isCanonical_iff_tokens.mp canonical with ⟨tokensCanonical, separated⟩
  refine parse_eq_ok_iff.mpr ⟨tree.tokens.map Token.quoted, ?_, ?_⟩
  · exact tokenize_of_canonical tokensCanonical separated tree.toList_markup
  · apply buildTree_eq_ok_iff.mpr
    refine ⟨[tree.quoteValues], ?_, rfl⟩
    rw [List.flatMap_singleton, tree.tokens_quoteValues]

/-- Gathering nodes keeps their tokens grammatical and their texts apart. -/
theorem isGrammatical_tokens_gather
    {nodes : List Node}
    (grammatical : ∀ token ∈ nodes.flatMap Node.tokens, token.IsGrammatical)
    (separated : Separated Token.isText (nodes.flatMap Node.tokens)) :
    (∀ token ∈ (Node.gather Node.syntheticRootName nodes).tokens, token.IsGrammatical) ∧
      Separated Token.isText (Node.gather Node.syntheticRootName nodes).tokens := by
  generalize gathered : Node.gather Node.syntheticRootName nodes = tree
  rcases Node.gather_eq_iff.mp gathered with rfl | ⟨_, rfl⟩
  · rw [List.flatMap_singleton] at grammatical separated
    exact ⟨grammatical, separated⟩
  · have rootName : IsElementName Node.syntheticRootName := by decide
    rw [Node.separated_tokens_element_iff, Node.tokens_element, List.forall_mem_cons,
      List.forall_mem_append, List.forall_mem_singleton]
    exact ⟨⟨⟨rootName, by simp⟩, grammatical, rootName.1.2⟩, separated⟩

theorem exists_parse_eq_ok_iff_tokens (tree : Node) :
    (∃ text : String, parse text = .ok tree) ↔
      (∀ token ∈ tree.tokens, token.IsGrammatical) ∧
      Separated Token.isText tree.tokens := by
  constructor
  · rintro ⟨text, parsed⟩
    rcases parse_eq_ok_iff.mp parsed with ⟨tokens, read, built⟩
    rcases buildTree_eq_ok_iff.mp built with ⟨nodes, rfl, rfl⟩
    rcases isGrammatical_of_tokenize read with ⟨grammatical, separated⟩
    exact isGrammatical_tokens_gather grammatical separated
  · intro grammatical
    rcases exists_tokenize_eq_ok_iff.mpr grammatical with ⟨text, read⟩
    refine ⟨text, parse_eq_ok_iff.mpr ⟨tree.tokens, read, ?_⟩⟩
    exact buildTree_eq_ok_iff.mpr ⟨[tree], (List.flatMap_singleton ..).symm, rfl⟩

/-- Every tree that parsing returns is canonical. -/
theorem isCanonical_of_parse
    {text : String} {tree : Node}
    (parsed : parse text = .ok tree) :
    tree.IsCanonical :=
  (tree.isGrammatical_tokens_iff.mp
    ((exists_parse_eq_ok_iff_tokens tree).mp ⟨text, parsed⟩)).1

/--
The trees of documents are exactly the canonical ones without empty attribute
values.
-/
theorem exists_parse_eq_ok_iff_isCanonical (tree : Node) :
    (∃ text : String, parse text = .ok tree) ↔
      tree.IsCanonical ∧ ∀ entry ∈ tree.allAttributes, entry.value ≠ "" := by
  rw [exists_parse_eq_ok_iff_tokens, tree.isGrammatical_tokens_iff]

theorem parse_markup_eq_self_iff
    {tree : Node}
    (canonical : tree.IsCanonical) :
    parse tree.markup = .ok tree ↔ tree.AttributeFree := by
  rw [parse_markup_of_isCanonical canonical, Except.ok.injEq,
    tree.quoteValues_eq_self_iff]

/--
The markup of a canonical tree is parsed to the tree with all attribute values
in double quotes, which is the tree itself exactly if it has no attributes.
The same holds of every tree that parsing returns.
-/
theorem parse_markup_eq_quoteValues :
    (∀ tree : Node,
      tree.IsCanonical →
        parse tree.markup = .ok tree.quoteValues ∧
        (parse tree.markup = .ok tree ↔ tree.AttributeFree)) ∧
    ∀ (text : String) (tree : Node),
      parse text = .ok tree →
        parse tree.markup = .ok tree.quoteValues ∧
        (parse tree.markup = .ok tree ↔ tree.AttributeFree) := by
  constructor
  · intro tree canonical
    exact ⟨parse_markup_of_isCanonical canonical, parse_markup_eq_self_iff canonical⟩
  · intro text tree parsed
    have canonical := isCanonical_of_parse parsed
    exact ⟨parse_markup_of_isCanonical canonical, parse_markup_eq_self_iff canonical⟩

theorem parse_markup_blank_in_key :
    Node.IsCanonical
      (.element "a/b" [{ key := "k x ", value := "" }]
        [.text "é \n", .element "p" [] [.text "1, 2"]]) ∧
    parse "<a/b k x =\"\">é \n<p>1, 2</p></a/b>" =
      .ok
        (.element "a/b" [{ key := "k x ", value := "\"\"" }]
          [.text "é \n", .element "p" [] [.text "1, 2"]]) ∧
    parse "<a/b k x =\"\"\"\">é \n<p>1, 2</p></a/b>" =
      .ok
        (.element "a/b" [{ key := "k x ", value := "\"\"\"\"" }]
          [.text "é \n", .element "p" [] [.text "1, 2"]]) := by
  have canonical :
      Node.IsCanonical
        (.element "a/b" [{ key := "k x ", value := "" }]
          [.text "é \n", .element "p" [] [.text "1, 2"]]) := by
    decide
  have parsed := (parse_markup_eq_quoteValues.1 _ canonical).1
  exact ⟨canonical, parsed, (parse_markup_eq_quoteValues.2 _ _ parsed).1⟩

end Document

end TagTree
