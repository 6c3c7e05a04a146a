import TagTree.Node.Markup
import TagTree.Proofs.Node.Tokens
import TagTree.Proofs.Text.Reads

/-!
# The markup of a tree and the display of its tokens

There are two ways to write a document: as a tree, and token by token.  A tag
displays each of its attributes with a space in front, while an element joins
the attributes with spaces and puts one more in front of them all.  The two
ways give the same text, so what a tree is written as can be read off the
tokens it was built from.
-/

namespace TagTree

namespace Node

theorem openingTag_eq_display (name : String) (attributes : List Attribute) :
    openingTag name attributes = (Token.beginTag name attributes).display := by
  cases attributes with
  | nil => simp [openingTag, Token.display]
  | cons entry others =>
      simp only [openingTag, Token.display, Attribute.markupList, List.isEmpty_cons,
        Bool.false_eq_true, if_false, List.map_cons, List.map_map, Function.comp_def,
        intercalate_cons_eq_append_join, String.join_cons, String.append_assoc]

theorem closingTag_eq_display (name : String) :
    closingTag name = (Token.endTag name).display := rfl

private theorem join_map_markup_of_forall
    {nodes : List Node}
    (eachDisplayed :
      ∀ node ∈ nodes, node.markup = String.join (node.tokens.map Token.display)) :
    String.join (nodes.map markup) =
      String.join ((nodes.flatMap tokens).map Token.display) := by
  induction nodes with
  | nil => rfl
  | cons node others inductionHypothesis =>
      rcases List.forall_mem_cons.mp eachDisplayed with ⟨nodeDisplayed, othersDisplayed⟩
      simp only [List.map_cons, String.join_cons, List.flatMap_cons, List.map_append,
        String.join_append, nodeDisplayed, inductionHypothesis othersDisplayed]

theorem markup_eq_join_display (node : Node) :
    node.markup = String.join (node.tokens.map Token.display) := by
  induction node with
  | text content => simp [markup, Token.display]
  | element name attributes children inductionHypothesis =>
      have childrenMarkup := join_map_markup_of_forall inductionHypothesis
      simp [markup, childrenMarkup, openingTag_eq_display, closingTag_eq_display,
        String.append_assoc]

/-- Nodes side by side are written as their tokens are displayed side by side. -/
theorem join_map_markup (nodes : List Node) :
    String.join (nodes.map markup) =
      String.join ((nodes.flatMap tokens).map Token.display) :=
  join_map_markup_of_forall fun node _ => node.markup_eq_join_display

theorem toList_markup (node : Node) :
    node.markup.toList = node.tokens.flatMap fun token => token.display.toList := by
  rw [markup_eq_join_display, String.toList_join, List.flatMap_map]

end Node

/--
A tree is written as the tokens from which it was built are displayed, one
after the other.  If these are not the tokens of a single node, the tags of the
element that holds the nodes stand around them.
-/
theorem markup_of_buildTree
    {rootName : String} {tokens : List Token} {tree : Node}
    (built : buildTree rootName tokens = .ok tree) :
    (∃ nodes : List Node, tokens = nodes.flatMap Node.tokens) ∧
    ∀ nodes : List Node,
      tokens = nodes.flatMap Node.tokens →
        tree.markup =
          if nodes.length = 1 then
            String.join (tokens.map Token.display)
          else
            "<" ++ rootName ++ ">" ++ String.join (tokens.map Token.display) ++
              "</" ++ rootName ++ ">" := by
  rcases buildTree_eq_ok_iff.mp built with ⟨nodes, flattened, gathered⟩
  refine ⟨⟨nodes, flattened⟩, ?_⟩
  intro otherNodes otherFlattened
  have sameNodes : nodes = otherNodes :=
    Node.flatMap_tokens_injective (flattened.symm.trans otherFlattened)
  subst sameNodes
  rcases Node.gather_eq_iff.mp gathered with rfl | ⟨several, rfl⟩
  · simpa [flattened] using tree.markup_eq_join_display
  · have nodesMarkup := Node.join_map_markup nodes
    rw [← flattened] at nodesMarkup
    simp [several, Node.markup, Node.openingTag, Node.closingTag, nodesMarkup,
      String.append_assoc]

theorem markup_of_buildTree_two_nodes :
    ∃ tree : Node,
      buildTree "doc"
          [.beginTag "a" [{ key := "k", value := "é" }, { key := "k x", value := "" }],
            .plainText "1 ", .endTag "a", .plainText ""] =
        .ok tree ∧
      tree.markup = "<doc><a k=\"é\" k x=\"\">1 </a></doc>" := by
  let nodes : List Node :=
    [.element "a" [{ key := "k", value := "é" }, { key := "k x", value := "" }]
      [.text "1 "],
      .text ""]
  have built :
      buildTree "doc"
          [.beginTag "a" [{ key := "k", value := "é" }, { key := "k x", value := "" }],
            .plainText "1 ", .endTag "a", .plainText ""] =
        .ok (.element "doc" [] nodes) := rfl
  refine ⟨_, built, ?_⟩
  rw [(markup_of_buildTree built).2 nodes (by simp [nodes])]
  decide +kernel

end TagTree
