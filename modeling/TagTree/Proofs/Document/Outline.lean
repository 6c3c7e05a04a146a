import TagTree.Proofs.Document.RoundTrip
import TagTree.Proofs.Node.Lines

/-!
# Outlines of documents

The tree of a document is canonical, so its outline shows it up to the newlines
and spaces of its texts.  These are not told from the characters that are shown
in their place, which a text may contain as well.

The outline is meant to show each node on a line of its own.  It does so exactly
for the documents without newlines in the keys of attributes: a newline in a key
is written as it is and breaks the line of its node.
-/

namespace TagTree.Document

/--
Two documents have the same outline exactly if their trees are the same once
each newline of a text is replaced by a backslash and an `n`, and each space of a
text by a middle dot.
-/
theorem outline_eq_iff_visibleTexts_eq
    {leftText rightText : String} {left right : Node}
    (leftParsed : parse leftText = .ok left)
    (rightParsed : parse rightText = .ok right) :
    left.outline = right.outline ↔ left.visibleTexts = right.visibleTexts :=
  Node.outline_eq_iff (isCanonical_of_parse leftParsed) (isCanonical_of_parse rightParsed)

/--
A space is not told from a middle dot, nor a newline from a backslash and an `n`;
other texts are told apart.
-/
theorem outline_eq_iff_visibleTexts_eq_newline_in_key :
    (∃ left right : Node,
      parse "<a k\n =v>x y\"<b></b></a>" = .ok left ∧
      parse "<a k\n =v>x·y\"<b></b></a>" = .ok right ∧
      left ≠ right ∧
      left.outline = right.outline ∧
      left.visibleTexts = right.visibleTexts) ∧
    (∃ left right : Node,
      parse "<a>x\ny</a>" = .ok left ∧
      parse "<a>x\\ny</a>" = .ok right ∧
      left ≠ right ∧
      left.outline = right.outline) ∧
    (∃ left right : Node,
      parse "<a>x</a>" = .ok left ∧
      parse "<a>y</a>" = .ok right ∧
      left.outline ≠ right.outline) := by
  have leftParsed :
      parse "<a k\n =v>x y\"<b></b></a>" =
        .ok
          (.element "a" [{ key := "k\n ", value := "v" }]
            [.text "x y\"", .element "b" [] []]) := by
    with_unfolding_all rfl
  have rightParsed :
      parse "<a k\n =v>x·y\"<b></b></a>" =
        .ok
          (.element "a" [{ key := "k\n ", value := "v" }]
            [.text "x·y\"", .element "b" [] []]) := by
    with_unfolding_all rfl
  have sameOutline :
      Node.outline
          (.element "a" [{ key := "k\n ", value := "v" }]
            [.text "x y\"", .element "b" [] []]) =
        Node.outline
          (.element "a" [{ key := "k\n ", value := "v" }]
            [.text "x·y\"", .element "b" [] []]) := by
    decide +kernel
  have newlineParsed : parse "<a>x\ny</a>" = .ok (.element "a" [] [.text "x\ny"]) := by
    with_unfolding_all rfl
  have backslashParsed : parse "<a>x\\ny</a>" = .ok (.element "a" [] [.text "x\\ny"]) := by
    with_unfolding_all rfl
  have xParsed : parse "<a>x</a>" = .ok (.element "a" [] [.text "x"]) := by
    with_unfolding_all rfl
  have yParsed : parse "<a>y</a>" = .ok (.element "a" [] [.text "y"]) := by
    with_unfolding_all rfl
  refine ⟨⟨_, _, leftParsed, rightParsed, by decide, sameOutline, ?_⟩,
    ⟨_, _, newlineParsed, backslashParsed, by decide, ?_⟩, ⟨_, _, xParsed, yParsed, ?_⟩⟩
  · exact (outline_eq_iff_visibleTexts_eq leftParsed rightParsed).mp sameOutline
  · apply (outline_eq_iff_visibleTexts_eq newlineParsed backslashParsed).mpr
    decide +kernel
  · apply mt (outline_eq_iff_visibleTexts_eq xParsed yParsed).mp
    decide +kernel

/--
The outline of a document has a newline for each node and one more for each
newline in a key.  It has as many lines as nodes, each of them the label of its
node behind two spaces for each element around it, in document order, exactly if
no key contains a newline.
-/
theorem outline_lines_iff
    {text : String} {tree : Node}
    (parsed : parse text = .ok tree) :
    tree.outline.toList.count '\n' =
      tree.nodeCount + (Attribute.keyCharacters tree.allAttributes).count '\n' ∧
    (tree.outline.toList.count '\n' = tree.nodeCount ↔
      ∀ entry ∈ tree.allAttributes, '\n' ∉ entry.key.toList) ∧
    (tree.outline.toList.splitOn '\n' =
        ((tree.preorderAt 0).map fun (depth, node) =>
          List.replicate (2 * depth) ' ' ++ node.label.toList) ++ [[]] ↔
      ∀ entry ∈ tree.allAttributes, '\n' ∉ entry.key.toList) := by
  have canonical := isCanonical_of_parse parsed
  have count := Node.count_newline_outline canonical
  have noneInKeys :
      '\n' ∉ Attribute.keyCharacters tree.allAttributes ↔
        ∀ entry ∈ tree.allAttributes, '\n' ∉ entry.key.toList := by
    simp [Attribute.keyCharacters]
  refine ⟨count, ?_, ?_⟩
  · rw [← noneInKeys, ← List.count_eq_zero]
    omega
  · rw [← noneInKeys]
    exact Node.splitOn_newline_outline_iff canonical

theorem outline_lines_iff_newline_in_text :
    ∃ tree : Node,
      parse "<a k=v>x\ny<b></b></a>" = .ok tree ∧
      tree.outline.toList.count '\n' = 3 ∧
      tree.outline.toList.splitOn '\n' =
        ["<a k=\"v\">".toList, "  \"x\\ny\"".toList, "  <b>".toList, []] := by
  have parsed :
      parse "<a k=v>x\ny<b></b></a>" =
        .ok
          (.element "a" [{ key := "k", value := "v" }]
            [.text "x\ny", .element "b" [] []]) := by
    with_unfolding_all rfl
  rcases outline_lines_iff parsed with ⟨_, oneEach, labels⟩
  have noneInKeys :
      ∀ entry ∈
          (Node.element "a" [{ key := "k", value := "v" }]
            [.text "x\ny", .element "b" [] []]).allAttributes,
        '\n' ∉ entry.key.toList := by
    decide +kernel
  refine ⟨_, parsed, oneEach.mpr noneInKeys, ?_⟩
  rw [labels.mpr noneInKeys]
  decide +kernel

/-- A newline in a key gives an outline of two lines for a single node. -/
theorem not_outline_one_line_each :
    ¬ ∀ (text : String) (tree : Node),
      parse text = .ok tree →
        tree.outline.toList.count '\n' = tree.nodeCount := by
  intro oneEach
  have parsed :
      parse "<a k\nl=v></a>" =
        .ok (.element "a" [{ key := "k\nl", value := "v" }] []) := by
    with_unfolding_all rfl
  exact absurd (oneEach _ _ parsed) (by decide +kernel)

end TagTree.Document
