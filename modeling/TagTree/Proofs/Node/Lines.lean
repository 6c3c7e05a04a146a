import TagTree.Proofs.Node.Outline

/-!
# The lines of an outline

An outline has one row for each node.  A row is one line unless its label
contains newlines.  The newlines of texts are made visible, and names and values
contain no blanks, so the only newlines in the labels of a canonical tree are
those in the keys of attributes.  Each of them begins one line more than the
nodes account for.  Without them the lines are the rows.
-/

namespace TagTree

open Grammar

/-! ## Nodes in document order -/

namespace Node

mutual

/-- The number of nodes in a tree, elements and texts. -/
def nodeCount : Node → Nat
  | element _ _ children => nodeCountEach children + 1
  | text _ => 1

/-- The number of nodes in all of the trees. -/
def nodeCountEach : List Node → Nat
  | [] => 0
  | child :: others => nodeCount child + nodeCountEach others

end

mutual

/-- The nodes of a tree in document order, each with the number of elements around it. -/
def preorderAt (depth : Nat) : Node → List (Nat × Node)
  | element name attributes children =>
    (depth, element name attributes children) :: preorderEachAt (depth + 1) children
  | text content => [(depth, text content)]

/-- The nodes of each of the trees, in the order of the trees. -/
def preorderEachAt (depth : Nat) : List Node → List (Nat × Node)
  | [] => []
  | child :: others => preorderAt depth child ++ preorderEachAt depth others

end

@[simp]
theorem preorderEachAt_eq_flatMap (depth : Nat) (nodes : List Node) :
    preorderEachAt depth nodes = nodes.flatMap (preorderAt depth) := by
  induction nodes with
  | nil => simp [preorderEachAt]
  | cons child others inductionHypothesis =>
      simp [preorderEachAt, inductionHypothesis]

/-- The rows of a tree belong to its nodes in document order. -/
theorem rowsAt_eq_map_preorderAt (depth : Nat) (node : Node) :
    node.rowsAt depth =
      (node.preorderAt depth).map fun (depth, node) => { depth, label := node.label } := by
  induction node generalizing depth with
  | text content => simp [preorderAt, rowsAt_text]
  | element name attributes children inductionHypothesis =>
      rw [rowsAt_element, preorderAt, preorderEachAt_eq_flatMap, List.map_cons,
        List.map_flatMap,
        List.flatMap_congr fun child member => inductionHypothesis child member (depth + 1)]
      rfl

private theorem length_flatMap_preorderAt_of_forall
    {depth : Nat} {nodes : List Node}
    (eachCounted : ∀ node ∈ nodes, (node.preorderAt depth).length = node.nodeCount) :
    (nodes.flatMap (preorderAt depth)).length = nodeCountEach nodes := by
  induction nodes with
  | nil => rfl
  | cons node others inductionHypothesis =>
      rcases List.forall_mem_cons.mp eachCounted with ⟨nodeCounted, othersCounted⟩
      rw [List.flatMap_cons, List.length_append, nodeCounted,
        inductionHypothesis othersCounted, nodeCountEach]

theorem length_preorderAt (depth : Nat) (node : Node) :
    (node.preorderAt depth).length = node.nodeCount := by
  induction node generalizing depth with
  | text content => simp [preorderAt, nodeCount]
  | element name attributes children inductionHypothesis =>
      have inChildren :
          (children.flatMap (preorderAt (depth + 1))).length = nodeCountEach children :=
        length_flatMap_preorderAt_of_forall fun child member =>
          inductionHypothesis child member (depth + 1)
      rw [preorderAt, preorderEachAt_eq_flatMap, nodeCount, List.length_cons, inChildren]

theorem length_rowsAt (depth : Nat) (node : Node) :
    (node.rowsAt depth).length = node.nodeCount := by
  rw [rowsAt_eq_map_preorderAt, List.length_map, length_preorderAt]

end Node

/-! ## Lines of rows -/

namespace Row

/-- The row without the newline at its end. -/
def line (row : Row) : List Char :=
  List.replicate (2 * row.depth) ' ' ++ row.label.toList

theorem characters_eq_line_append (row : Row) : row.characters = row.line ++ ['\n'] := by
  rw [characters, line, List.append_assoc]

theorem count_newline_line (row : Row) :
    row.line.count '\n' = row.label.toList.count '\n' := by
  simp [line, List.count_replicate]

theorem count_newline_flatMap_characters (rows : List Row) :
    (rows.flatMap characters).count '\n' =
      rows.length + (rows.flatMap fun row => row.label.toList).count '\n' := by
  induction rows with
  | nil => rfl
  | cons row others inductionHypothesis =>
      rw [List.flatMap_cons, List.flatMap_cons, List.count_append, List.count_append,
        characters_eq_line_append, List.count_append, count_newline_line,
        inductionHypothesis, List.count_singleton_self, List.length_cons]
      omega

/-- Rows without newlines in their labels are one line each, and nothing stands behind them. -/
theorem splitOn_newline_flatMap_characters
    {rows : List Row}
    (oneLine : ∀ row ∈ rows, '\n' ∉ row.label.toList) :
    (rows.flatMap characters).splitOn '\n' = rows.map line ++ [[]] := by
  induction rows with
  | nil => rfl
  | cons row others inductionHypothesis =>
      rcases List.forall_mem_cons.mp oneLine with ⟨rowOneLine, othersOneLine⟩
      have lineOneLine : '\n' ∉ row.line := by
        rw [← List.count_eq_zero, count_newline_line, List.count_eq_zero]
        exact rowOneLine
      rw [List.flatMap_cons, characters_eq_line_append, List.append_assoc,
        List.singleton_append, List.splitOn_append_cons_self_of_not_mem lineOneLine,
        inductionHypothesis othersOneLine]
      rfl

end Row

/-- There is one line more than there are newlines. -/
theorem length_splitOn_newline (characters : List Char) :
    (characters.splitOn '\n').length = characters.count '\n' + 1 := by
  induction characters with
  | nil => rfl
  | cons first others inductionHypothesis =>
      rw [List.splitOn_cons_eq_if_modifyHead]
      split
      · next newline =>
        rw [eq_of_beq newline, List.length_cons, inductionHypothesis, List.count_cons_self]
      · next notNewline =>
        rw [List.length_modifyHead, inductionHypothesis, List.count_cons, if_neg notNewline]

/-! ## Newlines in labels -/

/-- The characters of the keys of all the attributes. -/
def Attribute.keyCharacters (attributes : List Attribute) : List Char :=
  attributes.flatMap fun entry => entry.key.toList

theorem Grammar.FreeOf.newline_not_mem
    {text : List Char}
    (free : FreeOf ('<' :: '>' :: '=' :: blankCharacters) text) :
    '\n' ∉ text :=
  fun member => free '\n' member (by decide)

theorem Attribute.IsCanonical.count_newline_markup
    {entry : Attribute}
    (canonical : entry.IsCanonical) :
    entry.markup.toList.count '\n' = entry.key.toList.count '\n' := by
  have noneInValue := List.count_eq_zero.mpr canonical.2.newline_not_mem
  simp [markup, noneInValue]

theorem count_newline_flatMap_congr
    {α : Type} {items : List α} {left right : α → List Char}
    (same : ∀ item ∈ items, (left item).count '\n' = (right item).count '\n') :
    (items.flatMap left).count '\n' = (items.flatMap right).count '\n' := by
  rw [List.count_flatMap, List.count_flatMap]
  exact congrArg List.sum (List.map_congr_left same)

namespace Node

theorem toList_openingTag (name : String) (attributes : List Attribute) :
    (openingTag name attributes).toList =
      '<' ::
        (name.toList ++
          (attributes.flatMap (fun entry => ' ' :: entry.markup.toList) ++ ['>'])) := by
  rw [openingTag_eq_display]
  simp [Token.display, String.toList_join, List.flatMap_map]

/-- The newlines of a canonical opening tag are those in the keys of its attributes. -/
theorem count_newline_openingTag
    {name : String} {attributes : List Attribute}
    (canonical : (Token.beginTag name attributes).IsCanonical) :
    (openingTag name attributes).toList.count '\n' =
      (Attribute.keyCharacters attributes).count '\n' := by
  rcases canonical with ⟨isName, attributesCanonical⟩
  have noneInName := List.count_eq_zero.mpr isName.1.2.newline_not_mem
  have inAttributes :
      (attributes.flatMap fun entry => ' ' :: entry.markup.toList).count '\n' =
        (Attribute.keyCharacters attributes).count '\n' := by
    apply count_newline_flatMap_congr
    intro entry member
    rw [List.count_cons_of_ne (by decide)]
    exact (attributesCanonical entry member).count_newline_markup
  rw [toList_openingTag, List.count_cons_of_ne (by decide), List.count_append, noneInName,
    List.count_append, inAttributes]
  simp

theorem count_newline_labels
    {node : Node}
    (canonical : node.IsCanonical)
    (depth : Nat) :
    ((node.rowsAt depth).flatMap fun row => row.label.toList).count '\n' =
      (Attribute.keyCharacters node.allAttributes).count '\n' := by
  induction node generalizing depth with
  | text content =>
      have noneInLabel := List.count_eq_zero.mpr (newline_not_mem_label_text content)
      simpa [rowsAt_text, allAttributes, Attribute.keyCharacters] using noneInLabel
  | element name attributes children inductionHypothesis =>
      rcases canonical with ⟨isName, attributesCanonical, childrenCanonical, _⟩
      have inTag := @count_newline_openingTag name attributes ⟨isName, attributesCanonical⟩
      have inChildren :
          (children.flatMap fun child =>
              (child.rowsAt (depth + 1)).flatMap fun row => row.label.toList).count '\n' =
            (children.flatMap fun child =>
              Attribute.keyCharacters child.allAttributes).count '\n' := by
        apply count_newline_flatMap_congr
        intro child member
        have childCanonical := isCanonicalEach_iff.mp childrenCanonical child member
        exact inductionHypothesis child member childCanonical (depth + 1)
      rw [rowsAt_element, List.flatMap_cons, List.flatMap_assoc, List.count_append, inTag,
        inChildren, allAttributes, allAttributesEach_eq_flatMap, Attribute.keyCharacters,
        Attribute.keyCharacters, List.flatMap_append, List.flatMap_assoc, List.count_append]
      rfl

theorem map_line_rowsAt (depth : Nat) (node : Node) :
    (node.rowsAt depth).map Row.line =
      (node.preorderAt depth).map fun (depth, node) =>
        List.replicate (2 * depth) ' ' ++ node.label.toList := by
  rw [rowsAt_eq_map_preorderAt, List.map_map]
  rfl

/-- An outline has a newline for each node and for each newline in a key. -/
theorem count_newline_outline
    {tree : Node}
    (canonical : tree.IsCanonical) :
    tree.outline.toList.count '\n' =
      tree.nodeCount + (Attribute.keyCharacters tree.allAttributes).count '\n' := by
  rw [outline, toList_outlineAt, Row.count_newline_flatMap_characters, length_rowsAt,
    count_newline_labels canonical]

/--
The lines of an outline are the indented labels of the nodes in document order
exactly if no key contains a newline.
-/
theorem splitOn_newline_outline_iff
    {tree : Node}
    (canonical : tree.IsCanonical) :
    tree.outline.toList.splitOn '\n' =
        ((tree.preorderAt 0).map fun (depth, node) =>
          List.replicate (2 * depth) ' ' ++ node.label.toList) ++ [[]] ↔
      '\n' ∉ Attribute.keyCharacters tree.allAttributes := by
  rw [← map_line_rowsAt]
  have inLabels := count_newline_labels canonical 0
  constructor
  · -- There is one line more than newlines, which leaves no newline for the keys.
    intro lines
    have count := congrArg List.length lines
    rw [length_splitOn_newline, count_newline_outline canonical, List.length_append,
      List.length_map, length_rowsAt, List.length_singleton] at count
    rw [← List.count_eq_zero]
    omega
  · intro noneInKeys
    rw [← List.count_eq_zero] at noneInKeys
    rw [outline, toList_outlineAt]
    apply Row.splitOn_newline_flatMap_characters
    intro row member inLabel
    rw [noneInKeys, List.count_eq_zero] at inLabels
    exact inLabels (List.mem_flatMap.mpr ⟨row, member, inLabel⟩)

end Node

end TagTree
