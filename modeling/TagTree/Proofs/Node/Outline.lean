import TagTree.Node.Outline
import TagTree.Proofs.Node.Canonical
import TagTree.Proofs.Node.Markup

/-!
# What an outline tells about a tree

An outline has a row for each node, in document order, with two spaces for each
element around the node.  It has no closing tags, and the keys of attributes may
contain newlines, so a row can take several lines.  Still the outline of a
canonical tree shows the whole tree, except that it does not tell the newlines
and spaces of texts from what is shown in their place.

The rows can be told apart: the spaces in front of a label end where the label
begins, an opening tag ends at its only closing bracket, and a text ends at the
newline, because its own newlines are not shown as such.  An opening tag shows
the name and the attributes, since they can be read from it again.  And the
depths of the rows show the children of an element: they are the nodes one level
deeper, up to the first row that is not deeper than the element itself.
-/

namespace TagTree

open Grammar

/-- A row of an outline: the number of elements around a node, and its label. -/
@[ext]
structure Row where
  /-- The number of elements around the node. -/
  depth : Nat
  /-- What is shown of the node. -/
  label : String
deriving DecidableEq

/-- The characters of a row: two spaces for each level, the label and a newline. -/
def Row.characters (row : Row) : List Char :=
  List.replicate (2 * row.depth) ' ' ++ (row.label.toList ++ ['\n'])

namespace Node

mutual

/-- The rows of a node with the given number of elements around it. -/
def rowsAt (depth : Nat) : Node → List Row
  | element name attributes children =>
    { depth, label := label (element name attributes children) } ::
      rowsEachAt (depth + 1) children
  | text content => [{ depth, label := label (text content) }]

/-- The rows of nodes with the given number of elements around them. -/
def rowsEachAt (depth : Nat) : List Node → List Row
  | [] => []
  | child :: others => rowsAt depth child ++ rowsEachAt depth others

end

@[simp]
theorem rowsEachAt_eq_flatMap (depth : Nat) (nodes : List Node) :
    rowsEachAt depth nodes = nodes.flatMap (rowsAt depth) := by
  induction nodes with
  | nil => simp [rowsEachAt]
  | cons child others inductionHypothesis =>
      simp [rowsEachAt, inductionHypothesis]

theorem rowsAt_text (depth : Nat) (content : String) :
    (text content).rowsAt depth = [{ depth, label := label (text content) }] := by
  simp [rowsAt]

theorem rowsAt_element
    (depth : Nat) (name : String) (attributes : List Attribute) (children : List Node) :
    (element name attributes children).rowsAt depth =
      { depth, label := openingTag name attributes } ::
        children.flatMap (rowsAt (depth + 1)) := by
  simp [rowsAt, label]

/-- Every node has a row of its own in front of the others. -/
theorem exists_rowsAt_eq_cons (depth : Nat) (node : Node) :
    ∃ others : List Row, node.rowsAt depth = { depth, label := node.label } :: others := by
  cases node with
  | text content => exact ⟨[], rowsAt_text depth content⟩
  | element name attributes children =>
      exact ⟨_, rowsAt_element depth name attributes children⟩

theorem toList_outlineAt (depth : Nat) (node : Node) :
    (node.outlineAt depth).toList = (node.rowsAt depth).flatMap Row.characters := by
  induction node generalizing depth with
  | text content =>
      simp [outlineAt, rowsAt_text, Row.characters, indentation]
  | element name attributes children inductionHypothesis =>
      simp only [outlineAt, outlineEachAt_eq_map, rowsAt_element, List.flatMap_cons,
        List.flatMap_assoc, String.toList_append, String.toList_join, List.flatMap_map,
        Row.characters, indentation, label, String.toList_ofList, List.append_assoc]
      rw [List.flatMap_congr fun child member => inductionHypothesis child member (depth + 1)]
      rfl

/-! ## Texts made visible -/

/-- The characters with a backslash and an `n` for each newline and a middle dot for each space. -/
def substituted : List Char → List Char
  | [] => []
  | '\n' :: others => '\\' :: 'n' :: substituted others
  | ' ' :: others => '\u00b7' :: substituted others
  | character :: others => character :: substituted others

mutual

/-- The tree with newlines and spaces substituted in all its texts, and nowhere else. -/
def visibleTexts : Node → Node
  | element name attributes children =>
    element name attributes (visibleTextsEach children)
  | text content => text (String.ofList (substituted content.toList))

/-- Each of the nodes with newlines and spaces substituted in all its texts. -/
def visibleTextsEach : List Node → List Node
  | [] => []
  | child :: others => visibleTexts child :: visibleTextsEach others

end

@[simp]
theorem visibleTextsEach_eq_map (nodes : List Node) :
    visibleTextsEach nodes = nodes.map visibleTexts := by
  induction nodes with
  | nil => simp [visibleTextsEach]
  | cons child others inductionHypothesis =>
      simp [visibleTextsEach, inductionHypothesis]

/-- A text is shown with its newlines and spaces substituted. -/
theorem visible_eq_substituted (content : String) :
    visible content = String.ofList (substituted content.toList) := by
  rw [visible, String.ofList_inj]
  induction content.toList with
  | nil => rfl
  | cons first others inductionHypothesis =>
      rw [List.flatMap_cons, inductionHypothesis, visibleChar]
      by_cases newline : first = '\n'
      · rw [if_pos newline, newline]
        rfl
      · by_cases space : first = ' '
        · rw [if_neg newline, if_pos space, space]
          rfl
        · rw [if_neg newline, if_neg space, List.singleton_append, substituted]
          · exact newline
          · exact space

theorem visibleTexts_text (content : String) :
    visibleTexts (text content) = text (visible content) := by
  rw [visibleTexts, visible_eq_substituted]

/-- Neither newlines nor spaces are left in a text that has been made visible. -/
theorem not_mem_toList_visible
    {character : Char}
    (hidden : character = '\n' ∨ character = ' ')
    (content : String) :
    character ∉ (visible content).toList := by
  intro member
  rw [visible, String.toList_ofList, List.mem_flatMap] at member
  rcases member with ⟨original, _, shown⟩
  rw [visibleChar] at shown
  split at shown
  · rcases hidden with rfl | rfl <;> simp at shown
  · split at shown
    · rcases hidden with rfl | rfl <;> simp at shown
    · next notNewline notSpace =>
      rw [List.mem_singleton] at shown
      subst shown
      exact hidden.elim notNewline notSpace

theorem visible_visible (content : String) :
    visible (visible content) = visible content := by
  have unchanged :
      ∀ character ∈ (visible content).toList, visibleChar character = [character] := by
    intro character member
    have notNewline : character ≠ '\n' := by
      rintro rfl
      exact not_mem_toList_visible (Or.inl rfl) content member
    have notSpace : character ≠ ' ' := by
      rintro rfl
      exact not_mem_toList_visible (Or.inr rfl) content member
    rw [visibleChar, if_neg notNewline, if_neg notSpace]
  rw [visible, List.flatMap_congr unchanged, List.flatMap_singleton', String.ofList_toList]

/-- An outline shows a tree as if its texts were made visible. -/
theorem rowsAt_visibleTexts (depth : Nat) (node : Node) :
    node.visibleTexts.rowsAt depth = node.rowsAt depth := by
  induction node generalizing depth with
  | text content => simp [visibleTexts_text, rowsAt_text, label, visible_visible]
  | element name attributes children inductionHypothesis =>
      rw [visibleTexts, visibleTextsEach_eq_map, rowsAt_element, rowsAt_element,
        List.flatMap_map,
        List.flatMap_congr fun child member => inductionHypothesis child member (depth + 1)]

/-! ## Labels -/

/-- The label of a text is in quotes and contains no newline. -/
theorem newline_not_mem_label_text (content : String) :
    '\n' ∉ (label (text content)).toList := by
  have notShown := not_mem_toList_visible (Or.inl rfl) content
  simpa [label] using notShown

theorem label_text_inj
    {left right : String}
    (same : label (text left) = label (text right)) :
    visible left = visible right := by
  rw [label, label, ← String.toList_inj] at same
  rw [← String.toList_inj]
  simpa using same

/-- Between the brackets of a canonical opening tag there are no others. -/
theorem exists_toList_openingTag
    {name : String} {attributes : List Attribute}
    (canonical : (Token.beginTag name attributes).IsCanonical) :
    ∃ body : List Char,
      (openingTag name attributes).toList = '<' :: (body ++ ['>']) ∧
      FreeOf ['<', '>'] body := by
  have grammatical := (Token.isGrammatical_quoted_iff _).mpr canonical
  rcases exists_writtenTag grammatical rfl with ⟨tag, _, spelled⟩
  refine ⟨tag.body, ?_, tag.freeOf_body⟩
  rw [openingTag_eq_display, Token.toList_display, spelled]

theorem tokenize_openingTag
    {name : String} {attributes : List Attribute}
    (canonical : (Token.beginTag name attributes).IsCanonical) :
    tokenize (openingTag name attributes) =
      .ok [.beginTag name (attributes.map Attribute.quoted)] := by
  refine @tokenize_of_canonical [.beginTag name attributes] _ ?_ (.singleton _) ?_
  · exact List.forall_mem_singleton.mpr canonical
  · rw [openingTag_eq_display, List.flatMap_singleton]

/-- The name and the attributes can be read from a canonical opening tag. -/
theorem openingTag_inj
    {leftName rightName : String} {leftAttributes rightAttributes : List Attribute}
    (leftCanonical : (Token.beginTag leftName leftAttributes).IsCanonical)
    (rightCanonical : (Token.beginTag rightName rightAttributes).IsCanonical)
    (same : openingTag leftName leftAttributes = openingTag rightName rightAttributes) :
    leftName = rightName ∧ leftAttributes = rightAttributes := by
  have sameTokens := tokenize_openingTag leftCanonical
  rw [same, tokenize_openingTag rightCanonical] at sameTokens
  simp only [Except.ok.injEq, List.cons.injEq, Token.beginTag.injEq, and_true] at sameTokens
  rcases sameTokens with ⟨sameName, sameQuoted⟩
  have sameAttributes : leftAttributes = rightAttributes :=
    (List.map_inj_right fun _ _ => Attribute.quoted_inj).mp sameQuoted.symm
  exact ⟨sameName.symm, sameAttributes⟩

theorem label_text_ne_openingTag
    (content name : String) (attributes : List Attribute) :
    label (text content) ≠ openingTag name attributes := by
  intro same
  rw [openingTag_eq_display, label, ← String.toList_inj] at same
  simp [Token.display] at same

end Node

/-! ## Rows can be told apart -/

/--
The characters show where they end in front of a newline: a tag ends at its only
closing bracket, and what begins with a quote contains no newline.
-/
inductive Delimited : List Char → Prop where
  | tag {body : List Char} (free : FreeOf ['<', '>'] body) :
      Delimited ('<' :: (body ++ ['>']))
  | quoted {shown : List Char} (free : '\n' ∉ shown) :
      Delimited ('"' :: shown)

theorem Delimited.append_newline_inj
    {left right leftRest rightRest : List Char}
    (leftDelimited : Delimited left)
    (rightDelimited : Delimited right)
    (same : left ++ '\n' :: leftRest = right ++ '\n' :: rightRest) :
    left = right ∧ leftRest = rightRest := by
  cases leftDelimited with
  | tag leftFree =>
      cases rightDelimited with
      | tag rightFree =>
          simp only [List.cons_append, List.append_assoc, List.nil_append, List.cons.injEq,
            true_and] at same
          rcases eq_of_append_cons_eq same (freeOf_brackets_iff.mp leftFree)
              (freeOf_brackets_iff.mp rightFree) (by decide) (by decide) with
            ⟨rfl, sameRest⟩
          cases sameRest
          exact ⟨rfl, rfl⟩
      | quoted _ => simp at same
  | quoted leftFree =>
      cases rightDelimited with
      | tag _ => simp at same
      | quoted rightFree =>
          have notNewline :
              ∀ {shown : List Char}, '\n' ∉ shown →
                ∀ character ∈ shown, (character != '\n') = true := by
            intro shown free character member
            rw [bne_iff_ne]
            rintro rfl
            exact free member
          simp only [List.cons_append, List.cons.injEq, true_and] at same
          rcases eq_of_append_cons_eq same (notNewline leftFree) (notNewline rightFree)
              (by decide) (by decide) with
            ⟨rfl, sameRest⟩
          cases sameRest
          exact ⟨rfl, rfl⟩

theorem Delimited.exists_eq_cons
    {characters : List Char}
    (delimited : Delimited characters) :
    ∃ (first : Char) (others : List Char),
      characters = first :: others ∧ (first == ' ') = false := by
  cases delimited with
  | tag _ => exact ⟨_, _, rfl, by decide⟩
  | quoted _ => exact ⟨_, _, rfl, by decide⟩

namespace Row

variable {left right : Row} {leftRest rightRest : List Char}

/-- The spaces in front of a label end where the label begins. -/
theorem characters_append_inj
    (leftDelimited : Delimited left.label.toList)
    (rightDelimited : Delimited right.label.toList)
    (same : left.characters ++ leftRest = right.characters ++ rightRest) :
    left = right ∧ leftRest = rightRest := by
  rcases leftDelimited.exists_eq_cons with ⟨leftFirst, leftOthers, leftLabel, leftUnspaced⟩
  rcases rightDelimited.exists_eq_cons with
    ⟨rightFirst, rightOthers, rightLabel, rightUnspaced⟩
  have onlySpaces :
      ∀ {count : Nat}, ∀ character ∈ List.replicate count ' ', (character == ' ') = true := by
    intro count character member
    rw [List.eq_of_mem_replicate member]
    rfl
  simp only [characters, leftLabel, rightLabel, List.append_assoc, List.cons_append] at same
  rcases eq_of_append_cons_eq same onlySpaces onlySpaces leftUnspaced rightUnspaced with
    ⟨sameIndentation, sameCharacters⟩
  have sameLine :
      left.label.toList ++ '\n' :: leftRest = right.label.toList ++ '\n' :: rightRest := by
    rw [leftLabel, rightLabel]
    exact sameCharacters
  rcases leftDelimited.append_newline_inj rightDelimited sameLine with ⟨sameLabel, sameRest⟩
  have sameWidth := congrArg List.length sameIndentation
  rw [List.length_replicate, List.length_replicate] at sameWidth
  have sameDepth : left.depth = right.depth := by omega
  exact ⟨Row.ext sameDepth (String.toList_inj.mp sameLabel), sameRest⟩

theorem characters_ne_nil (row : Row) : row.characters ≠ [] := by
  simp [characters]

/-- Rows with delimited labels are determined by their characters. -/
theorem eq_of_flatMap_characters_eq
    {left right : List Row}
    (leftDelimited : ∀ row ∈ left, Delimited row.label.toList)
    (rightDelimited : ∀ row ∈ right, Delimited row.label.toList)
    (same : left.flatMap characters = right.flatMap characters) :
    left = right := by
  induction left generalizing right with
  | nil =>
      cases right with
      | nil => rfl
      | cons first others => simp [characters_ne_nil] at same
  | cons leftFirst leftOthers inductionHypothesis =>
      cases right with
      | nil => simp [characters_ne_nil] at same
      | cons rightFirst rightOthers =>
          rcases List.forall_mem_cons.mp leftDelimited with
            ⟨leftFirstDelimited, leftOthersDelimited⟩
          rcases List.forall_mem_cons.mp rightDelimited with
            ⟨rightFirstDelimited, rightOthersDelimited⟩
          rw [List.flatMap_cons, List.flatMap_cons] at same
          rcases characters_append_inj leftFirstDelimited rightFirstDelimited same with
            ⟨rfl, sameOthers⟩
          rw [inductionHypothesis leftOthersDelimited rightOthersDelimited sameOthers]

/-- The first of the rows, if there is one, has less than the given depth. -/
def Shallower (depth : Nat) (rows : List Row) : Prop :=
  ∀ row ∈ rows.head?, row.depth < depth

end Row

namespace Node

theorem delimited_label
    {node : Node}
    (canonical : node.IsCanonical) :
    Delimited node.label.toList := by
  cases node with
  | text content =>
      have notShown := newline_not_mem_label_text content
      simp only [label, String.toList_append] at notShown ⊢
      exact .quoted (fun member => notShown (List.mem_cons_of_mem _ member))
  | element name attributes children =>
      rcases exists_toList_openingTag ⟨canonical.1, canonical.2.1⟩ with ⟨body, shown, free⟩
      rw [label, shown]
      exact .tag free

theorem delimited_of_mem_rowsAt
    {node : Node} {depth : Nat} {row : Row}
    (canonical : node.IsCanonical)
    (member : row ∈ node.rowsAt depth) :
    Delimited row.label.toList := by
  induction node generalizing depth with
  | text content =>
      rw [rowsAt_text, List.mem_singleton] at member
      rw [member]
      exact delimited_label canonical
  | element name attributes children inductionHypothesis =>
      rw [rowsAt_element, List.mem_cons] at member
      rcases member with rfl | inChildren
      · exact delimited_label canonical
      · rcases List.mem_flatMap.mp inChildren with ⟨child, childMember, inChild⟩
        have childCanonical := isCanonicalEach_iff.mp canonical.2.2.1 child childMember
        exact inductionHypothesis child childMember childCanonical inChild

/-! ## Rows show the tree -/

/-- Behind nodes of some depth and rows that are less deep, no row is deeper. -/
theorem shallower_flatMap_rowsAt_append
    {depth : Nat} {rest : List Row}
    (shallower : Row.Shallower depth rest)
    (nodes : List Node) :
    Row.Shallower (depth + 1) (nodes.flatMap (rowsAt depth) ++ rest) := by
  intro row first
  cases nodes with
  | nil => exact Nat.lt_succ_of_lt (shallower row first)
  | cons node others =>
      rcases node.exists_rowsAt_eq_cons depth with ⟨following, rows⟩
      rw [List.flatMap_cons, rows] at first
      cases first
      exact Nat.lt_succ_self depth

/-- The node can be told from the rows with which a list of rows begins. -/
def ShownByRows (node : Node) : Prop :=
  ∀ (depth : Nat) (other : Node) (rest otherRest : List Row),
    other.IsCanonical →
    node.rowsAt depth ++ rest = other.rowsAt depth ++ otherRest →
    Row.Shallower (depth + 1) rest →
    Row.Shallower (depth + 1) otherRest →
      node.visibleTexts = other.visibleTexts ∧ rest = otherRest

private theorem map_visibleTexts_eq_of_rows_eq
    {nodes : List Node}
    (eachShown : ∀ node ∈ nodes, ShownByRows node)
    {depth : Nat} {others : List Node} {rest otherRest : List Row}
    (othersCanonical : ∀ node ∈ others, node.IsCanonical)
    (same :
      nodes.flatMap (rowsAt depth) ++ rest = others.flatMap (rowsAt depth) ++ otherRest)
    (shallower : Row.Shallower depth rest)
    (otherShallower : Row.Shallower depth otherRest) :
    nodes.map visibleTexts = others.map visibleTexts ∧ rest = otherRest := by
  induction nodes generalizing others with
  | nil =>
      cases others with
      | nil => exact ⟨rfl, same⟩
      | cons other following =>
          -- The rest would begin with the row of another node of this depth.
          rcases other.exists_rowsAt_eq_cons depth with ⟨_, rows⟩
          rw [List.flatMap_nil, List.nil_append, List.flatMap_cons, rows] at same
          rw [same] at shallower
          exact absurd (shallower _ rfl) (Nat.lt_irrefl depth)
  | cons node nodes inductionHypothesis =>
      rcases List.forall_mem_cons.mp eachShown with ⟨nodeShown, nodesShown⟩
      cases others with
      | nil =>
          rcases node.exists_rowsAt_eq_cons depth with ⟨_, rows⟩
          rw [List.flatMap_nil, List.nil_append, List.flatMap_cons, rows] at same
          rw [← same] at otherShallower
          exact absurd (otherShallower _ rfl) (Nat.lt_irrefl depth)
      | cons other following =>
          rcases List.forall_mem_cons.mp othersCanonical with
            ⟨otherCanonical, followingCanonical⟩
          rw [List.flatMap_cons, List.flatMap_cons, List.append_assoc,
            List.append_assoc] at same
          rcases nodeShown depth other _ _ otherCanonical same
              (shallower_flatMap_rowsAt_append shallower nodes)
              (shallower_flatMap_rowsAt_append otherShallower following) with
            ⟨sameNode, sameFollowing⟩
          rcases inductionHypothesis nodesShown followingCanonical sameFollowing with
            ⟨sameNodes, sameRest⟩
          rw [List.map_cons, List.map_cons, sameNode, sameNodes]
          exact ⟨rfl, sameRest⟩

/-- Canonical nodes can be told from their rows. -/
theorem shownByRows
    {node : Node}
    (canonical : node.IsCanonical) :
    ShownByRows node := by
  induction node with
  | text content =>
      intro depth other rest otherRest otherCanonical same _ _
      cases other with
      | text otherContent =>
          rw [rowsAt_text, rowsAt_text] at same
          simp only [List.cons_append, List.nil_append, List.cons.injEq, Row.mk.injEq,
            true_and] at same
          rw [visibleTexts_text, visibleTexts_text, label_text_inj same.1]
          exact ⟨rfl, same.2⟩
      | element name attributes children =>
          rw [rowsAt_text, rowsAt_element] at same
          simp only [List.cons_append, List.cons.injEq, Row.mk.injEq, true_and] at same
          exact absurd same.1 (label_text_ne_openingTag content name attributes)
  | element name attributes children inductionHypothesis =>
      intro depth other rest otherRest otherCanonical same shallower otherShallower
      cases other with
      | text content =>
          rw [rowsAt_text, rowsAt_element] at same
          simp only [List.cons_append, List.cons.injEq, Row.mk.injEq, true_and] at same
          exact absurd same.1.symm (label_text_ne_openingTag content name attributes)
      | element otherName otherAttributes otherChildren =>
          rw [rowsAt_element, rowsAt_element] at same
          simp only [List.cons_append, List.cons.injEq, Row.mk.injEq, true_and] at same
          rcases same with ⟨sameTag, sameRows⟩
          rcases openingTag_inj ⟨canonical.1, canonical.2.1⟩
              ⟨otherCanonical.1, otherCanonical.2.1⟩ sameTag with
            ⟨rfl, rfl⟩
          have childrenCanonical := isCanonicalEach_iff.mp canonical.2.2.1
          have childrenShown : ∀ child ∈ children, ShownByRows child := by
            intro child member
            exact inductionHypothesis child member (childrenCanonical child member)
          rcases map_visibleTexts_eq_of_rows_eq childrenShown
              (isCanonicalEach_iff.mp otherCanonical.2.2.1) sameRows shallower
              otherShallower with
            ⟨sameChildren, sameRest⟩
          rw [visibleTexts, visibleTexts, visibleTextsEach_eq_map, visibleTextsEach_eq_map,
            sameChildren]
          exact ⟨rfl, sameRest⟩

/-- Outlines of canonical trees are the same exactly if the trees are, up to visible texts. -/
theorem outline_eq_iff
    {left right : Node}
    (leftCanonical : left.IsCanonical)
    (rightCanonical : right.IsCanonical) :
    left.outline = right.outline ↔ left.visibleTexts = right.visibleTexts := by
  rw [outline, outline, ← String.toList_inj, toList_outlineAt, toList_outlineAt]
  constructor
  · intro same
    have sameRows : left.rowsAt 0 = right.rowsAt 0 :=
      Row.eq_of_flatMap_characters_eq
        (fun _ => delimited_of_mem_rowsAt leftCanonical)
        (fun _ => delimited_of_mem_rowsAt rightCanonical) same
    have noRows : Row.Shallower 1 [] := by
      intro row first
      cases first
    exact
      (shownByRows leftCanonical 0 right [] [] rightCanonical
        (congrArg (· ++ []) sameRows) noRows noRows).1
  · intro same
    rw [← left.rowsAt_visibleTexts, same, right.rowsAt_visibleTexts]

end Node

end TagTree
