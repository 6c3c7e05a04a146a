import TagTree.Attribute

/-!
# Trees of nodes

A document is a tree.  A node is either an element with a name, attributes
and children in document order, or a piece of text.
-/

namespace TagTree

/-- An element with its children, or a piece of text. -/
inductive Node where
  /-- An element; its children are in document order. -/
  | element (name : String) (attributes : List Attribute) (children : List Node)
  /-- A piece of text. -/
  | text (content : String)

namespace Node

mutual

/-- Two nodes are compared part by part. -/
def decEq : (left right : Node) → Decidable (left = right)
  | element leftName leftAttributes leftChildren,
    element rightName rightAttributes rightChildren =>
    if sameName : leftName = rightName then
      if sameAttributes : leftAttributes = rightAttributes then
        match decEqEach leftChildren rightChildren with
        | isTrue sameChildren =>
          isTrue (by rw [sameName, sameAttributes, sameChildren])
        | isFalse different =>
          isFalse (by intro same; injection same; contradiction)
      else isFalse (by intro same; injection same; contradiction)
    else isFalse (by intro same; injection same; contradiction)
  | text left, text right =>
    if same : left = right then
      isTrue (by rw [same])
    else isFalse (by intro sameNode; injection sameNode; contradiction)
  | element _ _ _, text _ => isFalse Node.noConfusion
  | text _, element _ _ _ => isFalse Node.noConfusion

/-- Two lists of nodes are compared node by node. -/
def decEqEach : (left right : List Node) → Decidable (left = right)
  | [], [] => isTrue rfl
  | left :: leftOthers, right :: rightOthers =>
    match decEq left right with
    | isTrue sameFirst =>
      match decEqEach leftOthers rightOthers with
      | isTrue sameOthers => isTrue (by rw [sameFirst, sameOthers])
      | isFalse different =>
        isFalse (by intro same; injection same; contradiction)
    | isFalse different =>
      isFalse (by intro same; injection same; contradiction)
  | [], _ :: _ => isFalse (by simp)
  | _ :: _, [] => isFalse (by simp)

end

instance : DecidableEq Node :=
  decEq

/-- The name of the element that holds the top-level nodes of a document without a single root. -/
def syntheticRootName : String := "Root"

/-- The name of an element; a text has none. -/
def name? : Node → Option String
  | element name _ _ => some name
  | text _ => none

/-- The attributes of an element; a text has none. -/
def attributes? : Node → Option (List Attribute)
  | element _ attributes _ => some attributes
  | text _ => none

/-- The content of a text. -/
def content? : Node → Option String
  | element _ _ _ => none
  | text content => some content

/-- The children of an element in document order; a text has none. -/
def children : Node → List Node
  | element _ _ children => children
  | text _ => []

/-- The node reached by going down to the child with each index in turn. -/
def descendant? : Node → List Nat → Option Node
  | node, [] => some node
  | node, index :: others =>
    match node.children[index]? with
    | none => none
    | some child => child.descendant? others

/-- The element looks like one that was made to hold the top-level nodes. -/
def isSyntheticRoot : Node → Bool
  | element name attributes _ => name == syntheticRootName && attributes.isEmpty
  | text _ => false

mutual

/-- All text in a node, in document order. -/
def textContent : Node → String
  | element _ _ children => String.join (textContentEach children)
  | text content => content

/-- All text in each of the nodes. -/
def textContentEach : List Node → List String
  | [] => []
  | child :: others => textContent child :: textContentEach others

end

@[simp]
theorem textContentEach_eq_map (nodes : List Node) :
    textContentEach nodes = nodes.map textContent := by
  induction nodes with
  | nil => simp [textContentEach]
  | cons child others inductionHypothesis =>
      simp [textContentEach, inductionHypothesis]

end Node

end TagTree
