import TagTree.Node.Basic

/-!
# Trees as markup

The markup of a node has a tag on each side of an element's children and
every attribute value in double quotes.  Text is written as it is.
-/

namespace TagTree.Node

/-- The opening tag of an element, with one space in front of each attribute. -/
def openingTag (name : String) (attributes : List Attribute) : String :=
  if attributes.isEmpty then
    "<" ++ name ++ ">"
  else
    "<" ++ name ++ " " ++ Attribute.markupList attributes ++ ">"

/-- The closing tag of an element. -/
def closingTag (name : String) : String :=
  "</" ++ name ++ ">"

mutual

/-- The markup of a node. -/
def markup : Node → String
  | element name attributes children =>
    openingTag name attributes ++ String.join (markupEach children) ++ closingTag name
  | text content => content

/-- The markup of each of the nodes. -/
def markupEach : List Node → List String
  | [] => []
  | child :: others => markup child :: markupEach others

end

@[simp]
theorem markupEach_eq_map (nodes : List Node) :
    markupEach nodes = nodes.map markup := by
  induction nodes with
  | nil => simp [markupEach]
  | cons child others inductionHypothesis =>
      simp [markupEach, inductionHypothesis]

end TagTree.Node
