import TagTree.Json
import TagTree.Node.Basic

/-!
# Trees as JSON

A node is an object with its type and its data.  The data of a text is the
content; the data of an element is an object with name, attributes and
children.
-/

namespace TagTree

/-- An attribute as an object with key and value. -/
def Attribute.toJson (entry : Attribute) : Json :=
  .object [("key", .string entry.key), ("value", .string entry.value)]

namespace Node

mutual

/-- A node as an object with its type and its data. -/
def toJson : Node → Json
  | element name attributes children =>
    .object
      [("type", .string "element"),
       ("data", .object
         [("name", .string name),
          ("attributes", .array (attributes.map Attribute.toJson)),
          ("children", .array (toJsonEach children))])]
  | text content => .object [("type", .string "text"), ("data", .string content)]

/-- Each of the nodes as an object. -/
def toJsonEach : List Node → List Json
  | [] => []
  | child :: others => toJson child :: toJsonEach others

end

@[simp]
theorem toJsonEach_eq_map (nodes : List Node) :
    toJsonEach nodes = nodes.map toJson := by
  induction nodes with
  | nil => simp [toJsonEach]
  | cons child others inductionHypothesis =>
      simp [toJsonEach, inductionHypothesis]

end Node

end TagTree
