import TagTree.Node.Json
import TagTree.Proofs.Json.Layout
import TagTree.Proofs.Node.Tokens

/-!
# The JSON of a tree shows the tree

The JSON value of a node determines the node: a text and an element differ in
their type, and an element has its name, its attributes and its children in its
data.  Since the compact and the indented text of a value determine the value,
two different trees never have the same text, whatever their names, keys, values
and texts contain.
-/

namespace TagTree

theorem Attribute.toJson_injective : Function.Injective Attribute.toJson := by
  intro left right same
  cases left
  cases right
  simpa [toJson] using same

namespace Node

theorem toJson_element
    (name : String) (attributes : List Attribute) (children : List Node) :
    (element name attributes children).toJson =
      .object
        [("type", .string "element"),
         ("data", .object
           [("name", .string name),
            ("attributes", .array (attributes.map Attribute.toJson)),
            ("children", .array (children.map toJson))])] := by
  simp [toJson]

theorem toJson_text (content : String) :
    (text content).toJson =
      .object [("type", .string "text"), ("data", .string content)] := by
  simp [toJson]

/-- Nodes that are determined by their JSON are determined by it in a list, too. -/
theorem eq_of_map_toJson_eq
    {left right : List Node}
    (determined : ∀ node ∈ left, ∀ other : Node, node.toJson = other.toJson → node = other)
    (same : left.map toJson = right.map toJson) :
    left = right := by
  induction left generalizing right with
  | nil => exact (List.map_eq_nil_iff.mp same.symm).symm
  | cons first others inductionHypothesis =>
      rcases List.forall_mem_cons.mp determined with ⟨firstDetermined, othersDetermined⟩
      cases right with
      | nil => simp at same
      | cons otherFirst otherOthers =>
          rw [List.map_cons, List.map_cons, List.cons.injEq] at same
          rw [firstDetermined otherFirst same.1,
            inductionHypothesis othersDetermined same.2]

theorem toJson_injective : Function.Injective toJson := by
  intro node
  induction node with
  | text content =>
      intro other same
      cases other with
      | text otherContent => simpa [toJson_text] using same
      | element name attributes children => simp [toJson_text, toJson_element] at same
  | element name attributes children inductionHypothesis =>
      intro other same
      cases other with
      | text content => simp [toJson_text, toJson_element] at same
      | element otherName otherAttributes otherChildren =>
          simp only [toJson_element, Json.object.injEq, Json.string.injEq, Json.array.injEq,
            List.cons.injEq, Prod.mk.injEq, true_and, and_true] at same
          rcases same with ⟨rfl, sameAttributes, sameChildren⟩
          have sameAttributes : attributes = otherAttributes :=
            (List.map_inj_right fun _ _ same => Attribute.toJson_injective same).mp
              sameAttributes
          rw [sameAttributes, eq_of_map_toJson_eq inductionHypothesis sameChildren]

/--
A tree is determined by its indented JSON text, and likewise by its compact one,
whatever its names, keys, values and texts contain.
-/
theorem json_texts_eq_iff (left right : Node) :
    (left.toJson.pretty = right.toJson.pretty ↔ left = right) ∧
    (left.toJson.compact = right.toJson.compact ↔ left = right) := by
  constructor
  · constructor
    · intro same
      exact toJson_injective (Json.pretty_injective same)
    · rintro rfl
      rfl
  · constructor
    · intro same
      exact toJson_injective (Json.compact_injective same)
    · rintro rfl
      rfl

end Node

end TagTree
