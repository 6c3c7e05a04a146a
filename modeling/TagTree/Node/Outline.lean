import TagTree.Node.Markup

/-!
# Trees as outlines

An outline lists the nodes of a tree in document order, each on a line of its
own that begins with two spaces for each element around the node.  An element
is shown by its opening tag, a text in double quotes with its newlines and
spaces made visible.
-/

namespace TagTree.Node

/-- A newline is shown as a backslash and an `n`, a space as a middle dot. -/
def visibleChar (character : Char) : List Char :=
  if character = '\n' then ['\\', 'n']
  else if character = ' ' then ['\u00b7']
  else [character]

/-- A text with its newlines and spaces made visible. -/
def visible (content : String) : String :=
  String.ofList (content.toList.flatMap visibleChar)

/-- What an outline shows of a single node. -/
def label : Node → String
  | element name attributes _ => openingTag name attributes
  | text content => "\"" ++ visible content ++ "\""

/-- Two spaces for each level. -/
def indentation (depth : Nat) : String :=
  String.ofList (List.replicate (2 * depth) ' ')

mutual

/-- The outline of a node with the given number of elements around it. -/
def outlineAt (depth : Nat) : Node → String
  | element name attributes children =>
    indentation depth ++ label (element name attributes children) ++ "\n" ++
      String.join (outlineEachAt (depth + 1) children)
  | text content => indentation depth ++ label (text content) ++ "\n"

/-- The outlines of nodes with the given number of elements around them. -/
def outlineEachAt (depth : Nat) : List Node → List String
  | [] => []
  | child :: others => outlineAt depth child :: outlineEachAt depth others

end

@[simp]
theorem outlineEachAt_eq_map (depth : Nat) (nodes : List Node) :
    outlineEachAt depth nodes = nodes.map (outlineAt depth) := by
  induction nodes with
  | nil => simp [outlineEachAt]
  | cons child others inductionHypothesis =>
      simp [outlineEachAt, inductionHypothesis]

/-- The outline of a tree. -/
def outline (tree : Node) : String :=
  outlineAt 0 tree

end TagTree.Node
