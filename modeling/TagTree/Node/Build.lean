import TagTree.Event
import TagTree.Node.Basic

/-!
# Trees from tokens

A tree is rebuilt from a sequence of tokens with a stack of pending items:
completed nodes and elements that are still open.  A closing tag completes
the nearest open element of its name.  It is an error if there is none, if
that would skip over another open element, and if an element is still open
after the last token.

Of several elements that stay open the one opened first is reported.
-/

namespace TagTree

/-- Why a sequence of tokens is not properly nested. -/
inductive StructureError where
  /-- No element of this name is open at the closing tag with this index. -/
  | unmatchedEndTag (name : String) (index : Nat)
  /-- The element opened by the token with this index is not closed in time. -/
  | unclosedTag (name : String) (index : Nat)
deriving DecidableEq

namespace StructureError

/-- The name in the tag at fault. -/
def name : StructureError → String
  | unmatchedEndTag name _ => name
  | unclosedTag name _ => name

/-- The index of the tag at fault among the tokens. -/
def index : StructureError → Nat
  | unmatchedEndTag _ index => index
  | unclosedTag _ index => index

/-- The sentence that reports the error. -/
def message : StructureError → String
  | unmatchedEndTag name _ => "closing tag </" ++ name ++ "> has no matching opening tag"
  | unclosedTag name _ => "opening tag <" ++ name ++ "> is never closed"

end StructureError

/-- An item of the builder's stack. -/
inductive Pending where
  /-- An element opened by the token with the given index. -/
  | opened (name : String) (attributes : List Attribute) (index : Nat)
  /-- A completed node. -/
  | completed (node : Node)

namespace Pending

/-- The node of a completed item; an open element has none yet. -/
def node : Pending → Except StructureError Node
  | opened name _ index => .error (.unclosedTag name index)
  | completed node => .ok node

/-- The nodes of items in document order, or the error of the first that is still open. -/
def nodes (items : List Pending) : Except StructureError (List Node) :=
  items.mapM node

/--
Takes items off a stack up to the nearest open element of the given name.
The result holds the items inside that element in document order, its
attributes and the stack outside it; `inside` holds the items taken off before.
-/
def takeTo (name : String) (inside : List Pending) :
    List Pending → Option (List Pending × List Attribute × List Pending)
  | [] => none
  | opened openName attributes index :: outside =>
    if openName = name then
      some (inside, attributes, outside)
    else
      takeTo name (opened openName attributes index :: inside) outside
  | completed node :: outside => takeTo name (completed node :: inside) outside

end Pending

/-- The outcome of building: what happened, and the top-level nodes or an error. -/
structure Construction where
  /-- What happened, in order. -/
  events : List Event
  /-- The top-level nodes in document order, or why there are none. -/
  result : Except StructureError (List Node)

namespace Construction

/--
The children and the attributes of the element that a closing tag completes,
with the stack outside that element.
-/
def close (name : String) (index : Nat) (stack : List Pending) :
    Except StructureError (List Node × List Attribute × List Pending) :=
  match Pending.takeTo name [] stack with
  | none => .error (.unmatchedEndTag name index)
  | some (inside, attributes, outside) =>
    match Pending.nodes inside with
    | .error error => .error error
    | .ok children => .ok (children, attributes, outside)

/--
Goes on building with the given stack at the token with the given index;
`events` holds what happened before, latest first.
-/
def run (events : List Event) (stack : List Pending) (index : Nat) :
    List Token → Construction
  | [] => { events := events.reverse, result := Pending.nodes stack.reverse }
  | .plainText text :: others =>
    run (.visited index .plainText :: events) (.completed (.text text) :: stack)
      (index + 1) others
  | .beginTag name attributes :: others =>
    run (.visited index .beginTag :: events) (.opened name attributes index :: stack)
      (index + 1) others
  | .endTag name :: others =>
    let events := .visited index .endTag :: events
    match close name index stack with
    | .error error => { events := events.reverse, result := .error error }
    | .ok (children, attributes, outside) =>
      run (.closed name children.length :: events)
        (.completed (.element name attributes children) :: outside) (index + 1) others

/-- Builds the top-level nodes of a sequence of tokens. -/
def ofTokens (tokens : List Token) : Construction :=
  run [] [] 0 tokens

end Construction

namespace Node

/-- A single node as it is, and any other number of nodes in an element of the given name. -/
def gather (rootName : String) : List Node → Node
  | [node] => node
  | nodes => element rootName [] nodes

end Node

namespace Construction

/-- The tree of the nodes built, with the given name for an element around them. -/
def tree (construction : Construction) (rootName : String) : Except StructureError Node :=
  construction.result.map (Node.gather rootName)

/-- What is reported of gathering the nodes built: that an element is put around them. -/
def gatherEvents (construction : Construction) (rootName : String) : List Event :=
  match construction.result with
  | .error _ => []
  | .ok [_] => []
  | .ok nodes => [.wrapped nodes.length rootName]

/-- What happened in building and gathering. -/
def allEvents (construction : Construction) (rootName : String) : List Event :=
  construction.events ++ construction.gatherEvents rootName

end Construction

/-- The tree of a sequence of tokens, with the given name for an element around several nodes. -/
def buildTree (rootName : String) (tokens : List Token) : Except StructureError Node :=
  (Construction.ofTokens tokens).tree rootName

end TagTree
