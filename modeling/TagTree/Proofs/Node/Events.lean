import TagTree.Proofs.Node.Prefixes

/-!
# What building reports

Building reports every element that it completes, with the number of its
children.  An element is completed by its closing tag, after all elements inside
it, so the reports of a tree list its elements in post-order.

While tokens are read, the reports list the elements of the completed nodes on
the stack, from the bottom up.  Texts and opening tags add no element.  A closing
tag replaces the children of an element by the element, which stands behind them
in post-order.  A closing tag that is refused reports nothing, so the reports of
a failed construction are those of the nodes completed in front of it.
-/

namespace TagTree

namespace Event

/-- The events with the given message, in order. -/
def withMessage (message : String) (events : List Event) : List Event :=
  events.filter fun event => event.message = message

/-- The report that an element of the given name and number of children was completed. -/
def completion : String × Nat → Event
  | (name, children) => closed name children

@[simp]
theorem withMessage_append (message : String) (left right : List Event) :
    withMessage message (left ++ right) =
      withMessage message left ++ withMessage message right :=
  List.filter_append left right

theorem withMessage_reverse_cons_of_eq
    {message : String} {event : Event}
    (same : event.message = message)
    (earlier : List Event) :
    withMessage message (event :: earlier).reverse =
      withMessage message earlier.reverse ++ [event] := by
  rw [List.reverse_cons, withMessage_append]
  simp [withMessage, same]

theorem withMessage_reverse_cons_of_ne
    {message : String} {event : Event}
    (different : event.message ≠ message)
    (earlier : List Event) :
    withMessage message (event :: earlier).reverse =
      withMessage message earlier.reverse := by
  rw [List.reverse_cons, withMessage_append]
  simp [withMessage, different]

end Event

namespace Node

mutual

/--
The elements of a tree with the numbers of their children, each element behind
those inside it.
-/
def postOrder : Node → List (String × Nat)
  | element name _ children => postOrderEach children ++ [(name, children.length)]
  | text _ => []

/-- The elements of the trees, tree after tree. -/
def postOrderEach : List Node → List (String × Nat)
  | [] => []
  | child :: others => postOrder child ++ postOrderEach others

end

@[simp]
theorem postOrderEach_eq_flatMap (nodes : List Node) :
    postOrderEach nodes = nodes.flatMap postOrder := by
  induction nodes with
  | nil => simp [postOrderEach]
  | cons child others inductionHypothesis =>
      simp [postOrderEach, inductionHypothesis]

@[simp]
theorem postOrder_text (content : String) : (text content).postOrder = [] := by
  simp [postOrder]

@[simp]
theorem postOrder_element
    (name : String) (attributes : List Attribute) (children : List Node) :
    (element name attributes children).postOrder =
      children.flatMap postOrder ++ [(name, children.length)] := by
  simp [postOrder]

end Node

namespace Pending

/-- The elements that are completed in an item; an open element is not. -/
def postOrder : Pending → List (String × Nat)
  | opened _ _ _ => []
  | completed node => node.postOrder

@[simp]
theorem postOrder_opened (name : String) (attributes : List Attribute) (index : Nat) :
    (opened name attributes index).postOrder = [] := rfl

@[simp]
theorem postOrder_completed (node : Node) :
    (completed node).postOrder = node.postOrder := rfl

theorem flatMap_postOrder_map_completed (nodes : List Node) :
    (nodes.map completed).flatMap postOrder = nodes.flatMap Node.postOrder := by
  rw [List.flatMap_map]
  rfl

end Pending

namespace Construction

open Pending Event

/--
The events, latest first, report the elements completed on the stack, and
nothing has been put into an element around the top-level nodes.
-/
structure Logged (events : List Event) (stack : List Pending) : Prop where
  completions :
    withMessage "closed element" events.reverse =
      (stack.reverse.flatMap Pending.postOrder).map completion
  unwrapped : withMessage "wrapping top-level nodes" events.reverse = []

namespace Logged

variable {events : List Event} {stack : List Pending}

theorem nil : Logged [] [] where
  completions := rfl
  unwrapped := rfl

/-- Looking at a token reports no element. -/
theorem visited
    (logged : Logged events stack)
    (index : Nat) (kind : TokenKind) :
    Logged (.visited index kind :: events) stack where
  completions := by
    rw [withMessage_reverse_cons_of_ne (by simp [message]), logged.completions]
  unwrapped := by
    rw [withMessage_reverse_cons_of_ne (by simp [message]), logged.unwrapped]

/-- An item in which no element is completed can be put on the stack. -/
theorem push
    (logged : Logged events stack)
    (item : Pending)
    (noElement : item.postOrder = []) :
    Logged events (item :: stack) where
  completions := by
    rw [logged.completions]
    simp [noElement]
  unwrapped := logged.unwrapped

/-- A closing tag reports the element that it completes behind the elements inside it. -/
theorem close
    {name : String} {index : Nat} {outside : List Pending}
    {children : List Node} {attributes : List Attribute}
    (logged : Logged events stack)
    (closed : close name index stack = .ok (children, attributes, outside)) :
    Logged (.closed name children.length :: events)
      (completed (.element name attributes children) :: outside) where
  completions := by
    rcases close_eq_ok_iff.mp closed with ⟨openIndex, rfl⟩
    rw [withMessage_reverse_cons_of_eq (by simp [message]), logged.completions]
    simp [flatMap_postOrder_map_completed, completion]
  unwrapped := by
    rw [withMessage_reverse_cons_of_ne (by simp [message]), logged.unwrapped]

end Logged

/-! ## Runs over tokens that are read -/

theorem gatherEvents_of_ok
    {construction : Construction} {nodes : List Node}
    (built : construction.result = .ok nodes)
    (rootName : String) :
    construction.gatherEvents rootName =
      if nodes.length = 1 then [] else [.wrapped nodes.length rootName] := by
  rw [gatherEvents, built]
  match nodes with
  | [] => rfl
  | [node] => rfl
  | first :: second :: others => simp

end Construction

end TagTree
