import TagTree.Proofs.Node.Tokens

/-!
# Errors from open tags alone

Whether a sequence of tokens is properly nested, and which error it has if it
is not, depends only on the names and the indices of the tags that are open.
This file defines a scan that keeps nothing else and shows that building
follows it step by step.

The completed nodes on the builder's stack are invisible to the scan, so the
stack is related to the scan by dropping them.  Taking items off the stack up
to an open element and completing them in document order then meets the open
tags from the outside in, which is why the error names the outermost of the
tags that a closing tag would skip over.
-/

namespace TagTree

/-- A tag that is still open: its name and its index among the tokens. -/
structure OpenTag where
  /-- The name of the tag. -/
  name : String
  /-- The index of the tag among the tokens. -/
  index : Nat
deriving DecidableEq

namespace OpenTag

/-- The error of a tag that is not closed in time. -/
def unclosed (tag : OpenTag) : StructureError :=
  .unclosedTag tag.name tag.index

/--
What a closing tag does to the open tags, innermost first.  It has no match if
no open tag has its name; it closes the innermost open tag if that has its
name; otherwise the fault lies with the open tag directly inside the nearest
one of its name.
-/
def close (name : String) (index : Nat) (openTags : List OpenTag) :
    Except StructureError (List OpenTag) :=
  if ∀ tag ∈ openTags, tag.name ≠ name then
    .error (.unmatchedEndTag name index)
  else
    match (openTags.takeWhile fun tag => tag.name ≠ name).getLast? with
    | none => .ok openTags.tail
    | some directlyInside => .error directlyInside.unclosed

/-- The open tags after the tokens, of which the first has the given index. -/
def scan (openTags : List OpenTag) (index : Nat) :
    List Token → Except StructureError (List OpenTag)
  | [] => .ok openTags
  | .plainText _ :: others => scan openTags (index + 1) others
  | .beginTag name _ :: others => scan ({ name, index } :: openTags) (index + 1) others
  | .endTag name :: others =>
    match close name index openTags with
    | .error error => .error error
    | .ok outer => scan outer (index + 1) others

/-- After the last token the outermost tag that is still open is at fault. -/
def finish (openTags : List OpenTag) : Except StructureError Unit :=
  match openTags.getLast? with
  | none => .ok ()
  | some outermost => .error outermost.unclosed

/-- The error of a sequence of tokens, if it has one. -/
def verdict (tokens : List Token) : Except StructureError Unit :=
  (scan [] 0 tokens).bind finish

theorem close_of_forall_ne
    {name : String} {openTags : List OpenTag}
    (noneNamed : ∀ tag ∈ openTags, tag.name ≠ name)
    (index : Nat) :
    close name index openTags = .error (.unmatchedEndTag name index) := by
  rw [close, if_pos noneNamed]

theorem close_append_cons
    {name : String} {skipped : List OpenTag}
    (noneNamed : ∀ tag ∈ skipped, tag.name ≠ name)
    (index openIndex : Nat) (outer : List OpenTag) :
    close name index (skipped ++ { name, index := openIndex } :: outer) =
      (finish skipped).map fun _ => outer := by
  have someNamed :
      ¬ ∀ tag ∈ skipped ++ { name, index := openIndex } :: outer,
        tag.name ≠ name := by
    intro noneOfAll
    exact noneOfAll { name, index := openIndex } (by simp) rfl
  have skippedFirst :
      (skipped ++ { name, index := openIndex } :: outer).takeWhile
          (fun tag => tag.name ≠ name) =
        skipped := by
    rw [List.takeWhile_append_of_pos (by simpa using noneNamed)]
    simp
  rw [close, if_neg someNamed, skippedFirst, finish]
  cases skipped with
  | nil => rfl
  | cons first others =>
      rw [List.getLast?_cons]
      rfl

end OpenTag

namespace Pending

/-- The tag of an open element; a completed node has none. -/
def openTag? : Pending → Option OpenTag
  | opened name _ index => some { name, index }
  | completed _ => none

/-- The tags that are open on a stack, in the order of the stack. -/
def openTags (items : List Pending) : List OpenTag :=
  items.filterMap openTag?

@[simp]
theorem openTags_nil : openTags [] = [] := rfl

@[simp]
theorem openTags_opened_cons
    (name : String) (attributes : List Attribute) (index : Nat)
    (others : List Pending) :
    openTags (opened name attributes index :: others) =
      { name, index } :: openTags others := rfl

@[simp]
theorem openTags_completed_cons (node : Node) (others : List Pending) :
    openTags (completed node :: others) = openTags others := rfl

@[simp]
theorem openTags_append (left right : List Pending) :
    openTags (left ++ right) = openTags left ++ openTags right :=
  List.filterMap_append

@[simp]
theorem openTags_reverse (items : List Pending) :
    openTags items.reverse = (openTags items).reverse :=
  List.filterMap_reverse

theorem ne_of_mem_openTags
    {name : String} {items : List Pending}
    (notOpened : ∀ item ∈ items, item.opens name = false) :
    ∀ tag ∈ openTags items, tag.name ≠ name := by
  intro tag member
  rcases List.mem_filterMap.mp member with ⟨item, itemMember, itemTag⟩
  have itemNotOpened := notOpened item itemMember
  cases item with
  | opened openName attributes index =>
      cases itemTag
      simpa using itemNotOpened
  | completed node => cases itemTag

/-- Completing items fails exactly at the first of them that is still open. -/
theorem map_nodes_eq_finish (items : List Pending) :
    (nodes items).map (fun _ => ()) = OpenTag.finish (openTags items).reverse := by
  induction items with
  | nil => rfl
  | cons item others inductionHypothesis =>
      cases item with
      | opened name attributes index =>
          simp [OpenTag.finish, OpenTag.unclosed, Except.map]
      | completed node =>
          rw [nodes_completed_cons, openTags_completed_cons, ← inductionHypothesis]
          cases nodes others <;> rfl

end Pending

namespace Construction

open Pending

/-- A closing tag does to the builder's stack what it does to the open tags on it. -/
theorem map_close_eq
    (name : String) (index : Nat) (stack : List Pending) :
    (close name index stack).map (fun (_, _, outside) => openTags outside) =
      OpenTag.close name index (openTags stack) := by
  rcases notOpened_or_nearest name stack with
    notOpened | ⟨taken, attributes, openIndex, outside, rfl, notOpened⟩
  · rw [close_of_not_opens notOpened,
      OpenTag.close_of_forall_ne (ne_of_mem_openTags notOpened)]
    rfl
  · -- The items come off the stack innermost first and are completed in document
    -- order, so the open tags among them are met from the outside in.
    have completion := map_nodes_eq_finish taken.reverse
    rw [openTags_reverse, List.reverse_reverse] at completion
    rw [close_nearest notOpened, openTags_append, openTags_opened_cons,
      OpenTag.close_append_cons (ne_of_mem_openTags notOpened), ← completion]
    cases Pending.nodes taken.reverse <;> rfl

/-- Building from a stack on fails exactly as the scan of the open tags on it does. -/
theorem map_resultFrom_eq
    (stack : List Pending) (index : Nat) (tokens : List Token) :
    (resultFrom stack index tokens).map (fun _ => ()) =
      (OpenTag.scan (openTags stack) index tokens).bind OpenTag.finish := by
  induction tokens generalizing stack index with
  | nil =>
      rw [resultFrom_nil, map_nodes_eq_finish, openTags_reverse, List.reverse_reverse]
      rfl
  | cons token others inductionHypothesis =>
      cases token with
      | plainText text =>
          rw [resultFrom_plainText_cons, inductionHypothesis]
          rfl
      | beginTag name attributes =>
          rw [resultFrom_beginTag_cons, inductionHypothesis]
          rfl
      | endTag name =>
          have step := map_close_eq name index stack
          cases closed : close name index stack with
          | error error =>
              rw [closed] at step
              rw [resultFrom_endTag_of_error closed, OpenTag.scan, ← step]
              rfl
          | ok parts =>
              rcases parts with ⟨children, attributes, outside⟩
              rw [closed] at step
              rw [resultFrom_endTag_of_ok closed, inductionHypothesis,
                OpenTag.scan, ← step]
              rfl

theorem map_result_ofTokens_eq (tokens : List Token) :
    (ofTokens tokens).result.map (fun _ => ()) = OpenTag.verdict tokens :=
  map_resultFrom_eq [] 0 tokens

theorem map_buildTree_eq (rootName : String) (tokens : List Token) :
    (buildTree rootName tokens).map (fun _ => ()) = OpenTag.verdict tokens := by
  rw [← map_result_ofTokens_eq, buildTree, tree]
  cases (ofTokens tokens).result <;> rfl

end Construction

theorem OpenTag.verdict_eq_ok_iff {tokens : List Token} :
    verdict tokens = .ok () ↔ scan [] 0 tokens = .ok [] := by
  rw [verdict]
  cases scan [] 0 tokens with
  | error error => simp [Except.bind]
  | ok openTags =>
      cases openTags with
      | nil => simp [Except.bind, finish]
      | cons innermost outer => simp [Except.bind, finish, List.getLast?_cons]

theorem buildTree_eq_error_iff
    {rootName : String} {tokens : List Token} {error : StructureError} :
    buildTree rootName tokens = .error error ↔
      OpenTag.verdict tokens = .error error := by
  rw [← Construction.map_buildTree_eq rootName tokens]
  cases buildTree rootName tokens <;> simp [Except.map]

theorem exists_buildTree_eq_ok_iff {rootName : String} {tokens : List Token} :
    (∃ tree : Node, buildTree rootName tokens = .ok tree) ↔
      OpenTag.verdict tokens = .ok () := by
  rw [← Construction.map_buildTree_eq rootName tokens]
  cases buildTree rootName tokens <;> simp [Except.map]

/--
The error of building is the one that the scan of open tags finds, and
building succeeds exactly if that scan ends with no tag open.
-/
theorem buildTree_error_iff_verdict
    (rootName : String) (tokens : List Token) :
    (∀ error : StructureError,
      buildTree rootName tokens = .error error ↔
        OpenTag.verdict tokens = .error error) ∧
    ((∃ tree : Node, buildTree rootName tokens = .ok tree) ↔
      OpenTag.scan [] 0 tokens = .ok []) := by
  constructor
  · intro error
    exact buildTree_eq_error_iff
  · rw [← OpenTag.verdict_eq_ok_iff]
    exact exists_buildTree_eq_ok_iff

example :
    buildTree "Root"
        [.beginTag "a" [], .beginTag "b" [], .beginTag "c" [], .endTag "a"] =
      .error (.unclosedTag "b" 1) := rfl

end TagTree
