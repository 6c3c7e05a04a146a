import TagTree.Node.Build

/-!
# Trees as sequences of tokens

Every node has a sequence of tokens: a text is a single token, and an element
puts its two tags around the tokens of its children.  This file shows that
building is the exact inverse of that flattening.

The stack of the builder stands for the tokens read so far: an open element
for its opening tag, a completed node for all of its tokens.  A closing tag
replaces the items inside an element by the element itself, which keeps the
tokens that the stack stands for.  So the nodes that building returns flatten
to the tokens it was given.  Conversely the tokens of a node always put that
node on the stack, whatever lies below it and whatever follows.
-/

namespace TagTree

namespace Node

/--
Induction over trees: a property of all nodes follows from the property of
texts and of elements all of whose children have it.
-/
@[induction_eliminator]
theorem treeInduction {motive : Node → Prop}
    (text : ∀ content : String, motive (.text content))
    (element :
      ∀ (name : String) (attributes : List Attribute) (children : List Node),
        (∀ child ∈ children, motive child) →
          motive (.element name attributes children))
    (node : Node) :
    motive node := by
  refine @Node.rec motive (fun nodes => ∀ child ∈ nodes, motive child)
    element text ?_ ?_ node
  · intro child member
    simp at member
  · intro first others firstHolds othersHold
    exact List.forall_mem_cons.mpr ⟨firstHolds, othersHold⟩

mutual

/-- The tokens of a node: a text as it is, an element with a tag on each side of its children. -/
def tokens : Node → List Token
  | element name attributes children =>
    .beginTag name attributes :: (tokensEach children ++ [.endTag name])
  | text content => [.plainText content]

/-- The tokens of the nodes one after the other. -/
def tokensEach : List Node → List Token
  | [] => []
  | child :: others => tokens child ++ tokensEach others

end

@[simp]
theorem tokensEach_eq_flatMap (nodes : List Node) :
    tokensEach nodes = nodes.flatMap tokens := by
  induction nodes with
  | nil => simp [tokensEach]
  | cons child others inductionHypothesis =>
      simp [tokensEach, inductionHypothesis]

@[simp]
theorem tokens_text (content : String) :
    (text content).tokens = [.plainText content] := by
  simp [tokens]

@[simp]
theorem tokens_element
    (name : String) (attributes : List Attribute) (children : List Node) :
    (element name attributes children).tokens =
      .beginTag name attributes :: (children.flatMap tokens ++ [.endTag name]) := by
  simp [tokens]

end Node

namespace Pending

/-- The tokens that an item of the stack stands for. -/
def tokens : Pending → List Token
  | opened name attributes _ => [.beginTag name attributes]
  | completed node => node.tokens

/-- The item is an open element of the given name. -/
def opens (name : String) : Pending → Bool
  | opened openName _ _ => openName == name
  | completed _ => false

@[simp]
theorem tokens_opened (name : String) (attributes : List Attribute) (index : Nat) :
    (opened name attributes index).tokens = [.beginTag name attributes] := rfl

@[simp]
theorem tokens_completed (node : Node) :
    (completed node).tokens = node.tokens := rfl

@[simp]
theorem opens_opened
    (name openName : String) (attributes : List Attribute) (index : Nat) :
    (opened openName attributes index).opens name = (openName == name) := rfl

@[simp]
theorem opens_completed (name : String) (node : Node) :
    (completed node).opens name = false := rfl

@[simp]
theorem nodes_opened_cons
    (name : String) (attributes : List Attribute) (index : Nat)
    (others : List Pending) :
    nodes (opened name attributes index :: others) =
      .error (.unclosedTag name index) := by
  simp only [nodes, List.mapM_cons, node]
  rfl

@[simp]
theorem nodes_completed_cons (node : Node) (others : List Pending) :
    nodes (completed node :: others) =
      (nodes others).map (node :: ·) := by
  simp only [nodes, List.mapM_cons, Pending.node]
  cases others.mapM Pending.node <;> rfl

theorem nodes_map_completed (nodes : List Node) :
    Pending.nodes (nodes.map completed) = .ok nodes := by
  induction nodes with
  | nil => rfl
  | cons node others inductionHypothesis =>
      rw [List.map_cons, nodes_completed_cons, inductionHypothesis]
      rfl

/-- Items have nodes exactly if all of them are completed. -/
theorem nodes_eq_ok_iff {items : List Pending} {nodes : List Node} :
    Pending.nodes items = .ok nodes ↔ items = nodes.map completed := by
  constructor
  · intro built
    induction items generalizing nodes with
    | nil =>
        cases built
        rfl
    | cons item others inductionHypothesis =>
        cases item with
        | opened name attributes index =>
            simp at built
        | completed node =>
            rw [nodes_completed_cons] at built
            cases othersBuilt : Pending.nodes others with
            | error error =>
                simp [othersBuilt, Except.map] at built
            | ok otherNodes =>
                simp only [othersBuilt, Except.map, Except.ok.injEq] at built
                subst built
                rw [List.map_cons, inductionHypothesis othersBuilt]
  · intro shape
    rw [shape]
    exact nodes_map_completed nodes

/-- Items that do not open the name are taken off one by one. -/
theorem takeTo_append_of_not_opens
    {name : String} {taken : List Pending}
    (notOpened : ∀ item ∈ taken, item.opens name = false)
    (inside stack : List Pending) :
    takeTo name inside (taken ++ stack) =
      takeTo name (taken.reverse ++ inside) stack := by
  induction taken generalizing inside with
  | nil => rfl
  | cons item others inductionHypothesis =>
      rcases List.forall_mem_cons.mp notOpened with ⟨itemNotOpened, othersNotOpened⟩
      have step :
          takeTo name inside (item :: (others ++ stack)) =
            takeTo name (item :: inside) (others ++ stack) := by
        cases item with
        | opened openName attributes index =>
            have different : openName ≠ name := by
              simpa using itemNotOpened
            rw [takeTo, if_neg different]
        | completed node => rfl
      rw [List.cons_append, step, inductionHypothesis othersNotOpened]
      simp

theorem takeTo_of_not_opens
    {name : String} {stack : List Pending}
    (notOpened : ∀ item ∈ stack, item.opens name = false)
    (inside : List Pending) :
    takeTo name inside stack = none := by
  have taken := takeTo_append_of_not_opens notOpened inside []
  rw [List.append_nil] at taken
  rw [taken, takeTo]

theorem takeTo_nearest
    {name : String} {taken : List Pending}
    (notOpened : ∀ item ∈ taken, item.opens name = false)
    (inside outside : List Pending) (attributes : List Attribute) (index : Nat) :
    takeTo name inside (taken ++ opened name attributes index :: outside) =
      some (taken.reverse ++ inside, attributes, outside) := by
  rw [takeTo_append_of_not_opens notOpened, takeTo, if_pos rfl]

/-- A stack either has no open element of a name or a nearest one. -/
theorem notOpened_or_nearest (name : String) (stack : List Pending) :
    (∀ item ∈ stack, item.opens name = false) ∨
      ∃ (taken : List Pending) (attributes : List Attribute) (index : Nat)
        (outside : List Pending),
        stack = taken ++ opened name attributes index :: outside ∧
        ∀ item ∈ taken, item.opens name = false := by
  induction stack with
  | nil => exact Or.inl (by simp)
  | cons top below inductionHypothesis =>
      cases topOpens : top.opens name with
      | true =>
          cases top with
          | opened openName attributes index =>
              have sameName : openName = name := by
                simpa using topOpens
              subst sameName
              exact Or.inr ⟨[], attributes, index, below, rfl, by simp⟩
          | completed node => simp at topOpens
      | false =>
          rcases inductionHypothesis with
            notOpened | ⟨taken, attributes, index, outside, shape, notOpened⟩
          · exact Or.inl (List.forall_mem_cons.mpr ⟨topOpens, notOpened⟩)
          · refine Or.inr ⟨top :: taken, attributes, index, outside, ?_, ?_⟩
            · rw [shape, List.cons_append]
            · exact List.forall_mem_cons.mpr ⟨topOpens, notOpened⟩

theorem not_opens_of_mem_map_completed
    {name : String} {nodes : List Node} {item : Pending}
    (member : item ∈ nodes.map completed) :
    item.opens name = false := by
  rcases List.mem_map.mp member with ⟨node, _, rfl⟩
  rfl

end Pending

namespace Construction

open Pending

theorem close_of_not_opens
    {name : String} {stack : List Pending}
    (notOpened : ∀ item ∈ stack, item.opens name = false)
    (index : Nat) :
    close name index stack = .error (.unmatchedEndTag name index) := by
  rw [close, takeTo_of_not_opens notOpened]

theorem close_nearest
    {name : String} {taken : List Pending}
    (notOpened : ∀ item ∈ taken, item.opens name = false)
    (index openIndex : Nat) (attributes : List Attribute) (outside : List Pending) :
    close name index (taken ++ opened name attributes openIndex :: outside) =
      (Pending.nodes taken.reverse).map fun children =>
        (children, attributes, outside) := by
  simp only [close, takeTo_nearest notOpened, List.append_nil]
  cases Pending.nodes taken.reverse <;> rfl

/--
A closing tag completes an element exactly if only completed nodes lie inside
the nearest open element of its name; these become the children.
-/
theorem close_eq_ok_iff
    {name : String} {index : Nat} {stack outside : List Pending}
    {children : List Node} {attributes : List Attribute} :
    close name index stack = .ok (children, attributes, outside) ↔
      ∃ openIndex : Nat,
        stack =
          (children.map completed).reverse ++
            opened name attributes openIndex :: outside := by
  constructor
  · intro closed
    rcases notOpened_or_nearest name stack with
      notOpened | ⟨taken, openAttributes, openIndex, below, rfl, notOpened⟩
    · rw [close_of_not_opens notOpened] at closed
      cases closed
    · rw [close_nearest notOpened] at closed
      cases built : Pending.nodes taken.reverse with
      | error error =>
          rw [built] at closed
          cases closed
      | ok nodes =>
          rw [built] at closed
          cases closed
          refine ⟨openIndex, ?_⟩
          rw [← nodes_eq_ok_iff.mp built, List.reverse_reverse]
  · rintro ⟨openIndex, rfl⟩
    have notOpened :
        ∀ item ∈ (children.map completed).reverse, item.opens name = false := by
      intro item member
      exact not_opens_of_mem_map_completed (List.mem_reverse.mp member)
    rw [close_nearest notOpened, List.reverse_reverse, nodes_map_completed]
    rfl

/-- The result of building from a stack on; what happened before has no part in it. -/
def resultFrom (stack : List Pending) (index : Nat) (tokens : List Token) :
    Except StructureError (List Node) :=
  (run [] stack index tokens).result

theorem result_run_eq
    (events otherEvents : List Event) (stack : List Pending) (index : Nat)
    (tokens : List Token) :
    (run events stack index tokens).result =
      (run otherEvents stack index tokens).result := by
  induction tokens generalizing events otherEvents stack index with
  | nil => rfl
  | cons token others inductionHypothesis =>
      cases token with
      | plainText text => exact inductionHypothesis _ _ _ _
      | beginTag name attributes => exact inductionHypothesis _ _ _ _
      | endTag name =>
          simp only [run]
          cases close name index stack with
          | error error => rfl
          | ok closed => exact inductionHypothesis _ _ _ _

@[simp]
theorem resultFrom_nil (stack : List Pending) (index : Nat) :
    resultFrom stack index [] = Pending.nodes stack.reverse := rfl

@[simp]
theorem resultFrom_plainText_cons
    (stack : List Pending) (index : Nat) (text : String) (others : List Token) :
    resultFrom stack index (.plainText text :: others) =
      resultFrom (completed (.text text) :: stack) (index + 1) others := by
  rw [resultFrom, run]
  exact result_run_eq _ _ _ _ _

@[simp]
theorem resultFrom_beginTag_cons
    (stack : List Pending) (index : Nat) (name : String)
    (attributes : List Attribute) (others : List Token) :
    resultFrom stack index (.beginTag name attributes :: others) =
      resultFrom (opened name attributes index :: stack) (index + 1) others := by
  rw [resultFrom, run]
  exact result_run_eq _ _ _ _ _

theorem resultFrom_endTag_of_error
    {stack : List Pending} {index : Nat} {name : String} {error : StructureError}
    (refused : close name index stack = .error error)
    (others : List Token) :
    resultFrom stack index (.endTag name :: others) = .error error := by
  simp only [resultFrom, run, refused]

theorem resultFrom_endTag_of_ok
    {stack outside : List Pending} {index : Nat} {name : String}
    {children : List Node} {attributes : List Attribute}
    (closed : close name index stack = .ok (children, attributes, outside))
    (others : List Token) :
    resultFrom stack index (.endTag name :: others) =
      resultFrom (completed (.element name attributes children) :: outside)
        (index + 1) others := by
  simp only [resultFrom, run, closed]
  exact result_run_eq _ _ _ _ _

theorem result_ofTokens (tokens : List Token) :
    (ofTokens tokens).result = resultFrom [] 0 tokens := rfl

/-! ## Built nodes flatten to their tokens -/

theorem flatMap_tokens_map_completed (nodes : List Node) :
    (nodes.map completed).flatMap Pending.tokens = nodes.flatMap Node.tokens := by
  rw [List.flatMap_map]
  rfl

/-- Closing an element adds the closing tag to the tokens for which the stack stands. -/
theorem stackTokens_close
    {name : String} {index : Nat} {stack outside : List Pending}
    {children : List Node} {attributes : List Attribute}
    (closed : close name index stack = .ok (children, attributes, outside)) :
    (completed (.element name attributes children) :: outside).reverse.flatMap
        Pending.tokens =
      stack.reverse.flatMap Pending.tokens ++ [.endTag name] := by
  rcases close_eq_ok_iff.mp closed with ⟨openIndex, rfl⟩
  simp [flatMap_tokens_map_completed]

/--
The nodes that building returns flatten to the tokens for which the stack
stands, followed by the tokens still to be read.
-/
theorem flatMap_tokens_of_resultFrom
    {stack : List Pending} {index : Nat} {tokens : List Token} {nodes : List Node}
    (built : resultFrom stack index tokens = .ok nodes) :
    nodes.flatMap Node.tokens =
      stack.reverse.flatMap Pending.tokens ++ tokens := by
  induction tokens generalizing stack index with
  | nil =>
      rw [resultFrom_nil, nodes_eq_ok_iff] at built
      rw [built, flatMap_tokens_map_completed, List.append_nil]
  | cons token others inductionHypothesis =>
      cases token with
      | plainText text =>
          rw [resultFrom_plainText_cons] at built
          rw [inductionHypothesis built]
          simp
      | beginTag name attributes =>
          rw [resultFrom_beginTag_cons] at built
          rw [inductionHypothesis built]
          simp
      | endTag name =>
          cases closed : close name index stack with
          | error error =>
              rw [resultFrom_endTag_of_error closed] at built
              cases built
          | ok parts =>
              rcases parts with ⟨children, attributes, outside⟩
              rw [resultFrom_endTag_of_ok closed] at built
              rw [inductionHypothesis built, stackTokens_close closed]
              simp

/-! ## Flattened nodes are built again -/

private theorem resultFrom_flatMap_tokens_append
    {nodes : List Node}
    (eachBuilt :
      ∀ node ∈ nodes,
        ∀ (stack : List Pending) (index : Nat) (others : List Token),
          resultFrom stack index (node.tokens ++ others) =
            resultFrom (completed node :: stack)
              (index + node.tokens.length) others)
    (stack : List Pending) (index : Nat) (others : List Token) :
    resultFrom stack index (nodes.flatMap Node.tokens ++ others) =
      resultFrom ((nodes.map completed).reverse ++ stack)
        (index + (nodes.flatMap Node.tokens).length) others := by
  induction nodes generalizing stack index with
  | nil => rfl
  | cons node following inductionHypothesis =>
      rcases List.forall_mem_cons.mp eachBuilt with ⟨nodeBuilt, followingBuilt⟩
      rw [List.flatMap_cons, List.append_assoc, nodeBuilt,
        inductionHypothesis followingBuilt]
      simp [Nat.add_assoc]

/-- The tokens of a node put that node on the stack, whatever follows. -/
theorem resultFrom_tokens_append
    (node : Node) (stack : List Pending) (index : Nat) (others : List Token) :
    resultFrom stack index (node.tokens ++ others) =
      resultFrom (completed node :: stack) (index + node.tokens.length) others := by
  induction node generalizing stack index others with
  | text content => simp
  | element name attributes children inductionHypothesis =>
      have childrenBuilt :=
        resultFrom_flatMap_tokens_append inductionHypothesis
          (opened name attributes index :: stack) (index + 1)
          (.endTag name :: others)
      -- The children lie on top of their own open element, whatever its name is,
      -- so the closing tag finds that element and no other one below it.
      have closed :
          close name (index + 1 + (children.flatMap Node.tokens).length)
              ((children.map completed).reverse ++
                opened name attributes index :: stack) =
            .ok (children, attributes, stack) :=
        close_eq_ok_iff.mpr ⟨index, rfl⟩
      rw [Node.tokens_element, List.cons_append, resultFrom_beginTag_cons,
        List.append_assoc, List.singleton_append, childrenBuilt,
        resultFrom_endTag_of_ok closed]
      congr 1
      simp
      omega

/-- Building undoes flattening. -/
theorem result_ofTokens_flatMap_tokens (nodes : List Node) :
    (ofTokens (nodes.flatMap Node.tokens)).result = .ok nodes := by
  have built :=
    resultFrom_flatMap_tokens_append
      (fun node (_ : node ∈ nodes) => resultFrom_tokens_append node) [] 0 []
  rw [List.append_nil, List.append_nil] at built
  rw [result_ofTokens, built, resultFrom_nil, List.reverse_reverse,
    nodes_map_completed]

/-- Building returns exactly the nodes that flatten to the tokens. -/
theorem result_ofTokens_eq_ok_iff {tokens : List Token} {nodes : List Node} :
    (ofTokens tokens).result = .ok nodes ↔
      tokens = nodes.flatMap Node.tokens := by
  constructor
  · intro built
    rw [flatMap_tokens_of_resultFrom built]
    rfl
  · intro shape
    rw [shape]
    exact result_ofTokens_flatMap_tokens nodes

end Construction

theorem Node.flatMap_tokens_injective :
    Function.Injective (List.flatMap tokens) := by
  intro left right same
  have leftBuilt := Construction.result_ofTokens_flatMap_tokens left
  rw [same, Construction.result_ofTokens_flatMap_tokens right] at leftBuilt
  cases leftBuilt
  rfl

theorem Node.gather_eq_iff
    {rootName : String} {nodes : List Node} {tree : Node} :
    gather rootName nodes = tree ↔
      nodes = [tree] ∨ (nodes.length ≠ 1 ∧ tree = .element rootName [] nodes) := by
  match nodes with
  | [] => simp [gather, eq_comm]
  | [node] => simp [gather]
  | first :: second :: others => simp [gather, eq_comm]

/-- A tree gathers the nodes that flatten to its tokens. -/
theorem buildTree_eq_ok_iff
    {rootName : String} {tokens : List Token} {tree : Node} :
    buildTree rootName tokens = .ok tree ↔
      ∃ nodes : List Node,
        tokens = nodes.flatMap Node.tokens ∧
        Node.gather rootName nodes = tree := by
  constructor
  · intro built
    rw [buildTree, Construction.tree] at built
    cases result : (Construction.ofTokens tokens).result with
    | error error =>
        rw [result] at built
        cases built
    | ok nodes =>
        rw [result] at built
        cases built
        exact ⟨nodes, Construction.result_ofTokens_eq_ok_iff.mp result, rfl⟩
  · rintro ⟨nodes, flattened, rfl⟩
    rw [buildTree, Construction.tree,
      Construction.result_ofTokens_eq_ok_iff.mpr flattened]
    rfl

/--
A sequence of tokens has a tree exactly if it is the flattening of some nodes:
a single node is the tree, any other number of nodes is put into an element
of the given name.  No other nodes flatten to the same tokens.
-/
theorem buildTree_eq_ok_iff_flattened
    (rootName : String) (tokens : List Token) :
    (∀ tree : Node,
      buildTree rootName tokens = .ok tree ↔
        ∃ nodes : List Node,
          tokens = nodes.flatMap Node.tokens ∧
          (nodes = [tree] ∨
            (nodes.length ≠ 1 ∧ tree = .element rootName [] nodes))) ∧
    ∀ nodes otherNodes : List Node,
      tokens = nodes.flatMap Node.tokens →
      tokens = otherNodes.flatMap Node.tokens →
        nodes = otherNodes := by
  constructor
  · intro tree
    rw [buildTree_eq_ok_iff]
    simp only [Node.gather_eq_iff]
  · intro nodes otherNodes flattened otherFlattened
    exact Node.flatMap_tokens_injective (flattened.symm.trans otherFlattened)

theorem buildTree_same_name_nested :
    buildTree "Root"
        [.beginTag "a" [], .beginTag "a" [], .plainText "x", .plainText "y",
          .endTag "a", .endTag "a", .plainText ""] =
      .ok
        (.element "Root" []
          [.element "a" [] [.element "a" [] [.text "x", .text "y"]], .text ""]) ∧
    ∀ nodes : List Node,
      [.beginTag "a" [], .beginTag "a" [], .plainText "x", .plainText "y",
          .endTag "a", .endTag "a", .plainText ""] = nodes.flatMap Node.tokens →
        nodes = [.element "a" [] [.element "a" [] [.text "x", .text "y"]], .text ""] := by
  have exactly :=
    buildTree_eq_ok_iff_flattened "Root"
      [.beginTag "a" [], .beginTag "a" [], .plainText "x", .plainText "y",
        .endTag "a", .endTag "a", .plainText ""]
  constructor
  · exact (exactly.1 _).mpr ⟨_, rfl, Or.inr ⟨by decide, rfl⟩⟩
  · intro nodes flattened
    exact exactly.2 nodes _ flattened rfl

end TagTree
