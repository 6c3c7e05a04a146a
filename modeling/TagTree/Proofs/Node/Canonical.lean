import TagTree.Node.Markup
import TagTree.Proofs.Node.Tokens
import TagTree.Proofs.Token.Canonical

/-!
# Canonical trees

A tree is canonical if its texts, names and attributes are canonical and no
element has two texts side by side among its children.  That is the same as to
say that its sequence of tokens is canonical, and the markup of a tree is the
display of that sequence.  So what is known about tokens carries over to trees.
-/

namespace TagTree

open Grammar

namespace Node

/-- The node is a text. -/
def isText : Node → Bool
  | element _ _ _ => false
  | text _ => true

mutual

/-- All parts of the tree can be written as they are, and no two texts are side by side. -/
def IsCanonical : Node → Prop
  | element name attributes children =>
    IsElementName name ∧
    (∀ entry ∈ attributes, entry.IsCanonical) ∧
    IsCanonicalEach children ∧
    Separated isText children
  | text content => IsText content

/-- Each of the nodes is canonical. -/
def IsCanonicalEach : List Node → Prop
  | [] => True
  | child :: others => IsCanonical child ∧ IsCanonicalEach others

end

mutual

/-- The tree with the values of all attributes in double quotes. -/
def quoteValues : Node → Node
  | element name attributes children =>
    element name (attributes.map Attribute.quoted) (quoteValuesEach children)
  | text content => text content

/-- Each of the nodes with the values of all attributes in double quotes. -/
def quoteValuesEach : List Node → List Node
  | [] => []
  | child :: others => quoteValues child :: quoteValuesEach others

end

mutual

/-- No element of the tree has an attribute. -/
def AttributeFree : Node → Prop
  | element _ attributes children => attributes = [] ∧ AttributeFreeEach children
  | text _ => True

/-- No element of any of the trees has an attribute. -/
def AttributeFreeEach : List Node → Prop
  | [] => True
  | child :: others => AttributeFree child ∧ AttributeFreeEach others

end

mutual

/-- The attributes of all elements of the tree, in document order. -/
def allAttributes : Node → List Attribute
  | element _ attributes children => attributes ++ allAttributesEach children
  | text _ => []

/-- The attributes of all elements of the trees, in document order. -/
def allAttributesEach : List Node → List Attribute
  | [] => []
  | child :: others => allAttributes child ++ allAttributesEach others

end

@[simp]
theorem isCanonicalEach_iff {nodes : List Node} :
    IsCanonicalEach nodes ↔ ∀ node ∈ nodes, node.IsCanonical := by
  induction nodes with
  | nil => simp [IsCanonicalEach]
  | cons node others inductionHypothesis =>
      simp [IsCanonicalEach, inductionHypothesis]

@[simp]
theorem quoteValuesEach_eq_map (nodes : List Node) :
    quoteValuesEach nodes = nodes.map quoteValues := by
  induction nodes with
  | nil => simp [quoteValuesEach]
  | cons node others inductionHypothesis =>
      simp [quoteValuesEach, inductionHypothesis]

@[simp]
theorem attributeFreeEach_iff {nodes : List Node} :
    AttributeFreeEach nodes ↔ ∀ node ∈ nodes, node.AttributeFree := by
  induction nodes with
  | nil => simp [AttributeFreeEach]
  | cons node others inductionHypothesis =>
      simp [AttributeFreeEach, inductionHypothesis]

@[simp]
theorem allAttributesEach_eq_flatMap (nodes : List Node) :
    allAttributesEach nodes = nodes.flatMap allAttributes := by
  induction nodes with
  | nil => simp [allAttributesEach]
  | cons node others inductionHypothesis =>
      simp [allAttributesEach, inductionHypothesis]

mutual

/-- Whether a tree is canonical is decided part by part. -/
def decIsCanonical : (node : Node) → Decidable node.IsCanonical
  | element name attributes children =>
    have := decIsCanonicalEach children
    inferInstanceAs
      (Decidable
        (IsElementName name ∧
          (∀ entry ∈ attributes, entry.IsCanonical) ∧
          IsCanonicalEach children ∧
          Separated isText children))
  | text content => inferInstanceAs (Decidable (IsText content))

/-- Whether each of the nodes is canonical is decided node by node. -/
def decIsCanonicalEach : (nodes : List Node) → Decidable (IsCanonicalEach nodes)
  | [] => isTrue trivial
  | child :: others =>
    have := decIsCanonical child
    have := decIsCanonicalEach others
    inferInstanceAs (Decidable (child.IsCanonical ∧ IsCanonicalEach others))

end

instance : DecidablePred IsCanonical :=
  decIsCanonical

theorem quoteValues_eq_self_iff (node : Node) :
    node.quoteValues = node ↔ node.AttributeFree := by
  induction node with
  | text content => simp [quoteValues, AttributeFree]
  | element name attributes children inductionHypothesis =>
      have attributesSame :
          attributes.map Attribute.quoted = attributes ↔ attributes = [] := by
        cases attributes with
        | nil => simp
        | cons entry others => simp [entry.quoted_ne]
      have childrenSame :
          children.map quoteValues = children ↔
            ∀ child ∈ children, child.AttributeFree := by
        have pointwise :
            children.map quoteValues = children.map id ↔
              ∀ child ∈ children, child.quoteValues = id child :=
          List.map_inj_left
        rw [List.map_id] at pointwise
        exact pointwise.trans (forall₂_congr inductionHypothesis)
      simp [quoteValues, AttributeFree, attributesSame, childrenSame]

theorem tokens_quoteValues (node : Node) :
    node.quoteValues.tokens = node.tokens.map Token.quoted := by
  induction node with
  | text content => simp [quoteValues, Token.quoted]
  | element name attributes children inductionHypothesis =>
      simp only [quoteValues, quoteValuesEach_eq_map, tokens_element, List.map_cons,
        List.map_append, List.map_flatMap, List.flatMap_map, Token.quoted, List.map_nil]
      rw [List.flatMap_congr inductionHypothesis]

/-! ## Canonical trees have canonical tokens -/

theorem any_isText_head?_tokens_append (node : Node) (others : List Token) :
    (node.tokens ++ others).head?.any Token.isText = node.isText := by
  cases node with
  | text content => simp [isText, Token.isText]
  | element name attributes children => simp [isText, Token.isText]

theorem any_isText_getLast?_tokens (node : Node) :
    node.tokens.getLast?.any Token.isText = node.isText := by
  cases node with
  | text content => simp [isText, Token.isText]
  | element name attributes children =>
      rw [tokens_element, ← List.cons_append, List.getLast?_concat]
      rfl

theorem any_isText_head?_flatMap_tokens (nodes : List Node) :
    (nodes.flatMap tokens).head?.any Token.isText = nodes.head?.any isText := by
  cases nodes with
  | nil => rfl
  | cons node others =>
      rw [List.flatMap_cons, any_isText_head?_tokens_append]
      rfl

/-- Texts are side by side among nodes exactly where they are among their tokens. -/
theorem separated_flatMap_tokens_iff {nodes : List Node} :
    Separated Token.isText (nodes.flatMap tokens) ↔
      (∀ node ∈ nodes, Separated Token.isText node.tokens) ∧
      Separated isText nodes := by
  induction nodes with
  | nil => simp [Separated]
  | cons node others inductionHypothesis =>
      rw [List.flatMap_cons, separated_append_iff, inductionHypothesis,
        any_isText_getLast?_tokens, any_isText_head?_flatMap_tokens,
        separated_cons_iff, List.forall_mem_cons]
      tauto

/-- Nodes are canonical with no two texts side by side exactly if their tokens are. -/
theorem forall_isCanonical_iff_tokens
    {nodes : List Node}
    (each :
      ∀ node ∈ nodes,
        (node.IsCanonical ↔
          (∀ token ∈ node.tokens, token.IsCanonical) ∧
          Separated Token.isText node.tokens)) :
    ((∀ node ∈ nodes, node.IsCanonical) ∧ Separated isText nodes) ↔
      (∀ token ∈ nodes.flatMap tokens, token.IsCanonical) ∧
      Separated Token.isText (nodes.flatMap tokens) := by
  rw [forall₂_congr each, separated_flatMap_tokens_iff]
  simp only [List.mem_flatMap]
  constructor
  · rintro ⟨canonical, separated⟩
    refine ⟨?_, fun node member => (canonical node member).2, separated⟩
    rintro token ⟨node, nodeMember, tokenMember⟩
    exact (canonical node nodeMember).1 token tokenMember
  · rintro ⟨canonical, eachSeparated, separated⟩
    refine ⟨fun node member => ⟨?_, eachSeparated node member⟩, separated⟩
    intro token tokenMember
    exact canonical token ⟨node, member, tokenMember⟩

theorem separated_tokens_element_iff
    (name : String) (attributes : List Attribute) (children : List Node) :
    Separated Token.isText (element name attributes children).tokens ↔
      Separated Token.isText (children.flatMap tokens) := by
  rw [tokens_element, separated_cons_iff, separated_append_iff]
  simp [Token.isText, Separated]

/-- A tree is canonical exactly if its tokens are, with no two texts side by side. -/
theorem isCanonical_iff_tokens (node : Node) :
    node.IsCanonical ↔
      (∀ token ∈ node.tokens, token.IsCanonical) ∧
      Separated Token.isText node.tokens := by
  induction node with
  | text content =>
      simp [IsCanonical, Token.IsCanonical, Separated]
  | element name attributes children inductionHypothesis =>
      have childrenCanonical := forall_isCanonical_iff_tokens inductionHypothesis
      have closable :
          IsElementName name → (Token.endTag name).IsCanonical := fun isName => isName.1.2
      rw [separated_tokens_element_iff]
      simp only [IsCanonical, isCanonicalEach_iff, tokens_element, List.forall_mem_cons,
        List.forall_mem_append, Token.IsCanonical]
      tauto

theorem flatMap_attributes_tokens (node : Node) :
    node.tokens.flatMap Token.attributes = node.allAttributes := by
  induction node with
  | text content => simp [allAttributes, Token.attributes]
  | element name attributes children inductionHypothesis =>
      simp only [tokens_element, allAttributes, allAttributesEach_eq_flatMap,
        List.flatMap_cons, List.flatMap_append, List.flatMap_assoc, Token.attributes]
      rw [List.flatMap_congr inductionHypothesis]
      simp

/--
The tokens of a tree are grammatical, with no two texts side by side, exactly
if the tree is canonical and none of its values is empty.
-/
theorem isGrammatical_tokens_iff (node : Node) :
    ((∀ token ∈ node.tokens, token.IsGrammatical) ∧
        Separated Token.isText node.tokens) ↔
      node.IsCanonical ∧ ∀ entry ∈ node.allAttributes, entry.value ≠ "" := by
  rw [node.isCanonical_iff_tokens, ← node.flatMap_attributes_tokens]
  simp only [Token.isGrammatical_iff, List.mem_flatMap]
  constructor
  · rintro ⟨grammatical, separated⟩
    refine ⟨⟨fun token member => (grammatical token member).1, separated⟩, ?_⟩
    rintro entry ⟨token, tokenMember, entryMember⟩
    exact (grammatical token tokenMember).2 entry entryMember
  · rintro ⟨⟨canonical, separated⟩, nonempty⟩
    refine ⟨?_, separated⟩
    intro token tokenMember
    refine ⟨canonical token tokenMember, ?_⟩
    intro entry entryMember
    exact nonempty entry ⟨token, tokenMember, entryMember⟩

end Node

end TagTree
