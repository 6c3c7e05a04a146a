import Mathlib.Data.List.Induction
import TagTree.Proofs.Node.OpenTags

/-!
# Beginnings of token sequences

A sequence of tokens that has been read without an error consists of complete
nodes with opening tags between them, and these are the tags that are still
open.  Closing them from the inside out completes the sequence to a tree.  An
error before the end, on the other hand, stands at a closing tag, and nothing
behind that tag can mend it.  So building fails as early as it can and never
too early: a beginning that is refused at once is refused with every
continuation, and any other beginning has a continuation with a tree.

Which tags are open is stated here without a scan: no node among the tokens
begins with such a tag.
-/

namespace TagTree

/-! ## The scan of open tags in steps -/

namespace OpenTag

theorem close_innermost
    (name : String) (index openIndex : Nat) (outer : List OpenTag) :
    close name index ({ name, index := openIndex } :: outer) = .ok outer :=
  @close_append_cons name [] (by simp) index openIndex outer

theorem close_eq_ok_iff
    {name : String} {index : Nat} {openTags outer : List OpenTag} :
    close name index openTags = .ok outer ↔
      ∃ openIndex : Nat, openTags = { name, index := openIndex } :: outer := by
  constructor
  · intro closed
    cases openTags with
    | nil => simp [close] at closed
    | cons innermost others =>
        by_cases sameName : innermost.name = name
        · subst sameName
          have innermostClosed :=
            close_innermost innermost.name index innermost.index others
          cases innermostClosed.symm.trans closed
          exact ⟨innermost.index, rfl⟩
        · -- A closing tag of another name would skip over the innermost tag.
          simp only [close, sameName, List.takeWhile_cons, ne_eq, not_false_eq_true,
            decide_true, if_true, List.getLast?_cons] at closed
          split at closed <;> cases closed
  · rintro ⟨openIndex, rfl⟩
    exact close_innermost name index openIndex outer

/-- A closing tag is at fault itself, or one of the tags that it finds open is. -/
theorem close_eq_error
    {name : String} {index : Nat} {openTags : List OpenTag} {error : StructureError}
    (refused : close name index openTags = .error error) :
    error = .unmatchedEndTag name index ∨ ∃ tag ∈ openTags, error = tag.unclosed := by
  rw [close] at refused
  split at refused
  · cases refused
    exact Or.inl rfl
  · split at refused
    · cases refused
    · next directlyInside inside =>
      cases refused
      have skipped := List.mem_of_getLast? inside
      exact Or.inr ⟨directlyInside, (List.takeWhile_sublist _).subset skipped, rfl⟩

theorem exists_outermost_of_finish_eq_error
    {openTags : List OpenTag} {error : StructureError}
    (failed : finish openTags = .error error) :
    ∃ outermost : OpenTag,
      openTags.getLast? = some outermost ∧ error = outermost.unclosed := by
  rw [finish] at failed
  cases last : openTags.getLast? with
  | none =>
      rw [last] at failed
      cases failed
  | some outermost =>
      rw [last] at failed
      cases failed
      exact ⟨outermost, rfl, rfl⟩

theorem scan_append
    (openTags : List OpenTag) (index : Nat) (tokens others : List Token) :
    scan openTags index (tokens ++ others) =
      (scan openTags index tokens).bind fun remaining =>
        scan remaining (index + tokens.length) others := by
  induction tokens generalizing openTags index with
  | nil => rfl
  | cons token following inductionHypothesis =>
      have sameIndex :
          index + 1 + following.length = index + (token :: following).length := by
        simp only [List.length_cons]
        omega
      rw [← sameIndex]
      cases token with
      | plainText text => exact inductionHypothesis openTags (index + 1)
      | beginTag name attributes =>
          exact inductionHypothesis ({ name, index } :: openTags) (index + 1)
      | endTag name =>
          simp only [List.cons_append, scan]
          cases close name index openTags with
          | error error => rfl
          | ok outer => exact inductionHypothesis outer (index + 1)

theorem scan_append_eq_ok_iff
    {openTags remaining : List OpenTag} {index : Nat} {tokens others : List Token} :
    scan openTags index (tokens ++ others) = .ok remaining ↔
      ∃ middle : List OpenTag,
        scan openTags index tokens = .ok middle ∧
        scan middle (index + tokens.length) others = .ok remaining := by
  rw [scan_append]
  cases scan openTags index tokens <;> simp [Except.bind]

theorem scan_append_eq_error_iff
    {openTags : List OpenTag} {index : Nat} {tokens others : List Token}
    {error : StructureError} :
    scan openTags index (tokens ++ others) = .error error ↔
      scan openTags index tokens = .error error ∨
        ∃ middle : List OpenTag,
          scan openTags index tokens = .ok middle ∧
          scan middle (index + tokens.length) others = .error error := by
  rw [scan_append]
  cases scan openTags index tokens <;> simp [Except.bind]

theorem scan_endTag_eq_close
    (openTags : List OpenTag) (index : Nat) (name : String) :
    scan openTags index [.endTag name] = close name index openTags := by
  simp only [scan]
  cases close name index openTags <;> rfl

theorem scan_endTag_cons_eq_ok_iff
    {openTags remaining : List OpenTag} {index : Nat} {name : String}
    {others : List Token} :
    scan openTags index (.endTag name :: others) = .ok remaining ↔
      ∃ (openIndex : Nat) (outer : List OpenTag),
        openTags = { name, index := openIndex } :: outer ∧
        scan outer (index + 1) others = .ok remaining := by
  change scan openTags index ([.endTag name] ++ others) = .ok remaining ↔ _
  simp only [scan_append_eq_ok_iff, scan_endTag_eq_close, close_eq_ok_iff]
  constructor
  · rintro ⟨outer, ⟨openIndex, shape⟩, read⟩
    exact ⟨openIndex, outer, shape, read⟩
  · rintro ⟨openIndex, outer, shape, read⟩
    exact ⟨outer, ⟨openIndex, shape⟩, read⟩

/-- A scan that fails does so at a closing tag, after a beginning that it reads. -/
theorem exists_refused_of_scan_eq_error
    {openTags : List OpenTag} {index : Nat} {tokens : List Token} {error : StructureError}
    (failed : scan openTags index tokens = .error error) :
    ∃ (before : List Token) (name : String) (behind : List Token)
      (remaining : List OpenTag),
      tokens = before ++ .endTag name :: behind ∧
      scan openTags index before = .ok remaining ∧
      close name (index + before.length) remaining = .error error := by
  induction tokens using List.reverseRecOn with
  | nil => cases failed
  | append_singleton before token inductionHypothesis =>
      rcases scan_append_eq_error_iff.mp failed with earlier | ⟨remaining, read, refused⟩
      · rcases inductionHypothesis earlier with
          ⟨shorter, name, behind, remaining, rfl, readShorter, refused⟩
        exact ⟨shorter, name, behind ++ [token], remaining, by simp, readShorter, refused⟩
      · cases token with
        | plainText text => cases refused
        | beginTag name attributes => cases refused
        | endTag name =>
            rw [scan_endTag_eq_close] at refused
            exact ⟨before, name, [], remaining, rfl, read, refused⟩

/--
Reading fails with the error right behind the tokens `before`: at the end, where
a tag is still open, or at a closing tag.
-/
inductive FailsBehind (before : List Token) (error : StructureError) :
    List Token → Prop where
  | atEnd
      {openTags : List OpenTag}
      (read : scan [] 0 before = .ok openTags)
      (unclosed : finish openTags = .error error) :
      FailsBehind before error []
  | atEndTag
      {openTags : List OpenTag} {name : String}
      (read : scan [] 0 before = .ok openTags)
      (refused : close name before.length openTags = .error error)
      (others : List Token) :
      FailsBehind before error (.endTag name :: others)

theorem exists_failsBehind_of_verdict
    {tokens : List Token} {error : StructureError}
    (failed : verdict tokens = .error error) :
    ∃ before behind : List Token,
      tokens = before ++ behind ∧ FailsBehind before error behind := by
  rw [verdict] at failed
  cases read : scan [] 0 tokens with
  | ok openTags =>
      rw [read] at failed
      exact ⟨tokens, [], (List.append_nil tokens).symm, .atEnd read failed⟩
  | error scanError =>
      rw [read] at failed
      cases failed
      rcases exists_refused_of_scan_eq_error read with
        ⟨before, name, others, openTags, rfl, readBefore, refused⟩
      rw [Nat.zero_add] at refused
      exact ⟨before, _, rfl, .atEndTag readBefore refused others⟩

/-! ## Completing a beginning -/

/-- The closing tags of the open tags, from the inside out. -/
def closingTags (openTags : List OpenTag) : List Token :=
  openTags.map fun tag => .endTag tag.name

theorem scan_closingTags (openTags : List OpenTag) (index : Nat) :
    scan openTags index (closingTags openTags) = .ok [] := by
  induction openTags generalizing index with
  | nil => rfl
  | cons innermost outer inductionHypothesis =>
      have closed := close_innermost innermost.name index innermost.index outer
      simp only [closingTags, List.map_cons, scan, closed]
      exact inductionHypothesis (index + 1)

theorem verdict_append_closingTags
    {tokens : List Token} {openTags : List OpenTag}
    (read : scan [] 0 tokens = .ok openTags) :
    verdict (tokens ++ closingTags openTags) = .ok () := by
  apply verdict_eq_ok_iff.mpr
  exact scan_append_eq_ok_iff.mpr ⟨openTags, read, scan_closingTags openTags _⟩

theorem verdict_append_of_scan_eq_error
    {tokens : List Token} {error : StructureError}
    (failed : scan [] 0 tokens = .error error)
    (others : List Token) :
    verdict (tokens ++ others) = .error error := by
  have stillFailed : scan [] 0 (tokens ++ others) = .error error :=
    scan_append_eq_error_iff.mpr (Or.inl failed)
  rw [verdict, stillFailed]
  rfl

/-! ## What has been read -/

/--
The tokens are complete nodes with opening tags between them, and these tags,
innermost first, are left open.
-/
inductive LeftOpen : List Token → List OpenTag → Prop where
  | nodes (nodes : List Node) :
      LeftOpen (nodes.flatMap Node.tokens) []
  | opened
      {outside : List Token} {outer : List OpenTag}
      (outerOpen : LeftOpen outside outer)
      (name : String) (attributes : List Attribute) (nodes : List Node) :
      LeftOpen
        (outside ++ .beginTag name attributes :: nodes.flatMap Node.tokens)
        ({ name, index := outside.length } :: outer)

namespace LeftOpen

variable {tokens : List Token} {openTags : List OpenTag}

/-- A complete node leaves the same tags open. -/
theorem append_node
    (leftOpen : LeftOpen tokens openTags)
    (node : Node) :
    LeftOpen (tokens ++ node.tokens) openTags := by
  cases leftOpen with
  | nodes nodes => simpa using LeftOpen.nodes (nodes ++ [node])
  | opened outerOpen name attributes nodes =>
      simpa using outerOpen.opened name attributes (nodes ++ [node])

theorem exists_beginTag_of_mem
    (leftOpen : LeftOpen tokens openTags)
    {tag : OpenTag}
    (member : tag ∈ openTags) :
    ∃ (before : List Token) (attributes : List Attribute) (behind : List Token),
      tokens = before ++ .beginTag tag.name attributes :: behind ∧
      before.length = tag.index := by
  induction leftOpen with
  | nodes nodes => cases member
  | @opened outside outer _ name attributes nodes inductionHypothesis =>
      rcases List.mem_cons.mp member with rfl | inOuter
      · exact ⟨outside, attributes, nodes.flatMap Node.tokens, rfl, rfl⟩
      · rcases inductionHypothesis inOuter with
          ⟨before, outerAttributes, behind, rfl, sameIndex⟩
        exact ⟨before, outerAttributes, _, List.append_assoc .., sameIndex⟩

/-- Only complete nodes stand in front of the outermost open tag. -/
theorem exists_nodes_before_outermost
    (leftOpen : LeftOpen tokens openTags)
    {outermost : OpenTag}
    (last : openTags.getLast? = some outermost) :
    ∃ (nodes : List Node) (attributes : List Attribute) (behind : List Token),
      tokens =
        nodes.flatMap Node.tokens ++ .beginTag outermost.name attributes :: behind ∧
      (nodes.flatMap Node.tokens).length = outermost.index := by
  induction leftOpen with
  | nodes nodes => cases last
  | @opened outside outer outerOpen name attributes inner inductionHypothesis =>
      cases outerOpen with
      | nodes nodes =>
          cases last
          exact ⟨nodes, attributes, inner.flatMap Node.tokens, rfl, rfl⟩
      | opened =>
          rw [List.getLast?_cons_cons] at last
          rcases inductionHypothesis last with
            ⟨nodes, outermostAttributes, behind, shape, sameIndex⟩
          refine
            ⟨nodes, outermostAttributes,
              behind ++ .beginTag name attributes :: inner.flatMap Node.tokens, ?_, sameIndex⟩
          rw [shape, List.append_assoc]
          rfl

end LeftOpen

/-- Whatever the scan reads are complete nodes and the tags that it keeps. -/
theorem leftOpen_of_scan
    {tokens : List Token} {openTags : List OpenTag}
    (read : scan [] 0 tokens = .ok openTags) :
    LeftOpen tokens openTags := by
  induction tokens using List.reverseRecOn generalizing openTags with
  | nil =>
      cases read
      exact LeftOpen.nodes []
  | append_singleton before token inductionHypothesis =>
      rcases scan_append_eq_ok_iff.mp read with ⟨middle, readBefore, readToken⟩
      have beforeOpen := inductionHypothesis readBefore
      cases token with
      | plainText text =>
          cases readToken
          simpa using beforeOpen.append_node (.text text)
      | beginTag name attributes =>
          cases readToken
          simpa using beforeOpen.opened name attributes []
      | endTag name =>
          rw [scan_endTag_eq_close] at readToken
          rcases close_eq_ok_iff.mp readToken with ⟨openIndex, rfl⟩
          -- The nodes behind the innermost open tag become its children.
          cases beforeOpen with
          | opened outerOpen _ attributes nodes =>
              simpa using outerOpen.append_node (.element name attributes nodes)

/-- A tag that is open at the end was open at the start or has been opened since. -/
theorem mem_or_le_index_of_scan
    {openTags remaining : List OpenTag} {index : Nat} {tokens : List Token}
    (read : scan openTags index tokens = .ok remaining)
    {tag : OpenTag}
    (member : tag ∈ remaining) :
    tag ∈ openTags ∨ index ≤ tag.index := by
  induction tokens generalizing openTags index with
  | nil =>
      cases read
      exact Or.inl member
  | cons token others inductionHypothesis =>
      cases token with
      | plainText text =>
          rcases inductionHypothesis read with before | since
          · exact Or.inl before
          · exact Or.inr (Nat.le_of_succ_le since)
      | beginTag name attributes =>
          rcases inductionHypothesis read with before | since
          · rcases List.mem_cons.mp before with rfl | earlier
            · exact Or.inr (Nat.le_refl _)
            · exact Or.inl earlier
          · exact Or.inr (Nat.le_of_succ_le since)
      | endTag name =>
          rcases scan_endTag_cons_eq_ok_iff.mp read with ⟨openIndex, outer, rfl, readOthers⟩
          rcases inductionHypothesis readOthers with before | since
          · exact Or.inl (List.mem_cons_of_mem _ before)
          · exact Or.inr (Nat.le_of_succ_le since)

end OpenTag

theorem OpenTag.scan_flatMap_tokens (nodes : List Node) :
    scan [] 0 (nodes.flatMap Node.tokens) = .ok [] := by
  have built : buildTree Node.syntheticRootName (nodes.flatMap Node.tokens) = .ok _ :=
    buildTree_eq_ok_iff.mpr ⟨nodes, rfl, rfl⟩
  exact verdict_eq_ok_iff.mp (exists_buildTree_eq_ok_iff.mp ⟨_, built⟩)

/-! ## The token at fault -/

/-- The token is the tag that the error names. -/
def StructureError.Blames : StructureError → Token → Prop
  | unmatchedEndTag name _, token => token = .endTag name
  | unclosedTag name _, token => ∃ attributes : List Attribute, token = .beginTag name attributes

theorem OpenTag.LeftOpen.exists_blamed
    {tokens : List Token} {openTags : List OpenTag} {tag : OpenTag}
    (leftOpen : LeftOpen tokens openTags)
    (member : tag ∈ openTags)
    (others : List Token) :
    ∃ (before : List Token) (token : Token) (behind : List Token),
      tokens ++ others = before ++ token :: behind ∧
      before.length = tag.unclosed.index ∧
      tag.unclosed.Blames token := by
  rcases leftOpen.exists_beginTag_of_mem member with
    ⟨before, attributes, behind, rfl, sameIndex⟩
  exact ⟨before, _, behind ++ others, by simp, sameIndex, attributes, rfl⟩

/-- Every error of building names a tag that stands among the tokens at its index. -/
theorem exists_blamed_of_buildTree_eq_error
    {rootName : String} {tokens : List Token} {error : StructureError}
    (failed : buildTree rootName tokens = .error error) :
    ∃ (before : List Token) (token : Token) (behind : List Token),
      tokens = before ++ token :: behind ∧
      before.length = error.index ∧
      error.Blames token := by
  rcases OpenTag.exists_failsBehind_of_verdict (buildTree_eq_error_iff.mp failed) with
    ⟨before, behind, rfl, fails⟩
  cases fails with
  | atEnd read unclosed =>
      rcases OpenTag.exists_outermost_of_finish_eq_error unclosed with ⟨outermost, last, rfl⟩
      exact (OpenTag.leftOpen_of_scan read).exists_blamed (List.mem_of_getLast? last) []
  | @atEndTag _ name read refused others =>
      rcases OpenTag.close_eq_error refused with rfl | ⟨tag, member, rfl⟩
      · exact ⟨before, .endTag name, others, rfl, rfl, rfl⟩
      · exact (OpenTag.leftOpen_of_scan read).exists_blamed member _

/-! ## Tags that stay open -/

/-- The opening tag with the given index is one with which no node of the tokens begins. -/
def StaysOpen (tokens : List Token) (name : String) (index : Nat) : Prop :=
  ∃ (before : List Token) (attributes : List Attribute) (behind : List Token),
    tokens = before ++ .beginTag name attributes :: behind ∧
    before.length = index ∧
    ∀ (node : Node) (others : List Token),
      .beginTag name attributes :: behind ≠ node.tokens ++ others

/-- A tag that stays open does so in the part of the tokens in which it stands. -/
theorem StaysOpen.left_or_right
    {left right : List Token} {name : String} {index : Nat}
    (staysOpen : StaysOpen (left ++ right) name index) :
    StaysOpen left name index ∨
      ∃ later : Nat, StaysOpen right name later ∧ left.length + later = index := by
  rcases staysOpen with ⟨before, attributes, behind, shape, sameIndex, unclosed⟩
  rcases List.append_eq_append_iff.mp shape with
    ⟨middle, rfl, rightShape⟩ | ⟨middle, rfl, tagShape⟩
  · refine Or.inr ⟨middle.length, ⟨middle, attributes, behind, rightShape, rfl, unclosed⟩, ?_⟩
    simpa using sameIndex
  · cases middle with
    | nil =>
        refine Or.inr ⟨0, ⟨[], attributes, behind, tagShape.symm, rfl, unclosed⟩, ?_⟩
        simpa using sameIndex
    | cons tag middle =>
        cases tagShape
        refine Or.inl ⟨before, attributes, middle, rfl, sameIndex, ?_⟩
        intro node others closed
        apply unclosed node (others ++ right)
        rw [← List.append_assoc, ← closed]
        rfl

private theorem not_staysOpen_flatMap_tokens_of_forall
    {nodes : List Node}
    (eachClosed :
      ∀ node ∈ nodes, ∀ (name : String) (index : Nat), ¬ StaysOpen node.tokens name index)
    (name : String) (index : Nat) :
    ¬ StaysOpen (nodes.flatMap Node.tokens) name index := by
  induction nodes generalizing index with
  | nil =>
      rintro ⟨before, attributes, behind, shape, _⟩
      simp at shape
  | cons node others inductionHypothesis =>
      rcases List.forall_mem_cons.mp eachClosed with ⟨nodeClosed, othersClosed⟩
      intro staysOpen
      rcases StaysOpen.left_or_right staysOpen with inNode | ⟨later, inOthers, _⟩
      · exact nodeClosed name index inNode
      · exact inductionHypothesis othersClosed later inOthers

theorem Node.not_staysOpen_tokens (node : Node) (name : String) (index : Nat) :
    ¬ StaysOpen node.tokens name index := by
  induction node generalizing name index with
  | text content =>
      rintro ⟨before, attributes, behind, shape, _⟩
      cases before <;> simp at shape
  | element elementName attributes children inductionHypothesis =>
      intro staysOpen
      have childrenClosed := not_staysOpen_flatMap_tokens_of_forall inductionHypothesis
      rw [tokens_element] at staysOpen
      rcases staysOpen with ⟨before, openAttributes, behind, shape, _, unclosed⟩
      cases before with
      | nil =>
          -- The tag is the one with which the element itself begins.
          apply unclosed (.element elementName attributes children) []
          rw [List.append_nil, tokens_element]
          exact shape.symm
      | cons first before =>
          rw [List.cons_append, List.cons.injEq] at shape
          have insideOpen :
              StaysOpen (children.flatMap tokens ++ [.endTag elementName]) name
                before.length :=
            ⟨before, openAttributes, behind, shape.2, rfl, unclosed⟩
          rcases insideOpen.left_or_right with inChildren | ⟨later, inEndTag, _⟩
          · exact childrenClosed name _ inChildren
          · rcases inEndTag with ⟨before, _, behind, endShape, _⟩
            cases before <;> simp at endShape

theorem Node.not_staysOpen_flatMap_tokens
    (nodes : List Node) (name : String) (index : Nat) :
    ¬ StaysOpen (nodes.flatMap tokens) name index :=
  not_staysOpen_flatMap_tokens_of_forall (fun node _ => node.not_staysOpen_tokens) name index

/-- The outermost tag that the scan keeps is the first of the tags that stay open. -/
theorem OpenTag.staysOpen_outermost
    {tokens : List Token} {openTags : List OpenTag} {outermost : OpenTag}
    (read : scan [] 0 tokens = .ok openTags)
    (last : openTags.getLast? = some outermost) :
    StaysOpen tokens outermost.name outermost.index ∧
      ∀ (name : String) (index : Nat),
        StaysOpen tokens name index → outermost.index ≤ index := by
  rcases (leftOpen_of_scan read).exists_nodes_before_outermost last with
    ⟨nodes, attributes, behind, rfl, sameIndex⟩
  constructor
  · refine ⟨_, attributes, behind, rfl, sameIndex, ?_⟩
    intro node others closed
    -- A node that begins with the tag would leave nothing open in front of the
    -- other tokens, so every tag that is open at the end would come later.
    have nodesRead := scan_flatMap_tokens (nodes ++ [node])
    have shape :
        nodes.flatMap Node.tokens ++ .beginTag outermost.name attributes :: behind =
          (nodes ++ [node]).flatMap Node.tokens ++ others := by
      rw [closed]
      simp
    rw [shape, scan_append, nodesRead] at read
    have member : outermost ∈ openTags := List.mem_of_getLast? last
    rcases mem_or_le_index_of_scan read member with before | since
    · cases before
    · have nonempty : 0 < node.tokens.length := by
        cases node <;> simp
      simp only [List.flatMap_append, List.flatMap_singleton, List.length_append] at since
      omega
  · intro name index staysOpen
    rcases StaysOpen.left_or_right staysOpen with inNodes | ⟨later, _, laterIndex⟩
    · exact absurd inNodes (Node.not_staysOpen_flatMap_tokens nodes name index)
    · omega

/--
A beginning either can be completed to a tree or is refused with one and the
same error whatever follows.  If it can be completed but has no tree itself,
the error names the first of the tags that stay open.
-/
theorem buildTree_append_xor (rootName : String) (tokens : List Token) :
    Xor
      (∃ (others : List Token) (tree : Node),
        buildTree rootName (tokens ++ others) = .ok tree)
      (∃ error : StructureError,
        ∀ others : List Token, buildTree rootName (tokens ++ others) = .error error) ∧
    ((∃ (others : List Token) (tree : Node),
        buildTree rootName (tokens ++ others) = .ok tree) →
      ∀ error : StructureError,
        buildTree rootName tokens = .error error →
          ∃ (name : String) (index : Nat),
            error = .unclosedTag name index ∧
            StaysOpen tokens name index ∧
            ∀ (otherName : String) (otherIndex : Nat),
              StaysOpen tokens otherName otherIndex → index ≤ otherIndex) := by
  simp only [exists_buildTree_eq_ok_iff, buildTree_eq_error_iff]
  cases read : OpenTag.scan [] 0 tokens with
  | error error =>
      have refused := OpenTag.verdict_append_of_scan_eq_error read
      have notCompleted :
          ¬ ∃ others : List Token, OpenTag.verdict (tokens ++ others) = .ok () := by
        rintro ⟨others, completed⟩
        cases (refused others).symm.trans completed
      refine ⟨Or.inr ⟨⟨error, refused⟩, notCompleted⟩, ?_⟩
      intro completed
      exact absurd completed notCompleted
  | ok openTags =>
      have completed := OpenTag.verdict_append_closingTags read
      constructor
      · refine Or.inl ⟨⟨_, completed⟩, ?_⟩
        rintro ⟨error, refused⟩
        cases (refused _).symm.trans completed
      · intro _ error failed
        rw [OpenTag.verdict, read] at failed
        change OpenTag.finish openTags = .error error at failed
        rcases OpenTag.exists_outermost_of_finish_eq_error failed with ⟨outermost, last, rfl⟩
        rcases OpenTag.staysOpen_outermost read last with ⟨staysOpen, first⟩
        exact ⟨outermost.name, outermost.index, rfl, staysOpen, first⟩

theorem buildTree_append_xor_same_name_open :
    (∃ tree : Node,
      buildTree "Root"
          ([.beginTag "b" [], .endTag "b", .beginTag "a" [], .plainText "x", .beginTag "a" []] ++
            [.endTag "a", .endTag "a"]) =
        .ok tree) ∧
    buildTree "Root"
        [.beginTag "b" [], .endTag "b", .beginTag "a" [], .plainText "x", .beginTag "a" []] =
      .error (.unclosedTag "a" 2) ∧
    StaysOpen
        [.beginTag "b" [], .endTag "b", .beginTag "a" [], .plainText "x", .beginTag "a" []]
        "a" 2 ∧
    ∀ (otherName : String) (otherIndex : Nat),
      StaysOpen
          [.beginTag "b" [], .endTag "b", .beginTag "a" [], .plainText "x", .beginTag "a" []]
          otherName otherIndex →
        2 ≤ otherIndex := by
  have completed :
      ∃ tree : Node,
        buildTree "Root"
            ([.beginTag "b" [], .endTag "b", .beginTag "a" [], .plainText "x",
                .beginTag "a" []] ++
              [.endTag "a", .endTag "a"]) =
          .ok tree := ⟨_, rfl⟩
  rcases (buildTree_append_xor "Root" _).2 ⟨_, completed⟩ _ rfl with
    ⟨name, index, named, staysOpen, first⟩
  cases named
  exact ⟨completed, rfl, staysOpen, first⟩

example (others : List Token) :
    buildTree "Root" ([.beginTag "a" [], .beginTag "b" [], .endTag "a"] ++ others) =
      .error (.unclosedTag "b" 1) := rfl

end TagTree
