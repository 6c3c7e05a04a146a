import TagTree.Json
import TagTree.Proofs.Text.Reads

/-!
# JSON texts can be told apart

The compact and the indented text of a JSON value differ only in the blanks
between the marks.  A `Layout` is any such way of writing, and in each of them
the text of a value determines the value.

Nothing has to be known of what follows a text: a value shows where it ends.  A
string ends at the first quote that is not written with a backslash, because
every character of a string is read back from its written form.  A list of
values goes on at a comma and ends at the closing bracket, whatever blanks stand
in front of it.
-/

namespace TagTree.Json

universe u

/--
The written form of the value shows where it ends: whatever stands behind it, no
other value is written with the same beginning.
-/
def Legible {α : Type u} (write : α → List Char) (value : α) : Prop :=
  ∀ ⦃other : α⦄ ⦃rest otherRest : List Char⦄,
    write value ++ rest = write other ++ otherRest → value = other ∧ rest = otherRest

/-! ## Strings -/

/-- The value of a hexadecimal digit. -/
def digitValue (digit : Char) : Nat :=
  if digit.toNat < 'a'.toNat then digit.toNat - '0'.toNat else digit.toNat - 'a'.toNat + 10

theorem digitValue_digitChar : ∀ value < 16, digitValue (Nat.digitChar value) = value := by
  decide

/-- Reads one character of a string and what follows it; a quote ends the string. -/
def unescape : List Char → Option (Char × List Char)
  | '\\' :: '"' :: rest => some ('"', rest)
  | '\\' :: '\\' :: rest => some ('\\', rest)
  | '\\' :: 'b' :: rest => some ('\x08', rest)
  | '\\' :: 't' :: rest => some ('\t', rest)
  | '\\' :: 'n' :: rest => some ('\n', rest)
  | '\\' :: 'f' :: rest => some ('\x0c', rest)
  | '\\' :: 'r' :: rest => some ('\r', rest)
  | '\\' :: 'u' :: '0' :: '0' :: high :: low :: rest =>
    some (Char.ofNat (16 * digitValue high + digitValue low), rest)
  | '"' :: _ => none
  | character :: rest => some (character, rest)
  | [] => none

/-- A character is read back from its written form. -/
theorem unescape_escape_append (character : Char) (rest : List Char) :
    unescape (escape character ++ rest) = some (character, rest) := by
  unfold escape
  -- The seven characters with a short form of their own are read back by evaluation.
  iterate 7
    split
    · next special =>
      rw [special]
      rfl
  split
  · next low =>
    have small : character.toNat < 32 := low
    have coded :
        16 * digitValue (Nat.digitChar (character.toNat / 16)) +
            digitValue (Nat.digitChar (character.toNat % 16)) =
          character.toNat := by
      rw [digitValue_digitChar _ (by omega), digitValue_digitChar _ (by omega),
        Nat.div_add_mod]
    simp only [List.cons_append, List.nil_append, unescape, coded, Char.ofNat_toNat]
  · next notQuote notBackslash _ _ _ _ _ _ =>
    simp [unescape, notBackslash]

theorem legible_escape (character : Char) : Legible escape character := by
  intro other rest otherRest same
  have read := unescape_escape_append character rest
  rw [same, unescape_escape_append, Option.some.injEq, Prod.mk.injEq] at read
  exact ⟨read.1.symm, read.2.symm⟩

/-- No written character begins with the quote that ends a string. -/
theorem escape_append_ne_quote_cons (character : Char) (rest behind : List Char) :
    escape character ++ rest ≠ '"' :: behind := by
  intro same
  have read := unescape_escape_append character rest
  rw [same] at read
  simp [unescape] at read

theorem legible_flatMap_escape (content : List Char) :
    Legible (fun characters => characters.flatMap escape ++ ['"']) content := by
  induction content with
  | nil =>
      intro other rest otherRest same
      cases other with
      | nil => exact ⟨rfl, List.append_cancel_left same⟩
      | cons first others =>
          simp only [List.flatMap_nil, List.flatMap_cons, List.append_assoc] at same
          exact absurd same.symm (escape_append_ne_quote_cons first _ _)
  | cons first others inductionHypothesis =>
      intro other rest otherRest same
      cases other with
      | nil =>
          simp only [List.flatMap_nil, List.flatMap_cons, List.append_assoc] at same
          exact absurd same (escape_append_ne_quote_cons first _ _)
      | cons otherFirst otherOthers =>
          simp only [List.flatMap_cons, List.append_assoc] at same
          rcases legible_escape first same with ⟨rfl, sameOthers⟩
          simp only [← List.append_assoc] at sameOthers
          rcases inductionHypothesis sameOthers with ⟨rfl, sameRest⟩
          exact ⟨rfl, sameRest⟩

theorem toList_quote (content : String) :
    (quote content).toList = '"' :: (content.toList.flatMap escape ++ ['"']) := by
  simp [quote]

/-- A string ends at its closing quote, and shows its content. -/
theorem legible_quote (content : String) :
    Legible (fun content => (quote content).toList) content := by
  intro other rest otherRest same
  simp only [toList_quote, List.cons_append, List.cons.injEq, true_and] at same
  rcases legible_flatMap_escape content.toList same with ⟨sameContent, sameRest⟩
  exact ⟨String.toList_inj.mp sameContent, sameRest⟩

/-! ## Lists between brackets -/

/--
Lines between two brackets: in front of each line stands `inner`, in front of the
closing bracket `outer`, and a comma stands between each two lines.  Nothing
stands between the brackets if there are no lines.
-/
def enclosed (opening closing : Char) (inner outer : List Char) :
    List (List Char) → List Char
  | [] => [opening, closing]
  | first :: others =>
    opening ::
      (inner ++ (first ++ (others.flatMap (fun line => ',' :: (inner ++ line)) ++
        (outer ++ [closing]))))

section

variable {α : Type u} {write : α → List Char} {inner outer : List Char}

/-- Further items go on as long as there are commas. -/
theorem eq_of_separated_append_eq
    {left right : List α} {leftRest rightRest : List Char}
    (legible : ∀ item ∈ left, Legible write item)
    (leftEnds : ∀ behind : List Char, leftRest ≠ ',' :: behind)
    (rightEnds : ∀ behind : List Char, rightRest ≠ ',' :: behind)
    (same :
      left.flatMap (fun item => ',' :: (inner ++ write item)) ++ leftRest =
        right.flatMap (fun item => ',' :: (inner ++ write item)) ++ rightRest) :
    left = right ∧ leftRest = rightRest := by
  induction left generalizing right with
  | nil =>
      cases right with
      | nil => exact ⟨rfl, same⟩
      | cons first others => exact absurd same (leftEnds _)
  | cons leftFirst leftOthers inductionHypothesis =>
      rcases List.forall_mem_cons.mp legible with ⟨firstLegible, othersLegible⟩
      cases right with
      | nil => exact absurd same.symm (rightEnds _)
      | cons rightFirst rightOthers =>
          simp only [List.flatMap_cons, List.cons_append, List.append_assoc,
            List.cons.injEq, true_and, List.append_cancel_left_eq] at same
          rcases firstLegible same with ⟨rfl, sameOthers⟩
          rcases inductionHypothesis othersLegible sameOthers with ⟨rfl, sameRest⟩
          exact ⟨rfl, sameRest⟩

/--
A list between brackets shows its items if they show themselves, no item can be
taken for the closing bracket and that bracket not for a comma.
-/
theorem legible_enclosed
    (opening : Char) {closing : Char} {items : List α}
    (legible : ∀ item ∈ items, Legible write item)
    (begins :
      ∀ (item : α) (rest behind : List Char),
        inner ++ (write item ++ rest) ≠ closing :: behind)
    (ends : ∀ rest behind : List Char, outer ++ closing :: rest ≠ ',' :: behind) :
    Legible (fun items => enclosed opening closing inner outer (items.map write)) items := by
  intro other rest otherRest same
  cases items with
  | nil =>
      cases other with
      | nil => exact ⟨rfl, List.append_cancel_left same⟩
      | cons first others =>
          simp only [List.map_nil, List.map_cons, enclosed, List.cons_append,
            List.append_assoc, List.nil_append, List.cons.injEq, true_and] at same
          exact absurd same.symm (begins first _ _)
  | cons itemsFirst itemsOthers =>
      rcases List.forall_mem_cons.mp legible with ⟨firstLegible, othersLegible⟩
      cases other with
      | nil =>
          simp only [List.map_nil, List.map_cons, enclosed, List.cons_append,
            List.append_assoc, List.nil_append, List.cons.injEq, true_and] at same
          exact absurd same (begins itemsFirst _ _)
      | cons otherFirst otherOthers =>
          simp only [List.map_cons, enclosed, List.cons_append, List.append_assoc,
            List.nil_append, List.cons.injEq, true_and, List.append_cancel_left_eq,
            List.flatMap_map] at same
          rcases firstLegible same with ⟨rfl, sameOthers⟩
          rcases eq_of_separated_append_eq othersLegible (ends rest) (ends otherRest)
              sameOthers with
            ⟨rfl, sameEnd⟩
          have sameRest : rest = otherRest :=
            (List.cons.inj (List.append_cancel_left sameEnd)).2
          exact ⟨rfl, sameRest⟩

end

/-! ## Values -/

/--
Induction over values: a property of all values follows from the property of
strings, of arrays all of whose items have it and of objects all of whose values
have it.
-/
@[induction_eliminator]
theorem valueInduction {motive : Json → Prop}
    (string : ∀ content : String, motive (.string content))
    (array :
      ∀ items : List Json, (∀ item ∈ items, motive item) → motive (.array items))
    (object :
      ∀ fields : List (String × Json),
        (∀ field ∈ fields, motive field.2) → motive (.object fields))
    (value : Json) :
    motive value := by
  refine
    @Json.rec motive
      (fun items => ∀ item ∈ items, motive item)
      (fun fields => ∀ field ∈ fields, motive field.2)
      (fun field => motive field.2)
      string array object ?_ ?_ ?_ ?_ ?_ value
  · simp
  · intro first others firstHolds othersHold
    exact List.forall_mem_cons.mpr ⟨firstHolds, othersHold⟩
  · simp
  · intro first others firstHolds othersHold
    exact List.forall_mem_cons.mpr ⟨firstHolds, othersHold⟩
  · intro key value holds
    exact holds

/-- The character that a written value begins with. -/
def mark : Json → Char
  | string _ => '"'
  | array _ => '['
  | object _ => '\x7b'

/--
A way of writing values: strings in quotes, arrays and objects as lists between
brackets.  Only blanks stand between the marks, the same at the same level.
-/
structure Layout where
  /-- What is written of a value at the given level. -/
  write : Nat → Json → List Char
  /-- The blanks in front of what is written at the given level. -/
  gap : Nat → List Char
  /-- What stands between a key and its value. -/
  colon : List Char
  gap_blank :
    ∀ (depth : Nat), ∀ character ∈ gap depth, character = '\n' ∨ character = ' '
  write_string :
    ∀ (depth : Nat) (content : String),
      write depth (.string content) = (quote content).toList
  write_array :
    ∀ (depth : Nat) (items : List Json),
      write depth (.array items) =
        enclosed '[' ']' (gap (depth + 1)) (gap depth) (items.map (write (depth + 1)))
  write_object :
    ∀ (depth : Nat) (fields : List (String × Json)),
      write depth (.object fields) =
        enclosed '\x7b' '\x7d' (gap (depth + 1)) (gap depth)
          (fields.map fun field =>
            (quote field.1).toList ++ (colon ++ write (depth + 1) field.2))

namespace Layout

variable (layout : Layout) (depth : Nat)

/-- Behind the blanks of a level a mark is not taken for another one. -/
theorem gap_append_cons_ne
    {character mark : Char}
    (different : character ≠ mark)
    (notBlank : ¬ (mark = '\n' ∨ mark = ' '))
    (rest behind : List Char) :
    layout.gap depth ++ character :: rest ≠ mark :: behind := by
  intro same
  cases gapShape : layout.gap depth with
  | nil =>
      rw [gapShape] at same
      exact different (List.cons.inj same).1
  | cons first others =>
      rw [gapShape] at same
      have isBlank := layout.gap_blank depth first (by simp [gapShape])
      rw [(List.cons.inj same).1] at isBlank
      exact notBlank isBlank

/-- A list in the given layout shows its items if they do and none begins with the bracket. -/
theorem legible_list
    {α : Type u} {write : α → List Char} {items : List α} (opening : Char) {closing : Char}
    (legible : ∀ item ∈ items, Legible write item)
    (begins : ∀ item : α, ∃ first ≠ closing, ∃ others, write item = first :: others)
    (notComma : closing ≠ ',')
    (notBlank : ¬ (closing = '\n' ∨ closing = ' ')) :
    Legible
      (fun items =>
        enclosed opening closing (layout.gap (depth + 1)) (layout.gap depth)
          (items.map write))
      items := by
  refine legible_enclosed opening legible ?_ ?_
  · intro item rest behind
    rcases begins item with ⟨first, notClosing, others, shape⟩
    rw [shape]
    exact layout.gap_append_cons_ne (depth + 1) notClosing notBlank _ _
  · exact layout.gap_append_cons_ne depth notComma (by decide)

theorem exists_write_eq_cons (value : Json) :
    ∃ others : List Char, layout.write depth value = value.mark :: others := by
  cases value with
  | string content =>
      rw [write_string, toList_quote]
      exact ⟨_, rfl⟩
  | array items =>
      rw [write_array]
      cases items <;> exact ⟨_, rfl⟩
  | object fields =>
      rw [write_object]
      cases fields <;> exact ⟨_, rfl⟩

/-- Written values with the same beginning begin with the same mark. -/
theorem mark_eq_of_write_append_eq
    {left right : Json} {leftRest rightRest : List Char}
    (same :
      layout.write depth left ++ leftRest = layout.write depth right ++ rightRest) :
    left.mark = right.mark := by
  rcases layout.exists_write_eq_cons depth left with ⟨leftOthers, leftShape⟩
  rcases layout.exists_write_eq_cons depth right with ⟨rightOthers, rightShape⟩
  rw [leftShape, rightShape] at same
  exact (List.cons.inj same).1

theorem legible_array
    {items : List Json}
    (legible : ∀ item ∈ items, Legible (layout.write (depth + 1)) item) :
    Legible (fun items => layout.write depth (.array items)) items := by
  simp only [write_array]
  refine layout.legible_list depth '[' legible ?_ (by decide) (by decide)
  intro item
  refine ⟨item.mark, ?_, layout.exists_write_eq_cons (depth + 1) item⟩
  cases item <;> simp [mark]

/-- A field shows its key and its value. -/
theorem legible_field
    {field : String × Json}
    (legible : Legible (layout.write depth) field.2) :
    Legible
      (fun field : String × Json =>
        (quote field.1).toList ++ (layout.colon ++ layout.write depth field.2))
      field := by
  intro other rest otherRest same
  simp only [List.append_assoc] at same
  rcases legible_quote field.1 same with ⟨sameKey, sameBehind⟩
  rcases legible (List.append_cancel_left sameBehind) with ⟨sameValue, sameRest⟩
  exact ⟨Prod.ext sameKey sameValue, sameRest⟩

theorem legible_object
    {fields : List (String × Json)}
    (legible : ∀ field ∈ fields, Legible (layout.write (depth + 1)) field.2) :
    Legible (fun fields => layout.write depth (.object fields)) fields := by
  simp only [write_object]
  refine layout.legible_list depth '\x7b' ?_ ?_ (by decide) (by decide)
  · intro field member
    exact layout.legible_field (depth + 1) (legible field member)
  · intro field
    rw [toList_quote]
    exact ⟨'"', by decide, _, rfl⟩

/-- A value shows itself, whatever is written behind it. -/
theorem legible_write (value : Json) : Legible (layout.write depth) value := by
  induction value generalizing depth with
  | string content =>
      intro other rest otherRest same
      have sameMark := layout.mark_eq_of_write_append_eq depth same
      cases other with
      | string otherContent =>
          rw [write_string, write_string] at same
          rcases legible_quote content same with ⟨rfl, sameRest⟩
          exact ⟨rfl, sameRest⟩
      | array _ => simp [mark] at sameMark
      | object _ => simp [mark] at sameMark
  | array items inductionHypothesis =>
      intro other rest otherRest same
      have sameMark := layout.mark_eq_of_write_append_eq depth same
      cases other with
      | array otherItems =>
          have legible :=
            layout.legible_array depth fun item member =>
              inductionHypothesis item member (depth + 1)
          rcases legible same with ⟨rfl, sameRest⟩
          exact ⟨rfl, sameRest⟩
      | string _ => simp [mark] at sameMark
      | object _ => simp [mark] at sameMark
  | object fields inductionHypothesis =>
      intro other rest otherRest same
      have sameMark := layout.mark_eq_of_write_append_eq depth same
      cases other with
      | object otherFields =>
          have legible :=
            layout.legible_object depth fun field member =>
              inductionHypothesis field member (depth + 1)
          rcases legible same with ⟨rfl, sameRest⟩
          exact ⟨rfl, sameRest⟩
      | string _ => simp [mark] at sameMark
      | array _ => simp [mark] at sameMark

/-- In every layout a text belongs to one value only. -/
theorem write_injective : Function.Injective (layout.write depth) := by
  intro left right same
  have sameText : layout.write depth left ++ [] = layout.write depth right ++ [] := by
    rw [same]
  exact (layout.legible_write depth left sameText).1

end Layout

/-! ## The two texts of a value -/

section

variable {opening closing : String} {openingMark closingMark : Char}

/-- Lines between brackets without any blanks. -/
theorem toList_joined
    (opens : opening.toList = [openingMark])
    (closes : closing.toList = [closingMark])
    (lines : List String) :
    (opening ++ ",".intercalate lines ++ closing).toList =
      enclosed openingMark closingMark [] [] (lines.map String.toList) := by
  cases lines with
  | nil => simp [enclosed, opens, closes]
  | cons first others =>
      simp [enclosed, opens, closes, intercalate_cons_eq_append_join, String.toList_join,
        List.flatMap_map]

/-- Lines of their own between brackets. -/
theorem toList_block
    (opens : opening.toList = [openingMark])
    (closes : closing.toList = [closingMark])
    (depth : Nat) (lines : List String) :
    (block opening closing depth lines).toList =
      enclosed openingMark closingMark (newline (depth + 1)).toList (newline depth).toList
        (lines.map String.toList) := by
  cases lines with
  | nil => simp [block, enclosed, opens, closes]
  | cons first others =>
      simp [block, enclosed, opens, closes, intercalate_cons_eq_append_join,
        String.toList_join, List.flatMap_map]

end

/-- The compact text has no blanks. -/
def Layout.compact : Layout where
  write _ value := value.compact.toList
  gap _ := []
  colon := [':']
  gap_blank := by simp
  write_string := by simp [Json.compact]
  write_array _ items := by
    rw [Json.compact, toList_joined rfl rfl, compactEach_eq_map, List.map_map]
    rfl
  write_object _ fields := by
    rw [Json.compact, toList_joined rfl rfl, compactFields_eq_map, List.map_map]
    exact congrArg _ (List.map_congr_left fun field _ => by simp)

/-- The indented text has a line for each item and each field. -/
def Layout.pretty : Layout where
  write depth value := (value.prettyAt depth).toList
  gap depth := (newline depth).toList
  colon := [':', ' ']
  gap_blank := by simp [newline]
  write_string := by simp [Json.prettyAt]
  write_array depth items := by
    rw [Json.prettyAt, toList_block rfl rfl, prettyEachAt_eq_map, List.map_map]
    rfl
  write_object depth fields := by
    rw [Json.prettyAt, toList_block rfl rfl, prettyFieldsAt_eq_map, List.map_map]
    exact congrArg _ (List.map_congr_left fun field _ => by simp)

theorem compact_injective : Function.Injective compact := by
  intro left right same
  exact Layout.compact.write_injective 0 (congrArg String.toList same)

theorem pretty_injective : Function.Injective pretty := by
  intro left right same
  exact Layout.pretty.write_injective 0 (congrArg String.toList same)

end TagTree.Json
