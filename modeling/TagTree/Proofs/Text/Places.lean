import TagTree.Proofs.Text.Reads

/-!
# Places in a text and in a longer one

A place is determined by the two parts into which it divides its text.  Its
offset is then the number of bytes of the first part, so it lies between two
characters and never past the end.

A place stays the same place when more text is put in front: nothing changes
ahead of it, and its offset grows by the width of what was added.  When more
text is put behind, not even the offset changes.
-/

namespace TagTree

theorem utf8ByteSize_ofList (characters : List Char) :
    (String.ofList characters).utf8ByteSize = utf8Width characters := by
  induction characters with
  | nil => rfl
  | cons first others inductionHypothesis =>
      rw [String.ofList_cons, String.utf8ByteSize_append, String.utf8ByteSize_singleton,
        inductionHypothesis, utf8Width_cons]

theorem utf8Width_toList (text : String) :
    utf8Width text.toList = text.utf8ByteSize := by
  rw [← utf8ByteSize_ofList, String.ofList_toList]

namespace Cursor

/-- The place between two parts of a text. -/
def between (before after : List Char) : Cursor where
  passed := before.reverse
  rest := after
  offset := utf8Width before
  offset_eq := (utf8Width_reverse before).symm

section

variable (before after : List Char)

@[simp]
theorem passed_between : (between before after).passed = before.reverse := rfl

@[simp]
theorem rest_between : (between before after).rest = after := rfl

@[simp]
theorem offset_between : (between before after).offset = utf8Width before := rfl

@[simp]
theorem source_between : (between before after).source = String.ofList (before ++ after) := by
  simp [source]

end

theorem between_passed_rest (cursor : Cursor) :
    between cursor.passed.reverse cursor.rest = cursor := by
  apply Cursor.ext
  · simp
  · simp

theorem reads_between (before text after : List Char) :
    Reads (between before (text ++ after)) text (between (before ++ text) after) :=
  ⟨rfl, List.reverse_append⟩

theorem Reads.passed_reverse
    {start stop : Cursor} {text : List Char}
    (reads : Reads start text stop) :
    stop.passed.reverse = start.passed.reverse ++ text := by
  rw [reads.2, List.reverse_append, List.reverse_reverse]

theorem offset_eq_reverse (cursor : Cursor) :
    cursor.offset = utf8Width cursor.passed.reverse := by
  rw [cursor.offset_eq, utf8Width_reverse]

/-- Every place lies between two characters of its text. -/
theorem isValid_offset (cursor : Cursor) :
    String.Pos.Raw.IsValid cursor.source ⟨cursor.offset⟩ := by
  rw [String.Pos.Raw.isValid_iff_exists_append]
  refine ⟨String.ofList cursor.passed.reverse, String.ofList cursor.rest, ?_, ?_⟩
  · rw [source, String.ofList_append]
  · rw [String.Pos.Raw.ext_iff, String.byteIdx_rawEndPos, utf8ByteSize_ofList]
    exact cursor.offset_eq_reverse

/-- Every offset between two characters of a text is that of a place. -/
theorem exists_offset_eq_of_isValid
    {text : String} {offset : Nat}
    (valid : String.Pos.Raw.IsValid text ⟨offset⟩) :
    ∃ place : Cursor, place.source = text ∧ place.offset = offset := by
  rcases String.Pos.Raw.isValid_iff_exists_append.mp valid with
    ⟨before, behind, rfl, ending⟩
  refine ⟨between before.toList behind.toList, ?_, ?_⟩
  · rw [source_between, ← String.toList_append, String.ofList_toList]
  · rw [offset_between, utf8Width_toList]
    exact (congrArg String.Pos.Raw.byteIdx ending).symm

theorem offset_le_utf8ByteSize (cursor : Cursor) :
    cursor.offset ≤ cursor.source.utf8ByteSize :=
  cursor.isValid_offset.le_utf8ByteSize

/--
Reading on from one place leads to another exactly if both lie in the same
text and the second one has no smaller offset.  So a parser is any way to read
that stays in its text and does not go back.
-/
theorem le_iff_source_eq {start stop : Cursor} :
    start ≤ stop ↔ stop.source = start.source ∧ start.offset ≤ stop.offset := by
  constructor
  · intro forward
    exact ⟨source_eq_of_le forward, offset_le_of_le forward⟩
  · rintro ⟨sameSource, notLower⟩
    rw [source, source, String.ofList_inj, List.append_eq_append_iff] at sameSource
    rcases sameSource with ⟨text, startPassed, stopRest⟩ | ⟨text, stopPassed, startRest⟩
    · -- Here the first place lies behind the second, by a text of no width.
      rw [start.offset_eq_reverse, stop.offset_eq_reverse, startPassed,
        utf8Width_append] at notLower
      have noWidth : ¬ 0 < utf8Width text := by omega
      have noText : text = [] := Decidable.not_not.mp (noWidth ∘ utf8Width_pos)
      subst noText
      rw [List.append_nil, List.reverse_inj] at startPassed
      exact ⟨[], stopRest.symm, startPassed.symm⟩
    · refine ⟨text, startRest, ?_⟩
      rw [← List.reverse_inj, stopPassed, List.reverse_append, List.reverse_reverse]

/-! ## More text in front -/

/-- The place in the text that has the given characters put in front. -/
def shift (front : List Char) (cursor : Cursor) : Cursor :=
  between (front ++ cursor.passed.reverse) cursor.rest

section

variable (front : List Char) (cursor : Cursor)

@[simp]
theorem rest_shift : (cursor.shift front).rest = cursor.rest := rfl

@[simp]
theorem passed_shift :
    (cursor.shift front).passed = cursor.passed ++ front.reverse := by
  simp [shift]

@[simp]
theorem offset_shift :
    (cursor.shift front).offset = cursor.offset + utf8Width front := by
  rw [shift, offset_between, utf8Width_append, ← cursor.offset_eq_reverse, Nat.add_comm]

theorem source_shift :
    (cursor.shift front).source = String.ofList front ++ cursor.source := by
  simp [source]

end

theorem shift_start (front : List Char) (text : String) :
    (start text).shift front = between front text.toList := by
  simp [shift]

theorem next?_shift (front : List Char) (cursor : Cursor) :
    (cursor.shift front).next? = cursor.next?.map (Prod.map id (shift front)) := by
  have sameRest := cursor.rest_shift front
  cases restShape : cursor.rest with
  | nil =>
      rw [next?_of_rest_nil restShape, next?_of_rest_nil (sameRest.trans restShape)]
      rfl
  | cons first others =>
      have advanced :
          (cursor.shift front).advance first others =
            (cursor.advance first others).shift front := by
        apply Cursor.ext
        · simp
        · rfl
      rw [next?_of_rest_cons restShape, next?_of_rest_cons (sameRest.trans restShape),
        advanced]
      rfl

theorem offset_shift_lt_iff (front : List Char) {cursor other : Cursor} :
    (cursor.shift front).offset < (other.shift front).offset ↔
      cursor.offset < other.offset := by
  rw [offset_shift, offset_shift, Nat.add_lt_add_iff_right]

/-! ## More text behind -/

/-- The place in the text that has the given characters put behind. -/
def extend (back : List Char) (cursor : Cursor) : Cursor :=
  between cursor.passed.reverse (cursor.rest ++ back)

section

variable (back : List Char) (cursor : Cursor)

@[simp]
theorem rest_extend : (cursor.extend back).rest = cursor.rest ++ back := rfl

@[simp]
theorem passed_extend : (cursor.extend back).passed = cursor.passed := by
  simp [extend]

@[simp]
theorem offset_extend : (cursor.extend back).offset = cursor.offset :=
  cursor.offset_eq_reverse.symm

end

theorem extend_start (first second : String) :
    (start first).extend second.toList = start (first ++ second) := by
  apply Cursor.ext
  · rfl
  · simp

theorem Reads.extend
    {start stop : Cursor} {text : List Char}
    (reads : Reads start text stop)
    (back : List Char) :
    Reads (start.extend back) text (stop.extend back) := by
  constructor
  · simp [reads.rest_eq]
  · simpa using reads.2

end Cursor

end TagTree
