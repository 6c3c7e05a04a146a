import Mathlib.Data.List.Induction
import TagTree.Proofs.Text.Places
import TagTree.Text.Position

/-!
# Lines and columns of a place

At a place between two characters the position depends only on the characters
in front: the line counts the newlines among them, and the column counts those
behind the last newline.  Every character moves the position forward, so of two
places of a text the later one has the later position, and no two places have
the same one.

An offset inside a character is no place between two characters.  It has the
position of the place behind that character, and so never that of the character
itself.
-/

namespace TagTree.Position

/-- All characters in front of a place that is not behind the offset are passed. -/
theorem advanceTo_append_of_le
    (before behind : List Char) {offset index : Nat} (position : Position)
    (reached : index + utf8Width before ≤ offset) :
    advanceTo offset index position (before ++ behind) =
      advanceTo offset (index + utf8Width before) (before.foldl after position) behind := by
  induction before generalizing index position with
  | nil => rfl
  | cons first others inductionHypothesis =>
      have wide := first.utf8Size_pos
      rw [utf8Width_cons, ← Nat.add_assoc] at reached ⊢
      have passed : index < offset := by omega
      rw [List.cons_append, advanceTo, if_pos passed, List.foldl_cons]
      exact inductionHypothesis (position.after first) reached

/-- Nothing is passed from a place on that is not in front of the offset. -/
theorem advanceTo_of_le
    {offset index : Nat} (position : Position) (characters : List Char)
    (arrived : offset ≤ index) :
    advanceTo offset index position characters = position := by
  cases characters with
  | nil => rfl
  | cons first others => rw [advanceTo, if_neg (Nat.not_lt.mpr arrived)]

theorem ofOffset_append
    {text : String} {before behind : List Char}
    (shape : text.toList = before ++ behind) :
    ofOffset text (utf8Width before) = before.foldl after first := by
  have reached : 0 + utf8Width before ≤ utf8Width before := by omega
  rw [ofOffset, shape, advanceTo_append_of_le before behind first reached]
  exact advanceTo_of_le _ behind (by omega)

/-- An offset past the end of a text has the position of the end. -/
theorem ofOffset_of_utf8Width_le
    {text : String} {offset : Nat}
    (past : utf8Width text.toList ≤ offset) :
    ofOffset text offset = text.toList.foldl after first := by
  have reached : 0 + utf8Width text.toList ≤ offset := by omega
  have passed := advanceTo_append_of_le text.toList [] first reached
  rw [List.append_nil] at passed
  exact passed

/-- An offset inside a character has the position of the place behind the character. -/
theorem ofOffset_of_lt
    {text : String} {before behind : List Char} {character : Char} {offset : Nat}
    (shape : text.toList = before ++ character :: behind)
    (notBefore : utf8Width before < offset)
    (notBehind : offset ≤ utf8Width before + character.utf8Size) :
    ofOffset text offset = (before.foldl after first).after character := by
  have reached : 0 + utf8Width before ≤ offset := by omega
  have within : 0 + utf8Width before < offset := by omega
  rw [ofOffset, shape, advanceTo_append_of_le before _ first reached, advanceTo,
    if_pos within]
  exact advanceTo_of_le _ behind (by omega)

theorem line_foldl_after (characters : List Char) :
    (characters.foldl after first).line = characters.count '\n' + 1 := by
  induction characters using List.reverseRecOn with
  | nil => rfl
  | append_singleton before last inductionHypothesis =>
      rw [List.foldl_append, List.foldl_cons, List.foldl_nil, List.count_append, after]
      by_cases newline : last = '\n'
      · subst newline
        simp [inductionHypothesis]
      · simp [newline, inductionHypothesis]

theorem column_foldl_after (characters : List Char) :
    (characters.foldl after first).column =
      (characters.reverse.takeWhile (· ≠ '\n')).length + 1 := by
  induction characters using List.reverseRecOn with
  | nil => rfl
  | append_singleton before last inductionHypothesis =>
      rw [List.foldl_append, List.foldl_cons, List.foldl_nil, List.reverse_concat, after]
      by_cases newline : last = '\n'
      · subst newline
        simp
      · simp [newline, inductionHypothesis]

/-! ## Later places have later positions -/

/-- Positions are ordered by line, and by column within a line. -/
instance : LT Position where
  lt left right :=
    left.line < right.line ∨ (left.line = right.line ∧ left.column < right.column)

theorem lt_def {left right : Position} :
    left < right ↔
      left.line < right.line ∨ (left.line = right.line ∧ left.column < right.column) :=
  Iff.rfl

protected theorem ne_of_lt {left right : Position}
    (inFront : left < right) :
    left ≠ right := by
  rintro rfl
  rw [lt_def] at inFront
  omega

protected theorem lt_trans {left middle right : Position}
    (first : left < middle)
    (second : middle < right) :
    left < right := by
  rw [lt_def] at first second ⊢
  omega

theorem lt_after (position : Position) (character : Char) :
    position < position.after character := by
  rw [lt_def, after]
  split
  · exact Or.inl (Nat.lt_succ_self _)
  · exact Or.inr ⟨rfl, Nat.lt_succ_self _⟩

/-- Passing at least one character leads to a later position. -/
theorem lt_foldl_after
    (position : Position) {characters : List Char}
    (nonempty : characters ≠ []) :
    position < characters.foldl after position := by
  induction characters generalizing position with
  | nil => exact absurd rfl nonempty
  | cons first others inductionHypothesis =>
      rw [List.foldl_cons]
      cases others with
      | nil => exact position.lt_after first
      | cons second following =>
          exact
            Position.lt_trans (position.lt_after first)
              (inductionHypothesis (position.after first) (by simp))

theorem ofOffset_place (place : Cursor) :
    ofOffset place.source place.offset = place.passed.reverse.foldl after first := by
  rw [place.offset_eq_reverse]
  apply ofOffset_append
  rw [Cursor.source, String.toList_ofList]

/-- A place with a larger offset has a later position. -/
theorem ofOffset_lt_of_le
    {start stop : Cursor}
    (forward : start ≤ stop)
    (progress : start.offset < stop.offset) :
    ofOffset start.source start.offset < ofOffset stop.source stop.offset := by
  rcases forward with ⟨read, reads⟩
  have nonempty : read ≠ [] := by
    rintro rfl
    rw [Cursor.Reads.nil_iff.mp reads] at progress
    exact Nat.lt_irrefl _ progress
  rw [ofOffset_place, ofOffset_place, Cursor.Reads.passed_reverse reads, List.foldl_append]
  exact lt_foldl_after _ nonempty

theorem ofOffset_lt_of_isValid
    {text : String} {earlier later : Nat}
    (earlierValid : String.Pos.Raw.IsValid text ⟨earlier⟩)
    (laterValid : String.Pos.Raw.IsValid text ⟨later⟩)
    (inFront : earlier < later) :
    ofOffset text earlier < ofOffset text later := by
  rcases Cursor.exists_offset_eq_of_isValid earlierValid with ⟨start, rfl, rfl⟩
  rcases Cursor.exists_offset_eq_of_isValid laterValid with ⟨stop, sameSource, rfl⟩
  have forward : start ≤ stop :=
    Cursor.le_iff_source_eq.mpr ⟨sameSource, Nat.le_of_lt inFront⟩
  have later := ofOffset_lt_of_le forward inFront
  rw [sameSource] at later
  exact later

/-- Different places of a text have different positions. -/
theorem ofOffset_inj_of_isValid
    {text : String} {left right : Nat}
    (leftValid : String.Pos.Raw.IsValid text ⟨left⟩)
    (rightValid : String.Pos.Raw.IsValid text ⟨right⟩)
    (same : ofOffset text left = ofOffset text right) :
    left = right := by
  rcases Nat.lt_trichotomy left right with inFront | equal | behind
  · have later := ofOffset_lt_of_isValid leftValid rightValid inFront
    exact absurd same (Position.ne_of_lt later)
  · exact equal
  · have later := ofOffset_lt_of_isValid rightValid leftValid behind
    exact absurd same.symm (Position.ne_of_lt later)

/-! ## What stands in front of an offset -/

/--
What stands in front of a byte offset: a beginning of the text that ends there,
or all of the text if the offset lies past its end.
-/
def StandsBefore (before text : String) (offset : Nat) : Prop :=
  (∃ behind : String, text = before ++ behind) ∧
  before.utf8ByteSize = min offset text.utf8ByteSize

theorem exists_standsBefore
    {text : String} {offset : Nat}
    (boundary : String.Pos.Raw.IsValid text ⟨offset⟩ ∨ text.utf8ByteSize < offset) :
    ∃ before : String, StandsBefore before text offset := by
  rcases boundary with valid | past
  · have inside : offset ≤ text.utf8ByteSize := valid.le_utf8ByteSize
    rcases String.Pos.Raw.isValid_iff_exists_append.mp valid with
      ⟨before, behind, split, ending⟩
    refine ⟨before, ⟨behind, split⟩, ?_⟩
    rw [Nat.min_eq_left inside]
    exact (congrArg String.Pos.Raw.byteIdx ending).symm
  · refine ⟨text, ⟨"", String.append_empty.symm⟩, ?_⟩
    rw [Nat.min_eq_right (Nat.le_of_lt past)]

theorem ofOffset_of_standsBefore
    {before text : String} {offset : Nat}
    (standsBefore : StandsBefore before text offset) :
    ofOffset text offset = before.toList.foldl after first := by
  rcases standsBefore with ⟨⟨behind, rfl⟩, ending⟩
  rw [← utf8Width_toList, ← utf8Width_toList, String.toList_append, utf8Width_append] at ending
  by_cases inside : offset ≤ utf8Width before.toList + utf8Width behind.toList
  · rw [Nat.min_eq_left inside] at ending
    rw [← ending]
    exact ofOffset_append (String.toList_append ..)
  · -- The part in front is as wide as the whole text, so nothing stands behind it.
    rw [Nat.min_eq_right (Nat.le_of_not_le inside)] at ending
    have nothing : ¬ 0 < utf8Width behind.toList := by omega
    have noText : behind.toList = [] := Decidable.not_not.mp (nothing ∘ utf8Width_pos)
    rw [ofOffset_of_utf8Width_le, String.toList_append, noText, List.append_nil]
    rw [String.toList_append, utf8Width_append]
    omega

/--
Where an offset lies between two characters or past the end of a text, its line
counts the newlines in front of it, and its column the characters in front of it
up to the last newline.  Of two places the later one has the later position, so
different places have different positions.
-/
theorem ofOffset_counts_lines (text : String) :
    (∀ offset : Nat,
      String.Pos.Raw.IsValid text ⟨offset⟩ ∨ text.utf8ByteSize < offset →
        (∃ before : String, StandsBefore before text offset) ∧
        ∀ before : String,
          StandsBefore before text offset →
            ofOffset text offset =
              { line := before.toList.count '\n' + 1
                column := (before.toList.reverse.takeWhile (· ≠ '\n')).length + 1 }) ∧
    (∀ earlier later : Nat,
      String.Pos.Raw.IsValid text ⟨earlier⟩ →
      String.Pos.Raw.IsValid text ⟨later⟩ →
      earlier < later →
        ofOffset text earlier < ofOffset text later) ∧
    ∀ left right : Nat,
      String.Pos.Raw.IsValid text ⟨left⟩ →
      String.Pos.Raw.IsValid text ⟨right⟩ →
      ofOffset text left = ofOffset text right →
        left = right := by
  refine ⟨?_, fun _ _ => ofOffset_lt_of_isValid, fun _ _ => ofOffset_inj_of_isValid⟩
  intro offset boundary
  refine ⟨exists_standsBefore boundary, ?_⟩
  intro before standsBefore
  rw [ofOffset_of_standsBefore standsBefore, ← line_foldl_after, ← column_foldl_after]

theorem ofOffset_counts_lines_behind_newline :
    String.Pos.Raw.IsValid "é\nab" ⟨2⟩ ∧
    String.Pos.Raw.IsValid "é\nab" ⟨4⟩ ∧
    ofOffset "é\nab" 4 = { line := 2, column := 2 } ∧
    ofOffset "é\nab" 9 = { line := 2, column := 3 } ∧
    ofOffset "é\nab" 2 < ofOffset "é\nab" 4 := by
  rcases ofOffset_counts_lines "é\nab" with ⟨counts, increases, _⟩
  have inFrontOfNewline : String.Pos.Raw.IsValid "é\nab" ⟨2⟩ := by decide
  have inSecondLine : String.Pos.Raw.IsValid "é\nab" ⟨4⟩ := by decide
  refine ⟨inFrontOfNewline, inSecondLine, ?_, ?_, ?_⟩
  · exact (counts 4 (Or.inl inSecondLine)).2 "é\na" ⟨⟨"b", by decide⟩, by decide⟩
  · exact (counts 9 (Or.inr (by decide))).2 "é\nab" ⟨⟨"", by decide⟩, by decide⟩
  · exact increases 2 4 inFrontOfNewline inSecondLine (by decide)

/-! ## Offsets inside a character -/

/-- The byte at an offset is one of the character between two parts of a text. -/
structure IsByteOf
    (text : String) (offset : Nat) (before : String) (character : Char) (behind : String) :
    Prop where
  text_eq : text = before ++ String.singleton character ++ behind
  start_le : before.utf8ByteSize ≤ offset
  lt_stop : offset < before.utf8ByteSize + character.utf8Size

namespace IsByteOf

variable {text before behind : String} {offset : Nat} {character : Char}

theorem toList_eq (isByte : IsByteOf text offset before character behind) :
    text.toList = before.toList ++ character :: behind.toList := by
  rw [isByte.text_eq]
  simp

theorem ofOffset_start (isByte : IsByteOf text offset before character behind) :
    ofOffset text before.utf8ByteSize = before.toList.foldl after first := by
  rw [← utf8Width_toList]
  exact ofOffset_append isByte.toList_eq

/-- Every offset behind the first byte, up to the end of the character, counts the character. -/
theorem ofOffset_of_start_lt
    (isByte : IsByteOf text offset before character behind)
    {other : Nat}
    (startLt : before.utf8ByteSize < other)
    (leStop : other ≤ before.utf8ByteSize + character.utf8Size) :
    ofOffset text other = (ofOffset text before.utf8ByteSize).after character := by
  rw [isByte.ofOffset_start]
  rw [← utf8Width_toList] at startLt leStop
  exact ofOffset_of_lt isByte.toList_eq startLt leStop

end IsByteOf

theorem exists_character_of_lt_utf8Width
    {characters : List Char} {offset : Nat}
    (inside : offset < utf8Width characters) :
    ∃ (before : List Char) (character : Char) (behind : List Char),
      characters = before ++ character :: behind ∧
      utf8Width before ≤ offset ∧
      offset < utf8Width before + character.utf8Size := by
  induction characters generalizing offset with
  | nil => exact absurd inside (Nat.not_lt_zero offset)
  | cons first others inductionHypothesis =>
      rw [utf8Width_cons] at inside
      by_cases inFirst : offset < first.utf8Size
      · exact ⟨[], first, others, rfl, Nat.zero_le _, by simpa using inFirst⟩
      · have inOthers : offset - first.utf8Size < utf8Width others := by omega
        rcases inductionHypothesis inOthers with
          ⟨before, character, behind, rfl, startLe, ltStop⟩
        refine ⟨first :: before, character, behind, rfl, ?_, ?_⟩
        · rw [utf8Width_cons]
          omega
        · rw [utf8Width_cons]
          omega

/-- Every byte of a text belongs to one of its characters. -/
theorem exists_isByteOf
    {text : String} {offset : Nat}
    (inside : offset < text.utf8ByteSize) :
    ∃ (before : String) (character : Char) (behind : String),
      IsByteOf text offset before character behind := by
  rw [← utf8Width_toList] at inside
  rcases exists_character_of_lt_utf8Width inside with
    ⟨before, character, behind, shape, startLe, ltStop⟩
  refine ⟨String.ofList before, character, String.ofList behind, ?_, ?_, ?_⟩
  · apply String.toList_inj.mp
    rw [shape]
    simp
  · rwa [utf8ByteSize_ofList]
  · rwa [utf8ByteSize_ofList]

/--
An offset inside a character does not have the position of that character but
that of the place behind it.  Only the first byte of a character has the
position of the character.
-/
theorem ofOffset_inside_character
    {text : String} {offset : Nat}
    (inside : offset < text.utf8ByteSize) :
    (∃ (before : String) (character : Char) (behind : String),
      IsByteOf text offset before character behind) ∧
    ∀ (before : String) (character : Char) (behind : String),
      IsByteOf text offset before character behind →
        (ofOffset text offset = ofOffset text before.utf8ByteSize ↔
          offset = before.utf8ByteSize) ∧
        (offset ≠ before.utf8ByteSize →
          ofOffset text offset =
            ofOffset text (before.utf8ByteSize + character.utf8Size)) := by
  refine ⟨exists_isByteOf inside, ?_⟩
  intro before character behind isByte
  have wide := character.utf8Size_pos
  have behindStart :
      offset ≠ before.utf8ByteSize →
        ofOffset text offset = (ofOffset text before.utf8ByteSize).after character := by
    intro notStart
    have startLt : before.utf8ByteSize < offset :=
      Nat.lt_of_le_of_ne isByte.start_le (Ne.symm notStart)
    exact isByte.ofOffset_of_start_lt startLt (Nat.le_of_lt isByte.lt_stop)
  refine ⟨⟨?_, ?_⟩, ?_⟩
  · intro same
    by_contra notStart
    have later := (ofOffset text before.utf8ByteSize).lt_after character
    rw [← behindStart notStart] at later
    exact Position.ne_of_lt later same.symm
  · intro atStart
    rw [← atStart]
  · intro notStart
    rw [behindStart notStart]
    exact (isByte.ofOffset_of_start_lt (by omega) (Nat.le_refl _)).symm

theorem ofOffset_inside_two_bytes :
    1 < "é\n".utf8ByteSize ∧
    IsByteOf "é\n" 1 "" 'é' "\n" ∧
    ofOffset "é\n" 1 ≠ ofOffset "é\n" 0 ∧
    ofOffset "é\n" 1 = ofOffset "é\n" 2 := by
  have inside : 1 < "é\n".utf8ByteSize := by decide
  have isByte : IsByteOf "é\n" 1 "" 'é' "\n" := ⟨by decide, by decide, by decide⟩
  rcases (ofOffset_inside_character inside).2 "" 'é' "\n" isByte with
    ⟨onlyAtStart, behindCharacter⟩
  refine ⟨inside, isByte, ?_, behindCharacter (by decide)⟩
  intro same
  exact absurd (onlyAtStart.mp same) (by decide)

/-- The position of a character is not that of each of its bytes. -/
theorem not_ofOffset_eq_of_isByteOf :
    ¬ ∀ (text : String) (offset : Nat) (before : String) (character : Char)
        (behind : String),
      IsByteOf text offset before character behind →
        ofOffset text offset = ofOffset text before.utf8ByteSize := by
  intro same
  have isByte : IsByteOf "é" 1 "" 'é' "" := ⟨by decide, by decide, by decide⟩
  exact absurd (same "é" 1 "" 'é' "" isByte) (by decide)

end TagTree.Position
