import TagTree.Text.Cursor

/-!
# What is read between two places

`Reads start text stop` says that reading exactly `text` leads from `start` to
`stop`.  The two places determine the text and one place with the text
determines the other place, so a parser is specified by the text it reads.

A run of accepted characters that cannot be continued is determined by what is
ahead: of two such runs neither can be longer than the other.
-/

namespace TagTree

/-- A text made of accepted characters, at least one. -/
def IsRun (accepts : Char → Bool) (text : List Char) : Prop :=
  text ≠ [] ∧ ∀ character ∈ text, accepts character = true

/-- The text does not begin with an accepted character. -/
def StopsAt (accepts : Char → Bool) (text : List Char) : Prop :=
  ∀ character ∈ text.head?, accepts character = false

theorem stopsAt_nil (accepts : Char → Bool) : StopsAt accepts [] := by
  intro character member
  simp at member

@[simp]
theorem stopsAt_cons
    {accepts : Char → Bool} {first : Char} {others : List Char} :
    StopsAt accepts (first :: others) ↔ accepts first = false := by
  simp [StopsAt]

theorem stopsAt_dropWhile (accepts : Char → Bool) (text : List Char) :
    StopsAt accepts (text.dropWhile accepts) := by
  intro character member
  have notAccepted := List.head?_dropWhile_not accepts text
  rw [Option.mem_def.mp member] at notAccepted
  simpa using notAccepted

theorem takeWhile_of_stopsAt
    {accepts : Char → Bool} {text : List Char}
    (stops : StopsAt accepts text) :
    text.takeWhile accepts = [] := by
  cases text with
  | nil => rfl
  | cons first others =>
      rw [stopsAt_cons] at stops
      simp [stops]

theorem dropWhile_of_stopsAt
    {accepts : Char → Bool} {text : List Char}
    (stops : StopsAt accepts text) :
    text.dropWhile accepts = text := by
  cases text with
  | nil => rfl
  | cons first others =>
      rw [stopsAt_cons] at stops
      simp [stops]

theorem takeWhile_append_of_stopsAt
    {accepts : Char → Bool} {text rest : List Char}
    (accepted : ∀ character ∈ text, accepts character = true)
    (stops : StopsAt accepts rest) :
    (text ++ rest).takeWhile accepts = text := by
  rw [List.takeWhile_append_of_pos accepted, takeWhile_of_stopsAt stops, List.append_nil]

theorem dropWhile_append_of_stopsAt
    {accepts : Char → Bool} {text rest : List Char}
    (accepted : ∀ character ∈ text, accepts character = true)
    (stops : StopsAt accepts rest) :
    (text ++ rest).dropWhile accepts = rest := by
  rw [List.dropWhile_append_of_pos accepted, dropWhile_of_stopsAt stops]

/-- A text splits in only one way into accepted characters and a rest where these stop. -/
theorem eq_of_append_eq_append_of_stopsAt
    {accepts : Char → Bool} {left right leftRest rightRest : List Char}
    (same : left ++ leftRest = right ++ rightRest)
    (leftAccepted : ∀ character ∈ left, accepts character = true)
    (rightAccepted : ∀ character ∈ right, accepts character = true)
    (leftStops : StopsAt accepts leftRest)
    (rightStops : StopsAt accepts rightRest) :
    left = right := by
  rw [← takeWhile_append_of_stopsAt leftAccepted leftStops, same,
    takeWhile_append_of_stopsAt rightAccepted rightStops]

/-- A text is split in only one way at the first character that is not accepted. -/
theorem eq_of_append_cons_eq
    {accepts : Char → Bool} {left right leftRest rightRest : List Char}
    {leftEnd rightEnd : Char}
    (same : left ++ leftEnd :: leftRest = right ++ rightEnd :: rightRest)
    (leftAccepted : ∀ character ∈ left, accepts character = true)
    (rightAccepted : ∀ character ∈ right, accepts character = true)
    (leftEnds : accepts leftEnd = false)
    (rightEnds : accepts rightEnd = false) :
    left = right ∧ leftEnd :: leftRest = rightEnd :: rightRest := by
  have sameText : left = right :=
    eq_of_append_eq_append_of_stopsAt same leftAccepted rightAccepted
      (stopsAt_cons.mpr leftEnds) (stopsAt_cons.mpr rightEnds)
  subst sameText
  exact ⟨rfl, List.append_cancel_left same⟩

theorem stopsAt_append
    {accepts : Char → Bool} {text rest : List Char}
    (rejected : ∀ character ∈ text, accepts character = false)
    (stops : StopsAt accepts rest) :
    StopsAt accepts (text ++ rest) := by
  cases text with
  | nil => exact stops
  | cons first others =>
      rw [List.cons_append, stopsAt_cons]
      exact rejected first (by simp)

theorem stopsAt_append_iff
    {accepts : Char → Bool} {text : List Char}
    (nonempty : text ≠ [])
    (rest : List Char) :
    StopsAt accepts (text ++ rest) ↔ StopsAt accepts text := by
  cases text with
  | nil => exact absurd rfl nonempty
  | cons first others => rw [List.cons_append, stopsAt_cons, stopsAt_cons]

theorem not_stopsAt_append_of_isRun
    {accepts : Char → Bool} {text : List Char}
    (run : IsRun accepts text)
    (rest : List Char) :
    ¬ StopsAt accepts (text ++ rest) := by
  rcases run with ⟨nonempty, accepted⟩
  cases text with
  | nil => exact absurd rfl nonempty
  | cons first others =>
      rw [List.cons_append, stopsAt_cons, accepted first (by simp)]
      simp

theorem utf8Width_pos {text : List Char}
    (nonempty : text ≠ []) :
    0 < utf8Width text :=
  Nat.lt_of_lt_of_le (List.length_pos_iff.mpr nonempty) (length_le_utf8Width text)

/-- Joined parts are the first part and the others with the separator in front of each. -/
theorem intercalate_cons_eq_append_join
    (separator first : String) (others : List String) :
    separator.intercalate (first :: others) =
      first ++ String.join (others.map fun part => separator ++ part) := by
  induction others generalizing first with
  | nil => simp
  | cons second following inductionHypothesis =>
      have joined := inductionHypothesis second
      simp only [String.intercalate_cons_cons, joined, List.map_cons,
        String.join_cons, String.append_assoc]

namespace Cursor

/-- Reading exactly the given characters leads from the first place to the second. -/
def Reads (start : Cursor) (text : List Char) (stop : Cursor) : Prop :=
  start.rest = text ++ stop.rest ∧
  stop.passed = text.reverse ++ start.passed

namespace Reads

variable {start middle stop other : Cursor} {text left right : List Char}

protected theorem refl (cursor : Cursor) : Reads cursor [] cursor :=
  ⟨rfl, rfl⟩

protected theorem trans
    (first : Reads start left middle)
    (second : Reads middle right stop) :
    Reads start (left ++ right) stop := by
  rcases first with ⟨firstRest, firstPassed⟩
  rcases second with ⟨secondRest, secondPassed⟩
  constructor
  · rw [firstRest, secondRest, List.append_assoc]
  · rw [secondPassed, firstPassed, List.reverse_append, List.append_assoc]

theorem rest_eq (reads : Reads start text stop) :
    start.rest = text ++ stop.rest :=
  reads.1

theorem stop_unique
    (first : Reads start text stop)
    (second : Reads start text other) :
    stop = other := by
  apply Cursor.ext
  · rw [first.2, second.2]
  · exact List.append_cancel_left (first.1.symm.trans second.1)

theorem nil_iff : Reads start [] stop ↔ start = stop := by
  constructor
  · exact (Reads.refl start).stop_unique
  · rintro rfl
    exact Reads.refl start

theorem offset_eq (reads : Reads start text stop) :
    stop.offset = start.offset + utf8Width text := by
  rw [stop.offset_eq, start.offset_eq, reads.2, utf8Width_append,
    utf8Width_reverse, Nat.add_comm]

/-- Reading at least one character makes progress. -/
theorem offset_lt
    (reads : Reads start text stop)
    (nonempty : text ≠ []) :
    start.offset < stop.offset := by
  rw [reads.offset_eq]
  exact Nat.lt_add_of_pos_right (utf8Width_pos nonempty)

theorem split
    (reads : Reads start (left ++ right) stop) :
    ∃ middle : Cursor, Reads start left middle ∧ Reads middle right stop := by
  rcases reads with ⟨restShape, passedShape⟩
  refine
    ⟨{ passed := left.reverse ++ start.passed
       rest := right ++ stop.rest
       offset := _
       offset_eq := rfl },
      ⟨?_, rfl⟩, ⟨rfl, ?_⟩⟩
  · rw [restShape, List.append_assoc]
  · rw [passedShape, List.reverse_append, List.append_assoc]

theorem uncons
    {first : Char} {others : List Char}
    (reads : Reads start (first :: others) stop) :
    ∃ middle : Cursor, Reads start [first] middle ∧ Reads middle others stop := by
  rw [← List.singleton_append] at reads
  exact reads.split

end Reads

theorem offset_le_of_le {start stop : Cursor}
    (forward : start ≤ stop) :
    start.offset ≤ stop.offset := by
  rcases forward with ⟨text, reads⟩
  rw [Reads.offset_eq reads]
  exact Nat.le_add_right _ _

theorem exists_reads
    {start : Cursor} {text rest : List Char}
    (restShape : start.rest = text ++ rest) :
    ∃ stop : Cursor, Reads start text stop ∧ stop.rest = rest :=
  ⟨{ passed := text.reverse ++ start.passed
     rest := rest
     offset := _
     offset_eq := rfl },
    ⟨restShape, rfl⟩, rfl⟩

/-- From every place there is a longest run of accepted characters. -/
theorem exists_longest_reads (accepts : Char → Bool) (start : Cursor) :
    ∃ (text : List Char) (stop : Cursor),
      Reads start text stop ∧
      (∀ character ∈ text, accepts character = true) ∧
      StopsAt accepts stop.rest := by
  have split : start.rest = start.rest.takeWhile accepts ++ start.rest.dropWhile accepts :=
    List.takeWhile_append_dropWhile.symm
  rcases exists_reads split with ⟨stop, reads, stopRest⟩
  refine ⟨start.rest.takeWhile accepts, stop, reads, ?_, ?_⟩
  · exact List.all_eq_true.mp List.all_takeWhile
  · rw [stopRest]
    exact stopsAt_dropWhile accepts start.rest

theorem Reads.longest_unique
    {accepts : Char → Bool} {start stop other : Cursor} {left right : List Char}
    (first : Reads start left stop)
    (firstAccepted : ∀ character ∈ left, accepts character = true)
    (firstStops : StopsAt accepts stop.rest)
    (second : Reads start right other)
    (secondAccepted : ∀ character ∈ right, accepts character = true)
    (secondStops : StopsAt accepts other.rest) :
    left = right ∧ stop = other := by
  have sameText : left = right :=
    eq_of_append_eq_append_of_stopsAt (first.1.symm.trans second.1)
      firstAccepted secondAccepted firstStops secondStops
  subst sameText
  exact ⟨rfl, first.stop_unique second⟩

theorem reads_advance
    {start : Cursor} {first : Char} {others : List Char}
    (restShape : start.rest = first :: others) :
    Reads start [first] (start.advance first others) :=
  ⟨restShape, rfl⟩

end Cursor

end TagTree
