/-!
# Places in a text

A `Cursor` is a place between two characters of a text.  It holds the
characters already passed, nearest first, and the characters still to be
read, so the whole text can be recovered from any place in it and looking at
the next character costs nothing.

Places are numbered by the UTF-8 bytes in front of them.  That number is kept
beside the passed characters, together with the proof that it is theirs, so
two places of one text are compared by comparing two numbers.

The order `start ≤ stop` says that reading on from `start` reaches `stop`.
Its main consequence, `Cursor.rest_length_lt`, is that a later place with a
larger offset has strictly less left to read: every loop over a text ends for
this reason.
-/

namespace TagTree

/-- The number of bytes that a run of characters takes in UTF-8. -/
def utf8Width : List Char → Nat
  | [] => 0
  | first :: others => first.utf8Size + utf8Width others

@[simp]
theorem utf8Width_nil : utf8Width [] = 0 := rfl

@[simp]
theorem utf8Width_cons (first : Char) (others : List Char) :
    utf8Width (first :: others) = first.utf8Size + utf8Width others := rfl

@[simp]
theorem utf8Width_append (left right : List Char) :
    utf8Width (left ++ right) = utf8Width left + utf8Width right := by
  induction left with
  | nil => simp
  | cons first others inductionHypothesis =>
      simp only [List.cons_append, utf8Width_cons, inductionHypothesis]
      omega

@[simp]
theorem utf8Width_reverse (characters : List Char) :
    utf8Width characters.reverse = utf8Width characters := by
  induction characters with
  | nil => simp
  | cons first others inductionHypothesis =>
      simp only [List.reverse_cons, utf8Width_append, utf8Width_cons, utf8Width_nil,
        inductionHypothesis]
      omega

/-- A run of characters is no longer than its UTF-8 form. -/
theorem length_le_utf8Width (characters : List Char) :
    characters.length ≤ utf8Width characters := by
  induction characters with
  | nil => simp
  | cons first others inductionHypothesis =>
      have := first.utf8Size_pos
      simp only [List.length_cons, utf8Width_cons]
      omega

/--
A place in a text: what lies behind it, nearest character first, what lies
ahead of it, and the number of bytes behind it.
-/
structure Cursor where
  /-- The characters behind this place, nearest first. -/
  passed : List Char
  /-- The characters ahead of this place. -/
  rest : List Char
  /-- The number of UTF-8 bytes behind this place. -/
  offset : Nat
  /-- The offset counts exactly the passed characters. -/
  offset_eq : offset = utf8Width passed
deriving DecidableEq

namespace Cursor

/-- The place before the first character of a text. -/
def start (text : String) : Cursor where
  passed := []
  rest := text.toList
  offset := 0
  offset_eq := rfl

/-- The whole text that a place belongs to. -/
def source (cursor : Cursor) : String :=
  String.ofList (cursor.passed.reverse ++ cursor.rest)

/-- Nothing is left to read. -/
def isEmpty (cursor : Cursor) : Bool :=
  cursor.rest.isEmpty

/-- The character right after this place, if the text goes on. -/
def peek? (cursor : Cursor) : Option Char :=
  cursor.rest.head?

/-- The place after moving over one character. -/
def advance (cursor : Cursor) (first : Char) (others : List Char) : Cursor where
  passed := first :: cursor.passed
  rest := others
  offset := cursor.offset + first.utf8Size
  offset_eq := by
    rw [cursor.offset_eq, utf8Width_cons, Nat.add_comm]

/-- Reads one character; there is none at the end of the text. -/
def next? (cursor : Cursor) : Option (Char × Cursor) :=
  match cursor.rest with
  | [] => none
  | first :: others => some (first, cursor.advance first others)

/-- This place has a smaller offset than the other one. -/
def isBehind (cursor other : Cursor) : Bool :=
  cursor.offset < other.offset

/-- Reads on over at most `count` characters, stopping at the end of the text. -/
def skip : Nat → Cursor → Cursor
  | 0, cursor => cursor
  | count + 1, cursor =>
    match cursor.next? with
    | none => cursor
    | some (_, next) => skip count next

@[simp]
theorem rest_start (text : String) : (start text).rest = text.toList := rfl

@[simp]
theorem passed_start (text : String) : (start text).passed = [] := rfl

@[simp]
theorem offset_start (text : String) : (start text).offset = 0 := rfl

@[simp]
theorem source_start (text : String) : (start text).source = text := by
  simp [source]

@[simp]
theorem rest_advance (cursor : Cursor) (first : Char) (others : List Char) :
    (cursor.advance first others).rest = others := rfl

@[simp]
theorem passed_advance (cursor : Cursor) (first : Char) (others : List Char) :
    (cursor.advance first others).passed = first :: cursor.passed := rfl

@[simp]
theorem offset_advance (cursor : Cursor) (first : Char) (others : List Char) :
    (cursor.advance first others).offset = cursor.offset + first.utf8Size := rfl

@[simp]
theorem isEmpty_iff {cursor : Cursor} : cursor.isEmpty = true ↔ cursor.rest = [] := by
  simp [isEmpty]

/-- At the end of the text there is no next character. -/
theorem next?_of_rest_nil {cursor : Cursor} (atEnd : cursor.rest = []) :
    cursor.next? = none := by
  simp [next?, atEnd]

/-- Before a character, the next character is that one. -/
theorem next?_of_rest_cons {cursor : Cursor} {first : Char} {others : List Char}
    (restShape : cursor.rest = first :: others) :
    cursor.next? = some (first, cursor.advance first others) := by
  simp [next?, restShape]

/-- Two places with the same passed and remaining characters are the same. -/
@[ext]
theorem ext {left right : Cursor}
    (samePassed : left.passed = right.passed)
    (sameRest : left.rest = right.rest) :
    left = right := by
  cases left
  cases right
  simp_all

/-- Reading on from the first place reaches the second one. -/
instance : LE Cursor where
  le start stop :=
    ∃ text : List Char,
      start.rest = text ++ stop.rest ∧
      stop.passed = text.reverse ++ start.passed

protected theorem le_refl (cursor : Cursor) : cursor ≤ cursor :=
  ⟨[], rfl, rfl⟩

protected theorem le_trans {first second third : Cursor}
    (left : first ≤ second)
    (right : second ≤ third) :
    first ≤ third := by
  obtain ⟨leftText, leftRest, leftPassed⟩ := left
  obtain ⟨rightText, rightRest, rightPassed⟩ := right
  refine ⟨leftText ++ rightText, ?_, ?_⟩
  · rw [leftRest, rightRest, List.append_assoc]
  · rw [rightPassed, leftPassed, List.reverse_append, List.append_assoc]

/-- Moving over the next character is reading on. -/
theorem le_of_next? {cursor next : Cursor} {character : Char}
    (read : cursor.next? = some (character, next)) :
    cursor ≤ next := by
  unfold next? at read
  split at read
  · simp at read
  · next first others restShape =>
    simp only [Option.some.injEq, Prod.mk.injEq] at read
    obtain ⟨rfl, rfl⟩ := read
    exact ⟨[first], restShape, rfl⟩

/-- Reading on stays in the same text. -/
theorem source_eq_of_le {start stop : Cursor}
    (forward : start ≤ stop) :
    stop.source = start.source := by
  obtain ⟨text, restShape, passedShape⟩ := forward
  simp [source, restShape, passedShape]

/-- A later place with a larger offset has less left to read. -/
theorem rest_length_lt {start stop : Cursor}
    (forward : start ≤ stop)
    (progress : start.offset < stop.offset) :
    stop.rest.length < start.rest.length := by
  obtain ⟨text, restShape, passedShape⟩ := forward
  rw [stop.offset_eq, start.offset_eq, passedShape] at progress
  simp only [utf8Width_append, utf8Width_reverse] at progress
  cases text with
  | nil => simp at progress
  | cons first others =>
      simp only [restShape, List.cons_append, List.length_cons, List.length_append]
      omega

/-- A later place without a larger offset is the same place. -/
theorem eq_of_le_of_not_lt {start stop : Cursor}
    (forward : start ≤ stop)
    (noProgress : ¬ start.offset < stop.offset) :
    stop = start := by
  obtain ⟨text, restShape, passedShape⟩ := forward
  rw [stop.offset_eq, start.offset_eq, passedShape] at noProgress
  simp only [utf8Width_append, utf8Width_reverse] at noProgress
  cases text with
  | nil => exact Cursor.ext passedShape restShape.symm
  | cons first others =>
      have := first.utf8Size_pos
      simp only [utf8Width_cons] at noProgress
      omega

end Cursor

end TagTree
