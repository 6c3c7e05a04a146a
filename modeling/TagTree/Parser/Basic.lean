import TagTree.Text.Cursor

/-!
# Parsers

A parser looks at the text after a place and either does not match or yields
a value together with the place where it stopped.  A parser never moves
backwards and never leaves its text: this is part of the type, so a loop over
any parser ends as soon as it stops making progress.

Parsers are chained by `Parser.andThen`, which goes on where the first parser
stopped and may depend on the value it read.  This file has that chaining and
the parsers of single characters and words.
-/

namespace TagTree

universe u v

/-- A way to read a value from the text after a place. -/
structure Parser (α : Type u) where
  /-- The value read and the place after it, or nothing where there is no match. -/
  run : Cursor → Option (α × Cursor)
  /-- A match stops at a place reached by reading on. -/
  forward :
    ∀ {start stop : Cursor} {value : α},
      run start = some (value, stop) → start ≤ stop

namespace Parser

variable {α : Type u} {β : Type v}

/-- Two parsers that read the same everywhere are the same. -/
@[ext]
theorem ext {left right : Parser α}
    (same : ∀ cursor : Cursor, left.run cursor = right.run cursor) :
    left = right := by
  cases left
  cases right
  simp only [mk.injEq]
  exact funext same

/-- Matches everywhere with the given value and reads nothing. -/
def succeed (value : α) : Parser α where
  run cursor := some (value, cursor)
  forward := by
    intro start stop _ matched
    simp only [Option.some.injEq, Prod.mk.injEq] at matched
    exact matched.2 ▸ start.le_refl

/-- Matches nowhere. -/
def fail : Parser α where
  run _ := none
  forward := by simp

/-- Reads with the first parser and goes on with the parser made from its value. -/
def andThen (first : Parser α) (continuation : α → Parser β) : Parser β where
  run cursor :=
    match first.run cursor with
    | none => none
    | some (value, next) => (continuation value).run next
  forward := by
    intro start stop _ matched
    split at matched
    · simp at matched
    · next value next firstMatched =>
      exact Cursor.le_trans (first.forward firstMatched) ((continuation value).forward matched)

@[simp]
theorem run_succeed (value : α) (cursor : Cursor) :
    (succeed value).run cursor = some (value, cursor) := rfl

@[simp]
theorem run_fail (cursor : Cursor) : (fail : Parser α).run cursor = none := rfl

theorem run_andThen (first : Parser α) (continuation : α → Parser β) (cursor : Cursor) :
    (first.andThen continuation).run cursor =
      (first.run cursor).bind fun (value, next) => (continuation value).run next := by
  simp only [andThen]
  cases first.run cursor <;> rfl

/-- Reads the next character, whatever it is. -/
def anyChar : Parser Char where
  run cursor := cursor.next?
  forward := Cursor.le_of_next?

/-- Reads one character that the predicate accepts. -/
def satisfy (accepts : Char → Bool) : Parser Char where
  run cursor :=
    match cursor.next? with
    | none => none
    | some (character, next) =>
      if accepts character then some (character, next) else none
  forward := by
    intro start stop _ matched
    split at matched
    · simp at matched
    · next character next read =>
      split at matched
      · simp only [Option.some.injEq, Prod.mk.injEq] at matched
        exact matched.2 ▸ Cursor.le_of_next? read
      · simp at matched

@[simp]
theorem run_anyChar (cursor : Cursor) : anyChar.run cursor = cursor.next? := rfl

/-- At the end of the text no character is accepted. -/
theorem run_satisfy_of_rest_nil (accepts : Char → Bool) {cursor : Cursor}
    (atEnd : cursor.rest = []) :
    (satisfy accepts).run cursor = none := by
  simp [satisfy, Cursor.next?_of_rest_nil atEnd]

/-- Before a character, that character is read if it is accepted. -/
theorem run_satisfy_of_rest_cons (accepts : Char → Bool) {cursor : Cursor}
    {first : Char} {others : List Char}
    (restShape : cursor.rest = first :: others) :
    (satisfy accepts).run cursor =
      if accepts first then some (first, cursor.advance first others) else none := by
  simp [satisfy, Cursor.next?_of_rest_cons restShape]

/-- Reads exactly the given character. -/
def char (expected : Char) : Parser Char :=
  satisfy (· == expected)

/-- Reads the given characters one after the other. -/
def chars : List Char → Parser Unit
  | [] => succeed ()
  | expected :: others => (char expected).andThen fun _ => chars others

/-- Reads exactly the given word, which may be empty. -/
def word (expected : String) : Parser String :=
  (chars expected.toList).andThen fun _ => succeed expected

end Parser

end TagTree
