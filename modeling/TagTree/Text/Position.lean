/-!
# Lines and columns

Texts are addressed by byte offsets; a reader wants a line and a column.
Both count from one, a newline ends its line, and columns count characters
rather than bytes.
-/

namespace TagTree

/-- A line and a column, both counted from one. -/
structure Position where
  /-- The line, counted from one. -/
  line : Nat
  /-- The column in that line, counted from one. -/
  column : Nat
deriving DecidableEq

namespace Position

/-- The position of the first character of every text. -/
def first : Position where
  line := 1
  column := 1

/-- The position after a character that stands at this one. -/
def after (position : Position) (character : Char) : Position :=
  if character = '\n' then
    { line := position.line + 1, column := 1 }
  else
    { line := position.line, column := position.column + 1 }

/--
Moves over every character that starts before the byte `offset`, where
`index` is the byte at which the first of the characters starts.
-/
def advanceTo (offset : Nat) : Nat → Position → List Char → Position
  | _, position, [] => position
  | index, position, character :: others =>
    if index < offset then
      advanceTo offset (index + character.utf8Size) (position.after character) others
    else
      position

/--
The position of a byte offset in a text.  An offset past the end counts as
the end, and one inside a character counts as the place after it.
-/
def ofOffset (text : String) (offset : Nat) : Position :=
  advanceTo offset 0 first text.toList

/-- The form `line:column`. -/
def display (position : Position) : String :=
  toString position.line ++ ":" ++ toString position.column

end Position

end TagTree
