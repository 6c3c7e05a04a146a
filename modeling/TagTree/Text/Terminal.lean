/-!
# Text for a terminal

Messages can hold pieces of a document, and a document can hold characters
that a terminal takes for commands.  In a message they are written as their
code points.  Headings and labels use commands on purpose: they are coloured.
-/

namespace TagTree.Terminal

/-- The two hexadecimal digits of a code point below 256. -/
def hexPair (character : Char) : List Char :=
  [Nat.digitChar (character.toNat / 16), Nat.digitChar (character.toNat % 16)]

/--
Escape, bell, backspace, form feed and delete, as well as the control
characters from U+0080 to U+009F, are written as their code points.
-/
def sanitizeChar (character : Char) : List Char :=
  if character = '\x1b' ∨ character = '\x07' ∨ character = '\x08' ∨
      character = '\x0c' ∨ character = '\x7f' then
    ['\\', 'x'] ++ hexPair character
  else if '\u0080' ≤ character ∧ character ≤ '\u009f' then
    ['\\', 'u', '\x7b'] ++ hexPair character ++ ['\x7d']
  else [character]

/-- A text without characters that a terminal takes for commands. -/
def sanitize (text : String) : String :=
  String.ofList (text.toList.flatMap sanitizeChar)

/-- A text in bold cyan. -/
def heading (text : String) : String :=
  "\x1b[36m\x1b[1m" ++ text ++ "\x1b[0m\x1b[39m"

/-- A dimmed text. -/
def dimmed (text : String) : String :=
  "\x1b[2m" ++ text ++ "\x1b[0m"

/-- A text filled up with spaces on the right to the given number of characters. -/
def padRight (width : Nat) (text : String) : String :=
  text ++ String.ofList (List.replicate (width - text.length) ' ')

/-- A text filled up with spaces on the left to the given number of characters. -/
def padLeft (width : Nat) (text : String) : String :=
  String.ofList (List.replicate (width - text.length) ' ') ++ text

end TagTree.Terminal
