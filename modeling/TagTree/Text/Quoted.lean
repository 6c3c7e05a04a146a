import TagTree.Text.Unprintable

/-!
# Quoted text

Messages show a piece of the document between double quotes, on one line and
with every character visible: quotes and backslashes get a backslash, the
common control characters a letter, and any other character without a visible
form is written as its code point.
-/

namespace TagTree.Quoted

/-- The code point of a character in lower-case hexadecimal digits, without leading zeros. -/
def codePoint (character : Char) : List Char :=
  Nat.toDigits 16 character.toNat

/-- How a character is written between the quotes. -/
def escape (character : Char) : List Char :=
  if character = '\x00' then ['\\', '0']
  else if character = '\t' then ['\\', 't']
  else if character = '\r' then ['\\', 'r']
  else if character = '\n' then ['\\', 'n']
  else if character = '\\' then ['\\', '\\']
  else if character = '"' then ['\\', '"']
  else if isUnprintable character then
    ['\\', 'u', '\x7b'] ++ codePoint character ++ ['\x7d']
  else [character]

/-- The text between double quotes, with every character visible. -/
def encode (text : String) : String :=
  "\"" ++ String.ofList (text.toList.flatMap escape) ++ "\""

end TagTree.Quoted
