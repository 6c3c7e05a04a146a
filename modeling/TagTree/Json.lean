/-!
# JSON texts

The JSON values needed to write a tree: strings, arrays and objects whose
fields keep their order.  A value has a compact text without blanks and an
indented text with two spaces for each level.

In a string, quotes and backslashes get a backslash, five control characters
have a letter of their own, the other characters below the space are written
with four hexadecimal digits, and all else is written as it is.
-/

namespace TagTree

/-- A JSON value made of strings, arrays and objects. -/
inductive Json where
  | string (content : String)
  | array (items : List Json)
  | object (fields : List (String × Json))

namespace Json

/-- How a character is written in a string. -/
def escape (character : Char) : List Char :=
  if character = '"' then ['\\', '"']
  else if character = '\\' then ['\\', '\\']
  else if character = '\x08' then ['\\', 'b']
  else if character = '\t' then ['\\', 't']
  else if character = '\n' then ['\\', 'n']
  else if character = '\x0c' then ['\\', 'f']
  else if character = '\r' then ['\\', 'r']
  else if character < ' ' then
    ['\\', 'u', '0', '0', Nat.digitChar (character.toNat / 16),
      Nat.digitChar (character.toNat % 16)]
  else [character]

/-- A string between its quotes. -/
def quote (content : String) : String :=
  "\"" ++ String.ofList (content.toList.flatMap escape) ++ "\""

mutual

/-- The text of a value without blanks. -/
def compact : Json → String
  | string content => quote content
  | array items => "[" ++ ",".intercalate (compactEach items) ++ "]"
  | object fields => "\x7b" ++ ",".intercalate (compactFields fields) ++ "\x7d"

/-- The compact text of each of the values. -/
def compactEach : List Json → List String
  | [] => []
  | item :: others => compact item :: compactEach others

/-- The compact text of each of the fields. -/
def compactFields : List (String × Json) → List String
  | [] => []
  | (key, value) :: others => (quote key ++ ":" ++ compact value) :: compactFields others

end

@[simp]
theorem compactEach_eq_map (items : List Json) :
    compactEach items = items.map compact := by
  induction items with
  | nil => simp [compactEach]
  | cons item others inductionHypothesis =>
      simp [compactEach, inductionHypothesis]

@[simp]
theorem compactFields_eq_map (fields : List (String × Json)) :
    compactFields fields =
      fields.map fun (key, value) => quote key ++ ":" ++ compact value := by
  induction fields with
  | nil => simp [compactFields]
  | cons field others inductionHypothesis =>
      simp [compactFields, inductionHypothesis]

/-- The start of a line in the indented text: two spaces for each level. -/
def newline (depth : Nat) : String :=
  "\n" ++ String.ofList (List.replicate (2 * depth) ' ')

/--
Lines between two brackets: nothing at all between the brackets of an empty
value, and else each line one level deeper than the brackets.
-/
def block (opening closing : String) (depth : Nat) (lines : List String) : String :=
  if lines.isEmpty then
    opening ++ closing
  else
    opening ++ newline (depth + 1) ++ ("," ++ newline (depth + 1)).intercalate lines ++
      newline depth ++ closing

mutual

/-- The indented text of a value at the given level. -/
def prettyAt (depth : Nat) : Json → String
  | string content => quote content
  | array items => block "[" "]" depth (prettyEachAt (depth + 1) items)
  | object fields => block "\x7b" "\x7d" depth (prettyFieldsAt (depth + 1) fields)

/-- The indented text of each of the values at the given level. -/
def prettyEachAt (depth : Nat) : List Json → List String
  | [] => []
  | item :: others => prettyAt depth item :: prettyEachAt depth others

/-- The indented text of each of the fields at the given level. -/
def prettyFieldsAt (depth : Nat) : List (String × Json) → List String
  | [] => []
  | (key, value) :: others =>
    (quote key ++ ": " ++ prettyAt depth value) :: prettyFieldsAt depth others

end

@[simp]
theorem prettyEachAt_eq_map (depth : Nat) (items : List Json) :
    prettyEachAt depth items = items.map (prettyAt depth) := by
  induction items with
  | nil => simp [prettyEachAt]
  | cons item others inductionHypothesis =>
      simp [prettyEachAt, inductionHypothesis]

@[simp]
theorem prettyFieldsAt_eq_map (depth : Nat) (fields : List (String × Json)) :
    prettyFieldsAt depth fields =
      fields.map fun (key, value) => quote key ++ ": " ++ prettyAt depth value := by
  induction fields with
  | nil => simp [prettyFieldsAt]
  | cons field others inductionHypothesis =>
      simp [prettyFieldsAt, inductionHypothesis]

/-- The indented text of a value. -/
def pretty (value : Json) : String :=
  prettyAt 0 value

end Json

end TagTree
