import TagTree.Event
import TagTree.Text.Position
import TagTree.Text.Quoted

/-!
# Scanning a text into tokens

After the blanks in front of the text, a scan makes pass after pass.  A pass
tries each rule once, in order and each where the one before it stopped, so
that one pass can read a run of text and the tag behind it.  The scan ends at
the end of the text, or where a pass makes no progress: there it stalls.

The tokens read before a stall are kept, and every token is kept with the
offset at which it starts.
-/

namespace TagTree

/-- A token with the rule that read it and the byte offset at which it starts. -/
structure Lexeme where
  /-- The rule that read the token. -/
  rule : Rule
  /-- The byte offset at which the token starts. -/
  offset : Nat
  /-- The token itself. -/
  token : Token
deriving DecidableEq

/-- The place where no rule reads anything, with what a message shows of it. -/
structure Stall where
  /-- The byte offset of the place. -/
  offset : Nat
  /-- The line and the column of the place. -/
  position : Position
  /-- The first characters that cannot be read. -/
  preview : String
deriving DecidableEq

namespace Stall

/-- The number of characters that a message shows of an unreadable text. -/
def previewLength : Nat := 24

/-- The stall at a given place. -/
def ofCursor (cursor : Cursor) : Stall where
  offset := cursor.offset
  position := Position.ofOffset cursor.source cursor.offset
  preview := String.ofList (cursor.rest.take previewLength)

/-- The sentence that reports a stall. -/
def message (stall : Stall) : String :=
  "cannot tokenize input at " ++ stall.position.display ++ ": " ++ Quoted.encode stall.preview

end Stall

/-- The outcome of a scan: where it began, what it read and where it stopped. -/
structure Scan where
  /-- The place after the blanks in front of the text. -/
  start : Cursor
  /-- The tokens read, in order. -/
  lexemes : List Lexeme
  /-- The place where the scan stopped. -/
  stop : Cursor

namespace Scan

/-- Moves over the blanks after a place. -/
def skipBlanks (cursor : Cursor) : Cursor :=
  match Grammar.blanks.run cursor with
  | none => cursor
  | some (_, next) => next

/-- Tries each rule once, where the one before it stopped. -/
def pass : List Rule → Cursor → List Lexeme × Cursor
  | [], cursor => ([], cursor)
  | rule :: others, cursor =>
    match rule.parser.run cursor with
    | none => pass others cursor
    | some (token, next) =>
      let (lexemes, stop) := pass others next
      ({ rule, offset := cursor.offset, token } :: lexemes, stop)

theorem le_pass (rules : List Rule) (cursor : Cursor) :
    cursor ≤ (pass rules cursor).2 := by
  induction rules generalizing cursor with
  | nil => exact cursor.le_refl
  | cons rule others inductionHypothesis =>
      unfold pass
      split
      · exact inductionHypothesis cursor
      · next token next read =>
        exact Cursor.le_trans (rule.parser.forward read) (inductionHypothesis next)

theorem le_of_pass {rules : List Rule} {cursor stop : Cursor} {lexemes : List Lexeme}
    (passed : pass rules cursor = (lexemes, stop)) :
    cursor ≤ stop := by
  have forward := le_pass rules cursor
  rw [passed] at forward
  exact forward

/--
Makes passes from `start` on until the text ends or a pass makes no progress;
`found` holds the tokens read before, latest first.
-/
def passesFrom (rules : List Rule) (found : List Lexeme) (start : Cursor) :
    List Lexeme × Cursor :=
  if start.isEmpty then
    (found.reverse, start)
  else
    match passed : pass rules start with
    | (lexemes, stop) =>
      if progress : start.offset < stop.offset then
        have : stop.rest.length < start.rest.length :=
          Cursor.rest_length_lt (le_of_pass passed) progress
        passesFrom rules (lexemes.reverse ++ found) stop
      else
        ((lexemes.reverse ++ found).reverse, stop)
termination_by start.rest.length

/-- Scans a text with the given rules. -/
def withRules (rules : List Rule) (text : String) : Scan :=
  let start := skipBlanks (Cursor.start text)
  let (lexemes, stop) := passesFrom rules [] start
  { start, lexemes, stop }

/-- Scans a text. -/
def ofText (text : String) : Scan :=
  withRules Rule.all text

/-- The tokens read. -/
def tokens (scan : Scan) : List Token :=
  scan.lexemes.map Lexeme.token

/-- The byte offsets at which the tokens start. -/
def offsets (scan : Scan) : List Nat :=
  scan.lexemes.map Lexeme.offset

/-- Where the scan stalled, if it did not reach the end of the text. -/
def stall? (scan : Scan) : Option Stall :=
  if scan.stop.isEmpty then none else some (Stall.ofCursor scan.stop)

/-- The tokens of the whole text, or the stall that kept it from being read. -/
def result (scan : Scan) : Except Stall (List Token) :=
  match scan.stall? with
  | none => .ok scan.tokens
  | some stall => .error stall

end Scan

namespace Lexeme

/-- The remarks that a token gives rise to: one for each repeated key of an opening tag. -/
def warnings (lexeme : Lexeme) : List Warning :=
  match lexeme.token with
  | .beginTag name attributes =>
    (Attribute.repeatedKeys attributes).map (Warning.duplicateAttribute name)
  | _ => []

/-- What happened when a token was read. -/
def events (lexeme : Lexeme) : List Event :=
  .matched lexeme.rule lexeme.offset lexeme.token :: lexeme.warnings.map .warned

end Lexeme

namespace Scan

/-- How a scan ended. -/
def lastEvent (scan : Scan) : Event :=
  if scan.stop.isEmpty then .scanned scan.lexemes.length else .stalled scan.stop.offset

/-- What happened in a scan, in order, with every remark listed as often as it was made. -/
def events (scan : Scan) : List Event :=
  .blanksSkipped scan.start.offset :: (scan.lexemes.flatMap Lexeme.events ++ [scan.lastEvent])

end Scan

/-- The tokens of a text, or the stall that keeps it from being read. -/
def tokenize (text : String) : Except Stall (List Token) :=
  (Scan.ofText text).result

end TagTree
