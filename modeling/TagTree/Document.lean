import TagTree.Node.Build
import TagTree.Token.Scan

/-!
# Documents

Parsing a document scans its text and builds a tree from the tokens.  A
document that cannot be scanned is reported where the scan stalls, one that is
not properly nested at the tag at fault.
-/

namespace TagTree

/-- Why a text is not a document. -/
inductive ParseError where
  /-- The text cannot be read into tokens. -/
  | unreadable (stall : Stall)
  /-- The tokens are not properly nested; the tag at fault has the given position. -/
  | malformed (error : StructureError) (position : Position)
deriving DecidableEq

namespace ParseError

/-- The sentence that reports the error. -/
def message : ParseError → String
  | unreadable stall => stall.message
  | malformed error position => error.message ++ " (at " ++ position.display ++ ")"

end ParseError

namespace Document

/-- The byte offset of the token with the given index, or the end of the text without one. -/
def tokenOffset (text : String) (scan : Scan) (index : Nat) : Nat :=
  scan.offsets[index]?.getD (utf8Width text.toList)

/-- The tree of a text, or why it has none. -/
def parse (text : String) : Except ParseError Node :=
  let scan := Scan.ofText text
  match scan.stall? with
  | some stall => .error (.unreadable stall)
  | none =>
    match buildTree Node.syntheticRootName scan.tokens with
    | .ok tree => .ok tree
    | .error error =>
      .error (.malformed error (Position.ofOffset text (tokenOffset text scan error.index)))

/-- What happens when a text is parsed, with every remark listed as often as it was made. -/
def parseEvents (text : String) : List Event :=
  let scan := Scan.ofText text
  match scan.stall? with
  | some _ => scan.events
  | none =>
    scan.events ++ .building scan.lexemes.length ::
      (Construction.ofTokens scan.tokens).allEvents Node.syntheticRootName

end Document

end TagTree
