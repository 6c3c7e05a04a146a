import TagTree.Token.Grammar

/-!
# Events

Reading a document leaves a trail of events.  An event is one of a few
causes; its level, its message and its fields follow from the cause.
-/

namespace TagTree

/-- A remark about a document, attributed to the component that makes it. -/
structure Warning where
  /-- Who makes the remark. -/
  component : String
  /-- What is remarked. -/
  message : String
deriving DecidableEq

namespace Warning

/-- The text by which a warning is recognised as already made. -/
def text (warning : Warning) : String :=
  "[" ++ warning.component ++ "] " ++ warning.message

/-- The remark that a tag carries a key more than once. -/
def duplicateAttribute (tagName key : String) : Warning where
  component := "Tokenizer"
  message := "duplicate attribute '" ++ key ++ "' on <" ++ tagName ++ ">"

end Warning

/-- How much attention an event deserves, least first. -/
inductive Level where
  | trace
  | debug
  | warn
deriving DecidableEq

namespace Level

/-- The name under which a level is reported. -/
def name : Level → String
  | trace => "TRACE"
  | debug => "DEBUG"
  | warn => "WARN"

end Level

/-- The value of a field: a text in its own right, or the written form of something else. -/
inductive FieldValue where
  | text (content : String)
  | shown (written : String)
deriving DecidableEq

namespace FieldValue

/-- The value without quotes. -/
def plain : FieldValue → String
  | text content => content
  | shown written => written

/-- The value of a field that is a number. -/
def number (value : Nat) : FieldValue :=
  shown (toString value)

end FieldValue

/-- Something that happened while a document was read. -/
inductive Event where
  /-- No document was named, so the built-in one is read. -/
  | sampleChosen
  /-- The blanks in front of the document were passed over. -/
  | blanksSkipped (width : Nat)
  /-- A rule read a token that starts at the given offset. -/
  | matched (rule : Rule) (offset : Nat) (token : Token)
  /-- Something about the document deserves a remark. -/
  | warned (warning : Warning)
  /-- No rule reads anything at the given offset. -/
  | stalled (offset : Nat)
  /-- The whole text was read into the given number of tokens. -/
  | scanned (count : Nat)
  /-- A tree is about to be built from the given number of tokens. -/
  | building (count : Nat)
  /-- The builder looks at the token with the given index. -/
  | visited (index : Nat) (kind : TokenKind)
  /-- An element was completed. -/
  | closed (name : String) (children : Nat)
  /-- The top-level nodes are put into one element. -/
  | wrapped (count : Nat) (root : String)
deriving DecidableEq

namespace Event

/-- The level of an event. -/
def level : Event → Level
  | sampleChosen => .debug
  | blanksSkipped _ => .trace
  | matched _ _ _ => .trace
  | warned _ => .warn
  | stalled _ => .debug
  | scanned _ => .debug
  | building _ => .debug
  | visited _ _ => .trace
  | closed _ _ => .debug
  | wrapped _ _ => .debug

/-- The sentence that reports an event. -/
def message : Event → String
  | sampleChosen => "no input given, using sample document"
  | blanksSkipped _ => "skipped leading whitespace"
  | matched _ _ _ => "matched"
  | warned warning => warning.message
  | stalled _ => "tokenizer made no progress"
  | scanned _ => "tokenization finished"
  | building _ => "building tree"
  | visited _ _ => "processing token"
  | closed _ _ => "closed element"
  | wrapped _ _ => "wrapping top-level nodes"

/-- The named values that go with an event. -/
def fields : Event → List (String × FieldValue)
  | sampleChosen => []
  | blanksSkipped width => [("len", .number width)]
  | matched rule offset token =>
    [("rule", .shown rule.name), ("offset", .number offset), ("token", .shown token.display)]
  | warned warning => [("component", .text warning.component)]
  | stalled offset => [("offset", .number offset)]
  | scanned count => [("count", .number count)]
  | building count => [("tokens", .number count)]
  | visited index kind => [("token_index", .number index), ("kind", .text kind.name)]
  | closed name children => [("name", .shown name), ("children", .number children)]
  | wrapped count root => [("count", .number count), ("root", .shown root)]

end Event

end TagTree
