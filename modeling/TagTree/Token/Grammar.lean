import TagTree.Parser.Repetition
import TagTree.Parser.Sequence
import TagTree.Token.Basic

/-!
# The grammar of markup

```text
blanks      = ( "\r\n" | " " | "\t" | "\r" | "\n" ) *
plain text  = ( any - "<" - ">" ) +
tag         = "<" name ( blanks+ attributes ) ? blanks ">" blanks
name        = ( any - "<" - ">" - "=" - blank ) +
attributes  = attribute ( blanks+ attribute ) *
attribute   = key "=" value
key         = ( any - "<" - ">" - "=" ) +
value       = ( any - "<" - ">" - "=" - blank ) +
```

A tag whose name begins with `/` closes an element; the slash is not part of
the closed name, and attributes of a closing tag are dropped.
-/

namespace TagTree.Grammar

/-- Space, tab, carriage return and newline are blank, and nothing else is. -/
def isBlank (character : Char) : Bool :=
  character == ' ' || character == '\t' || character == '\r' || character == '\n'

/-- The two characters that delimit tags. -/
def isBracket (character : Char) : Bool :=
  character == '<' || character == '>'

/-- Characters of plain text. -/
def isTextChar (character : Char) : Bool :=
  !isBracket character

/-- Characters of attribute keys; a blank may be one of them. -/
def isKeyChar (character : Char) : Bool :=
  !isBracket character && character != '='

/-- Characters of tag names and attribute values. -/
def isNameChar (character : Char) : Bool :=
  isKeyChar character && !isBlank character

/-- Reads the longest run of accepted characters, at least one. -/
def runOf (accepts : Char → Bool) : Parser String :=
  (Parser.satisfy accepts).many1.map String.ofList

/-- Reads one blank, where a carriage return with its newline counts as one. -/
def blank : Parser String :=
  (Parser.word "\r\n").orElse ((Parser.satisfy isBlank).map String.singleton)

/-- Reads any number of blanks; always matches. -/
def blanks : Parser String :=
  blank.many.map String.join

/-- Reads at least one blank. -/
def blanks1 : Parser String :=
  blank.many1.map String.join

/-- Reads a run of plain text. -/
def plainText : Parser Token :=
  (runOf isTextChar).map Token.plainText

/-- Reads the name of a tag, with its slash if it closes an element. -/
def tagName : Parser String :=
  runOf isNameChar

/-- Reads the key of an attribute. -/
def attributeKey : Parser String :=
  runOf isKeyChar

/-- Reads the value of an attribute. -/
def attributeValue : Parser String :=
  runOf isNameChar

/-- Reads a key, an equals sign and a value. -/
def keyValue : Parser Attribute :=
  ((attributeKey.thenSkip (Parser.char '=')).pair attributeValue).map
    fun (key, value) => { key, value }

/-- Reads at least one attribute, with blanks between each two. -/
def attributeList : Parser (List Attribute) :=
  keyValue.sepBy1 blanks1

/-- The token of a tag with the given name, slash included, and attributes. -/
def tagToken (name : String) (attributes : List Attribute) : Token :=
  match name.toList with
  | '/' :: closed => .endTag (String.ofList closed)
  | _ => .beginTag name attributes

/-- Reads what stands between the brackets of a tag. -/
def tagBody : Parser (String × Option (List Attribute)) :=
  (tagName.pair (blanks1.skipThen attributeList).optional).thenSkip blanks

/-- Reads a tag together with the blanks after it. -/
def tag : Parser Token :=
  ((Parser.char '<').between tagBody ((Parser.char '>').thenSkip blanks)).map
    fun (name, attributes) => tagToken name (attributes.getD [])

end TagTree.Grammar

namespace TagTree

/-- The two ways in which a token can be read. -/
inductive Rule where
  | plainText
  | tag
deriving DecidableEq

namespace Rule

/-- All rules, in the order in which they are tried. -/
def all : List Rule :=
  [plainText, tag]

/-- The name under which a rule is reported. -/
def name : Rule → String
  | plainText => "PlainText"
  | tag => "Tag"

/-- The parser of a rule. -/
def parser : Rule → Parser Token
  | plainText => Grammar.plainText
  | tag => Grammar.tag

end Rule

end TagTree
