import TagTree.Attribute

/-!
# Tokens

A text of markup is a sequence of tokens: runs of plain text, opening tags
with their attributes, and closing tags.  `Token.display` writes a token as
markup again.
-/

namespace TagTree

/-- The smallest piece of markup with a meaning of its own. -/
inductive Token where
  /-- A run of characters outside every tag. -/
  | plainText (text : String)
  /-- A tag that opens an element. -/
  | beginTag (name : String) (attributes : List Attribute)
  /-- A tag that closes an element. -/
  | endTag (name : String)
deriving DecidableEq

/-- The kinds of tokens. -/
inductive TokenKind where
  | plainText
  | beginTag
  | endTag
deriving DecidableEq

namespace TokenKind

/-- The name under which a kind is reported. -/
def name : TokenKind → String
  | plainText => "PlainText"
  | beginTag => "BeginTag"
  | endTag => "EndTag"

end TokenKind

namespace Token

/-- The kind of a token. -/
def kind : Token → TokenKind
  | plainText _ => .plainText
  | beginTag _ _ => .beginTag
  | endTag _ => .endTag

/--
The markup of a token: text as it is, and a tag in angle brackets with a
space in front of each attribute.
-/
def display : Token → String
  | plainText text => text
  | beginTag name attributes =>
    "<" ++ name ++ String.join (attributes.map fun entry => " " ++ entry.markup) ++ ">"
  | endTag name => "</" ++ name ++ ">"

end Token

end TagTree
