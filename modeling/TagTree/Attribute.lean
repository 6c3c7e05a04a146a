/-!
# Attributes

An attribute of a tag is a key with a value.  Its markup puts the value in
double quotes and writes both as they are: nothing is escaped.
-/

namespace TagTree

/-- A key with its value, as an opening tag carries them. -/
structure Attribute where
  /-- What the attribute is called. -/
  key : String
  /-- What the attribute is set to. -/
  value : String
deriving DecidableEq

namespace Attribute

/-- The form `key="value"`. -/
def markup (entry : Attribute) : String :=
  entry.key ++ "=\"" ++ entry.value ++ "\""

/-- The forms of all attributes with one space between each two. -/
def markupList (attributes : List Attribute) : String :=
  " ".intercalate (attributes.map markup)

/-- The value of the first attribute with the given key. -/
def find? (attributes : List Attribute) (key : String) : Option String :=
  (attributes.find? fun entry => entry.key == key).map Attribute.value

/--
The keys of the attributes whose key stood already in front of them, with
`seen` the keys in front of the whole list.  A key that stands three times is
listed twice.
-/
def repeatedKeysFrom (seen : List String) : List Attribute → List String
  | [] => []
  | entry :: others =>
    if entry.key ∈ seen then
      entry.key :: repeatedKeysFrom seen others
    else
      repeatedKeysFrom (entry.key :: seen) others

/-- The keys that repeat an earlier key of the same list, in order. -/
def repeatedKeys (attributes : List Attribute) : List String :=
  repeatedKeysFrom [] attributes

end Attribute

end TagTree
