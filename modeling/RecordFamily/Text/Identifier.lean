import RecordFamily.Text.IdentifierTable

/-!
# Identifiers

* `isIdentifierStart`, `isIdentifierPart`: the characters of an identifier;
* `isIdentifier`: a text that is an identifier;
* `isWordStart`, `isWordPart`: the same for the ASCII words of a directive.
-/

namespace RecordFamily.Text

/-- The character may begin an identifier. -/
def isIdentifierStart (c : Char) : Bool :=
  if c.toNat < 128 then c.isAlpha || c == '_' else inSpans identifierStart c

/-- The character may stand in an identifier after its first character. -/
def isIdentifierPart (c : Char) : Bool :=
  if c.toNat < 128 then c.isAlphanum || c == '_'
  else inSpans identifierStart c || inSpans identifierExtra c

/-- The text is an identifier: one character that may begin one, and then any that may continue
it. -/
def isIdentifier : List Char → Bool
  | [] => false
  | c :: cs => isIdentifierStart c && cs.all isIdentifierPart

/-- The character may begin a word: an ASCII letter or an underscore. -/
def isWordStart (c : Char) : Bool := c.isAlpha || c == '_'

/-- The character may continue a word: an ASCII letter or digit, or an underscore. -/
def isWordPart (c : Char) : Bool := c.isAlphanum || c == '_'

end RecordFamily.Text
