import RecordFamily.Text.Case
import RecordFamily.Text.Identifier

/-!
# Generated names

Every generated name is a function of a field name or of a variant name.

* `isValidName`: the names that a class or an attribute may have;
* `snakeOfPascal`, `pascalOfSnake`: the two changes between `WordWord` and `word_word`;
* `capabilityName`, `absenceName`, `getterName`, `setterName`: the names made from a field name;
* `fromName`, `intoName`, `intoDefaultsName`: the names made from a variant name;
* `repeated`: the names that occur more than once, in the order of their first occurrence.
-/

namespace RecordFamily

open Text

/-- The words that may not be names. -/
def keywords : List String := [
  "False", "None", "True", "and", "as", "assert", "async", "await", "break", "class", "continue",
  "def", "del", "elif", "else", "except", "finally", "for", "from", "global", "if", "import", "in",
  "is", "lambda", "nonlocal", "not", "or", "pass", "raise", "return", "try", "while", "with",
  "yield"]

/-- The text may be the name of a class or of an attribute: an identifier that is no keyword. -/
def isValidName (name : String) : Bool := isIdentifier name.toList && !keywords.contains name

namespace Naming

/-- One character in lower case, after an underscore when it is upper case. -/
def snakeChar (c : Char) : List Char := if isUpper c then '_' :: toLower c else toLower c

/-- The characters of `WordWord` as `word_word`; the first one gets no underscore. -/
def snakeChars : List Char → List Char
  | [] => []
  | c :: cs => toLower c ++ cs.flatMap snakeChar

/-- The characters of `word_word` as `WordWord`; `start` tells that a word begins here. -/
def pascalChars (start : Bool) : List Char → List Char
  | [] => []
  | c :: cs =>
    if c == '_' then pascalChars true cs
    else (if start then toUpper c else [c]) ++ pascalChars false cs

end Naming

open Naming

/-- A name in lower case, with an underscore before each upper-case letter but the first
character. -/
def snakeOfPascal (name : String) : String := String.ofList (snakeChars name.toList)

/-- A name without its underscores, with an upper-case letter at the start and where each stood. -/
def pascalOfSnake (name : String) : String := String.ofList (pascalChars true name.toList)

/-- The interface of the records that have a field. -/
def capabilityName (field : String) : String := s!"Has{pascalOfSnake field}"

/-- The marker of the records that lack a field. -/
def absenceName (field : String) : String := s!"HasNo{pascalOfSnake field}"

/-- The member that reads a field. -/
def getterName (field : String) : String := s!"get_{field}"

/-- The member that writes a field. -/
def setterName (field : String) : String := s!"set_{field}"

/-- The conversion without arguments, on the target. -/
def fromName (source : String) : String := s!"from_{snakeOfPascal source}"

/-- The conversion with every missing field as an argument, on the source. -/
def intoName (target : String) : String := snakeOfPascal s!"into{target}"

/-- The conversion with the missing fields that have no fallback as arguments, on the source. -/
def intoDefaultsName (target : String) : String := snakeOfPascal s!"into{target}_defaults"

/-- The elements not among `seen`, each at its first occurrence. -/
def firstOccurrences {α : Type} [BEq α] (seen : List α) : List α → List α
  | [] => []
  | a :: as =>
    if seen.contains a then firstOccurrences seen as else a :: firstOccurrences (a :: seen) as

/-- The elements that occur more than once, in the order of their first occurrence. -/
def repeated {α : Type} [BEq α] (items : List α) : List α :=
  firstOccurrences [] (items.filter fun a => 1 < items.count a)

end RecordFamily
