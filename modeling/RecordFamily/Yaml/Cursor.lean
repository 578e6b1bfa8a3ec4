import RecordFamily.Error
import RecordFamily.Yaml.Style

/-!
# Places in a text

A text is read from a place in it: the rest of the text, the size of the whole, and the index, the line
and the column of the place.

* `Cursor`: a place;
* `Cursor.next`, `Cursor.advance`, `Cursor.skipWhile`: the places after it;
* `Cursor.lineBreak?`: the line end at a place, and the place after it;
* `Cursor.atSeparator`: a line of three dashes or points stands at a place.
-/

namespace RecordFamily

namespace Yaml

/-- A place in a text. -/
structure Cursor where
  rest : List Char
  /-- The number of characters of the whole text. -/
  size : Nat := rest.length
  index : Nat := 0
  line : Nat := 0
  column : Nat := 0

/-- The text is no YAML. -/
def refused {α : Type} : Except Fault α := .error .invalidYaml

namespace Cursor

/-- The character at the place, if the text does not end there. -/
def peek (c : Cursor) : Option Char := c.rest.head?

/-- The character so many places further on. -/
def peekAt (c : Cursor) (n : Nat) : Option Char := c.rest[n]?

/-- The place after one character. -/
def next (c : Cursor) : Cursor :=
  match c.rest with
  | [] => c
  | x :: xs =>
    if isBreak x || (x == '\r' && xs.head? != some '\n') then
      ⟨xs, c.size, c.index + 1, c.line + 1, 0⟩
    else ⟨xs, c.size, c.index + 1, c.line, if x == '\ufeff' then c.column else c.column + 1⟩

/-- The place after so many characters. -/
def advance (c : Cursor) : Nat → Cursor
  | 0 => c
  | n + 1 => c.next.advance n

/-- The characters from the place on that satisfy the test. -/
def takeWhile (c : Cursor) (p : Char → Bool) : List Char := c.rest.takeWhile p

/-- The place of the first character that does not satisfy the test. -/
def skipWhile (c : Cursor) (p : Char → Bool) : Cursor := c.advance (c.takeWhile p).length

/-- The place after spaces. -/
def skipSpaces (c : Cursor) : Cursor := c.skipWhile isSpace

end Cursor

/-! ## Kinds of characters -/

/-- The character ends a line, a carriage return included. -/
def isLineEnd (c : Char) : Bool := c == '\r' || isBreak c

/-- A space or a tab. -/
def isBlankSign (c : Char) : Bool := c == ' ' || c == '\t'

/-- The end of a line or of the text. -/
def endsLine : Option Char → Bool
  | none => true
  | some c => isLineEnd c

/-- A space, or the end of a line or of the text. -/
def endsWord : Option Char → Bool
  | none => true
  | some c => c == ' ' || isLineEnd c

/-- A space, a tab, or the end of a line or of the text. -/
def endsToken : Option Char → Bool
  | none => true
  | some c => isBlankSign c || isLineEnd c

/-- A letter, a digit, a dash or an underscore. -/
def isNameChar (c : Char) : Bool := c.isAlphanum || c == '-' || c == '_'

namespace Cursor

/-- The line end at the place, which counts as a line feed unless it is one of the two separators,
and the place after it. -/
def lineBreak? (c : Cursor) : Option (Char × Cursor) :=
  match c.rest with
  | '\r' :: '\n' :: _ => some ('\n', c.advance 2)
  | x :: _ =>
    if x == '\r' || x == '\n' || x.toNat == 0x85 then some ('\n', c.next)
    else if isBreak x then some (x, c.next)
    else none
  | [] => none

/-- The place after the line end at the place, if there is one. -/
def skipBreak (c : Cursor) : Cursor :=
  match c.lineBreak? with
  | some (_, c) => c
  | none => c

/-- The place after spaces and a comment. -/
def skipComment (c : Cursor) : Cursor :=
  let c := c.skipSpaces
  if c.peek == some '#' then c.skipWhile fun x => !isLineEnd x else c

/-- The rest of a line holds at most a comment: the place after that line. -/
def restOfLine (c : Cursor) : Except Fault Cursor :=
  let c := c.skipComment
  if endsLine c.peek then .ok c.skipBreak else refused

/-- Three signs `mark` followed by the end of a token stand at the place. -/
def hasTriple (c : Cursor) (mark : Char) : Bool :=
  c.rest.take 3 == [mark, mark, mark] && endsToken (c.peekAt 3)

/-- A separator of documents stands at the place. -/
def atSeparator (c : Cursor) : Bool := c.hasTriple '-' || c.hasTriple '.'

end Cursor

end Yaml

end RecordFamily
