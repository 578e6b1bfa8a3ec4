import RecordFamily.Text.Quoted
import RecordFamily.Value.Basic
import RecordFamily.Yaml.Tag

/-!
# Styles of scalars

A scalar is written plainly when it then reads back as what it is. A text that does not is put
between apostrophes when that keeps it, and between quotation marks with escapes otherwise.

* `Scalar`, `Value.scalar?`: what is written for a value that is no collection;
* `looksPlain`, `fitsApostrophes`: what decides between the styles;
* **`Scalar.style`**: the style of a scalar.
-/

namespace RecordFamily

namespace Yaml

open Text

/-! ## Looks of a text -/

/-- The character ends a line. -/
def isBreak (c : Char) : Bool :=
  c == '\n' || c.toNat == 0x85 || c.toNat == 0x2028 || c.toNat == 0x2029

/-- The character is a space, ends a line or a text. -/
def isBreakOrSpace (c : Char) : Bool :=
  c == ' ' || c == '\t' || c == '\r' || c.toNat == 0 || isBreak c

/-- The character may be written without an escape everywhere. -/
def isOrdinary (c : Char) : Bool := c == '\n' || (0x20 ≤ c.toNat && c.toNat ≤ 0x7e)

/-- The characters that may not begin a plain scalar. -/
def leadingSigns : List Char :=
  ['#', ',', '[', ']', '{', '}', '&', '*', '!', '|', '>', apostrophe, quotationMark, '%', '@', '\x60']

/-- What follows is a space, a line end or nothing. -/
def endsHere : List Char → Bool
  | [] => true
  | c :: _ => isBreakOrSpace c

/-- The text begins with a sign that a plain scalar may not begin with. -/
def hasLeadingSign (cs : List Char) : Bool :=
  "---".toList.isPrefixOf cs || "...".toList.isPrefixOf cs
  || match cs with
    | [] => false
    | c :: rest =>
      leadingSigns.contains c || ((c == '?' || c == ':' || c == '-') && endsHere rest)

/-- Somewhere after its first character the text has a colon that ends a key or a sign that begins
a comment. -/
def hasInnerSign : List Char → Bool
  | [] | [_] => false
  | b :: c :: rest =>
    (c == ':' && endsHere rest) || (c == '#' && isBreakOrSpace b) || hasInnerSign (c :: rest)

/-- Somewhere in the text a character satisfying `p` is followed by one satisfying `q`. -/
def hasPair (p q : Char → Bool) : List Char → Bool
  | [] | [_] => false
  | b :: c :: rest => (p b && q c) || hasPair p q (c :: rest)

/-- The character is a space. -/
def isSpace (c : Char) : Bool := c == ' '

/-- The text begins or ends with a space or a line end. -/
def hasLooseEnd (cs : List Char) : Bool :=
  let loose (c : Option Char) := (c.map fun c => isSpace c || isBreak c).getD false
  loose cs.head? || loose cs.getLast?

/-- The text stands on several lines. -/
def isMultiline (cs : List Char) : Bool := cs.any isBreak

/-- The text may be put between apostrophes: all its characters are ordinary and no space is next to
a line end. -/
def fitsApostrophes (cs : List Char) : Bool :=
  cs.all isOrdinary && !hasPair isSpace isBreak cs && !hasPair isBreak isSpace cs

/-- The text may be written as it stands. -/
def looksPlain (cs : List Char) : Bool :=
  fitsApostrophes cs && !isMultiline cs && !hasLooseEnd cs && !hasLeadingSign cs
    && !hasInnerSign cs

/-! ## Scalars -/

/-- A scalar to be written. -/
structure Scalar where
  text : List Char
  /-- Written plainly, the scalar reads back as what it is. -/
  isResolved : Bool
  /-- The length of the short name of its tag. -/
  tagLength : Nat

/-- The styles. -/
inductive Style where
  | plain
  | apostrophes
  | quotationMarks
  deriving DecidableEq, Repr

/-- **The style of a scalar.** -/
def Scalar.style (s : Scalar) : Style :=
  if s.isResolved && looksPlain s.text then .plain
  else if fitsApostrophes s.text then .apostrophes
  else .quotationMarks

/-- The scalar may be written in front of a colon: it is short, not empty and on one line. -/
def Scalar.isSimpleKey (s : Scalar) : Bool :=
  s.tagLength + s.text.length < 128 && !s.text.isEmpty && !isMultiline s.text

/-- The text of a double: an exponent has a point in front of it. -/
def doubleText : Double → List Char
  | .notANumber => ".nan".toList
  | .infinite negative => (if negative then "-.inf" else ".inf").toList
  | x =>
    let cs := x.text.toList
    if cs.contains '.' then cs
    else cs.takeWhile (· != 'e') ++ (if cs.contains 'e' then ['.', '0'] else [])
      ++ cs.dropWhile (· != 'e')

/-- The scalar of a text. -/
def Scalar.ofText (s : String) : Scalar := ⟨s.toList, Tag.ofPlain s == .str, 5⟩

end Yaml

open Yaml in
/-- The scalar of a value that is no collection. -/
def Value.scalar? : Value → Option Scalar
  | .null => some ⟨"null".toList, true, 6⟩
  | .bool b => some ⟨(if b then "true" else "false").toList, true, 6⟩
  | .int n => some ⟨(toString n).toList, true, 5⟩
  | .float x => some ⟨doubleText x, true, 7⟩
  | .text s => some (.ofText s)
  | .date d => some ⟨d.text.toList, true, 11⟩
  | .moment m => some ⟨m.text.toList, true, 11⟩
  | _ => none

end RecordFamily
