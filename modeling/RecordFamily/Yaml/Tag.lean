import RecordFamily.Text.Blank
import RecordFamily.Text.Parts

/-!
# Tags of plain scalars

What a scalar without quotation marks stands for is told by its shape: truth values, whole numbers,
doubles, dates and null have shapes of their own, and anything else is a text.

* `Tag`: the kinds of nodes;
* `isWholeNumber`, `isDouble`, `isTimestamp`: the shapes of numbers and dates;
* **`Tag.ofPlain`**: the tag of a plain scalar.
-/

namespace RecordFamily

namespace Yaml

open Text

/-- The kind of a node. -/
inductive Tag where
  | null
  | bool
  | int
  | float
  | binary
  | timestamp
  | ordered
  | pairs
  | set
  | str
  | seq
  | map
  | merge
  | value
  /-- A kind that no document may have here. -/
  | unknown (name : String)
  deriving DecidableEq, Repr

/-- What the names of the standard tags begin with. -/
def standardScope : String := "tag:yaml.org,2002:"

/-- The standard tags that may be written out. -/
def standardTags : List (String × Tag) := [
  ("null", .null), ("bool", .bool), ("int", .int), ("float", .float), ("binary", .binary),
  ("timestamp", .timestamp), ("omap", .ordered), ("pairs", .pairs), ("set", .set), ("str", .str),
  ("seq", .seq), ("map", .map), ("merge", .merge), ("value", .value)]

/-- The tag of a full name. -/
def Tag.ofName (name : String) : Tag :=
  match standardTags.find? fun t => standardScope ++ t.1 == name with
  | some t => t.2
  | none => .unknown name

/-! ## Shapes -/

/-- The text without a sign at its front. -/
def unsigned : List Char → List Char
  | '-' :: cs => cs
  | '+' :: cs => cs
  | cs => cs

/-- The text is not empty and all its characters satisfy the test. -/
def allSome (p : Char → Bool) (cs : List Char) : Bool := !cs.isEmpty && cs.all p

/-- A decimal digit or an underscore. -/
def isSpacedDigit (c : Char) : Bool := c.isDigit || c == '_'

/-- A digit, and then digits and underscores. -/
def isSpacedDigits : List Char → Bool
  | [] => false
  | c :: cs => c.isDigit && cs.all isSpacedDigit

/-- The same, where the first digit is not zero. -/
def isSpacedNumber (cs : List Char) : Bool := isSpacedDigits cs && cs.head? != some '0'

/-- A number below sixty in one or two digits. -/
def isSixtieth : List Char → Bool
  | [d] => d.isDigit
  | [t, d] => '0' ≤ t && t ≤ '5' && d.isDigit
  | _ => false

/-- A hexadecimal digit or an underscore. -/
def isSpacedHex (c : Char) : Bool :=
  isSpacedDigit c || ('a' ≤ c && c ≤ 'f') || ('A' ≤ c && c ≤ 'F')

/-- The shape of a whole number: binary, octal, hexadecimal, decimal, or in base sixty. -/
def isWholeNumber (cs : List Char) : Bool :=
  match unsigned cs with
  | ['0'] => true
  | '0' :: 'b' :: ds => allSome (fun c => c == '0' || c == '1' || c == '_') ds
  | '0' :: 'x' :: ds => allSome isSpacedHex ds
  | '0' :: ds => allSome (fun c => ('0' ≤ c && c ≤ '7') || c == '_') ds
  | ds =>
    match parts ':' ds with
    | [] => false
    | first :: rest => isSpacedNumber first && rest.all isSixtieth

/-- The shape of an exponent, which may be missing: a letter, a sign and digits. -/
def isExponent : List Char → Bool
  | [] => true
  | e :: s :: ds => (e == 'e' || e == 'E') && (s == '-' || s == '+') && allSome Char.isDigit ds
  | _ => false

/-- The shape of what follows the point of a double. -/
def isFraction (cs : List Char) : Bool := isExponent (cs.dropWhile isSpacedDigit)

/-- The shape of a double with a digit before its point, in base ten or sixty. -/
def isPointed (cs : List Char) : Bool :=
  match (cs.takeWhile (· != '.')), cs.dropWhile (· != '.') with
  | whole, '.' :: rest =>
    match parts ':' whole with
    | [ds] => isSpacedDigits ds && isFraction rest
    | first :: sixtieths =>
      isSpacedDigits first && sixtieths.all isSixtieth && rest.all isSpacedDigit
    | [] => false
  | _, _ => false

/-- The written forms of infinity and of the value that is no number, after the point. -/
def infinityWords : List (List Char) := ["inf".toList, "Inf".toList, "INF".toList]

/-- The written forms of the value that is no number, after the point. -/
def notANumberWords : List (List Char) := ["nan".toList, "NaN".toList, "NAN".toList]

/-- The shape of a double. -/
def isDouble (cs : List Char) : Bool :=
  isPointed (unsigned cs)
  || (match cs with
    | '.' :: rest =>
      (rest.head?.map Char.isDigit).getD false && isFraction rest || notANumberWords.contains rest
    | _ => false)
  || (match unsigned cs with
    | '.' :: rest => infinityWords.contains rest
    | _ => false)

/-- One or two digits at the front of the text, and what follows them. -/
def oneOrTwoDigits : List Char → Option (List Char × List Char)
  | c :: d :: cs =>
    if c.isDigit then if d.isDigit then some ([c, d], cs) else some ([c], d :: cs) else none
  | [c] => if c.isDigit then some ([c], []) else none
  | [] => none

/-- So many digits at the front of the text, and what follows them. -/
def someDigits (n : Nat) (cs : List Char) : Option (List Char × List Char) :=
  let ds := cs.take n
  if ds.length == n && ds.all Char.isDigit then some (ds, cs.drop n) else none

/-- The text after the character `mark`. -/
def afterMark (mark : Char) : List Char → Option (List Char)
  | c :: cs => if c == mark then some cs else none
  | [] => none

/-- The text after blanks within a line. -/
def afterSpaces (cs : List Char) : List Char := cs.dropWhile fun c => c == ' ' || c == '\t'

/-- A time zone: none, universal time, or a signed distance from it in hours and minutes. -/
inductive Zone where
  | unstated
  | universal
  | offset (negative : Bool) (hours minutes : List Char)
  deriving DecidableEq, Repr

/-- The digits of a date or of a moment. -/
structure TimestampParts where
  year : List Char
  month : List Char
  day : List Char
  /-- Hour, minute, second, the fraction of a second, and the zone. -/
  clock : Option (List Char × List Char × List Char × List Char × Zone)
  deriving DecidableEq, Repr

/-- The zone that a text is. -/
def zoneOf (cs : List Char) : Option Zone :=
  match afterSpaces cs with
  | [] => if cs.isEmpty then some .unstated else none
  | ['Z'] => some .universal
  | c :: rest =>
    if c == '-' || c == '+' then do
      let (hours, rest) ← oneOrTwoDigits rest
      if rest.isEmpty then return .offset (c == '-') hours []
      else
        let (minutes, rest) ← someDigits 2 (← afterMark ':' rest)
        if rest.isEmpty then return .offset (c == '-') hours minutes else none
    else none

/-- The digits of a fraction of a second, after a point, and what follows them. -/
def secondFraction : List Char → List Char × List Char
  | '.' :: cs => (cs.takeWhile Char.isDigit, cs.dropWhile Char.isDigit)
  | cs => ([], cs)

/-- The text after what parts a date from a time of day. -/
def afterDate (cs : List Char) : Option (List Char) :=
  match cs with
  | 'T' :: rest => some rest
  | 't' :: rest => some rest
  | c :: _ => if c == ' ' || c == '\t' then some (afterSpaces cs) else none
  | [] => none

/-- The digits of a date or of a moment, whatever they are. -/
def timestampParts (cs : List Char) : Option TimestampParts := do
  let (year, rest) ← someDigits 4 cs
  let (month, rest) ← oneOrTwoDigits (← afterMark '-' rest)
  let (day, rest) ← oneOrTwoDigits (← afterMark '-' rest)
  if rest.isEmpty then return ⟨year, month, day, none⟩
  else
    let (hour, rest) ← oneOrTwoDigits (← afterDate rest)
    let (minute, rest) ← someDigits 2 (← afterMark ':' rest)
    let (second, rest) ← someDigits 2 (← afterMark ':' rest)
    let (fraction, rest) := secondFraction rest
    return ⟨year, month, day, some (hour, minute, second, fraction, ← zoneOf rest)⟩

/-- The shape of a date, whose month and day have two digits each, or of a moment. -/
def isTimestamp (cs : List Char) : Bool :=
  match timestampParts cs with
  | some parts => parts.clock.isSome || (parts.month.length == 2 && parts.day.length == 2)
  | none => false

/-- The words for truth values. -/
def boolWords : List (String × Bool) := [
  ("yes", true), ("Yes", true), ("YES", true), ("no", false), ("No", false), ("NO", false),
  ("true", true), ("True", true), ("TRUE", true), ("false", false), ("False", false),
  ("FALSE", false), ("on", true), ("On", true), ("ON", true), ("off", false), ("Off", false),
  ("OFF", false)]

/-- The words for null. -/
def nullWords : List String := ["", "~", "null", "Null", "NULL"]

/-- The signs of references, which are no text. -/
def referenceSigns : List String := ["!", "&", "*"]

/-- The text without a line feed at its end, unless it is nothing but that. -/
def withoutLastBreak (cs : List Char) : List Char :=
  if 1 < cs.length && cs.getLast? == some '\n' then cs.dropLast else cs

/-- **The tag of a plain scalar.** A line feed at its end makes no difference. -/
def Tag.ofPlain (text : String) : Tag :=
  let cs := withoutLastBreak text.toList
  let s := String.ofList cs
  if boolWords.any fun w => w.1 == s then .bool
  else if isDouble cs then .float
  else if isWholeNumber cs then .int
  else if s == "<<" then .merge
  else if nullWords.contains s then .null
  else if isTimestamp cs then .timestamp
  else if s == "=" then .value
  else if referenceSigns.contains s then .unknown s
  else .str

end Yaml

end RecordFamily
