import RecordFamily.Decimal.Double
import RecordFamily.Error
import RecordFamily.Json.Reader
import RecordFamily.Text.Blank
import RecordFamily.Text.Case
import RecordFamily.Text.Numeral
import RecordFamily.Value.Display
import RecordFamily.Yaml.Tag

/-!
# Numbers, moments and bytes of YAML

What a scalar of each tag denotes. A scalar whose tag is written out need not have the shape of its
kind, and is refused then.

* `integerOf`, `doubleOf`: a number in ordinary notation;
* `Scalar.int`, `Scalar.float`, `Scalar.bool`, `Scalar.timestamp`, `Scalar.binary`: what a scalar
  denotes.
-/

namespace RecordFamily

namespace Yaml

open Text

/-- The value of a digit in a base. -/
def digitIn (base : Nat) (c : Char) : Option Nat :=
  (Json.hexDigit? c).filter (· < base)

/-- The number that digits denote in a base, if they are any. -/
def digitsIn (base : Nat) (cs : List Char) : Option Nat :=
  if cs.isEmpty then none
  else cs.foldl (fun n c => do return base * (← n) + (← digitIn base c)) (some 0)

/-- The mark that may stand in front of the digits of a base. -/
def baseMark (base : Nat) (cs : List Char) : List Char :=
  match cs with
  | '0' :: m :: rest =>
    let m := m.toLower
    if (base == 2 && m == 'b') || (base == 8 && m == 'o') || (base == 16 && m == 'x') then rest
    else cs
  | _ => cs

/-- The character may stand around a number. -/
def isNumberBlank (c : Char) : Bool := isBlank c && !(0x1c ≤ c.toNat && c.toNat ≤ 0x1f)

/-- A number without the blanks around it and with plain digits. -/
def numberText (text : List Char) : List Char :=
  (((text.map plainDigit).dropWhile isNumberBlank).reverse.dropWhile isNumberBlank).reverse

/-- The number of characters to which a text that is no whole number is shown. -/
def shownBound : Nat := 200

/-- A whole number in a base, with blanks around it, a sign and a mark of its base. -/
def integerOf (base : Nat) (text : List Char) : Except Fault Int :=
  let cs := numberText text
  let ds := baseMark base (unsigned cs)
  let count := (ds.takeWhile Char.isDigit).length
  if base == 10 && Value.digitBound < count then
    .error (.badValue (Json.Cause.tooManyDigits count).wording)
  else match digitsIn base ds with
    | none =>
      let shown := String.ofList ((quoted (String.ofList text)).toList.take shownBound)
      .error (.badValue s!"invalid literal for int() with base {base}: {shown}")
    | some n => .ok (if cs.head? == some '-' then -(n : Int) else n)

/-- The words for infinity in ordinary notation. -/
def infinityNames : List (List Char) := ["inf".toList, "infinity".toList]

/-- The exponent that ends the text, if it has the shape of one. -/
def exponentOf (cs : List Char) : Option Int :=
  match cs with
  | [] => some 0
  | e :: rest =>
    if e == 'e' || e == 'E' then
      (digitsIn 10 (unsigned rest)).map fun n =>
        if rest.head? == some '-' then -(n : Int) else n
    else none

/-- The magnitude of a double in ordinary notation. -/
def magnitudeOf (negative : Bool) (cs : List Char) : Option Double :=
  let word := cs.map Char.toLower
  if infinityNames.contains word then some (.infinite negative)
  else if word == "nan".toList then some .notANumber
  else
    let whole := cs.takeWhile Char.isDigit
    let rest := cs.dropWhile Char.isDigit
    let (fraction, rest) := match rest with
      | '.' :: rest => (rest.takeWhile Char.isDigit, rest.dropWhile Char.isDigit)
      | rest => ([], rest)
    if whole.isEmpty && fraction.isEmpty then none
    else (exponentOf rest).map fun e =>
      .ofDecimal negative (Json.natOf (whole ++ fraction)) (e - fraction.length)

/-- A double in ordinary notation, with blanks around it and a sign. -/
def doubleOf (text : List Char) : Except Fault Double :=
  let cs := numberText text
  match magnitudeOf (cs.head? == some '-') (unsigned cs) with
  | some x => .ok x
  | none =>
    let shown := quoted (String.ofList text)
    .error (.badValue s!"could not convert string to float: {shown}")

/-- The whole number that its parts in base sixty denote. -/
def sixtiethsInt (parts : List Int) : Int := parts.foldl (fun n x => 60 * n + x) 0

/-- The double that its parts in base sixty denote, summed from the last part on. Each product and
each sum is rounded, and the power of sixty has to be in the range of the doubles. -/
def sixtiethsDouble (parts : List Double) : Except Fault Double := do
  let (sum, _) ← parts.reverse.foldlM (fun (sum, unit) x =>
    let one := Double.ofNat unit
    if one.isInfinite then Except.error Fault.outOfRange
    else return (sum.add (x.mul one), unit * 60)) (Double.ofNat 0, 1)
  return sum

namespace Scalar

/-- The text without underscores. -/
def withoutUnderscores (s : String) : List Char := s.toList.filter (· != '_')

/-- The magnitude of a whole number. -/
def natural (cs : List Char) : Except Fault Int :=
  match cs with
  | [] => .error .emptyText
  | ['0'] => .ok 0
  | '0' :: 'b' :: ds => integerOf 2 ds
  | '0' :: 'x' :: ds => integerOf 16 ds
  | '0' :: _ => integerOf 8 cs
  | _ =>
    if cs.contains ':' then do
      let parts ← (parts ':' cs).mapM (integerOf 10)
      return sixtiethsInt parts
    else integerOf 10 cs

/-- The whole number that a scalar denotes. -/
def int (s : String) : Except Fault Value := do
  let cs := withoutUnderscores s
  if cs.isEmpty then .error .emptyText
  else
    let n ← natural (unsigned cs)
    return .int (if cs.head? == some '-' then -n else n)

/-- The name of the value that is no number. -/
def notANumberName : List Char := ".nan".toList

/-- The scalar is the name of the value that is no number. -/
def isNotANumber (s : String) : Bool := unsigned (lowered (withoutUnderscores s)) == notANumberName

/-- The magnitude of a double. -/
def magnitude (cs : List Char) : Except Fault Double :=
  if cs == ".inf".toList then .ok (.infinite false)
  else if cs == notANumberName then .ok .notANumber
  else if cs.contains ':' then do
    let parts ← (parts ':' cs).mapM doubleOf
    sixtiethsDouble parts
  else doubleOf cs

/-- The double that a scalar denotes. -/
def float (s : String) : Except Fault Value := do
  let cs := lowered (withoutUnderscores s)
  if cs.isEmpty then .error .emptyText
  else
    let x ← magnitude (unsigned cs)
    return .float (if cs.head? == some '-' then x.neg else x)

/-- The truth value that a scalar denotes. -/
def bool (s : String) : Except Fault Value :=
  let word := String.ofList (lowered s.toList)
  match boolWords.lookup word with
  | some b => .ok (.bool b)
  | none => .error (.missingKey (quoted word))

/-- A fraction of a second in millionths. -/
def microseconds (ds : List Char) : Nat :=
  let six := ds.take 6
  Json.natOf (six ++ List.replicate (6 - six.length) '0')

/-- The distance from universal time in minutes. -/
def Zone.minutes : Zone → Option Int
  | .unstated => none
  | .universal => some 0
  | .offset negative hours minutes =>
    let n : Int := (60 * Json.natOf hours + Json.natOf minutes : Nat)
    some (if negative then -n else n)

/-- The date or the moment that digits denote. -/
def ofParts (p : TimestampParts) : Except CalendarError Value :=
  let year := Json.natOf p.year
  let month := Json.natOf p.month
  let day := Json.natOf p.day
  match p.clock with
  | none => (Date.of year month day).map .date
  | some (hour, minute, second, fraction, zone) =>
    (Moment.of year month day (Json.natOf hour) (Json.natOf minute) (Json.natOf second)
      (microseconds fraction) (Zone.minutes zone)).map .moment

/-- The date or the moment that a scalar denotes. -/
def timestamp (s : String) : Except Fault Value :=
  match timestampParts (withoutLastBreak s.toList) with
  | none => .error .noMember
  | some p => (ofParts p).mapError fun e => .badValue e.message

/-- The value of a digit in base sixty-four. -/
def sextet? (c : Char) : Option Nat :=
  if 'A' ≤ c && c ≤ 'Z' then some (c.toNat - 65)
  else if 'a' ≤ c && c ≤ 'z' then some (c.toNat - 71)
  else if c.isDigit then some (c.toNat + 4)
  else if c == '+' then some 62
  else if c == '/' then some 63
  else none

/-- The bytes of digits in base sixty-four, where other characters are passed over; `count` digits of
a group of four were read and left the bits `held`, and `pads` padding signs came after them. -/
def bytesOf (count held pads : Nat) : List Char → Option (List UInt8)
  | [] => if count == 0 then some [] else none
  | c :: cs =>
    if c == '=' then
      if 2 ≤ count then
        if 4 ≤ count + (pads + 1) then some [] else bytesOf count held (pads + 1) cs
      else bytesOf count held pads cs
    else
      match sextet? c with
      | none => bytesOf count held pads cs
      | some d =>
        match count with
        | 0 => bytesOf 1 d 0 cs
        | 1 => (bytesOf 2 (d % 16) 0 cs).map ((held * 4 + d / 16).toUInt8 :: ·)
        | 2 => (bytesOf 3 (d % 4) 0 cs).map ((held * 16 + d / 4).toUInt8 :: ·)
        | _ => (bytesOf 0 0 0 cs).map ((held * 64 + d).toUInt8 :: ·)

/-- The bytes that a scalar denotes. -/
def binary (s : String) : Except Fault Value :=
  if s.toList.any fun c => 128 ≤ c.toNat then .error .invalidYaml
  else
    match bytesOf 0 0 0 s.toList with
    | some bs => .ok (.bytes bs)
    | none => .error .invalidYaml

end Scalar

end Yaml

end RecordFamily
