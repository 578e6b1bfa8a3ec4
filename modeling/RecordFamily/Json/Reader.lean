import RecordFamily.Text.Quoted
import RecordFamily.Value.Basic

/-!
# Reading JSON

A JSON text is read into a value. Objects keep the order of their keys, whole numbers are told from
doubles, and `NaN`, `Infinity` and `-Infinity` count as doubles. A text that cannot be read is
reported with the place where reading stopped.

* `Json.Cause`, `Json.Error`: what is wrong with a text, and where;
* `Json.number`, `Json.string`: the two kinds of tokens with inner structure;
* `Json.value`: a value at the start of a text;
* **`Json.read`**: the value of a whole text.

While a text is read, a place in it is known by how many characters are left there.
-/

namespace RecordFamily

namespace Json

open Text

/-- What is wrong with a text. -/
inductive Cause where
  | byteOrderMark
  | expectedValue
  | expectedName
  | expectedColon
  | expectedComma
  | unterminatedString
  | controlCharacter
  | badEscape
  | badCodeEscape
  | extraData
  /-- A whole number has more digits than are read. -/
  | tooManyDigits (count : Nat)
  /-- Arrays and objects stand in each other too deep. -/
  | tooDeep
  deriving DecidableEq, Repr

/-- The wording of a cause. -/
def Cause.wording : Cause → String
  | byteOrderMark => "Unexpected UTF-8 BOM (decode using utf-8-sig)"
  | expectedValue => "Expecting value"
  | expectedName => "Expecting property name enclosed in double quotes"
  | expectedColon => "Expecting ':' delimiter"
  | expectedComma => "Expecting ',' delimiter"
  | unterminatedString => "Unterminated string starting at"
  | controlCharacter => "Invalid control character at"
  | badEscape => "Invalid \\escape"
  | badCodeEscape => "Invalid \\uXXXX escape"
  | extraData => "Extra data"
  | tooManyDigits count =>
    s!"Exceeds the limit ({Value.digitBound} digits) for integer string conversion: value has {count} "
      ++ "digits; use sys.set_int_max_str_digits() to increase the limit"
  | tooDeep => "Nesting too deep"

/-- A cause and the place where it was found: the count of characters before it, the line and the
column. -/
structure Error where
  cause : Cause
  position : Nat
  line : Nat
  column : Nat
  deriving DecidableEq, Repr

/-- The text of the error. -/
def Error.message (e : Error) : String :=
  s!"{e.cause.wording}: line {e.line} column {e.column} (char {e.position})"

/-- A cause, with the count of characters left where it was found. -/
structure Stop where
  cause : Cause
  left : Nat

/-- The error of a stop in the text `cs`. -/
def Stop.error (cs : List Char) (s : Stop) : Error :=
  let position := cs.length - s.left
  let before := cs.take position
  ⟨s.cause, position, before.count '\n' + 1,
    (before.reverse.takeWhile (· != '\n')).length + 1⟩

/-- The cause at the start of the text `cs`. -/
def stop {α : Type} (cause : Cause) (cs : List Char) : Except Stop α :=
  .error ⟨cause, cs.length⟩

/-- The text after the white space at its start. -/
def skip (cs : List Char) : List Char :=
  cs.dropWhile fun c => c == ' ' || c == '\t' || c == '\n' || c == '\r'

/-! ## Numbers -/

/-- The number that decimal digits denote. -/
def natOf (ds : List Char) : Nat := ds.foldl (fun n d => 10 * n + (d.toNat - 48)) 0

/-- The fraction at the start of the text: a point with at least one digit after it. -/
def fraction (cs : List Char) : List Char × List Char :=
  match cs with
  | '.' :: rest =>
    match rest.takeWhile Char.isDigit with
    | [] => ([], cs)
    | ds => (ds, rest.dropWhile Char.isDigit)
  | _ => ([], cs)

/-- The sign of an exponent. -/
def exponentSign : List Char → Bool × List Char
  | '-' :: cs => (true, cs)
  | '+' :: cs => (false, cs)
  | cs => (false, cs)

/-- The exponent at the start of the text: a letter, a sign perhaps, and at least one digit. -/
def exponent (cs : List Char) : Option Int × List Char :=
  match cs with
  | c :: rest =>
    if c == 'e' || c == 'E' then
      let (negative, rest) := exponentSign rest
      match rest.takeWhile Char.isDigit with
      | [] => (none, cs)
      | ds =>
        let n : Int := natOf ds
        (some (if negative then -n else n), rest.dropWhile Char.isDigit)
    else (none, cs)
  | [] => (none, cs)

/-- The number whose digits before the point are `whole`, with what follows them. -/
def numberFrom (negative : Bool) (whole rest : List Char) : Value × List Char :=
  let (frac, rest) := fraction rest
  let (power, rest) := exponent rest
  if frac.isEmpty && power.isNone then
    let n : Int := natOf whole
    (.int (if negative then -n else n), rest)
  else
    (.float (.ofDecimal negative (natOf (whole ++ frac)) (power.getD 0 - frac.length)), rest)

/-- The number at the start of the text. -/
def number (cs : List Char) : Option (Value × List Char) :=
  let (negative, rest) := match cs with
    | '-' :: rest => (true, rest)
    | _ => (false, cs)
  match rest with
  | '0' :: rest => some (numberFrom negative ['0'] rest)
  | _ =>
    match rest.takeWhile Char.isDigit with
    | [] => none
    | ds => some (numberFrom negative ds (rest.dropWhile Char.isDigit))

/-! ## Strings -/

/-- The value of a hexadecimal digit. -/
def hexDigit? (c : Char) : Option Nat :=
  if c.isDigit then some (c.toNat - 48)
  else if 'a' ≤ c && c ≤ 'f' then some (c.toNat - 87)
  else if 'A' ≤ c && c ≤ 'F' then some (c.toNat - 55)
  else none

/-- The number that hexadecimal digits denote. -/
def hexValue? (ds : List Char) : Option Nat :=
  ds.foldl (fun n d => do return 16 * (← n) + (← hexDigit? d)) (some 0)

/-- The character that a backslash before `c` stands for. -/
def simpleEscape (c : Char) : Option Char :=
  if c == quotationMark || c == backslash || c == '/' then some c
  else if c == 'b' then some '\x08'
  else if c == 'f' then some '\x0c'
  else if c == 'n' then some '\n'
  else if c == 'r' then some '\r'
  else if c == 't' then some '\t'
  else none

/-- The number is the first half of a pair that stands for one character. -/
def isHighHalf (n : Nat) : Bool := 0xd800 ≤ n && n < 0xdc00

/-- The number is the second half of a pair that stands for one character. -/
def isLowHalf (n : Nat) : Bool := 0xdc00 ≤ n && n < 0xe000

/-- The character of a code point; a lone half has none and gives the replacement character. -/
def charOf (n : Nat) : Char := if isHighHalf n || isLowHalf n then '\ufffd' else Char.ofNat n

/-- The four digits of a code escape and what follows them, which may not be the end of the text.
The text `u` starts at the letter before the digits. -/
def codeUnit (u : List Char) : Except Stop (Nat × List Char) :=
  let rest := u.drop 1
  let tail := rest.drop 4
  match tail, hexValue? (rest.take 4) with
  | [], _ | _, none => stop .badCodeEscape u
  | _, some n => .ok (n, tail)

/-- The second half that follows a first half, if one does. -/
def lowHalf (high : Nat) (cs : List Char) : Except Stop (Char × List Char) :=
  match cs with
  | '\\' :: 'u' :: rest =>
    if rest.length ≤ 4 then .ok (charOf high, cs)
    else do
      let (low, tail) ← codeUnit ('u' :: rest)
      if isLowHalf low then
        return (Char.ofNat (0x10000 + (high - 0xd800) * 0x400 + (low - 0xdc00)), tail)
      else return (charOf high, cs)
  | _ => .ok (charOf high, cs)

/-- The character of the escape whose backslash stands at `cs`. -/
def escape (opening cs : List Char) : Except Stop (Char × List Char) :=
  match cs.drop 1 with
  | [] => stop .unterminatedString opening
  | 'u' :: rest => do
    let (n, tail) ← codeUnit ('u' :: rest)
    if isHighHalf n then lowHalf n tail else return (charOf n, tail)
  | c :: rest =>
    match simpleEscape c with
    | some c => .ok (c, rest)
    | none => stop .badEscape cs

/-- The characters up to the closing quotation mark; `opening` starts at the opening one, and `done`
holds what was read, last character first. -/
def stringFrom (opening : List Char) : (fuel : Nat) → (done cs : List Char) → Except Stop (String × List Char)
  | 0, _, _ => stop .unterminatedString opening
  | fuel + 1, done, cs =>
    match cs with
    | [] => stop .unterminatedString opening
    | c :: rest =>
      if c == quotationMark then .ok (String.ofList done.reverse, rest)
      else if c == backslash then do
        let (c, rest) ← escape opening cs
        stringFrom opening fuel (c :: done) rest
      else if c.toNat ≤ 0x1f then stop .controlCharacter cs
      else stringFrom opening fuel (c :: done) rest

/-- The string whose opening quotation mark stands at `cs`, which has no more characters than the
bound. -/
def string (bound : Nat) (cs : List Char) : Except Stop (String × List Char) :=
  stringFrom cs bound [] (cs.drop 1)

/-! ## Values -/

/-- The words that stand for values. -/
def words : List (List Char × Value) := [
  ("null".toList, .null), ("true".toList, .bool true), ("false".toList, .bool false),
  ("NaN".toList, .float .notANumber), ("Infinity".toList, .float (.infinite false)),
  ("-Infinity".toList, .float (.infinite true))]

/-- The digits of a whole number at the start of the text. -/
def integerDigits : List Char → List Char
  | '-' :: cs => cs.takeWhile Char.isDigit
  | cs => cs.takeWhile Char.isDigit

/-- The word or number at the start of the text. -/
def scalar (cs : List Char) : Except Stop (Value × List Char) :=
  match words.find? fun w => w.1.isPrefixOf cs with
  | some (w, v) => .ok (v, cs.drop w.length)
  | none =>
    match number cs with
    | some (.int n, rest) =>
      let count := (integerDigits cs).length
      if Value.digitBound < count then stop (.tooManyDigits count) cs else .ok (.int n, rest)
    | some r => .ok r
    | none => stop .expectedValue cs

/-- The number of arrays and objects inside each other at which reading gives up. -/
def nestingBound : Nat := 985

mutual

/-- The value at the start of the text, inside `depth` arrays and objects. -/
def value : (fuel : Nat) → (depth : Nat) → (cs : List Char) → Except Stop (Value × List Char)
  | 0, _, cs => stop .expectedValue cs
  | fuel + 1, depth, cs =>
    match cs with
    | '{' :: rest =>
      if nestingBound ≤ depth + 1 then stop .tooDeep cs
      else
        match skip rest with
        | '}' :: rest => .ok (.map [], rest)
        | rest => members fuel (depth + 1) [] rest
    | '[' :: rest =>
      if nestingBound ≤ depth + 1 then stop .tooDeep cs
      else
        match skip rest with
        | ']' :: rest => .ok (.list [], rest)
        | rest => elements fuel (depth + 1) [] rest
    | c :: _ =>
      if c == quotationMark then do
        let (s, rest) ← string fuel cs
        return (.text s, rest)
      else scalar cs
    | [] => stop .expectedValue cs

/-- The members of an object up to its end, after those in `done`, last first. -/
def members : (fuel : Nat) → (depth : Nat) → (done : List (Value × Value)) → (cs : List Char) →
    Except Stop (Value × List Char)
  | 0, _, _, cs => stop .expectedName cs
  | fuel + 1, depth, done, cs => do
    if cs.head? != some quotationMark then stop .expectedName cs
    else
      let (name, rest) ← string fuel cs
      match skip rest with
      | ':' :: rest =>
        let (v, rest) ← value fuel depth (skip rest)
        let done := (.text name, v) :: done
        match skip rest with
        | '}' :: rest => return (Value.ofPairs done.reverse, rest)
        | ',' :: rest => members fuel depth done (skip rest)
        | rest => stop .expectedComma rest
      | rest => stop .expectedColon rest

/-- The elements of an array up to its end, after those in `done`, last first. -/
def elements : (fuel : Nat) → (depth : Nat) → (done : List Value) → (cs : List Char) →
    Except Stop (Value × List Char)
  | 0, _, _, cs => stop .expectedValue cs
  | fuel + 1, depth, done, cs => do
    let (v, rest) ← value fuel depth cs
    match skip rest with
    | ']' :: rest => return (.list (v :: done).reverse, rest)
    | ',' :: rest => elements fuel depth (v :: done) (skip rest)
    | rest => stop .expectedComma rest

end

/-- The value of a whole text and nothing after it. -/
def whole (cs : List Char) : Except Stop Value :=
  if cs.head? == some '\ufeff' then stop .byteOrderMark cs
  else do
    let (v, rest) ← value (2 * cs.length + 2) 0 (skip cs)
    match skip rest with
    | [] => return v
    | rest => stop .extraData rest

/-- **The value that a JSON text denotes.** -/
def read (s : String) : Except Error Value :=
  let cs := s.toList
  (whole cs).mapError (Stop.error cs)

end Json

end RecordFamily
