import RecordFamily.Text.PrintableTable

/-!
# Quoted text

The quoted form in which a text appears inside the display of a list or of a mapping, and in
messages. It stands between apostrophes, or between quotation marks when it holds an apostrophe and
no quotation mark. The delimiter, the backslash and the characters that cannot be printed are
escaped.

* `hexDigits`: a number in a given count of hexadecimal digits;
* `isPrintable`: the characters that stand for themselves;
* `quoted`: the quoted form.
-/

namespace RecordFamily.Text

/-- The apostrophe. -/
def apostrophe : Char := '\x27'

/-- The quotation mark. -/
def quotationMark : Char := '\x22'

/-- The backslash. -/
def backslash : Char := '\x5c'

/-- The last `width` hexadecimal digits of `n`, in lower case. -/
def hexDigits : (width : Nat) → (n : Nat) → List Char
  | 0, _ => []
  | width + 1, n => hexDigits width (n / 16) ++ [Nat.digitChar (n % 16)]

/-- The character is printable. -/
def isPrintable (c : Char) : Bool :=
  if c.toNat < 128 then 0x20 ≤ c.toNat && c.toNat < 0x7f else inSpans printableSigns c

/-- The escape of a character by its code point: the shortest of the three widths that holds it. -/
def codeEscape (c : Char) : List Char :=
  let n := c.toNat
  if n < 0x100 then backslash :: 'x' :: hexDigits 2 n
  else if n < 0x10000 then backslash :: 'u' :: hexDigits 4 n
  else backslash :: 'U' :: hexDigits 8 n

/-- One character of a quoted text between the delimiters `mark`. -/
def quotedChar (mark c : Char) : List Char :=
  if c == mark || c == backslash then [backslash, c]
  else if c == '\t' then [backslash, 't']
  else if c == '\n' then [backslash, 'n']
  else if c == '\r' then [backslash, 'r']
  else if isPrintable c then [c]
  else codeEscape c

/-- The delimiter of the quoted form. -/
def quotedMark (cs : List Char) : Char :=
  if cs.contains apostrophe && !cs.contains quotationMark then quotationMark else apostrophe

/-- The quoted form of a text. -/
def quotedChars (cs : List Char) : List Char :=
  let mark := quotedMark cs
  mark :: cs.flatMap (quotedChar mark) ++ [mark]

/-- The quoted form of a string. -/
def quoted (s : String) : String := String.ofList (quotedChars s.toList)

end RecordFamily.Text
