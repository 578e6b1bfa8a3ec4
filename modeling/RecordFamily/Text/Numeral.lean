import RecordFamily.Text.IdentifierTable
import RecordFamily.Text.NumeralTable

/-!
# Letters, digits and numerals

* `isDigit`: a digit of any script, raised ones included;
* `isLetterOrNumeral`: a letter, a digit or another sign with a numeric value;
* `plainDigit`: a decimal digit of any script as one of `0` to `9`.
-/

namespace RecordFamily.Text

/-- The character is a digit. -/
def isDigit (c : Char) : Bool :=
  if c.toNat < 128 then c.isDigit else inSpans digitSigns c

/-- The character is a letter or has a numeric value. -/
def isLetterOrNumeral (c : Char) : Bool :=
  if c.toNat < 128 then c.isAlphanum
  else (inSpans identifierStart c && !inSpans identifierSigns c) || inSpans numeralExtra c

/-- The decimal digit of any script that `c` is, as one of `0` to `9`; any other character stays. -/
def plainDigit (c : Char) : Char :=
  if c.toNat < 128 then c
  else match decimalZeros.find? fun first => first ≤ c.toNat && c.toNat < first + 10 with
    | some first => Char.ofNat (0x30 + (c.toNat - first))
    | none => c

end RecordFamily.Text
