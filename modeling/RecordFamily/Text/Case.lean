import RecordFamily.Text.CaseTable
import RecordFamily.Text.CasedTable

/-!
# Upper and lower case

* `isUpper`: the upper-case characters;
* `toUpper`, `toLower`: the case changes of one character, which may give several;
* **`lowered`**: the lower case of a text, where a sigma at the end of a word has a form of its own.
-/

namespace RecordFamily.Text

/-- The character is upper case. -/
def isUpper (c : Char) : Bool :=
  if c.toNat < 128 then c.isUpper else inSpans upperCase c

/-- The characters listed for `c`, or the single character `one` when the table has no entry. -/
def listedOr (table : List (Nat × List Nat)) (c one : Char) : List Char :=
  match table.find? fun entry => entry.1 == c.toNat with
  | some entry => entry.2.map Char.ofNat
  | none => [one]

/-- The upper case of one character. -/
def toUpper (c : Char) : List Char :=
  if c.toNat < 128 then [c.toUpper] else listedOr toUpperLists c (shiftIn toUpperShifts c)

/-- The lower case of one character. -/
def toLower (c : Char) : List Char :=
  if c.toNat < 128 then [c.toLower] else listedOr toLowerLists c (shiftIn toLowerShifts c)

/-- The character is passed over when the neighbours of a sigma are looked at. -/
def isPassedOver (c : Char) : Bool :=
  if c.toNat < 128 then ['\'', '.', ':', '^', '\x60'].contains c else inSpans ignoredSigns c

/-- The character has a case. -/
def isCased (c : Char) : Bool := if c.toNat < 128 then c.isAlpha else inSpans casedSigns c

/-- The first character that is not passed over has a case. -/
def beginsCased (cs : List Char) : Bool :=
  ((cs.dropWhile isPassedOver).head?.map isCased).getD false

/-- The lower case of a text after the characters `before`, last one first. -/
def loweredAfter (before : List Char) : List Char → List Char
  | [] => []
  | c :: cs =>
    (if c == 'Σ' then if beginsCased before && !beginsCased cs then ['ς'] else ['σ']
      else toLower c) ++ loweredAfter (c :: before) cs

/-- **The lower case of a text.** -/
def lowered (cs : List Char) : List Char := loweredAfter [] cs

end RecordFamily.Text
