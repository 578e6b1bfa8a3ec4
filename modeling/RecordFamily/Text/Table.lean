/-!
# Tables of code points

A property of characters is kept as a list of **spans**: first code point, last code point and the
step between neighbours. A change of characters, such as a case change, is kept as a list of
**shifts**: a span together with the distance by which its members move.

* `Span`, `Span.mem`: one run of code points;
* `inSpans`: membership in a table;
* `Shift`, `shiftIn`: where a table sends a code point.
-/

namespace RecordFamily.Text

/-- A run of code points `first, first + step, …, last`. -/
structure Span where
  first : Nat
  last : Nat
  step : Nat := 1

/-- The run holds the code point `n`. -/
def Span.mem (s : Span) (n : Nat) : Bool :=
  s.first ≤ n && n ≤ s.last && (n - s.first) % s.step == 0

/-- Some run of the table holds the character. -/
def inSpans (table : List Span) (c : Char) : Bool :=
  table.any fun s => s.mem c.toNat

/-- A run of code points that all move by the same distance. -/
structure Shift where
  span : Span
  distance : Int

/-- The character to which the table sends `c`, which is `c` itself when no run holds it. -/
def shiftIn (table : List Shift) (c : Char) : Char :=
  match table.find? fun s => s.span.mem c.toNat with
  | some s => Char.ofNat ((c.toNat : Int) + s.distance).toNat
  | none => c

end RecordFamily.Text
