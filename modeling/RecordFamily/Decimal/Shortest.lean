import RecordFamily.Decimal.Double

/-!
# The shortest decimal of a double

Among the decimals that round to a double, those with the fewest digits are its **shortest**
decimals, and of them the one nearest to the double is written; of two equally near ones, the even.

* `Grid`, `Grid.hit`: the multiples of a power of ten next to a number, and the nearer one that
  rounds to it;
* `shortest`: the digits and the exponent of the shortest decimal;
* `Double.text`: the written form, positional for exponents from `-4` up to `15`, and else with a
  point after the first digit and an exponent of at least two digits.
-/

namespace RecordFamily

namespace Decimal

/-- The decimal digits of a number. -/
def digits (n : Nat) : List Char := Nat.toDigits 10 n

/-- `a · 2 ^ p` is less than `b · 10 ^ r`, with the powers moved to the side where they are whole. -/
def binaryLt (a : Nat) (p : Int) (b : Nat) (r : Int) : Bool :=
  a * twoTo p * tenTo (-r) < b * tenTo r * twoTo (-p)

/-- `a · 2 ^ p` equals `b · 10 ^ r`. -/
def binaryEq (a : Nat) (p : Int) (b : Nat) (r : Int) : Bool :=
  a * twoTo p * tenTo (-r) == b * tenTo r * twoTo (-p)

/-- The decimal `d · 10 ^ r` rounds to the double `m · 2 ^ q`: it lies between the midpoints to the
neighbouring doubles, which themselves round to it when `m` is even. -/
def roundsTo (m : Nat) (q : Int) (d : Nat) (r : Int) : Bool :=
  let low := if m == twoTo 52 && Double.leastExponent < q then 4 * m - 1 else 4 * m - 2
  let high := 4 * m + 2
  let onEnd := m % 2 == 0 && (binaryEq low (q - 2) d r || binaryEq high (q - 2) d r)
  onEnd || (binaryLt low (q - 2) d r && !binaryLt high (q - 2) d r && !binaryEq high (q - 2) d r)

/-- The greatest `d` with `d · 10 ^ r` at most `m · 2 ^ q`. -/
def below (m : Nat) (q r : Int) : Nat :=
  (m * twoTo q * tenTo (-r)) / (tenTo r * twoTo (-q))

/-- The multiple of `10 ^ r` that is nearest to `m · 2 ^ q` among those next to it that round to
it. -/
def hit (m : Nat) (q r : Int) : Option Nat :=
  let d := below m q r
  match roundsTo m q d r, roundsTo m q (d + 1) r with
  | true, true =>
    -- The number against the middle of the two multiples.
    if binaryLt (2 * m) q (2 * d + 1) r then some d
    else if binaryEq (2 * m) q (2 * d + 1) r then some (if d % 2 == 0 then d else d + 1)
    else some (d + 1)
  | true, false => some d
  | false, true => some (d + 1)
  | false, false => none

/-- The first hit on the grids `10 ^ r`, `10 ^ (r - 1)`, …, `fuel` of them. -/
def firstHit (m : Nat) (q : Int) : (fuel : Nat) → (r : Int) → Nat × Int
  | 0, r => (below m q r, r)
  | fuel + 1, r =>
    match hit m q r with
    | some d => (d, r)
    | none => firstHit m q fuel (r - 1)

/-- An exponent of ten that is at least that of the leading digit of `m · 2 ^ q`. -/
def leadingExponent (m : Nat) (q : Int) : Int :=
  ((Nat.log2 m : Int) + 1 + q) * 30103 / 100000 + 1

/-- The shortest decimal of `m · 2 ^ q`, for `m` other than zero. -/
def shortest (m : Nat) (q : Int) : Nat × Int := firstHit m q 40 (leadingExponent m q)

/-- The digits without the zeros at their end, and how many zeros there were. -/
def dropZeros (ds : List Char) : List Char := (ds.reverse.dropWhile (· == '0')).reverse

/-- The digits `ds` with the point after the first `point` of them; a number without fraction ends
in a point and a zero. -/
def positional (ds : List Char) (point : Int) : List Char :=
  if point ≤ 0 then '0' :: '.' :: (List.replicate (-point).toNat '0' ++ ds)
  else
    let n := point.toNat
    if ds.length ≤ n then ds ++ List.replicate (n - ds.length) '0' ++ ['.', '0']
    else ds.take n ++ '.' :: ds.drop n

/-- The digits `ds` with the point after the first of them, times a power of ten. -/
def scientific (ds : List Char) (exponent : Int) : List Char :=
  let fraction := match ds.drop 1 with
    | [] => []
    | rest => '.' :: rest
  let size := digits exponent.natAbs
  let size := if size.length < 2 then '0' :: size else size
  ds.take 1 ++ fraction ++ 'e' :: (if exponent < 0 then '-' else '+') :: size

end Decimal

open Decimal in
/-- **The written form of a double**, the shortest that reads back as it. -/
def Double.text : Double → String
  | .notANumber => "nan"
  | .infinite negative => if negative then "-inf" else "inf"
  | .finite negative m q =>
    let body :=
      if m == 0 then ['0', '.', '0']
      else
        let (d, r) := shortest m q
        let ds := digits d
        let exponent := (ds.length : Int) + r - 1
        let ds := dropZeros ds
        if -4 ≤ exponent && exponent < 16 then positional ds (exponent + 1)
        else scientific ds exponent
    String.ofList (if negative then '-' :: body else body)

end RecordFamily
