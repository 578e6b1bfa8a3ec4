/-!
# Double-precision numbers

A double is kept apart from the machine's floating point, as what it denotes: a signed dyadic
number, an infinity, or no number.

* `twoTo`, `tenTo`: the powers of two and ten that are whole;
* `Double`: the values;
* `Double.ofRatio`, `Double.ofDecimal`: the double nearest to a fraction or to a decimal, a tie going
  to the even significand;
* `Double.add`, `Double.mul`, `Double.ofNat`: sums, products, and doubles of natural numbers;
* `Double.isZero`, `Double.toInt?`: the tests that a comparison with whole numbers needs.
-/

namespace RecordFamily

/-- The power of two, where a negative exponent counts as zero. -/
def twoTo (exponent : Int) : Nat := Nat.pow 2 exponent.toNat

/-- The power of ten, where a negative exponent counts as zero. -/
def tenTo (exponent : Int) : Nat := Nat.pow 10 exponent.toNat

/-- A double-precision number. -/
inductive Double where
  /-- The number `significand · 2 ^ exponent`, with its sign; zero has both signs. -/
  | finite (negative : Bool) (significand : Nat) (exponent : Int)
  | infinite (negative : Bool)
  | notANumber
  deriving DecidableEq, Repr

namespace Double

/-- The least exponent of a double. -/
def leastExponent : Int := -1074

/-- The greatest exponent of a double. -/
def greatestExponent : Int := 971

/-- `2 ^ 53`, the first significand that is too long. -/
def significandBound : Nat := 9007199254740992

/-- `num / den` rounded to the nearest whole number, a tie going to the even one. -/
def roundRatio (num den : Nat) : Nat :=
  let q := num / den
  let twice := 2 * (num % den)
  if twice < den then q
  else if den < twice then q + 1
  else if q % 2 == 0 then q else q + 1

/-- `num · 2 ^ (-exponent) / den` rounded. -/
def scaledRound (num den : Nat) (exponent : Int) : Nat :=
  roundRatio (num * twoTo (-exponent)) (den * twoTo exponent)

/-- The exponent at which the significand of `num / den` has 53 bits, or the least exponent when it
has fewer there. -/
def exponentOf (num den : Nat) : Int :=
  let guess : Int := (Nat.log2 num : Int) - (Nat.log2 den : Int) - 52
  let short := num * twoTo (-guess) < den * twoTo guess * twoTo 52
  max leastExponent (if short then guess - 1 else guess)

/-- The double nearest to `num / den`, for `den` other than zero. -/
def ofRatio (negative : Bool) (num den : Nat) : Double :=
  if num == 0 then finite negative 0 leastExponent
  else
    let e := exponentOf num den
    let m := scaledRound num den e
    let (m, e) := if m == significandBound then (m / 2, e + 1) else (m, e)
    if greatestExponent < e then infinite negative else finite negative m e

/-- The double nearest to `digits · 10 ^ exponent`. -/
def ofDecimal (negative : Bool) (digits : Nat) (exponent : Int) : Double :=
  let size : Int := (Nat.log2 digits : Int) / 4 + exponent
  if digits == 0 then finite negative 0 leastExponent
  else if 310 < size then infinite negative
  else if (Nat.log2 digits : Int) / 3 + exponent < -330 then finite negative 0 leastExponent
  else ofRatio negative (digits * tenTo exponent) (tenTo (-exponent))

/-- The double nearest to a natural number. -/
def ofNat (n : Nat) : Double := ofRatio false n 1

/-- The number with the other sign. -/
def neg : Double → Double
  | finite s m e => finite (!s) m e
  | infinite s => infinite (!s)
  | notANumber => notANumber

/-- The sum of two doubles; opposite numbers give the zero without a sign. -/
def add : Double → Double → Double
  | finite s m e, finite t n f =>
    let low := min e f
    let part (negative : Bool) (k : Nat) (g : Int) : Int :=
      if negative then -(k * twoTo (g - low) : Nat) else (k * twoTo (g - low) : Nat)
    let sum := part s m e + part t n f
    if sum == 0 then finite (s && t) 0 leastExponent
    else ofRatio (sum < 0) (sum.natAbs * twoTo low) (twoTo (-low))
  | notANumber, _ | _, notANumber => notANumber
  | infinite s, infinite t => if s == t then infinite s else notANumber
  | infinite s, finite .. | finite .., infinite s => infinite s

/-- The product of two doubles. -/
def mul : Double → Double → Double
  | finite s m e, finite t n f =>
    ofRatio (s != t) (m * n * twoTo (e + f)) (twoTo (-(e + f)))
  | notANumber, _ | _, notANumber => notANumber
  | infinite s, infinite t => infinite (s != t)
  | infinite s, finite t m _ | finite t m _, infinite s =>
    if m == 0 then notANumber else infinite (s != t)

/-- The double is infinite. -/
def isInfinite : Double → Bool
  | infinite _ => true
  | _ => false

/-- The double is a zero of either sign. -/
def isZero : Double → Bool
  | finite _ m _ => m == 0
  | _ => false

/-- The whole number that the double is, if it is one. -/
def toInt? : Double → Option Int
  | finite s m e =>
    let den := twoTo (-e)
    if m % den == 0 then
      let n : Int := (m / den * twoTo e : Nat)
      some (if s then -n else n)
    else none
  | _ => none

end Double

end RecordFamily
