import RecordFamily.Error
import RecordFamily.Value.Display

/-!
# The wording of a value

A value of a document is put into words where a text is asked for. It has none when it holds a whole
number that is too long to be written, or when collections stand in it too deep.

* `Value.height`: how deep collections stand in each other;
* `Value.isWritable`: no whole number in the value is too long to be written;
* **`Value.wording`**, `Value.description`: the display and the description of a value, or the fault
  that stands in their way.
-/

namespace RecordFamily

/-- The fault of a whole number that is too long to be written. -/
def Fault.numberTooLong : Fault :=
  .badValue (s!"Exceeds the limit ({Value.digitBound} digits) for integer string conversion; "
    ++ "use sys.set_int_max_str_digits() to increase the limit")

namespace Value

mutual

/-- How deep collections stand in each other in a value. -/
def height : Value → Nat
  | list xs | set xs => itemsHeight xs + 1
  | pair a b => max a.height b.height + 1
  | map es => entriesHeight es + 1
  | named _ v => v.height
  | _ => 0

/-- The greatest height of the values of a list. -/
def itemsHeight : List Value → Nat
  | [] => 0
  | x :: xs => max x.height (itemsHeight xs)

/-- The greatest height of the values of a mapping. -/
def entriesHeight : List (Value × Value) → Nat
  | [] => 0
  | (_, v) :: es => max v.height (entriesHeight es)

end

/-- The height at which a value is too deep to be put into words. -/
def heightBound : Nat := 990

/-- The first whole number that is too long to be written. -/
def longNumber : Nat := Nat.pow 10 digitBound

mutual

/-- No whole number in the value is too long to be written. -/
def isWritable : Value → Bool
  | int n => n.natAbs < longNumber
  | list xs | set xs => areWritable xs
  | pair a b => a.isWritable && b.isWritable
  | map es => entriesWritable es
  | named _ v => v.isWritable
  | _ => true

/-- No whole number in the values is too long to be written. -/
def areWritable : List Value → Bool
  | [] => true
  | x :: xs => x.isWritable && areWritable xs

/-- No whole number in the entries is too long to be written. -/
def entriesWritable : List (Value × Value) → Bool
  | [] => true
  | (k, v) :: es => k.isWritable && v.isWritable && entriesWritable es

end

/-- A value that cannot be put into words is a fault. -/
def checkWording (v : Value) : Except Fault Unit :=
  if heightBound ≤ v.height then .error .tooDeep
  else if v.isWritable then .ok ()
  else .error .numberTooLong

/-- The description of a value, if it has one. -/
def description (v : Value) : Except Fault String := do
  v.checkWording
  return v.described

/-- **The wording of a value**, if it has one: what it reads as. -/
def wording (v : Value) : Except Fault String := do
  v.checkWording
  return v.display

end Value

end RecordFamily
