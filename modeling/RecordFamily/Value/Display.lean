import RecordFamily.Text.Quoted
import RecordFamily.Value.Basic

/-!
# The display of a value

How a value reads where a text is asked for: a text stands for itself, and any other value for its
description.

* `Value.described`: the description, in which texts are quoted and a collection inside itself is
  left out;
* `Value.display`: the description, or the text itself.
-/

namespace RecordFamily

open Text

/-- One byte of a described byte string between the delimiters `mark`. -/
def describedByte (mark : Char) (b : UInt8) : List Char :=
  let c := Char.ofNat b.toNat
  if b.toNat < 128 then quotedChar mark c else backslash :: 'x' :: hexDigits 2 b.toNat

/-- The description of a byte string. -/
def describedBytes (bs : List UInt8) : String :=
  let mark := quotedMark (bs.map fun b => Char.ofNat b.toNat)
  String.ofList ('b' :: mark :: bs.flatMap (describedByte mark) ++ [mark])

namespace Value

/-- What is written for a collection inside itself. -/
def elision : Value → String
  | list _ => "[...]"
  | pair _ _ => "(...)"
  | set _ => "set(...)"
  | _ => "\x7b...\x7d"

mutual

/-- The description of a value inside the named collections `around`, given with what is written for
them there. -/
def describedIn (around : List (Nat × String)) : Value → String
  | null => "None"
  | bool b => if b then "True" else "False"
  | int n => toString n
  | float x => x.text
  | text s => quoted s
  | bytes bs => describedBytes bs
  | date d => d.described
  | moment m => m.described
  | list xs => "[" ++ ", ".intercalate (describedItems around xs) ++ "]"
  | pair a b => "(" ++ describedIn around a ++ ", " ++ describedIn around b ++ ")"
  | set [] => "set()"
  | set (x :: xs) => "\x7b" ++ ", ".intercalate (describedIn around x :: describedItems around xs) ++ "\x7d"
  | map es => "\x7b" ++ ", ".intercalate (describedEntries around es) ++ "\x7d"
  | named n v =>
    match around.lookup n with
    | some left => left
    | none => describedIn ((n, v.elision) :: around) v
  | again n => (around.lookup n).getD "..."

/-- The descriptions of the values of a list. -/
def describedItems (around : List (Nat × String)) : List Value → List String
  | [] => []
  | x :: xs => describedIn around x :: describedItems around xs

/-- The descriptions of the entries of a mapping. -/
def describedEntries (around : List (Nat × String)) : List (Value × Value) → List String
  | [] => []
  | (k, v) :: es =>
    (describedIn around k ++ ": " ++ describedIn around v) :: describedEntries around es

end

/-- The description of a value. -/
def described (v : Value) : String := v.describedIn []

/-- What a value reads as. -/
def display : Value → String
  | text s => s
  | date d => d.text
  | moment m => m.text
  | v => v.described

end Value

end RecordFamily
