/-!
# UTF-8

* `Utf8Error`, `Utf8Error.message`: the bytes that are no UTF-8, where they stand, and why;
* `sequenceShape`: how many bytes a first byte asks for, and which second bytes may follow it;
* **`decodeUtf8`**: the characters that bytes stand for.
-/

namespace RecordFamily.Text

/-- Why bytes are no UTF-8. -/
inductive Utf8Reason where
  | badStart
  | badContinuation
  | cutOff
  deriving DecidableEq, Repr

/-- Bytes that are no UTF-8: the first of them, how many they are, and the byte itself. -/
structure Utf8Error where
  position : Nat
  count : Nat
  byte : UInt8
  reason : Utf8Reason
  deriving DecidableEq, Repr

/-- The wording of a reason. -/
def Utf8Reason.wording : Utf8Reason → String
  | badStart => "invalid start byte"
  | badContinuation => "invalid continuation byte"
  | cutOff => "unexpected end of data"

/-- A byte in two hexadecimal digits. -/
def byteText (b : UInt8) : String :=
  String.ofList [Nat.digitChar (b.toNat / 16), Nat.digitChar (b.toNat % 16)]

/-- The text of the error. -/
def Utf8Error.message (e : Utf8Error) : String :=
  let place :=
    if e.count == 1 then s!"byte 0x{byteText e.byte} in position {e.position}"
    else s!"bytes in position {e.position}-{e.position + e.count - 1}"
  s!"'utf-8' codec can't decode {place}: {e.reason.wording}"

/-- The number of bytes that follow a first byte, and the bounds of the one after it; none for a byte
that begins no character. -/
def sequenceShape (b : Nat) : Option (Nat × Nat × Nat) :=
  if b < 0x80 then some (0, 0, 0)
  else if b < 0xc2 then none
  else if b < 0xe0 then some (1, 0x80, 0xbf)
  else if b == 0xe0 then some (2, 0xa0, 0xbf)
  else if b == 0xed then some (2, 0x80, 0x9f)
  else if b < 0xf0 then some (2, 0x80, 0xbf)
  else if b == 0xf0 then some (3, 0x90, 0xbf)
  else if b < 0xf4 then some (3, 0x80, 0xbf)
  else if b == 0xf4 then some (3, 0x80, 0x8f)
  else none

/-- The bytes at the front that may follow one another, at most `n`: the first lies between `low` and
`high`, the others between the bounds of any later byte. -/
def following (low high : Nat) : (n : Nat) → List UInt8 → List Nat
  | 0, _ => []
  | _, [] => []
  | n + 1, b :: bs =>
    if low ≤ b.toNat && b.toNat ≤ high then b.toNat :: following 0x80 0xbf n bs else []

/-- The code point of a first byte and the `n` bytes after it. -/
def codePoint (first n : Nat) (later : List Nat) : Nat :=
  later.foldl (fun code b => code * 64 + b % 64) (first % Nat.pow 2 (if n == 0 then 8 else 6 - n))

/-- The characters of bytes, the first of which stands at a position; `skip` of them belong to a
character that was read. -/
def decodeFrom (position skip : Nat) : List UInt8 → Except Utf8Error (List Char)
  | [] => .ok []
  | b :: bs =>
    match skip with
    | skip + 1 => decodeFrom (position + 1) skip bs
    | 0 =>
      match sequenceShape b.toNat with
      | none => .error ⟨position, 1, b, .badStart⟩
      | some (n, low, high) =>
        let later := following low high n bs
        if later.length == n then
          (decodeFrom (position + 1) n bs).map (Char.ofNat (codePoint b.toNat n later) :: ·)
        else if later.length == bs.length then
          .error ⟨position, later.length + 1, b, .cutOff⟩
        else .error ⟨position, later.length + 1, b, .badContinuation⟩

/-- **The characters that bytes stand for.** -/
def decodeUtf8 (bs : List UInt8) : Except Utf8Error (List Char) := decodeFrom 0 0 bs

end RecordFamily.Text
