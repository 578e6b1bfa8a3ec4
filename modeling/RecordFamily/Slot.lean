import RecordFamily.Value.Display

/-!
# Slots

The parts of a record that are meant to hold text, and the marks that are meant to be true or false,
come from documents that may hold something else there. Records are therefore written over the type
`τ` of what fills a text slot and the type `φ` of what fills a mark: `String` and `Bool` for records
that are well formed, `Value` for whatever a document holds.

* `Slot`, `Mark`: what such a type has to offer;
* `Slot.display`, `Slot.isGiven`, `Slot.isKey`, `Slot.reading?`: what a slot reads as, whether it
  counts as filled, whether it may be a key, and its reading unless it is null;
* `Slot.rename`: the slot with a text made from another slot's.
-/

namespace RecordFamily

/-- What may fill a text slot. -/
class Slot (τ : Type) [BEq τ] where
  /-- The slot that holds a text. -/
  ofText : String → τ
  /-- The text that the slot holds, if it holds one. -/
  text? : τ → Option String
  /-- The slot as a document value. -/
  toValue : τ → Value
  /-- The slot that a document value fills, if it may. -/
  ofValue? : Value → Option τ

/-- What may fill a true-or-false mark. -/
class Mark (φ : Type) where
  /-- The mark that is set or not. -/
  ofBool : Bool → φ
  /-- The mark counts as set. -/
  isSet : φ → Bool
  /-- The mark as a document value. -/
  toValue : φ → Value
  /-- The mark that a document value makes, if it may. -/
  ofValue? : Value → Option φ

/-- Values are compared as the values of a document. -/
instance : BEq Value := ⟨Value.same⟩

instance : Slot String where
  ofText s := s
  text? s := some s
  toValue s := .text s
  ofValue?
    | .text s => some s
    | _ => none

instance : Slot Value where
  ofText s := .text s
  text?
    | .text s => some s
    | _ => none
  toValue v := v
  ofValue? v := some v

instance : Mark Bool where
  ofBool b := b
  isSet b := b
  toValue b := .bool b
  ofValue?
    | .bool b => some b
    | _ => none

instance : Mark Value where
  ofBool b := .bool b
  isSet v := v.truthy
  toValue v := v
  ofValue? v := some v

namespace Slot

variable {τ : Type} [BEq τ] [Slot τ]

/-- What the slot reads as. -/
def display (x : τ) : String := (toValue x).display

/-- The slot counts as filled. -/
def isGiven (x : τ) : Bool := (toValue x).truthy

/-- The slot may be a key of a mapping or a member of a set. -/
def isKey (x : τ) : Bool := (toValue x).isKeyShaped

/-- The slot that holds a text made from what the slot reads as. -/
def rename (f : String → String) (x : τ) : τ := ofText (f (display x))

/-- What the slot reads as, unless it is null. -/
def reading? (x : τ) : Option String :=
  match toValue x with
  | .null => none
  | v => some v.display

@[simp] theorem display_string (s : String) : display s = s := rfl

@[simp] theorem text?_string (s : String) : text? s = some s := rfl

@[simp] theorem ofText_string (s : String) : ofText (τ := String) s = s := rfl

@[simp] theorem rename_string (f : String → String) (s : String) : rename f s = f s := rfl

@[simp] theorem reading?_string (s : String) : reading? s = some s := rfl

@[simp] theorem isKey_string (s : String) : isKey s = true := rfl

@[simp] theorem isGiven_string (s : String) : isGiven s = (s != "") := rfl

end Slot

end RecordFamily
