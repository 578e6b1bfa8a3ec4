import RecordFamily.Error
import RecordFamily.Family
import RecordFamily.Slot
import RecordFamily.Value.Wording

/-!
# Reading dictionaries

Records and families from document values. A record is read leniently: anything counts as a text, and
a lone value counts as a list of one. The parts of a family are taken as they stand, but some of
their keys have to be there.

* `Value.elements`: the parts of a value that can be gone through one by one;
* `FieldOf.ofValue`, `VariantOf.ofValue`, `InterfaceOf.ofValue`, `EdgeOf.ofValue`,
  `ConversionOf.ofValue`: the parts;
* **`RecordOf.ofValue`**, **`FamilyOf.ofValue`**: records and families;
* `FamilyOf.ofJson`: a family from its JSON document.
-/

namespace RecordFamily

variable {τ φ : Type} [BEq τ] [Slot τ] [Mark φ]

/-! ## Values of a given shape -/

namespace Value

/-- The value as a list: nothing for null, and a list of one for a value that is no list. -/
def asList (v : Value) : List Value :=
  match v.opened with
  | null => []
  | list xs => xs
  | pair a b => [a, b]
  | _ => [v]

/-- What a value holds one by one: the items of a list, the keys of a mapping, the characters of a
text. -/
def elements (v : Value) : Except Failure (List Value) :=
  match v.opened with
  | text s => .ok (s.toList.map fun c => text (String.singleton c))
  | bytes bs => .ok (bs.map fun b => int b.toNat)
  | list xs => .ok xs
  | pair a b => .ok [a, b]
  | set xs => .ok xs
  | map es => .ok (es.map Prod.fst)
  | _ => .error (.fault .wrongShape)

/-- The entries of a mapping whose members are looked up by name. -/
def members (v : Value) : Except Failure (List (Value × Value)) :=
  match v.opened with
  | map es => .ok es
  | _ => .error (.fault .noMember)

/-- The entries of a mapping whose keys are looked up. -/
def entries (v : Value) : Except Failure (List (Value × Value)) :=
  match v.opened with
  | map es => .ok es
  | _ => .error (.fault .wrongShape)

/-- The value of a key that has to be there. -/
def required (es : List (Value × Value)) (key : String) : Except Failure Value :=
  match find? es key with
  | some v => .ok v
  | none => .error (.fault (.missingKey (text key).described))

/-- The entry that the element at a position stands for: it holds a key and a value. -/
def asEntry (position : Nat) (v : Value) : Except Failure (Value × Value) := do
  match ← v.elements with
  | [k, x] => if k.isKeyShaped then return (k, x) else .error (.fault .wrongShape)
  | xs =>
    let reason := s!"dictionary update sequence element #{position} has length {xs.length}; "
      ++ "2 is required"
    .error (.fault (.badValue reason))

/-- The entries that a mapping has or a list of pairs stands for. -/
def asEntries (v : Value) : Except Failure (List (Value × Value)) :=
  match v.opened with
  | map es => .ok es
  | _ => do
    let xs ← v.elements
    let es ← (xs.zipIdx).mapM fun x => x.1.asEntry x.2
    return es.foldl (fun es e => insert e.1 e.2 es) []

end Value

open Value

/-- The slot that a value fills. -/
def slotOf (v : Value) : Except Failure τ :=
  match Slot.ofValue? v with
  | some x => .ok x
  | none => .error (.fault .wrongShape)

/-- The slot at a key that has to be there. -/
def slotAt (es : List (Value × Value)) (key : String) : Except Failure τ :=
  required es key >>= slotOf

/-- The slot at a key, missing when the key is or holds null. -/
def slotAt? (es : List (Value × Value)) (key : String) : Except Failure (Option τ) :=
  match find? es key with
  | none | some .null => .ok none
  | some v => (slotOf v).map some

/-- The elements at a key, none when the key is missing. -/
def elementsAt (es : List (Value × Value)) (key : String) : Except Failure (List Value) :=
  match find? es key with
  | none => .ok []
  | some v => v.elements

/-- The slots at a key, none when the key is missing. -/
def slotsAt (es : List (Value × Value)) (key : String) : Except Failure (List τ) := do
  (← elementsAt es key).mapM slotOf

/-- The wording of a value. -/
def wordingOf (v : Value) : Except Failure String := v.wording.mapError .fault

/-- The wording of the value at a key, or the text that stands for a missing one. -/
def wordingAt (es : List (Value × Value)) (key missing : String) : Except Failure String :=
  match find? es key with
  | none => .ok missing
  | some v => wordingOf v

/-- The wordings at a key, where a lone value counts as a list. -/
def textsAt (es : List (Value × Value)) (key : String) : Except Failure (List τ) :=
  (((find? es key).getD .null).asList).mapM fun v => return Slot.ofText (← wordingOf v)

/-- The value at a key counts as given. -/
def isGivenAt (es : List (Value × Value)) (key : String) : Bool :=
  ((find? es key).map truthy).getD false

/-- The mark at a key, which is not set when the key is missing. -/
def markAt (es : List (Value × Value)) (key : String) : Except Failure φ :=
  match find? es key with
  | none => .ok (Mark.ofBool false)
  | some v =>
    match Mark.ofValue? v with
    | some m => .ok m
    | none => .error (.fault .wrongShape)

/-! ## Fields and records -/

/-- The value that a mapping gives as its name, unless it counts as empty. -/
def givenName (es : List (Value × Value)) : Option Value := (find? es "name").filter truthy

/-- A field from its dictionary form. -/
def FieldOf.ofValue (v : Value) : Except Failure (FieldOf τ) := do
  let es ← v.members
  match givenName es with
  | none =>
    let description ← v.description.mapError Failure.fault
    throw (.derivation (.unnamedMapping description))
  | some name =>
    let name ← wordingOf name
    let type ← wordingAt es "type" "Any"
    let annotations ← textsAt es "annotations"
    let passthrough ← textsAt es "passthrough"
    return {
      name := Slot.ofText name
      type := Slot.ofText type
      annotations := annotations
      default := isGivenAt es "default"
      passthrough := passthrough }

/-- **A record from its dictionary form.** -/
def RecordOf.ofValue (v : Value) : Except Failure (RecordOf τ) := do
  let es ← v.members
  let name ← wordingAt es "name" ""
  let fields ← ((find? es "fields").getD .null).asList.mapM FieldOf.ofValue
  let annotations ← textsAt es "annotations"
  let variants ← textsAt es "variants"
  let docstring ← slotAt? es "docstring"
  let imports ← textsAt es "imports"
  return {
    name := Slot.ofText name
    fields := fields
    annotations := annotations
    variants := variants
    docstring := docstring
    imports := imports }

/-! ## Families -/

/-- The fields at a key, none when the key is missing. -/
def fieldsAt (es : List (Value × Value)) (key : String) : Except Failure (List (FieldOf τ)) := do
  (← elementsAt es key).mapM FieldOf.ofValue

/-- A variant from its dictionary form. -/
def VariantOf.ofValue (v : Value) : Except Failure (VariantOf τ φ) := do
  let es ← v.entries
  let name ← slotAt es "name"
  let isCanonical ← markAt es "is_canonical"
  let decorations ← slotsAt es "decorations"
  let fields ← fieldsAt es "fields"
  let capabilities ← slotsAt es "capabilities"
  let absences ← slotsAt es "absences"
  return ⟨name, decorations, fields, capabilities, absences, isCanonical⟩

/-- An interface from its dictionary form. -/
def InterfaceOf.ofValue (v : Value) : Except Failure (InterfaceOf τ) := do
  let es ← v.entries
  let fieldName ← slotAt es "field_name"
  let fieldType ← slotAt es "field_type"
  let name ← slotAt es "name"
  let absenceName ← slotAt es "absence_name"
  let getter ← slotAt es "getter"
  let setter ← slotAt es "setter"
  let implementors ← slotsAt es "implementors"
  let nonImplementors ← slotsAt es "non_implementors"
  return ⟨fieldName, fieldType, name, absenceName, getter, setter, implementors, nonImplementors⟩

/-- An edge from its dictionary form. -/
def EdgeOf.ofValue (v : Value) : Except Failure (EdgeOf τ) := do
  let es ← v.entries
  let source ← slotAt es "source"
  let target ← slotAt es "target"
  let missing ← slotsAt es "missing"
  let missingWithDefault ← slotsAt es "missing_with_default"
  let missingWithoutDefault ← slotsAt es "missing_without_default"
  let common ← slotsAt es "common"
  return ⟨source, target, missing, missingWithDefault, missingWithoutDefault, common⟩

/-- The conversion kind that a value names. -/
def ConversionKind.ofValue (v : Value) : Except Failure ConversionKind :=
  let kind? := match v with
    | .text word => ConversionKind.ofWord? word
    | _ => none
  match kind? with
  | some kind => .ok kind
  | none => do
    let description ← v.description.mapError Failure.fault
    throw (.fault (.badValue s!"{description} is not a valid ConversionKind"))

/-- A conversion from its dictionary form. -/
def ConversionOf.ofValue (v : Value) : Except Failure (ConversionOf τ) := do
  let es ← v.entries
  let kind ← required es "kind" >>= ConversionKind.ofValue
  let source ← slotAt es "source"
  let target ← slotAt es "target"
  let name ← slotAt es "name"
  let owner ← slotAt es "owner"
  let arguments ← fieldsAt es "arguments"
  let copied ← slotsAt es "copied"
  let defaulted ← slotsAt es "defaulted"
  let assigned ← slotsAt es "assigned"
  return ⟨kind, source, target, name, owner, arguments, copied, defaulted, assigned⟩

/-- The fallbacks at their key, none when it is missing. -/
def fallbacksAt (es : List (Value × Value)) : Except Failure (List (τ × τ)) :=
  match find? es "fallbacks" with
  | none => .ok []
  | some v => do
    (← v.asEntries).mapM fun e => return (← slotOf e.1, ← slotOf e.2)

/-- **A family from its dictionary form.** -/
def FamilyOf.ofValue (v : Value) : Except Failure (FamilyOf τ φ) := do
  let es ← v.entries
  let canonical ← slotAt es "canonical"
  let docstring ← slotAt? es "docstring"
  let imports ← slotsAt es "imports"
  let variants ← (← elementsAt es "variants").mapM VariantOf.ofValue
  let interfaces ← (← elementsAt es "interfaces").mapM InterfaceOf.ofValue
  let edges ← (← elementsAt es "edges").mapM EdgeOf.ofValue
  let conversions ← (← elementsAt es "conversions").mapM ConversionOf.ofValue
  let fallbacks ← fallbacksAt es
  let diagnostics ← slotsAt es "diagnostics"
  return ⟨canonical, variants, interfaces, edges, conversions, fallbacks, docstring, imports,
    diagnostics⟩

/-- A family from its JSON document. -/
def FamilyOf.ofJson (s : String) : Except Failure (FamilyOf τ φ) := do
  let v ← (Json.read s).mapError fun e => .fault e.toFault
  FamilyOf.ofValue v

end RecordFamily
