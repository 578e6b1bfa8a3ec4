import RecordFamily.Dictionary.Read
import RecordFamily.Options
import RecordFamily.Outcome
import RecordFamily.Record

/-!
# Schemas

A schema document holds a record and the options of its derivation. Unlike a record in dictionary
form it is held to a shape: of several things that are wrong the first in the order of the checks is
reported, and the fields come last.

* `Schema`: a record with its options;
* `Schema.checkShape`, `Schema.checkKeys`, `Schema.checkEntries`: the shape of a schema, of its keys
  and of its field entries;
* **`Schema.ofValue`**: the schema that a value holds.
-/

namespace RecordFamily

open Value

/-- A record, and the options of its derivation. -/
structure Schema where
  record : Record
  options : Options
  deriving DecidableEq, Repr

namespace Schema

/-! ## The shape of a schema -/

/-- The value at a key, unless it is null, without its name. -/
def valueAt (es : List (Value × Value)) (key : String) : Option Value :=
  match find? es key with
  | none | some .null => none
  | some v => some v.bare

/-- Only a list may stand at the key. -/
def checkList (es : List (Value × Value)) (key : String) : Except DerivationError Unit :=
  match valueAt es key with
  | none | some (.list _) => .ok ()
  | some _ => .error (.notList key)

/-- Only a text or a list may stand at the key. -/
def checkTextOrList (es : List (Value × Value)) (key : String) : Except DerivationError Unit :=
  match valueAt es key with
  | none | some (.list _) | some (.text _) => .ok ()
  | some _ => .error (.notTextOrList key)

/-- Only a mapping may stand at the key of the options. -/
def checkOptions (es : List (Value × Value)) : Except DerivationError Unit :=
  match valueAt es "options" with
  | none | some (.map _) => .ok ()
  | some _ => .error .optionsNotMapping

/-- Only a text may stand at the key of the docstring. -/
def checkDocstring (es : List (Value × Value)) : Except DerivationError Unit :=
  match valueAt es "docstring" with
  | none | some (.text _) => .ok ()
  | some _ => .error .docstringNotText

/-- The field entry at a position, counted from one, is a mapping with a name and a type. -/
def checkEntry (position : Nat) (v : Value) : Except Failure Unit :=
  match v.opened with
  | .map es =>
    match givenName es with
    | none => .error (.derivation (.unnamedEntry position))
    | some name =>
      if isGivenAt es "type" then .ok ()
      else do
        let name ← wordingOf name
        throw (.derivation (.entryUntyped name))
  | _ => .error (.derivation (.entryNotMapping position))

/-- The field entries from a position on have names and types. -/
def checkEntries (position : Nat) : List Value → Except Failure Unit
  | [] => .ok ()
  | v :: vs => do
    checkEntry position v
    checkEntries (position + 1) vs

/-- The items of the list at a key. -/
def itemsAt (es : List (Value × Value)) (key : String) : List Value :=
  match (find? es key).map opened with
  | some (.list xs) => xs
  | _ => []

/-- The keys of a schema hold values of the right kinds. -/
def checkKeys (es : List (Value × Value)) : Except DerivationError Unit := do
  if !isGivenAt es "name" then throw .schemaUnnamed
  checkList es "variants"
  checkList es "fields"
  checkTextOrList es "annotations"
  checkTextOrList es "imports"
  checkOptions es
  checkDocstring es

/-- The value has the shape of a schema. -/
def checkShape (v : Value) : Except Failure Unit :=
  match v.opened with
  | .map es => do
    (checkKeys es).mapError Failure.derivation
    checkEntries 1 (itemsAt es "fields")
  | _ => .error (.derivation .schemaNotMapping)

/-- The options that the value at their key stands for. -/
def optionsAt (v : Value) : Except Failure Options :=
  match v.opened with
  | .map es => Options.ofValue ((find? es "options").getD .null)
  | _ => .ok {}

/-- **The schema that a value holds.** -/
def ofValue (v : Value) : Outcome Schema := do
  Outcome.ofExcept (checkShape v)
  let record ← Outcome.ofExcept (RecordOf.ofValue v)
  let options ← Outcome.ofExcept (optionsAt v)
  Outcome.trace (.schemaRead record.name record.fields.length)
  return ⟨record, options⟩

end Schema

end RecordFamily
