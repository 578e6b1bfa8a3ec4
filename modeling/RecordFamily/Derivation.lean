import RecordFamily.Collision
import RecordFamily.Conversion
import RecordFamily.Distribution

/-!
# The derivation of a family

From the record alone: its fields are checked, its variants registered, a rule is read for each
field, the fields are distributed, and the conversions between the variants follow from the fields
that each of them owns. A derivation has a family or nothing: the first thing wrong ends it.

* `checkFields`: the fields have distinct valid names;
* `shares`: the rules of the fields, in order;
* `reportCollisions`: what becomes of names that are generated more than once;
* **`RecordOf.derive`**: the family of a record.
-/

namespace RecordFamily

variable {τ : Type} [BEq τ] [Slot τ]

/-- The field at a position, counted from one, has a valid name that none of those in `seen` is. -/
def checkField (record : String) (position : Nat) (seen : List τ) (f : FieldOf τ) :
    Except DerivationError Unit :=
  if !Slot.isGiven f.name then .error (.unnamedField position record)
  else if !isNamed f.name then .error (.invalidFieldName (Slot.display f.name) record)
  else if seen.contains f.name then .error (.duplicateField (Slot.display f.name) record)
  else .ok ()

/-- The fields from a position on have distinct valid names. -/
def checkFieldsFrom (record : String) (position : Nat) (seen : List τ) :
    List (FieldOf τ) → Except DerivationError Unit
  | [] => .ok ()
  | f :: fs => do
    checkField record position seen f
    checkFieldsFrom record (position + 1) (f.name :: seen) fs

/-- The fields of the record have distinct valid names. -/
def checkFields (r : RecordOf τ) : Except DerivationError Unit :=
  checkFieldsFrom (Slot.display r.name) 1 [] r.fields

/-- The fields with their rules among the declared names. -/
def shares (declared : List τ) (canonical : τ) : List (FieldOf τ) → Outcome (List (Share τ))
  | [] => return []
  | f :: fs => do
    let rule ← f.parseRule declared canonical
    let rest ← shares declared canonical fs
    return ⟨f.ruled rule, rule⟩ :: rest

/-- One warning for each entry. -/
def warnAll : List String → Outcome Unit
  | [] => return ()
  | entry :: entries => do
    Outcome.warn (.nameCollision entry)
    warnAll entries

/-- Names that are generated more than once are warned about, or refused. -/
def reportCollisions (entries : List String) (options : OptionsOf τ) : Outcome Unit :=
  if entries.isEmpty then return ()
  else if options.strictNames then .refuse (.nameCollision entries)
  else warnAll entries

/-- The name of a field with the fallback of its type. -/
def fallbackEntry (options : OptionsOf τ) (f : FieldOf τ) : Except Failure (τ × τ) :=
  match Slot.text? f.type with
  | some type => .ok (f.name, fallbackExpression options.fallbacks type)
  | none => .error (.fault .noMember)

/-- The fallbacks of the fields that have one. -/
def fallbackEntries (options : OptionsOf τ) (fields : List (FieldOf τ)) :
    Except Failure (List (τ × τ)) :=
  (fields.filter FieldOf.default).mapM (fallbackEntry options)

/-- **The family of a record.** -/
def RecordOf.derive (r : RecordOf τ) (options : OptionsOf τ) : Outcome (FamilyOf τ Bool) := do
  Outcome.ofExcept ((checkFields r).mapError Failure.derivation)
  let registry ← r.registry options
  let shares ← shares registry.names r.name r.fields
  let interfaces := registry.interfaces shares
  let variants := (registry.distribute shares).variants
  let (edges, conversions) ← synthesize variants
  let diagnostics := collisions variants interfaces conversions
  reportCollisions diagnostics options
  let fallbacks ← Outcome.ofExcept (fallbackEntries options (shares.map Share.field))
  Outcome.trace
    (.derived (Slot.display r.name) variants.length interfaces.length conversions.length)
  return {
    canonical := r.name
    variants := variants
    interfaces := interfaces
    edges := edges
    conversions := conversions
    fallbacks := fallbacks
    docstring := r.docstring
    imports := r.imports
    diagnostics := diagnostics.map Slot.ofText }

end RecordFamily
