import RecordFamily.Slot

/-!
# Canonical records

The one record from which a family is derived. Two fields are the same field when their names are
equal; types are carried along and never compared.

* `FieldOf`, `RecordOf`: fields and records over what fills their text slots;
* `Field`, `Record`: those whose slots hold text;
* `RecordOf.modifyFirst`, `RecordOf.removeFirst`, `RecordOf.insertField`: edits of the field list.
-/

namespace RecordFamily

/-- A named and typed part of a record. -/
structure FieldOf (τ : Type) where
  name : τ
  /-- The type expression, as it was written. -/
  type : τ
  /-- The annotations, as they were written. -/
  annotations : List τ
  /-- The field may be filled by its fallback. -/
  default : Bool
  /-- The annotations that are no directives. -/
  passthrough : List τ
  deriving DecidableEq, Repr

/-- A canonical record. -/
structure RecordOf (τ : Type) where
  name : τ
  fields : List (FieldOf τ)
  annotations : List τ
  /-- The declared names of the other variants. -/
  variants : List τ
  docstring : Option τ
  /-- The import lines that the field types and the fallbacks need. -/
  imports : List τ
  deriving DecidableEq, Repr

/-- A field whose slots hold text. -/
abbrev Field := FieldOf String

/-- A record whose slots hold text. -/
abbrev Record := RecordOf String

namespace FieldOf

variable {τ : Type}

/-- The two fields are the same field. -/
def sameAs [BEq τ] (a b : FieldOf τ) : Bool := a.name == b.name

end FieldOf

namespace RecordOf

variable {τ : Type}

/-- The record without fields, annotations and variants. -/
def empty (name : τ) : RecordOf τ := ⟨name, [], [], [], none, []⟩

/-- The field of a name, if the record has one. -/
def field? [BEq τ] (r : RecordOf τ) (name : τ) : Option (FieldOf τ) :=
  r.fields.find? fun f => f.name == name

/-- The fields with the first one of a name changed. -/
def modifyFirst [BEq τ] (name : τ) (change : FieldOf τ → FieldOf τ) :
    List (FieldOf τ) → List (FieldOf τ)
  | [] => []
  | f :: fs => if f.name == name then change f :: fs else f :: modifyFirst name change fs

/-- The record with the first field of a name changed. -/
def modifyField [BEq τ] (r : RecordOf τ) (name : τ) (change : FieldOf τ → FieldOf τ) :
    RecordOf τ :=
  { r with fields := modifyFirst name change r.fields }

/-- The record without the first field of a name. -/
def removeField [BEq τ] (r : RecordOf τ) (name : τ) : RecordOf τ :=
  { r with fields := r.fields.eraseP fun f => f.name == name }

/-- The record with a field put in front of the one at a position, or at the end. -/
def insertField (r : RecordOf τ) (position : Nat) (f : FieldOf τ) : RecordOf τ :=
  { r with fields := r.fields.take position ++ f :: r.fields.drop position }

end RecordOf

end RecordFamily
