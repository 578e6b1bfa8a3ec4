import RecordFamily.Record

/-!
# Families of records

What a derivation yields: the variants of a canonical record, an interface for each of its fields,
and for each ordered pair of variants the difference of their fields and the conversions between
them.

* `VariantOf`, `InterfaceOf`, `EdgeOf`, `ConversionKind`, `ConversionOf`, `FamilyOf`: the parts of a
  family and the family, over what fills their text slots and marks;
* `Variant`, `Interface`, `Edge`, `Conversion`, `Family`: those whose slots hold text;
* `FamilyOf.variant?`, `FamilyOf.edge?`, `FamilyOf.find?` and the like: look-ups in a family.
-/

namespace RecordFamily

/-- A derived record. -/
structure VariantOf (τ φ : Type) where
  name : τ
  /-- The decorations in front of the record, as they were written. -/
  decorations : List τ
  /-- The fields that the variant owns, in canonical order. -/
  fields : List (FieldOf τ)
  /-- The interfaces of the fields that the variant owns. -/
  capabilities : List τ
  /-- The markers of the fields that the variant lacks. -/
  absences : List τ
  isCanonical : φ
  deriving DecidableEq, Repr

/-- The accessors of one canonical field, and which variants have them. -/
structure InterfaceOf (τ : Type) where
  fieldName : τ
  fieldType : τ
  name : τ
  /-- The marker of the variants that lack the field. -/
  absenceName : τ
  getter : τ
  setter : τ
  implementors : List τ
  nonImplementors : List τ
  deriving DecidableEq, Repr

/-- The difference of the fields of two variants, by field names in canonical order. -/
structure EdgeOf (τ : Type) where
  source : τ
  target : τ
  /-- The fields of the target that the source lacks. -/
  missing : List τ
  missingWithDefault : List τ
  missingWithoutDefault : List τ
  /-- The fields of both. -/
  common : List τ
  deriving DecidableEq, Repr

/-- How a conversion is called. -/
inductive ConversionKind where
  /-- Without arguments, on the target. -/
  | fromSource
  /-- With each missing field as an argument, on the source. -/
  | intoTarget
  /-- With the missing fields that have no fallback as arguments, on the source. -/
  | intoDefaults
  deriving DecidableEq, Repr

/-- A way to build the target from the source. -/
structure ConversionOf (τ : Type) where
  kind : ConversionKind
  source : τ
  target : τ
  name : τ
  /-- The variant that has the conversion as a member. -/
  owner : τ
  arguments : List (FieldOf τ)
  /-- The fields copied from the source. -/
  copied : List τ
  /-- The fields filled by their fallbacks. -/
  defaulted : List τ
  /-- The fields filled by arguments. -/
  assigned : List τ
  deriving DecidableEq, Repr

/-- A family of records. -/
structure FamilyOf (τ φ : Type) where
  canonical : τ
  variants : List (VariantOf τ φ)
  interfaces : List (InterfaceOf τ)
  edges : List (EdgeOf τ)
  conversions : List (ConversionOf τ)
  /-- The fallback expressions by field name. -/
  fallbacks : List (τ × τ)
  docstring : Option τ
  imports : List τ
  /-- The names that are generated more than once. -/
  diagnostics : List τ
  deriving DecidableEq, Repr

/-- A variant whose slots hold text. -/
abbrev Variant := VariantOf String Bool

/-- An interface whose slots hold text. -/
abbrev Interface := InterfaceOf String

/-- An edge whose slots hold text. -/
abbrev Edge := EdgeOf String

/-- A conversion whose slots hold text. -/
abbrev Conversion := ConversionOf String

/-- A family whose slots hold text. -/
abbrev Family := FamilyOf String Bool

variable {τ φ : Type}

/-- The word for a conversion kind. -/
def ConversionKind.word : ConversionKind → String
  | fromSource => "from"
  | intoTarget => "into"
  | intoDefaults => "into_defaults"

/-- The conversion kind of a word. -/
def ConversionKind.ofWord? (word : String) : Option ConversionKind :=
  [fromSource, intoTarget, intoDefaults].find? fun k => k.word == word

namespace VariantOf

/-- A variant without fields. -/
def empty (name : τ) (isCanonical : φ) : VariantOf τ φ := ⟨name, [], [], [], [], isCanonical⟩

/-- The names of the fields, in order. -/
def fieldNames (v : VariantOf τ φ) : List τ := v.fields.map FieldOf.name

/-- The variant owns a field of this name. -/
def hasField [BEq τ] (v : VariantOf τ φ) (name : τ) : Bool := v.fields.any fun f => f.name == name

end VariantOf

/-- The target can be built from the source without arguments. -/
def EdgeOf.isTotal (e : EdgeOf τ) : Bool := e.missingWithoutDefault.isEmpty

namespace FamilyOf

variable [BEq τ]

/-- The variant of a name. -/
def variant? (F : FamilyOf τ φ) (name : τ) : Option (VariantOf τ φ) :=
  F.variants.find? fun v => v.name == name

/-- The interface of a field. -/
def interface? (F : FamilyOf τ φ) (field : τ) : Option (InterfaceOf τ) :=
  F.interfaces.find? fun i => i.fieldName == field

/-- The edge from one variant to another. -/
def edge? (F : FamilyOf τ φ) (source target : τ) : Option (EdgeOf τ) :=
  F.edges.find? fun e => e.source == source && e.target == target

/-- The conversions from a variant. -/
def conversionsFrom (F : FamilyOf τ φ) (source : τ) : List (ConversionOf τ) :=
  F.conversions.filter fun c => c.source == source

/-- The conversions to a variant. -/
def conversionsTo (F : FamilyOf τ φ) (target : τ) : List (ConversionOf τ) :=
  F.conversions.filter fun c => c.target == target

/-- The conversion of a kind from one variant to another. -/
def find? (F : FamilyOf τ φ) (source target : τ) (kind : ConversionKind) :
    Option (ConversionOf τ) :=
  F.conversions.find? fun c => c.source == source && c.target == target && c.kind == kind

/-- The conversions that are members of a variant. -/
def membersOf (F : FamilyOf τ φ) (name : τ) : List (ConversionOf τ) :=
  F.conversions.filter fun c => c.owner == name

end FamilyOf

end RecordFamily
