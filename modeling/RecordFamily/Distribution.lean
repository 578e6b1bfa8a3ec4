import RecordFamily.Registry
import RecordFamily.Rule

/-!
# Distribution of fields

Each field goes to the variants that its rule names. An owner gets the field and the field's
interface; every other variant gets the marker of the field's absence.

* `Share`: a field with its rule;
* `Share.interface`: the interface of a field, with its owners and the others in registry order;
* `VariantOf.receive`: a variant with its part of the shares;
* **`Registry.distribute`**: the registry after all variants have received their parts.
-/

namespace RecordFamily

variable {τ : Type} [BEq τ] [Slot τ]

/-- A field with its rule. -/
structure Share (τ : Type) where
  field : FieldOf τ
  rule : FieldRule τ

namespace Share

/-- The variant of this name owns the field. -/
def isFor (s : Share τ) (variant : τ) : Bool := s.rule.targets.contains variant

/-- The interface of the field. -/
def capability (s : Share τ) : τ := Slot.rename capabilityName s.field.name

/-- The marker of the field's absence. -/
def absence (s : Share τ) : τ := Slot.rename absenceName s.field.name

/-- The interface of the field among the variants of these names. -/
def interface (s : Share τ) (variants : List τ) : InterfaceOf τ where
  fieldName := s.field.name
  fieldType := s.field.type
  name := s.capability
  absenceName := s.absence
  getter := Slot.rename getterName s.field.name
  setter := Slot.rename setterName s.field.name
  implementors := variants.filter s.isFor
  nonImplementors := variants.filter fun v => !s.isFor v

end Share

/-- The variant with its part of the shares. -/
def VariantOf.receive (v : VariantOf τ Bool) (shares : List (Share τ)) : VariantOf τ Bool :=
  let owned := shares.filter fun s => s.isFor v.name
  let lacked := shares.filter fun s => !s.isFor v.name
  { v with
    fields := v.fields ++ owned.map Share.field
    capabilities := v.capabilities ++ owned.map Share.capability
    absences := v.absences ++ lacked.map Share.absence }

/-- **The registry after the distribution of the shares.** -/
def Registry.distribute (R : Registry τ) (shares : List (Share τ)) : Registry τ :=
  { R with variants := R.variants.map fun v => v.receive shares }

/-- The interfaces of the shares among the variants of the registry. -/
def Registry.interfaces (R : Registry τ) (shares : List (Share τ)) : List (InterfaceOf τ) :=
  shares.map fun s => s.interface R.names

end RecordFamily
