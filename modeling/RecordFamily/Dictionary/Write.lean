import RecordFamily.Family
import RecordFamily.Slot

/-!
# Writing dictionaries

Records and families as document values: a mapping for each part, with its keys in a fixed order.

* `FieldOf.toValue`, `VariantOf.toValue`, `InterfaceOf.toValue`, `EdgeOf.toValue`,
  `ConversionOf.toValue`: the parts;
* **`RecordOf.toValue`**: a record, without what its rules have left on the fields;
* **`FamilyOf.toValue`**: a family.
-/

namespace RecordFamily

variable {τ φ : Type} [BEq τ] [Slot τ] [Mark φ]

/-- The list of the slots. -/
def slotList (slots : List τ) : Value := .list (slots.map Slot.toValue)

/-- The slot that may be missing, where null stands for a missing one. -/
def slotOrNull : Option τ → Value
  | none => .null
  | some x => Slot.toValue x

/-- A field in dictionary form. -/
def FieldOf.toValue (f : FieldOf τ) : Value :=
  .record [
    ("name", Slot.toValue f.name),
    ("type", Slot.toValue f.type),
    ("annotations", slotList f.annotations),
    ("default", .bool f.default),
    ("passthrough", slotList f.passthrough)]

/-- A field as it was declared, in dictionary form. -/
def FieldOf.declaration (f : FieldOf τ) : Value :=
  .record [
    ("name", Slot.toValue f.name),
    ("type", Slot.toValue f.type),
    ("annotations", slotList f.annotations)]

/-- A record in dictionary form, where `field` writes its fields. -/
def RecordOf.toValueWith (field : FieldOf τ → Value) (r : RecordOf τ) : Value :=
  .record [
    ("name", Slot.toValue r.name),
    ("docstring", slotOrNull r.docstring),
    ("imports", slotList r.imports),
    ("variants", slotList r.variants),
    ("annotations", slotList r.annotations),
    ("fields", .list (r.fields.map field))]

/-- **A record in dictionary form.** -/
def RecordOf.toValue (r : RecordOf τ) : Value := r.toValueWith FieldOf.declaration

/-- A variant in dictionary form. -/
def VariantOf.toValue (v : VariantOf τ φ) : Value :=
  .record [
    ("name", Slot.toValue v.name),
    ("is_canonical", Mark.toValue v.isCanonical),
    ("decorations", slotList v.decorations),
    ("fields", .list (v.fields.map FieldOf.toValue)),
    ("capabilities", slotList v.capabilities),
    ("absences", slotList v.absences)]

/-- An interface in dictionary form. -/
def InterfaceOf.toValue (i : InterfaceOf τ) : Value :=
  .record [
    ("field_name", Slot.toValue i.fieldName),
    ("field_type", Slot.toValue i.fieldType),
    ("name", Slot.toValue i.name),
    ("absence_name", Slot.toValue i.absenceName),
    ("getter", Slot.toValue i.getter),
    ("setter", Slot.toValue i.setter),
    ("implementors", slotList i.implementors),
    ("non_implementors", slotList i.nonImplementors)]

/-- An edge in dictionary form. -/
def EdgeOf.toValue (e : EdgeOf τ) : Value :=
  .record [
    ("source", Slot.toValue e.source),
    ("target", Slot.toValue e.target),
    ("missing", slotList e.missing),
    ("missing_with_default", slotList e.missingWithDefault),
    ("missing_without_default", slotList e.missingWithoutDefault),
    ("common", slotList e.common)]

/-- A conversion in dictionary form. -/
def ConversionOf.toValue (c : ConversionOf τ) : Value :=
  .record [
    ("kind", .text c.kind.word),
    ("source", Slot.toValue c.source),
    ("target", Slot.toValue c.target),
    ("name", Slot.toValue c.name),
    ("owner", Slot.toValue c.owner),
    ("arguments", .list (c.arguments.map FieldOf.toValue)),
    ("copied", slotList c.copied),
    ("defaulted", slotList c.defaulted),
    ("assigned", slotList c.assigned)]

/-- **A family in dictionary form.** -/
def FamilyOf.toValue (F : FamilyOf τ φ) : Value :=
  .record [
    ("canonical", Slot.toValue F.canonical),
    ("docstring", slotOrNull F.docstring),
    ("imports", slotList F.imports),
    ("variants", .list (F.variants.map VariantOf.toValue)),
    ("interfaces", .list (F.interfaces.map InterfaceOf.toValue)),
    ("edges", .list (F.edges.map EdgeOf.toValue)),
    ("conversions", .list (F.conversions.map ConversionOf.toValue)),
    ("fallbacks", .map (F.fallbacks.map fun e => (Slot.toValue e.1, Slot.toValue e.2))),
    ("diagnostics", slotList F.diagnostics)]

end RecordFamily
