import RecordFamily.Demand
import RecordFamily.Family

/-!
# Names generated more than once

* `memberNames`: the names generated on a variant, in the order in which they are emitted;
* `topLevelNames`: the names generated beside the variants;
* **`collisions`**: a description of each name that is generated more than once;
* `checkedCollisions`: the same, where the names have to be such that they can be counted.
-/

namespace RecordFamily

variable {τ φ : Type} [BEq τ] [Slot τ]

/-- The names of the two accessors of a field. -/
def accessorNames (f : FieldOf τ) : List τ :=
  [Slot.rename getterName f.name, Slot.rename setterName f.name]

/-- The names generated on a variant: its fields, their accessors, and its conversions. -/
def memberNames (v : VariantOf τ φ) (conversions : List (ConversionOf τ)) : List τ :=
  v.fieldNames ++ v.fields.flatMap accessorNames
    ++ (conversions.filter fun c => c.owner == v.name).map ConversionOf.name

/-- The names of the variants, and those of the interfaces and of their markers. -/
def topLevelNames (variants : List (VariantOf τ φ)) (interfaces : List (InterfaceOf τ)) : List τ :=
  variants.map VariantOf.name ++ interfaces.flatMap fun i => [i.name, i.absenceName]

/-- The description of a member that is generated more than once. -/
def memberCollision (variant name : τ) : String :=
  s!"`{Slot.display variant}.{Slot.display name}` is generated more than once"

/-- The description of a name beside the variants that is generated more than once. -/
def topLevelCollision (name : τ) : String := s!"`{Slot.display name}` is generated more than once"

/-- **The names that are generated more than once**, those of the members first. -/
def collisions (variants : List (VariantOf τ φ)) (interfaces : List (InterfaceOf τ))
    (conversions : List (ConversionOf τ)) : List String :=
  (variants.flatMap fun v => (repeated (memberNames v conversions)).map (memberCollision v.name))
    ++ (repeated (topLevelNames variants interfaces)).map topLevelCollision

/-- The names that are generated more than once, or a fault when some name cannot be counted. -/
def checkedCollisions (variants : List (VariantOf τ φ)) (interfaces : List (InterfaceOf τ))
    (conversions : List (ConversionOf τ)) : Except Fault (List String) := do
  requireKeys (variants.flatMap fun v => memberNames v conversions)
  requireKeys (topLevelNames variants interfaces)
  return collisions variants interfaces conversions

end RecordFamily
