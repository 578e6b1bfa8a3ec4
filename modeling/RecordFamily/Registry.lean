import RecordFamily.Demand
import RecordFamily.Directive.Basic
import RecordFamily.Family
import RecordFamily.Options
import RecordFamily.Outcome

/-!
# The registry of variants

The variants of one derivation in order: the canonical record first, then each declared name where
it was declared first. The annotations of the record are routed here: a decoration directive
`attr_for("Variant", "decoration")` decorates the variant that it names, and any other annotation
decorates the canonical record as it stands.

* `Registry`: the variants in order;
* `Registry.declare`: one more declared name, with a warning or a refusal when it is there already;
* `Registry.decorate`: one more decoration of a variant;
* `Routing`, `Routing.add`: where the annotations of a record go;
* **`RecordOf.registry`**: the registry of a record.
-/

namespace RecordFamily

/-- The variants of a derivation. -/
structure Registry (τ : Type) where
  canonical : τ
  variants : List (VariantOf τ Bool)
  deriving DecidableEq, Repr

variable {τ : Type} [BEq τ] [Slot τ]

namespace Registry

/-- The registry of the canonical record alone. -/
def ofCanonical (canonical : τ) : Registry τ := ⟨canonical, [.empty canonical true]⟩

/-- The names of the variants, in order. -/
def names (R : Registry τ) : List τ := R.variants.map VariantOf.name

/-- A variant of this name is registered. -/
def contains (R : Registry τ) (name : τ) : Bool := R.variants.any fun v => v.name == name

/-- The variant of a name. -/
def get? (R : Registry τ) (name : τ) : Option (VariantOf τ Bool) :=
  R.variants.find? fun v => v.name == name

/-- The registry with the variant of a name changed. -/
def modify (R : Registry τ) (name : τ) (change : VariantOf τ Bool → VariantOf τ Bool) :
    Registry τ :=
  { R with variants := R.variants.map fun v => if v.name == name then change v else v }

/-- The registry in which the variant of a name has lost all but its name and its mark. -/
def reset (R : Registry τ) (name : τ) : Registry τ :=
  R.modify name fun v => .empty name v.isCanonical

/-- The registry with one more variant at the end. -/
def append (R : Registry τ) (name : τ) : Registry τ :=
  { R with variants := R.variants ++ [.empty name false] }

/-- **Declares a variant.** A name that is there already keeps its place and starts anew, which is
warned about, or is refused under `strict`. -/
def declare (R : Registry τ) (name : τ) (strict : Bool) : Outcome (Registry τ) :=
  if R.contains name then
    if strict then .refuse (.duplicateVariant (Slot.display name))
    else do
      Outcome.warn (.duplicateVariant (Slot.display name))
      return R.reset name
  else return R.append name

/-- The registry with one more decoration on the variant of a name. -/
def decorate (R : Registry τ) (name decoration : τ) : Registry τ :=
  R.modify name fun v => { v with decorations := v.decorations ++ [decoration] }

end Registry

/-! ## Record annotations -/

/-- Where the annotations of a record go. -/
structure Routing (τ : Type) where
  /-- The decorations of the canonical record, as they were written. -/
  plain : List τ := []
  /-- The decorations of the variants named in front of them. -/
  targeted : List (String × String) := []

/-- The variant and the decoration that a decoration directive names. -/
def Directive.decoration? (d : Directive) : Option (String × String) :=
  match d.hasCall, d.args with
  | true, [variant, decoration] => some (variant, decoration)
  | _, _ => none

/-- The routing with one more annotation. -/
def Routing.add (R : Registry τ) (routing : Routing τ) (note : τ) :
    Except DerivationError (Routing τ) :=
  let asPlain : Routing τ := { routing with plain := routing.plain ++ [note] }
  match Slot.reading? note with
  | none => .ok asPlain
  | some text =>
    if Directive.isIn recordWords text then do
      let d ← Directive.parse text
      match d.decoration? with
      | none => .error (.badDecoration d.text)
      | some (variant, decoration) =>
        if R.contains (Slot.ofText variant) then
          return { routing with targeted := routing.targeted ++ [(variant, decoration)] }
        else .error (.undeclaredVariant variant)
    else .ok asPlain

/-- The registry with the decorations of a routing, those of the canonical record first. -/
def Registry.route (R : Registry τ) (routing : Routing τ) : Registry τ :=
  let R := routing.plain.foldl (fun R d => R.decorate R.canonical d) R
  routing.targeted.foldl (fun R d => R.decorate (Slot.ofText d.1) (Slot.ofText d.2)) R

/-! ## The registry of a record -/

/-- The slot holds a valid name. -/
def isNamed (name : τ) : Bool :=
  match Slot.text? name with
  | some s => isValidName s
  | none => false

/-- Refuses a variant name that is no valid name. -/
def checkVariantName (name : τ) : Outcome Unit :=
  if isNamed name then return () else .refuse (.invalidVariantName (Slot.display name))

/-- Checks and declares one name after the other. -/
def Registry.declareAll (strict : Bool) (R : Registry τ) : List τ → Outcome (Registry τ)
  | [] => return R
  | name :: names => do
    checkVariantName name
    let R ← R.declare name strict
    R.declareAll strict names

/-- **The registry of a record.** -/
def RecordOf.registry (r : RecordOf τ) (options : OptionsOf τ) : Outcome (Registry τ) := do
  checkVariantName r.name
  let R ← (Registry.ofCanonical r.name).declareAll options.strictVariants r.variants
  let routing ← Outcome.ofExcept
    ((r.annotations.foldlM (Routing.add R) {}).mapError Failure.derivation)
  let R := R.route routing
  Outcome.trace (.registryBuilt (Slot.display r.name) (R.names.map Slot.display))
  return R

end RecordFamily
