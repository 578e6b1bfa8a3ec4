import RecordFamily.Fallback
import RecordFamily.Slot
import RecordFamily.Value.Wording

/-!
# Options of a derivation

* `OptionsOf`: how strict a derivation is, and which fallback expressions it uses, over what fills
  their slots;
* `Options`: those whose expressions are texts;
* `Options.ofValue`, `OptionsOf.toValue`: the dictionary form.
-/

namespace RecordFamily

/-- The options of a derivation. -/
structure OptionsOf (τ : Type) where
  /-- A variant may not be declared twice. -/
  strictVariants : Bool := false
  /-- A name may not be generated twice. -/
  strictNames : Bool := false
  /-- The fallback expressions of types, before the built-in ones. -/
  fallbacks : List (String × τ) := []
  deriving DecidableEq, Repr

/-- Options whose expressions are texts. -/
abbrev Options := OptionsOf String

namespace Options

/-- Sets the entry of a key, which keeps its place. -/
def setEntry (key value : String) : List (String × String) → List (String × String)
  | [] => [(key, value)]
  | (k, v) :: es => if k == key then (k, value) :: es else (k, v) :: setEntry key value es

/-- The wordings of the entries of a mapping, after those in `done`. -/
def textEntries (done : List (String × String)) :
    List (Value × Value) → Except Fault (List (String × String))
  | [] => .ok done
  | (k, v) :: es => do
    let key ← k.wording
    let value ← v.wording
    textEntries (setEntry key value done) es

/-- The fallbacks that the value at their key stands for; an empty value stands for none. -/
def fallbacksOf (v : Option Value) : Except Failure (List (String × String)) :=
  match (v.filter Value.truthy).map Value.opened with
  | none => .ok []
  | some (.map es) => (textEntries [] es).mapError Failure.fault
  | some _ => .error (.derivation .fallbacksNotMapping)

/-- The options that a value stands for; an empty value stands for the default. -/
def ofValue (v : Value) : Except Failure Options :=
  if !v.truthy then .ok {}
  else match v.opened with
    | .map es => do
      let fallbacks ← fallbacksOf (Value.find? es "fallbacks")
      let isSet (key : String) := ((Value.find? es key).map Value.truthy).getD false
      return ⟨isSet "strict_variants", isSet "strict_names", fallbacks⟩
    | _ => .error (.fault .noMember)

end Options

/-- The options in dictionary form. -/
def OptionsOf.toValue {τ : Type} [BEq τ] [Slot τ] (o : OptionsOf τ) : Value :=
  .record [
    ("strict_variants", .bool o.strictVariants),
    ("strict_names", .bool o.strictNames),
    ("fallbacks", .map (o.fallbacks.map fun e => (.text e.1, Slot.toValue e.2)))]

end RecordFamily
