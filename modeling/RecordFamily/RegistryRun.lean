import RecordFamily.Distribution

/-!
# Runs on a registry

A registry may be worked on step by step: names are declared, variants decorated and fields handed
out, in any order and as often as one likes. A step that fails leaves the registry as it was, and the
run goes on with the next one.

* `RegistryStep`: the steps, with the name that a step declares and the fields that it hands out;
* `Registry.perform`: one step;
* **`Registry.run`**: the registry after a run of steps;
* `Registry.accepted`: the steps of a run that succeed.
-/

namespace RecordFamily

/-- A step on a registry. -/
inductive RegistryStep (τ : Type) where
  /-- Declares a name. -/
  | declare (name : τ) (strict : Bool)
  /-- Puts one more decoration on the variant of a name. -/
  | decorate (name decoration : τ)
  /-- Hands out fields by rules. A field or a rule without a partner is passed over. -/
  | distribute (fields : List (FieldOf τ)) (rules : List (FieldRule τ))
  deriving DecidableEq, Repr

namespace RegistryStep

variable {τ : Type}

/-- The name that the step declares. -/
def declared? : RegistryStep τ → Option τ
  | declare name _ => some name
  | decorate .. | distribute .. => none

/-- The fields that the step hands out, with their rules. -/
def shares : RegistryStep τ → List (Share τ)
  | distribute fields rules => List.zipWith Share.mk fields rules
  | declare .. | decorate .. => []

end RegistryStep

namespace Registry

variable {τ : Type} [BEq τ] [Slot τ]

/-- **One step on a registry.** -/
def perform (R : Registry τ) (step : RegistryStep τ) : Outcome (Registry τ) :=
  match step with
  | .declare name strict => do
    Outcome.ofExcept ((requireKeys [name]).mapError .fault)
    R.declare name strict
  | .decorate name decoration => do
    Outcome.ofExcept ((requireKeys [name]).mapError .fault)
    if R.contains name then return R.decorate name decoration
    else Outcome.fail (.fault .noMember)
  | .distribute _ rules => do
    Outcome.ofExcept ((requireKeys (rules.flatMap FieldRule.targets)).mapError .fault)
    Outcome.ofExcept
      ((step.shares.forM fun s => requireLetters s.field.name).mapError .fault)
    return R.distribute step.shares

/-- The registry after a step. -/
def after (R : Registry τ) (step : RegistryStep τ) : Registry τ :=
  match (R.perform step).result with
  | .ok R' => R'
  | .error _ => R

/-- **The registry after a run of steps.** -/
def run (R : Registry τ) (steps : List (RegistryStep τ)) : Registry τ := steps.foldl after R

/-- The steps of a run that succeed, in order. -/
def accepted (R : Registry τ) : List (RegistryStep τ) → List (RegistryStep τ)
  | [] => []
  | step :: steps =>
    match (R.perform step).result with
    | .ok R' => step :: R'.accepted steps
    | .error _ => R.accepted steps

end Registry

end RecordFamily
