import RecordFamily.Error
import RecordFamily.Text.Quoted

/-!
# Outcomes with notices

A step of a derivation has a result, or a failure, and leaves **notices** on its way: warnings about
what is allowed but doubtful, and traces of what was done. The notices of a failed step are kept.

* `Warning`, `Trace`, `Notice`: what may be noticed, with `Warning.message` and `Trace.line`;
* `Outcome`: a result together with the notices, as a monad;
* `Outcome.warn`, `Outcome.trace`, `Outcome.fail`: one notice, and a failure;
* `Outcome.warnings`, `Outcome.traces`: the notices of one kind, in order.
-/

namespace RecordFamily

open Text

/-- What is allowed but doubtful. -/
inductive Warning where
  /-- A variant is declared again. -/
  | duplicateVariant (name : String)
  /-- A name is generated more than once. -/
  | nameCollision (entry : String)
  deriving DecidableEq, Repr

/-- The text of a warning. -/
def Warning.message : Warning → String
  | duplicateVariant name =>
    s!"{(DerivationError.duplicateVariant name).message}; the later declaration wins"
  | nameCollision entry => entry

/-- What a step has done. -/
inductive Trace where
  | schemaRead (record : String) (fields : Nat)
  | registryBuilt (record : String) (names : List String)
  | fieldRuled (field rule : String) (targets : List String) (default : Bool)
  | synthesized (conversions edges : Nat)
  | derived (record : String) (variants interfaces conversions : Nat)
  | written (path : String)
  deriving DecidableEq, Repr

/-- The list of texts as it is displayed. -/
def quotedList (items : List String) : String :=
  "[" ++ ", ".intercalate (items.map quoted) ++ "]"

/-- The log line of a trace. -/
def Trace.line : Trace → String
  | schemaRead record fields =>
    s!"DEBUG crd.schema_parser: parsed schema {record} with {fields} fields"
  | registryBuilt record names =>
    s!"DEBUG crd.registry: registry for {record}: {quotedList names}"
  | fieldRuled field rule targets default =>
    let note := if default then " (default)" else ""
    s!"DEBUG crd.rules: field {field}: {rule} -> {quotedList targets}{note}"
  | synthesized conversions edges =>
    s!"DEBUG crd.derivation: synthesized {conversions} conversions over {edges} edges"
  | derived record variants interfaces conversions =>
    s!"DEBUG crd.derivation: derived {record}: {variants} variants, {interfaces} interfaces, "
      ++ s!"{conversions} conversions"
  | written path => s!"INFO crd.cli: wrote {path}"

/-- A warning or a trace. -/
inductive Notice where
  | warning (w : Warning)
  | trace (t : Trace)
  deriving DecidableEq, Repr

/-- A result or a failure, with the notices left on the way to it. -/
structure Outcome (α : Type) where
  result : Except Failure α
  notices : List Notice := []

namespace Outcome

variable {α β : Type}

/-- A result without notices. -/
protected def pure (a : α) : Outcome α := ⟨.ok a, []⟩

/-- One step after the other: a failure ends the run, and all notices are kept. -/
protected def bind (x : Outcome α) (f : α → Outcome β) : Outcome β :=
  match x.result with
  | .ok a => ⟨(f a).result, x.notices ++ (f a).notices⟩
  | .error e => ⟨.error e, x.notices⟩

instance : Monad Outcome where
  pure := Outcome.pure
  bind := Outcome.bind

/-- A result or a failure without notices. -/
def ofExcept (r : Except Failure α) : Outcome α := ⟨r, []⟩

/-- A failure. -/
def fail (e : Failure) : Outcome α := ⟨.error e, []⟩

/-- A derivation error. -/
def refuse (e : DerivationError) : Outcome α := fail (.derivation e)

/-- A warning. -/
def warn (w : Warning) : Outcome Unit := ⟨.ok (), [.warning w]⟩

/-- A trace. -/
def trace (t : Trace) : Outcome Unit := ⟨.ok (), [.trace t]⟩

/-- The warnings, in order. -/
def warnings (x : Outcome α) : List Warning :=
  x.notices.filterMap fun
    | .warning w => some w
    | .trace _ => none

/-- The traces, in order. -/
def traces (x : Outcome α) : List Trace :=
  x.notices.filterMap fun
    | .warning _ => none
    | .trace t => some t

end Outcome

end RecordFamily
