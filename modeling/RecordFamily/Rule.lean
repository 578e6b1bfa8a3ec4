import RecordFamily.Directive.Basic
import RecordFamily.Naming
import RecordFamily.Outcome
import RecordFamily.Record

/-!
# Field rules

The annotations of a field say which variants own it and whether it may be filled by its fallback.
At most one of them is an **inclusion** directive:

* `only_in("A", …)`: the declared names that are listed own the field;
* `not_in("A", …)`: the declared names that are not listed own it;
* `only_in_self`: the canonical record alone owns it;
* without an inclusion directive all declared names own it.

The module holds

* `RuleKind`, `FieldRule`: what the annotations of a field come to;
* `RuleDraft`, `RuleDraft.add`: the annotations read so far, and one more of them;
* **`FieldOf.rule`**: the rule of a field;
* `FieldOf.ruled`: the field after its rule was read;
* `FieldOf.readRule`: the reading of a rule as a step that changes the field.
-/

namespace RecordFamily

/-- The inclusion directive behind a rule. -/
inductive RuleKind where
  | all
  | onlyIn
  | notIn
  | onlyInSelf
  deriving DecidableEq, Repr

/-- The word for a rule kind. -/
def RuleKind.word : RuleKind → String
  | all => "all"
  | onlyIn => "only_in"
  | notIn => "not_in"
  | onlyInSelf => "only_in_self"

/-- The rule of a field. -/
structure FieldRule (τ : Type) where
  kind : RuleKind
  /-- The names of the variants that own the field. -/
  targets : List τ
  /-- The names that the inclusion directive lists. -/
  listed : List String
  /-- The field may be filled by its fallback. -/
  default : Bool
  /-- The annotations that are no directives. -/
  passthrough : List τ
  deriving DecidableEq, Repr

/-- The annotations of a field that were read so far. -/
structure RuleDraft (τ : Type) where
  inclusion : Option Directive := none
  default : Bool := false
  passthrough : List τ := []

variable {τ : Type} [BEq τ] [Slot τ]

/-- The kind of rule that a directive makes, and none for the one that is no inclusion. -/
def FieldDirective.ruleKind? : FieldDirective → Option RuleKind
  | default => none
  | onlyIn => some .onlyIn
  | notIn => some .notIn
  | onlyInSelf => some .onlyInSelf

/-- The directive is written with arguments. -/
def FieldDirective.takesNames : FieldDirective → Bool
  | onlyIn | notIn => true
  | default | onlyInSelf => false

/-- The directive on the field `field` has the shape that its name asks for: at least one argument,
or no parentheses. -/
def checkShape (field : String) (word : FieldDirective) (d : Directive) :
    Except DerivationError Unit :=
  if word.takesNames then
    if d.args.isEmpty then .error (.missingArguments field d.name) else .ok ()
  else if d.hasCall then .error (.unwantedArguments field d.name d.text)
  else .ok ()

namespace RuleDraft

/-- The draft with one more annotation that is no directive. -/
def addPassthrough (draft : RuleDraft τ) (note : τ) : RuleDraft τ :=
  { draft with passthrough := draft.passthrough ++ [note] }

/-- The draft with one more directive on the field `field`. -/
def addDirective (field : String) (draft : RuleDraft τ) (d : Directive) :
    Except DerivationError (RuleDraft τ) :=
  match FieldDirective.ofName? d.name with
  | none => .ok draft
  | some word => do
    checkShape field word d
    match word.ruleKind?, draft.inclusion with
    | none, _ => .ok { draft with default := true }
    | some _, some first => .error (.conflictingDirectives field first.text d.text)
    | some _, none => .ok { draft with inclusion := some d }

/-- The draft with one more annotation on the field `field`. -/
def add (field : String) (draft : RuleDraft τ) (note : τ) :
    Except DerivationError (RuleDraft τ) :=
  match Slot.reading? note with
  | none => .ok (draft.addPassthrough note)
  | some text =>
    if Directive.isIn fieldWords text then do
      let d ← Directive.parse text
      draft.addDirective field d
    else if Directive.isReserved text then
      .error (.unknownDirective field ((Directive.head? text).getD "") text)
    else .ok (draft.addPassthrough note)

end RuleDraft

/-- The declared names hold the name. -/
def isDeclared (declared : List τ) (name : String) : Bool :=
  declared.any fun d => d == Slot.ofText name

/-- The directive lists the name. -/
def isListed (listed : List String) (name : τ) : Bool :=
  listed.any fun l => name == Slot.ofText l

/-- Every name that the directive on the field `field` lists is declared. -/
def checkDeclared (field : String) (declared : List τ) (d : Directive) :
    Except DerivationError Unit :=
  match d.args.find? fun name => !isDeclared declared name with
  | some name => .error (.unknownVariant field d.name name)
  | none => .ok ()

/-- The names of the variants that own a field under an inclusion directive. -/
def targetsOf (declared : List τ) (canonical : τ) (kind : RuleKind) (listed : List String) :
    List τ :=
  match kind with
  | .all => declared
  | .onlyIn => declared.filter fun name => isListed listed name
  | .notIn => declared.filter fun name => !isListed listed name
  | .onlyInSelf => [canonical]

/-- The rule that a draft comes to. -/
def RuleDraft.rule (field : String) (declared : List τ) (canonical : τ) (draft : RuleDraft τ) :
    Except DerivationError (FieldRule τ) :=
  match draft.inclusion with
  | none =>
    .ok ⟨.all, declared, [], draft.default, draft.passthrough⟩
  | some d => do
    checkDeclared field declared d
    let kind := ((FieldDirective.ofName? d.name).bind FieldDirective.ruleKind?).getD .all
    return ⟨kind, targetsOf declared canonical kind d.args, d.args, draft.default,
      draft.passthrough⟩

namespace FieldOf

/-- **The rule of a field** among the declared names, of which `canonical` is one. -/
def rule (f : FieldOf τ) (declared : List τ) (canonical : τ) :
    Except DerivationError (FieldRule τ) := do
  let field := Slot.display f.name
  let draft ← f.annotations.foldlM (RuleDraft.add field) {}
  draft.rule field declared canonical

/-- The field after its rule was read. -/
def ruled (f : FieldOf τ) (rule : FieldRule τ) : FieldOf τ :=
  { f with default := rule.default, passthrough := rule.passthrough }

/-- Reads the rule of the field at hand, which is changed when nothing can fail any more. -/
def readRule (declared : List τ) (canonical : τ) :
    EStateM DerivationError (FieldOf τ) (FieldRule τ) := do
  let f ← get
  let field := Slot.display f.name
  let draft ← f.annotations.foldlM
    (fun draft note => MonadExcept.ofExcept (RuleDraft.add field draft note)) {}
  let rule ← MonadExcept.ofExcept (draft.rule field declared canonical)
  modify fun f => f.ruled rule
  return rule

end FieldOf

/-- The names of the owners, each once and sorted. -/
def FieldRule.sortedTargets (rule : FieldRule τ) : List String :=
  (firstOccurrences [] (rule.targets.map Slot.display)).mergeSort fun a b => decide (a ≤ b)

/-- The rule of a field, with a trace of it. -/
def FieldOf.parseRule (f : FieldOf τ) (declared : List τ) (canonical : τ) :
    Outcome (FieldRule τ) :=
  match f.rule declared canonical with
  | .error e => .refuse e
  | .ok rule =>
    ⟨.ok rule, [.trace (.fieldRuled (Slot.display f.name) rule.kind.word rule.sortedTargets
      rule.default)]⟩

end RecordFamily
