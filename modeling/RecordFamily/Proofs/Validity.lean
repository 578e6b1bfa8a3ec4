import RecordFamily.Proofs.Collision
import RecordFamily.Proofs.RuleCheck

/-!
# Valid records

A derivation succeeds exactly for valid records, and otherwise tells the first thing that is wrong.

* `fieldChecks`, `variantChecks`, `routingChecks`, `RecordOf.checks`: the checks on a record, in the
  order in which a derivation comes to them;
* `decides_checkFields`, `decides_registry`, **`decides_derive`**: they decide about the derivation and
  its stages;
* `derive_error`: the stage in which a derivation fails;
* `controlled_derive`: a derivation ends with a family or with a derivation error;
* `RecordOf.IsValid`, `checks_iff`: valid records, which are those whose checks all hold;
* **`derive_decides`**: a record has a family exactly when it is valid, and otherwise an error in the
  class of its first violated check.
-/

namespace RecordFamily

open List

/-! ## The checks on a record -/

/-- The checks on fields after those whose names are in `earlier`. -/
def fieldChecks (earlier : List String) : List Field → List Check
  | [] => []
  | f :: fs =>
    ⟨f.name ≠ "", .unnamedField⟩ ::
    ⟨isValidName f.name = true, .invalidFieldName⟩ ::
    ⟨f.name ∉ earlier, .duplicateField⟩ ::
    fieldChecks (f.name :: earlier) fs

/-- The check on the name of a record or a variant. -/
def nameCheck (name : String) : Check := ⟨isValidName name = true, .malformedDirective⟩

/-- The checks on variants after the names in `earlier`. -/
def variantChecks (strict : Bool) (earlier : List String) : List String → List Check
  | [] => []
  | name :: names =>
    nameCheck name ::
    ⟨strict = true → name ∉ earlier, .duplicateVariantDeclaration⟩ ::
    variantChecks strict (name :: earlier) names

/-- The annotation of a record is a call with two texts: the name of a variant and a decoration. -/
def Decorates (note variant decoration : String) : Prop :=
  ∃ d, Directive.parse note = .ok d ∧ d.hasCall = true ∧ d.args = [variant, decoration]

/-- The checks on an annotation of a record. -/
def routingChecks (declared : List String) (note : String) : List Check := [
  ⟨Directive.head? note = some decorationWord →
    ∃ variant decoration, Decorates note variant decoration, .malformedDirective⟩,
  ⟨Directive.head? note = some decorationWord →
    ∀ variant decoration, Decorates note variant decoration → variant ∈ declared, .undeclaredVariant⟩]

/-- No name is generated twice. -/
def FamilyOf.NamesOnce (F : Family) : Prop :=
  (∀ V ∈ F.variants, (memberNames V F.conversions).Nodup) ∧
    (topLevelNames F.variants F.interfaces).Nodup

namespace RecordOf

/-- The names that a record declares, its own first. -/
def declared (r : Record) : List String := r.name :: r.variants

/-- No name is generated twice in the family that the record has when this is not asked for. There is
such a family where the other checks hold. -/
def GeneratesOnce (r : Record) (o : Options) : Prop :=
  ∀ F, (r.derive { o with strictNames := false }).result = .ok F → F.NamesOnce

/-- The checks on the registry of a record: its name, its variants and its annotations. -/
def registryChecks (r : Record) (o : Options) : List Check :=
  [nameCheck r.name] ++ (variantChecks o.strictVariants [r.name] r.variants
    ++ r.annotations.flatMap (routingChecks r.declared))

/-- **The checks on a record**, in order. -/
def checks (r : Record) (o : Options) : List Check :=
  fieldChecks [] r.fields ++ (r.registryChecks o ++ (r.fields.flatMap (FieldOf.ruleChecks r.declared)
    ++ [⟨o.strictNames = true → r.GeneratesOnce o, .nameCollision⟩]))

end RecordOf

/-! ## Decisions about fields and variants -/

theorem decides_checkFieldsFrom {record : String} {position : Nat} {seen : List String}
    {fs : List Field} :
    Decides (fieldChecks seen fs) (checkFieldsFrom record position seen fs) := by
  induction fs generalizing position seen with
  | nil => exact .of_succeeds (.ok _)
  | cons f fs ih =>
    have hfield : Decides [⟨f.name ≠ "", .unnamedField⟩,
        ⟨isValidName f.name = true, .invalidFieldName⟩, ⟨f.name ∉ seen, .duplicateField⟩]
          (checkField record position seen f) := by
      unfold checkField
      refine .guard (by simp) rfl (.guard ?_ rfl (.guard (by simp) rfl (.of_succeeds (.ok _))))
      rw [Bool.not_eq_true', Bool.not_eq_true]
      rfl
    rw [checkFieldsFrom]
    exact hfield.bind fun _ _ => ih

theorem decides_checkFields (r : Record) : Decides (fieldChecks [] r.fields) (checkFields r) :=
  decides_checkFieldsFrom

theorem decides_checkVariantName (name : String) :
    Decides [nameCheck name] (checkVariantName name).result := by
  unfold checkVariantName
  split_ifs with h
  · exact .single h
  · exact .refused rfl h

section Registry

variable {R R' : Registry String} {strict : Bool} {name : String} {names earlier : List String}

theorem decides_declare (hR : ∀ n, n ∈ R.names ↔ n ∈ earlier) :
    Decides [⟨strict = true → name ∉ earlier, .duplicateVariantDeclaration⟩]
      (R.declare name strict).result := by
  have hmem : R.contains name = true ↔ name ∈ earlier := Registry.contains_iff.trans (hR name)
  unfold Registry.declare
  split_ifs with hc hs
  · exact .refused rfl fun h => h hs (hmem.mp hc)
  · exact .single fun h => absurd h hs
  · exact .single fun _ hn => hc (hmem.mpr hn)

theorem mem_names_declare (h : (R.declare name strict).result = .ok R')
    (hR : ∀ n, n ∈ R.names ↔ n ∈ earlier) : ∀ n, n ∈ R'.names ↔ n ∈ name :: earlier := by
  intro n
  rw [Registry.mem_names_declare h, hR, List.mem_cons, or_comm]

theorem decides_declareAll (hR : ∀ n, n ∈ R.names ↔ n ∈ earlier) :
    Decides (variantChecks strict earlier names) (R.declareAll strict names).result := by
  induction names generalizing R earlier with
  | nil => exact .of_succeeds (.ok _)
  | cons name names ih =>
    rw [Registry.declareAll]
    refine Outcome.decides_bind (decides_checkVariantName name) fun _ _ => ?_
    exact Outcome.decides_bind (decides_declare hR) fun R₁ h₁ => ih (mem_names_declare h₁ hR)

end Registry

/-! ## Decisions about annotations of a record -/

section Routing

variable {R : Registry String} {routing : Routing String} {declared notes : List String}
  {note variant decoration : String}

theorem isIn_recordWords : Directive.isIn recordWords note = true ↔
    Directive.head? note = some decorationWord := by
  rw [isIn_iff, recordWords]
  simp

theorem decoration?_eq_some {d : Directive} : d.decoration? = some (variant, decoration) ↔
    d.hasCall = true ∧ d.args = [variant, decoration] := by
  unfold Directive.decoration?
  split <;> simp_all

theorem decorates_iff {d : Directive} (hd : Directive.parse note = .ok d) :
    Decorates note variant decoration ↔ d.decoration? = some (variant, decoration) := by
  rw [decoration?_eq_some]
  constructor
  · rintro ⟨d', hd', h⟩
    rw [hd] at hd'
    cases hd'
    exact h
  · exact fun h => ⟨d, hd, h⟩

/-- The routing with what one more directive of a record decorates. -/
def Routing.addDirective (R : Registry String) (routing : Routing String) (d : Directive) :
    Except DerivationError (Routing String) :=
  match d.decoration? with
  | none => .error (.badDecoration d.text)
  | some (variant, decoration) =>
    if R.contains variant then
      .ok { routing with targeted := routing.targeted ++ [(variant, decoration)] }
    else .error (.undeclaredVariant variant)

theorem Routing.add_string (R : Registry String) (routing : Routing String) (note : String) :
    Routing.add R routing note = if Directive.isIn recordWords note then
      Directive.parse note >>= routing.addDirective R
    else .ok { routing with plain := routing.plain ++ [note] } := rfl

theorem decides_addDecoration (hR : ∀ n, n ∈ R.names ↔ n ∈ declared) (d : Directive) :
    Decides [⟨∃ variant decoration, d.decoration? = some (variant, decoration), .malformedDirective⟩,
      ⟨∀ variant decoration, d.decoration? = some (variant, decoration) → variant ∈ declared,
        .undeclaredVariant⟩] (routing.addDirective R d) := by
  unfold Routing.addDirective
  split
  · next hnone =>
    refine .refused rfl ?_
    rintro ⟨_, _, hsome⟩
    rw [hnone] at hsome
    cases hsome
  · next variant decoration hsome =>
    have hdeclared : R.contains variant = true ↔ variant ∈ declared :=
      Registry.contains_iff.trans (hR variant)
    refine .pass ⟨variant, decoration, hsome⟩ ?_
    split_ifs with hc
    · refine .single fun _ _ hsome' => ?_
      rw [hsome] at hsome'
      cases hsome'
      exact hdeclared.mp hc
    · exact .refused rfl fun h => hc (hdeclared.mpr (h variant decoration hsome))

/-- **The checks decide about one more annotation** of a record. -/
theorem decides_addRouting (hR : ∀ n, n ∈ R.names ↔ n ∈ declared) :
    Decides (routingChecks declared note) (Routing.add R routing note) := by
  rw [Routing.add_string]
  split_ifs with hin
  · have hhead := isIn_recordWords.mp hin
    cases hd : Directive.parse note with
    | error e =>
      refine decides_unparsed hd fun hcall => ?_
      obtain ⟨_, _, d, hd, _⟩ := hcall hhead
      exact ⟨d, hd⟩
    | ok d =>
      simp only [routingChecks, decorates_iff hd, hhead, forall_const]
      exact decides_addDecoration hR d
  · have hhead : Directive.head? note ≠ some decorationWord := fun h => hin (isIn_recordWords.mpr h)
    exact .pass (fun h => absurd h hhead) (.single fun h => absurd h hhead)

theorem decides_routing (hR : ∀ n, n ∈ R.names ↔ n ∈ declared) :
    Decides (notes.flatMap (routingChecks declared)) (notes.foldlM (Routing.add R) routing) := by
  induction notes generalizing routing with
  | nil => exact .of_succeeds (.ok _)
  | cons note notes ih =>
    rw [List.foldlM_cons, List.flatMap_cons]
    exact (decides_addRouting hR).bind fun _ _ => ih

end Routing

/-! ## Decisions about a record -/

section Derivation

variable {r : Record} {o : Options} {R : Registry String} {ss : List (Share String)} {F : Family}

theorem mem_names_declareAll (h : ((Registry.ofCanonical r.name).declareAll o.strictVariants
    r.variants).result = .ok R) : ∀ n, n ∈ R.names ↔ n ∈ r.declared := by
  intro n
  have hnames : (Registry.ofCanonical r.name).names = [r.name] := rfl
  rw [Registry.declareAll_names h, hnames, List.mem_append, mem_firstOccurrences,
    RecordOf.declared, List.mem_cons (a := n) (b := r.name) (l := r.variants), List.mem_singleton]
  tauto

theorem mem_names_registry (h : (r.registry o).result = .ok R) :
    ∀ n, n ∈ R.names ↔ n ∈ r.declared := by
  intro n
  rw [registry_names h, mem_firstOccurrences]
  exact and_iff_left List.not_mem_nil

theorem decides_registry (r : Record) (o : Options) :
    Decides (r.registryChecks o) (r.registry o).result := by
  have hnames : ∀ n, n ∈ (Registry.ofCanonical r.name).names ↔ n ∈ [r.name] := fun _ => .rfl
  unfold RecordOf.registry
  refine Outcome.decides_bind (decides_checkVariantName r.name) fun _ _ => ?_
  refine Outcome.decides_bind (decides_declareAll hnames) fun R hR => ?_
  rw [Outcome.bind_result]
  exact (decides_routing (mem_names_declareAll hR)).mapError.bind_succeeds fun _ _ => ⟨_, rfl⟩

/-- A registry and shares have a family where names may be generated twice. -/
theorem exists_derives (hchecked : checkFields r = .ok ()) (hR : (r.registry o).result = .ok R)
    (hss : (shares R.names r.name r.fields).result = .ok ss) (ho : o.strictNames = false) :
    ∃ F, Derives r o R ss F := by
  have hconversions : Succeeds (conversionsOf (R.distribute ss).variants) :=
    (Succeeds.mapM fun p _ => succeeds_conversionsBetween p.1 p.2).map _
  obtain ⟨conversions, hconversions⟩ := hconversions
  exact ⟨⟨r.name, (R.distribute ss).variants, R.interfaces ss, edgesOf (R.distribute ss).variants,
    conversions, _, r.docstring, r.imports,
    collisions (R.distribute ss).variants (R.interfaces ss) conversions⟩, hchecked, hR,
    shares_ok.mp hss, rfl, rfl, rfl, rfl, hconversions, rfl, .inr ho, rfl, rfl, rfl⟩

theorem generatesOnce_iff (h : (r.derive { o with strictNames := false }).result = .ok F) :
    r.GeneratesOnce o ↔ F.diagnostics = [] := by
  obtain ⟨R, ss, hF⟩ := derive_ok.mp h
  have honce : F.NamesOnce ↔ F.diagnostics = [] := by
    rw [hF.diagnostics, collisions_eq_nil]
    rfl
  rw [← honce]
  constructor
  · exact fun hall => hall F h
  · intro hF F' h'
    rw [h] at h'
    cases h'
    exact hF

theorem decides_reportCollisions (h : (r.derive { o with strictNames := false }).result = .ok F) :
    Decides [⟨o.strictNames = true → r.GeneratesOnce o, .nameCollision⟩]
      (reportCollisions F.diagnostics o).result := by
  rw [generatesOnce_iff h]
  unfold reportCollisions
  split_ifs with hempty hstrict
  · exact .single fun _ => List.isEmpty_iff.mp hempty
  · exact .refused rfl fun hnil => hempty (List.isEmpty_iff.mpr (hnil hstrict))
  · rw [warnAll_result]
    exact .single fun hs => absurd hs hstrict

/-- **Where a derivation fails, one of its stages does**: the check on the fields, the registry, the
rules of the fields, or the report of the names. -/
theorem derive_error {f : Failure} (h : (r.derive o).result = .error f) :
    (checkFields r).mapError Failure.derivation = .error f ∨ (r.registry o).result = .error f ∨
      (∃ R, (r.registry o).result = .ok R ∧ (shares R.names r.name r.fields).result = .error f) ∨
        ∃ R ss F, Derives r { o with strictNames := false } R ss F ∧
          (reportCollisions F.diagnostics o).result = .error f := by
  have hderive := h
  unfold RecordOf.derive at h
  rcases Outcome.bind_error.mp h with h | ⟨_, hchecked, h⟩
  · exact .inl h
  rcases Outcome.bind_error.mp h with h | ⟨R, hR, h⟩
  · exact .inr (.inl h)
  rcases Outcome.bind_error.mp h with h | ⟨ss, hss, -⟩
  · exact .inr (.inr (.inl ⟨R, hR, h⟩))
  obtain ⟨F, hF⟩ := exists_derives (o := { o with strictNames := false })
    (mapError_eq_ok.mp hchecked) hR hss rfl
  have hrest := hF.derive_result o.strictNames
  rw [hderive] at hrest
  rcases bind_eq_error.mp hrest.symm with h | ⟨_, _, h⟩
  · exact .inr (.inr (.inr ⟨R, ss, F, hF, h⟩))
  · cases h

/-- **The checks decide about the derivation.** -/
theorem decides_derive (r : Record) (o : Options) : Decides (r.checks o) (r.derive o).result := by
  unfold RecordOf.derive
  refine Outcome.decides_bind (decides_checkFields r).mapError fun _ hchecked => ?_
  refine Outcome.decides_bind (decides_registry r o) fun R hR => ?_
  refine Outcome.decides_bind (decides_shares (mem_names_registry hR) r.fields) fun ss hss => ?_
  obtain ⟨F, hF⟩ := exists_derives (o := { o with strictNames := false })
    (mapError_eq_ok.mp hchecked) hR hss rfl
  have hrest := hF.derive_result o.strictNames
  rw [RecordOf.derive, Outcome.result_bind hchecked, Outcome.result_bind hR,
    Outcome.result_bind hss] at hrest
  rw [hrest]
  exact (decides_reportCollisions (derive_ok.mpr ⟨R, ss, hF⟩)).bind_succeeds fun _ _ => .ok F

theorem controlled_derive (r : Record) (o : Options) : Controlled (r.derive o).result :=
  (decides_derive r o).controlled

end Derivation

/-! ## Valid records -/

/-- **The record is valid** under the options. -/
structure RecordOf.IsValid (r : Record) (o : Options) : Prop where
  fields : ∀ f ∈ r.fields, f.name ≠ "" ∧ isValidName f.name = true
  fields_distinct : (r.fields.map FieldOf.name).Nodup
  names : ∀ name ∈ r.declared, isValidName name = true
  names_distinct : o.strictVariants = true → r.declared.Nodup
  decorations : ∀ note ∈ r.annotations, Directive.head? note = some decorationWord →
    ∃ variant decoration, Decorates note variant decoration ∧ variant ∈ r.declared
  rules : ∀ f ∈ r.fields, f.HasRule r.declared
  generated : o.strictNames = true → r.GeneratesOnce o

section Validity

variable {r : Record} {o : Options}

theorem fieldChecks_iff : (∀ c ∈ fieldChecks [] r.fields, c.holds) ↔
    (∀ f ∈ r.fields, f.name ≠ "" ∧ isValidName f.name = true) ∧
      (r.fields.map FieldOf.name).Nodup := by
  rw [← (decides_checkFields r).succeeds_iff]
  exact Iff.trans ⟨fun ⟨_, h⟩ => h, fun h => ⟨(), h⟩⟩ checkFields_ok

theorem variantChecks_iff {strict : Bool} {earlier names : List String} :
    (∀ c ∈ variantChecks strict earlier names, c.holds) ↔
      (∀ name ∈ names, isValidName name = true) ∧
        (strict = true → names.Nodup ∧ ∀ name ∈ names, name ∉ earlier) := by
  induction names generalizing earlier with
  | nil => simp [variantChecks]
  | cons name names ih =>
    rw [variantChecks, List.forall_mem_cons, List.forall_mem_cons, ih, List.forall_mem_cons,
      List.nodup_cons, List.forall_mem_cons]
    simp only [List.mem_cons, not_or]
    constructor
    · rintro ⟨hname, hnew, hnames, hrest⟩
      refine ⟨⟨hname, hnames⟩, fun hs => ?_⟩
      obtain ⟨hnodup, hnotin⟩ := hrest hs
      exact ⟨⟨fun hmem => (hnotin name hmem).1 rfl, hnodup⟩, hnew hs, fun n hn => (hnotin n hn).2⟩
    · rintro ⟨⟨hname, hnames⟩, hstrict⟩
      refine ⟨hname, fun hs => (hstrict hs).2.1, hnames, fun hs => ?_⟩
      obtain ⟨⟨hnotin, hnodup⟩, _, hnew⟩ := hstrict hs
      exact ⟨hnodup, fun n hn => ⟨fun he => hnotin (he ▸ hn), hnew n hn⟩⟩

theorem routingChecks_iff {declared : List String} {note : String} :
    (∀ c ∈ routingChecks declared note, c.holds) ↔
      (Directive.head? note = some decorationWord →
        ∃ variant decoration, Decorates note variant decoration ∧ variant ∈ declared) := by
  rw [routingChecks, List.forall_mem_cons, List.forall_mem_singleton]
  constructor
  · rintro ⟨hcall, hdeclared⟩ hhead
    obtain ⟨variant, decoration, h⟩ := hcall hhead
    exact ⟨variant, decoration, h, hdeclared hhead variant decoration h⟩
  · intro h
    refine ⟨fun hhead => ?_, fun hhead variant decoration h' => ?_⟩
    · obtain ⟨variant, decoration, hcall, _⟩ := h hhead
      exact ⟨variant, decoration, hcall⟩
    · obtain ⟨variant', decoration', ⟨d, hd, hcall⟩, hdeclared⟩ := h hhead
      rw [decorates_iff hd, decoration?_eq_some] at h'
      have hvariant : variant = variant' := (List.cons.inj (h'.2.symm.trans hcall.2)).1
      rwa [hvariant]

/-- **The valid records are those whose checks all hold.** -/
theorem checks_iff : (∀ c ∈ r.checks o, c.holds) ↔ r.IsValid o := by
  have hnames : (∀ name ∈ r.declared, isValidName name = true) ↔
      isValidName r.name = true ∧ ∀ name ∈ r.variants, isValidName name = true :=
    List.forall_mem_cons
  have hdistinct : r.declared.Nodup ↔ r.variants.Nodup ∧ ∀ name ∈ r.variants, name ∉ [r.name] := by
    rw [RecordOf.declared, List.nodup_cons, and_comm]
    simp only [List.mem_singleton]
    exact and_congr_right fun _ => ⟨fun h n hn he => h (he ▸ hn), fun h hn => h _ hn rfl⟩
  rw [RecordOf.checks, RecordOf.registryChecks]
  simp only [List.forall_mem_append, List.forall_mem_singleton, List.forall_mem_flatMap,
    fieldChecks_iff, variantChecks_iff, routingChecks_iff, ruleChecks_iff, ← hdistinct]
  constructor
  · rintro ⟨⟨hfields, hnodup⟩, ⟨hname, ⟨hvariants, hstrict⟩, hnotes⟩, hrules, honce⟩
    exact ⟨hfields, hnodup, hnames.mpr ⟨hname, hvariants⟩, hstrict, hnotes, hrules, honce⟩
  · intro h
    obtain ⟨hname, hvariants⟩ := hnames.mp h.names
    exact ⟨⟨h.fields, h.fields_distinct⟩, ⟨hname, ⟨hvariants, h.names_distinct⟩, h.decorations⟩,
      h.rules, h.generated⟩

end Validity

/-- **A derivation decides about its record**: there is a family exactly when the record is valid, and
otherwise there is an error in the class of the first violated check. -/
theorem derive_decides (r : Record) (o : Options) :
    ((∃ F, (r.derive o).result = .ok F) ↔ r.IsValid o) ∧
      (¬ r.IsValid o → ∃ e, (r.derive o).result = .error (.derivation e) ∧
        ∀ k, FirstViolated (r.checks o) k ↔ k = e.kind) := by
  have hdecides := decides_derive r o
  have hvalid : (∃ F, (r.derive o).result = .ok F) ↔ r.IsValid o :=
    hdecides.succeeds_iff.trans checks_iff
  refine ⟨hvalid, fun hinvalid => ?_⟩
  cases hresult : (r.derive o).result with
  | ok F => exact absurd (hvalid.mp ⟨F, hresult⟩) hinvalid
  | error f =>
    obtain ⟨k, hk, hfirst⟩ := hdecides.violated f hresult
    obtain ⟨e, rfl, rfl⟩ := Failure.kind?_eq_some.mp hk
    exact ⟨e, rfl, fun k => ⟨fun h => h.unique hfirst, fun h => h ▸ hfirst⟩⟩

end RecordFamily
