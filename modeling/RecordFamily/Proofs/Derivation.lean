import RecordFamily.Derivation
import RecordFamily.Proofs.Registry

/-!
# What a derivation consists of

The derivation of a record whose slots hold text, taken apart once: later results use its parts and
do not go through its steps again.

* `checkFieldsFrom_ok`: the fields that pass their check;
* `shares_ok`: the shares of the fields;
* `Derives`: the registry and the shares behind a family;
* **`derive_ok`**: a record has a family exactly when there are a registry and shares behind it;
* `Derives.derive_result`: what a derivation comes to that is more or less strict about names.
-/

namespace RecordFamily

/-! ## The checks on the fields -/

/-- Fields pass their check when their names are valid, new and distinct. -/
theorem checkFieldsFrom_ok {record : String} {position : Nat} {seen : List String}
    {fs : List Field} : checkFieldsFrom record position seen fs = .ok () ↔
      (∀ f ∈ fs, f.name ≠ "" ∧ isNamed f.name = true ∧ f.name ∉ seen) ∧
        (fs.map FieldOf.name).Nodup := by
  induction fs generalizing position seen with
  | nil => simp [checkFieldsFrom]
  | cons f fs ih =>
    have hcheck : checkField record position seen f = .ok () ↔
        f.name ≠ "" ∧ isNamed f.name = true ∧ f.name ∉ seen := by
      simp only [checkField, Slot.isGiven_string, List.contains_iff_mem]
      split_ifs <;> simp_all
    rw [checkFieldsFrom, bind_eq_ok]
    simp only [hcheck, ih, List.forall_mem_cons, List.map_cons, List.nodup_cons, List.mem_map]
    constructor
    · rintro ⟨_, hf, hfs, hd⟩
      refine ⟨⟨hf, fun g hg => ⟨(hfs g hg).1, (hfs g hg).2.1, fun hs => ?_⟩⟩, ?_, hd⟩
      · exact (hfs g hg).2.2 (List.mem_cons_of_mem _ hs)
      · rintro ⟨g, hg, he⟩
        exact (hfs g hg).2.2 (he ▸ List.mem_cons_self)
    · rintro ⟨⟨hf, hfs⟩, hn, hd⟩
      refine ⟨(), hf, fun g hg => ⟨(hfs g hg).1, (hfs g hg).2.1, fun hs => ?_⟩, hd⟩
      rcases List.mem_cons.mp hs with he | hs
      · exact hn ⟨g, hg, he⟩
      · exact (hfs g hg).2.2 hs

theorem checkFields_ok {r : Record} : checkFields r = .ok () ↔
    (∀ f ∈ r.fields, f.name ≠ "" ∧ isNamed f.name = true) ∧
      (r.fields.map FieldOf.name).Nodup := by
  rw [checkFields, checkFieldsFrom_ok]
  simp

/-! ## Shares -/

section Shares

variable {τ : Type} [BEq τ] [Slot τ] {declared : List τ} {canonical : τ}

theorem parseRule_result (f : FieldOf τ) : (f.parseRule declared canonical).result =
    (f.rule declared canonical).mapError Failure.derivation := by
  unfold FieldOf.parseRule
  cases f.rule declared canonical <;> rfl

theorem parseRule_ok {f : FieldOf τ} {rule : FieldRule τ} :
    (f.parseRule declared canonical).result = .ok rule ↔ f.rule declared canonical = .ok rule := by
  rw [parseRule_result, mapError_eq_ok]

/-- A share holds a field as its rule left it. -/
def Share.IsOf (declared : List τ) (canonical : τ) (f : FieldOf τ) (s : Share τ) : Prop :=
  f.rule declared canonical = .ok s.rule ∧ s.field = f.ruled s.rule

theorem shares_ok {fs : List (FieldOf τ)} {ss : List (Share τ)} :
    (shares declared canonical fs).result = .ok ss ↔
      List.Forall₂ (Share.IsOf declared canonical) fs ss := by
  induction fs generalizing ss with
  | nil => simp [shares, eq_comm]
  | cons f fs ih =>
    simp only [shares, Outcome.bind_ok, parseRule_ok, Outcome.pure_result, Except.ok.injEq, ih,
      List.forall₂_cons_left_iff]
    constructor
    · rintro ⟨rule, hr, rest, hrest, rfl⟩
      exact ⟨_, rest, ⟨hr, rfl⟩, hrest, rfl⟩
    · rintro ⟨s, rest, ⟨hr, hf⟩, hrest, rfl⟩
      refine ⟨s.rule, hr, rest, hrest, ?_⟩
      rw [← hf]

/-- The shares are of the fields, in order. -/
theorem Share.map_name {fs : List (FieldOf τ)} {ss : List (Share τ)}
    (h : List.Forall₂ (Share.IsOf declared canonical) fs ss) :
    ss.map (fun s => s.field.name) = fs.map FieldOf.name := by
  refine map_eq_of_forall₂ (h.imp fun f s hfs => ?_)
  rw [hfs.2]
  rfl

end Shares

/-! ## Families -/

theorem warnAll_result (entries : List String) : (warnAll entries).result = .ok () := by
  induction entries with
  | nil => rfl
  | cons e es ih =>
    rw [warnAll, Outcome.bind_ok]
    exact ⟨(), rfl, ih⟩

theorem reportCollisions_ok {entries : List String} {o : Options} {u : Unit} :
    (reportCollisions entries o).result = .ok u ↔ entries = [] ∨ o.strictNames = false := by
  simp only [reportCollisions, List.isEmpty_iff]
  split_ifs with he hs
  · simp [he]
  · simp [he, hs]
  · simp [warnAll_result, hs]

theorem fallbackEntries_eq (o : Options) (fs : List Field) : fallbackEntries o fs =
    .ok ((fs.filter FieldOf.default).map fun f =>
      (f.name, fallbackExpression o.fallbacks f.type)) :=
  mapM_ok fun _ _ => rfl

theorem synthesize_ok {vs : List Variant} {p : List Edge × List Conversion} :
    (synthesize vs).result = .ok p ↔ conversionsOf vs = .ok p.2 ∧ p.1 = edgesOf vs := by
  simp only [synthesize, Outcome.bind_ok, Outcome.ofExcept_result, mapError_eq_ok,
    Outcome.trace_result, Outcome.pure_result, Except.ok.injEq]
  constructor
  · rintro ⟨cs, hcs, _, _, rfl⟩
    exact ⟨hcs, rfl⟩
  · rintro ⟨hcs, he⟩
    exact ⟨p.2, hcs, (), trivial, by rw [← he]⟩

/-- **The family comes from the record** by way of a registry and shares. -/
structure Derives (r : Record) (o : Options) (R : Registry String) (ss : List (Share String))
    (F : Family) : Prop where
  checked : checkFields r = .ok ()
  registry : (r.registry o).result = .ok R
  shares : List.Forall₂ (Share.IsOf R.names r.name) r.fields ss
  canonical : F.canonical = r.name
  variants : F.variants = R.variants.map fun v => v.receive ss
  interfaces : F.interfaces = ss.map fun s => s.interface R.names
  edges : F.edges = edgesOf F.variants
  conversions : conversionsOf F.variants = .ok F.conversions
  diagnostics : F.diagnostics = collisions F.variants F.interfaces F.conversions
  permitted : F.diagnostics = [] ∨ o.strictNames = false
  fallbacks : F.fallbacks = ((ss.map Share.field).filter FieldOf.default).map fun f =>
    (f.name, fallbackExpression o.fallbacks f.type)
  docstring : F.docstring = r.docstring
  imports : F.imports = r.imports

/-- **A record has a family exactly when every stage of its derivation succeeds.** -/
theorem derive_ok {r : Record} {o : Options} {F : Family} :
    (r.derive o).result = .ok F ↔ ∃ R ss, Derives r o R ss F := by
  have hid : (Slot.ofText : String → String) = id := rfl
  simp only [RecordOf.derive, Outcome.bind_ok, Outcome.ofExcept_result, mapError_eq_ok, shares_ok,
    synthesize_ok, reportCollisions_ok, fallbackEntries_eq, Outcome.trace_result,
    Outcome.pure_result, Except.ok.injEq, hid, List.map_id]
  constructor
  · rintro ⟨_, hc, R, hR, ss, hss, p, ⟨hp, he⟩, _, hd, _, rfl, _, _, rfl⟩
    exact ⟨R, ss, hc, hR, hss, rfl, rfl, rfl, he, hp, rfl, hd, rfl, rfl, rfl⟩
  · rintro ⟨R, ss, h⟩
    have hv : (R.distribute ss).variants = F.variants := h.variants.symm
    have hi : R.interfaces ss = F.interfaces := h.interfaces.symm
    refine ⟨(), h.checked, R, h.registry, ss, h.shares, (F.edges, F.conversions), ?_, (), ?_, _, rfl,
      (), trivial, ?_⟩
    · rw [hv]
      exact ⟨h.conversions, h.edges⟩
    · rw [hv, hi, ← h.diagnostics]
      exact h.permitted
    · rw [hv, hi, ← h.diagnostics, ← h.fallbacks, ← h.canonical, ← h.docstring, ← h.imports]

/-! ## The stages behind a family -/

namespace Derives

variable {r : Record} {o : Options} {R : Registry String} {ss : List (Share String)} {F : Family}

theorem checked_result (h : Derives r o R ss F) :
    (Outcome.ofExcept ((checkFields r).mapError Failure.derivation)).result = .ok () :=
  mapError_eq_ok.mpr h.checked

theorem synthesized (h : Derives r o R ss F) :
    (synthesize (R.distribute ss).variants).result = .ok (F.edges, F.conversions) := by
  have hvariants : (R.distribute ss).variants = F.variants := h.variants.symm
  rw [hvariants]
  exact synthesize_ok.mpr ⟨h.conversions, h.edges⟩

theorem reported (h : Derives r o R ss F) :
    collisions (R.distribute ss).variants (R.interfaces ss) F.conversions = F.diagnostics := by
  rw [h.diagnostics, h.variants, h.interfaces]
  rfl

/-- **However strict a derivation is about names**, the report of its names is all that can keep it from
its family. -/
theorem derive_result (h : Derives r o R ss F) (strict : Bool) :
    (r.derive { o with strictNames := strict }).result =
      (reportCollisions F.diagnostics { o with strictNames := strict }).result >>= fun _ => .ok F := by
  have hregistry : (r.registry { o with strictNames := strict }).result = .ok R := h.registry
  have hshares : (RecordFamily.shares R.names r.name r.fields).result = .ok ss :=
    shares_ok.mpr h.shares
  have hfallbacks : fallbackEntries { o with strictNames := strict } (ss.map Share.field) =
      .ok F.fallbacks := by
    rw [h.fallbacks]
    exact fallbackEntries_eq _ _
  have hid : (Slot.ofText : String → String) = id := rfl
  rw [RecordOf.derive, Outcome.result_bind h.checked_result, Outcome.result_bind hregistry,
    Outcome.result_bind hshares, Outcome.result_bind h.synthesized]
  simp only [h.reported, Outcome.bind_result, Outcome.ofExcept_result, Outcome.trace_result,
    Outcome.pure_result, hfallbacks, hid, List.map_id, ← h.canonical, ← h.docstring, ← h.imports]
  have hvariants : (R.distribute ss).variants = F.variants := h.variants.symm
  have hinterfaces : R.interfaces ss = F.interfaces := h.interfaces.symm
  rw [hvariants, hinterfaces]
  rfl

end Derives

end RecordFamily
