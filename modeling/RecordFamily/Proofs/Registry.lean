import RecordFamily.Proofs.Occurrences
import RecordFamily.Proofs.Outcome
import RecordFamily.Registry

/-!
# The registry before distribution

What each operation on a registry does to its names, and what holds of a registry that no field was
handed out to.

* `Registry.declare_ok`, `Registry.declareAll_names`: declarations append new names and keep old ones;
* `Registry.names_modify`, `Registry.route_names`: decorations leave the names alone;
* **`Registry.Undistributed`**: the mark on the canonical variant, and no fields, with a lemma for each
  operation that keeps it;
* **`registry_names`**, `registry_nodup`, `registry_undistributed`: the registry of a record.
-/

set_option linter.unusedSectionVars false

namespace RecordFamily

variable {τ : Type} [BEq τ] [LawfulBEq τ] [Slot τ]

namespace Registry

variable {R R' : Registry τ} {name decoration : τ} {strict : Bool}

theorem contains_iff : R.contains name = true ↔ name ∈ R.names := by
  rw [contains, names, List.any_eq_true, List.mem_map]
  simp only [beq_iff_eq]

/-! ## Names -/

theorem names_modify {change : VariantOf τ Bool → VariantOf τ Bool}
    (h : ∀ v ∈ R.variants, (v.name == name) = true → (change v).name = v.name) :
    (R.modify name change).names = R.names := by
  simp only [modify, names, List.map_map]
  refine List.map_congr_left fun v hv => ?_
  by_cases hn : (v.name == name) = true
  · rw [Function.comp_apply, if_pos hn, h v hv hn]
  · rw [Function.comp_apply, if_neg hn]

theorem names_reset : (R.reset name).names = R.names :=
  names_modify fun _ _ hn => (eq_of_beq hn).symm

theorem names_decorate : (R.decorate name decoration).names = R.names :=
  names_modify fun _ _ _ => rfl

theorem names_append : (R.append name).names = R.names ++ [name] := by
  simp [append, names, VariantOf.empty]

/-- **What a declaration leaves.** -/
theorem declare_ok : (R.declare name strict).result = .ok R' ↔
    name ∈ R.names ∧ strict = false ∧ R' = R.reset name ∨ name ∉ R.names ∧ R' = R.append name := by
  by_cases h : R.contains name
  · have hm := contains_iff.mp h
    cases strict
    · simp [declare, h, hm, Outcome.bind_result, bind_eq_ok, eq_comm (a := R')]
    · simp [declare, h, hm]
  · have hm : name ∉ R.names := fun hm => h (contains_iff.mpr hm)
    simp [declare, h, hm, eq_comm (a := R')]

theorem mem_names_declare (h : (R.declare name strict).result = .ok R') {n : τ} :
    n ∈ R'.names ↔ n ∈ R.names ∨ n = name := by
  rcases declare_ok.mp h with ⟨hm, _, rfl⟩ | ⟨_, rfl⟩
  · rw [names_reset]
    exact ⟨.inl, fun hn => hn.elim id fun he => he ▸ hm⟩
  · rw [names_append, List.mem_append, List.mem_singleton]

theorem checkVariantName_ok : (checkVariantName name).result = .ok () ↔ isNamed name = true := by
  by_cases h : isNamed name <;> simp [checkVariantName, h]

theorem declareAll_cons {names : List τ} : (R.declareAll strict (name :: names)).result = .ok R' ↔
    isNamed name = true ∧ ∃ R₁, (R.declare name strict).result = .ok R₁ ∧
      (R₁.declareAll strict names).result = .ok R' := by
  rw [declareAll, Outcome.bind_ok]
  constructor
  · rintro ⟨_, hn, h⟩
    exact ⟨checkVariantName_ok.mp hn, Outcome.bind_ok.mp h⟩
  · rintro ⟨hn, h⟩
    exact ⟨(), checkVariantName_ok.mpr hn, Outcome.bind_ok.mpr h⟩

/-- **Declared names follow the names that are there**, each where it is declared first. -/
theorem declareAll_names {names : List τ} (h : (R.declareAll strict names).result = .ok R') :
    R'.names = R.names ++ firstOccurrences R.names names := by
  induction names generalizing R with
  | nil =>
    cases Except.ok.inj h
    exact (List.append_nil _).symm
  | cons name names ih =>
    obtain ⟨_, R₁, h₁, h⟩ := declareAll_cons.mp h
    rw [ih h]
    -- The names that were there are what the rest of the declarations has seen.
    rcases declare_ok.mp h₁ with ⟨hm, _, rfl⟩ | ⟨hm, rfl⟩
    · rw [names_reset, firstOccurrences_cons_of_mem hm]
    · have hseen : ∀ a, a ∈ R.names ++ [name] ↔ a ∈ name :: R.names := by simp [or_comm]
      rw [names_append, firstOccurrences_cons_of_notMem hm, List.append_assoc,
        firstOccurrences_congr hseen]
      rfl

theorem declareAll_isNamed {names : List τ} (h : (R.declareAll strict names).result = .ok R') :
    ∀ n ∈ names, isNamed n = true := by
  induction names generalizing R with
  | nil => simp
  | cons name names ih =>
    obtain ⟨hn, R₁, _, h⟩ := declareAll_cons.mp h
    exact List.forall_mem_cons.mpr ⟨hn, ih h⟩

/-! ## Registries without fields -/

/-- **No field was handed out yet.** -/
structure Undistributed (R : Registry τ) : Prop where
  /-- The canonical variant is marked, and no other. -/
  marked : ∀ v ∈ R.variants, v.isCanonical = (v.name == R.canonical)
  blank : ∀ v ∈ R.variants, v.fields = [] ∧ v.capabilities = [] ∧ v.absences = []

theorem Undistributed.ofCanonical (name : τ) : (Registry.ofCanonical name).Undistributed where
  marked := by simp [Registry.ofCanonical, VariantOf.empty]
  blank := by simp [Registry.ofCanonical, VariantOf.empty]

/-- A change of a variant that keeps its name and its mark and hands it no field. -/
theorem Undistributed.modify (h : R.Undistributed) {change : VariantOf τ Bool → VariantOf τ Bool}
    (hc : ∀ v ∈ R.variants, (v.name == name) = true → (change v).name = v.name ∧
      (change v).isCanonical = v.isCanonical ∧ (change v).fields = [] ∧
        (change v).capabilities = [] ∧ (change v).absences = []) :
    (R.modify name change).Undistributed where
  marked := by
    simp only [Registry.modify, List.forall_mem_map]
    intro v hv
    by_cases hn : (v.name == name) = true
    · rw [if_pos hn, (hc v hv hn).1, (hc v hv hn).2.1]
      exact h.marked v hv
    · rw [if_neg hn]
      exact h.marked v hv
  blank := by
    simp only [Registry.modify, List.forall_mem_map]
    intro v hv
    by_cases hn : (v.name == name) = true
    · rw [if_pos hn]
      exact (hc v hv hn).2.2
    · rw [if_neg hn]
      exact h.blank v hv

theorem Undistributed.reset (h : R.Undistributed) : (R.reset name).Undistributed :=
  h.modify fun _ _ hn => ⟨(eq_of_beq hn).symm, rfl, rfl, rfl, rfl⟩

theorem Undistributed.decorate (h : R.Undistributed) : (R.decorate name decoration).Undistributed :=
  h.modify fun v hv _ => ⟨rfl, rfl, h.blank v hv⟩

theorem Undistributed.append (h : R.Undistributed) (hc : R.canonical ∈ R.names)
    (hn : name ∉ R.names) : (R.append name).Undistributed where
  marked := by
    have hne : ¬ name = R.canonical := fun e => hn (e ▸ hc)
    intro v hv
    rcases List.mem_append.mp hv with hv | hv
    · exact h.marked v hv
    · rw [List.mem_singleton.mp hv]
      exact (beq_eq_false_iff_ne.mpr hne).symm
  blank := by
    intro v hv
    rcases List.mem_append.mp hv with hv | hv
    · exact h.blank v hv
    · rw [List.mem_singleton.mp hv]
      exact ⟨rfl, rfl, rfl⟩

theorem Undistributed.declare (h : R.Undistributed) (hc : R.canonical ∈ R.names)
    (hd : (R.declare name strict).result = .ok R') :
    R'.Undistributed ∧ R'.canonical = R.canonical ∧ R'.canonical ∈ R'.names := by
  rcases declare_ok.mp hd with ⟨_, _, rfl⟩ | ⟨hm, rfl⟩
  · exact ⟨h.reset, rfl, by rw [names_reset]; exact hc⟩
  · exact ⟨h.append hc hm, rfl, by rw [names_append]; exact List.mem_append_left _ hc⟩

theorem Undistributed.declareAll {names : List τ} (h : R.Undistributed)
    (hc : R.canonical ∈ R.names) (hd : (R.declareAll strict names).result = .ok R') :
    R'.Undistributed ∧ R'.canonical = R.canonical := by
  induction names generalizing R with
  | nil =>
    cases Except.ok.inj hd
    exact ⟨h, rfl⟩
  | cons name names ih =>
    obtain ⟨_, R₁, h₁, hd⟩ := declareAll_cons.mp hd
    obtain ⟨hR, he, hc⟩ := h.declare hc h₁
    rw [← he]
    exact ih hR hc hd

/-! ## Decorations -/

theorem foldl_decorate {α : Type} (target : Registry τ → α → τ) (text : α → τ) (as : List α)
    (R : Registry τ) : let R' := as.foldl (fun R a => R.decorate (target R a) (text a)) R
    R'.names = R.names ∧ R'.canonical = R.canonical ∧ (R.Undistributed → R'.Undistributed) := by
  induction as generalizing R with
  | nil => exact ⟨rfl, rfl, id⟩
  | cons a as ih =>
    obtain ⟨hn, hc, hu⟩ := ih (R.decorate (target R a) (text a))
    exact ⟨hn.trans names_decorate, hc, fun h => hu h.decorate⟩

theorem route_names (routing : Routing τ) : (R.route routing).names = R.names :=
  (foldl_decorate _ _ _ _).1.trans (foldl_decorate _ _ _ _).1

theorem route_canonical (routing : Routing τ) : (R.route routing).canonical = R.canonical :=
  (foldl_decorate _ _ _ _).2.1.trans (foldl_decorate _ _ _ _).2.1

theorem Undistributed.route (h : R.Undistributed) (routing : Routing τ) :
    (R.route routing).Undistributed :=
  (foldl_decorate _ _ _ _).2.2 ((foldl_decorate _ _ _ _).2.2 h)

end Registry

/-! ## The registry of a record -/

variable {r : RecordOf τ} {o : OptionsOf τ} {R : Registry τ}

theorem registry_ok : (r.registry o).result = .ok R ↔
    isNamed r.name = true ∧ ∃ R₀ routing,
      ((Registry.ofCanonical r.name).declareAll o.strictVariants r.variants).result = .ok R₀ ∧
        r.annotations.foldlM (Routing.add R₀) {} = .ok routing ∧ R₀.route routing = R := by
  simp only [RecordOf.registry, Outcome.bind_ok, Outcome.ofExcept_result, mapError_eq_ok,
    Outcome.trace_result, Outcome.pure_result, Except.ok.injEq]
  constructor
  · rintro ⟨_, hn, R₀, h₀, routing, hr, _, _, rfl⟩
    exact ⟨Registry.checkVariantName_ok.mp hn, R₀, routing, h₀, hr, rfl⟩
  · rintro ⟨hn, R₀, routing, h₀, hr, rfl⟩
    exact ⟨(), Registry.checkVariantName_ok.mpr hn, R₀, h₀, routing, hr, (), trivial, rfl⟩

/-- **The names of a registry**: the canonical name and then the others, each where it is declared
first. -/
theorem registry_names (h : (r.registry o).result = .ok R) :
    R.names = firstOccurrences [] (r.name :: r.variants) := by
  obtain ⟨_, R₀, routing, h₀, _, rfl⟩ := registry_ok.mp h
  rw [Registry.route_names, Registry.declareAll_names h₀,
    firstOccurrences_cons_of_notMem List.not_mem_nil]
  rfl

theorem registry_nodup (h : (r.registry o).result = .ok R) : R.names.Nodup := by
  rw [registry_names h]
  exact nodup_firstOccurrences _ _

theorem registry_undistributed (h : (r.registry o).result = .ok R) :
    R.Undistributed ∧ R.canonical = r.name := by
  obtain ⟨_, R₀, routing, h₀, _, rfl⟩ := registry_ok.mp h
  obtain ⟨hu, hc⟩ := (Registry.Undistributed.ofCanonical r.name).declareAll
    List.mem_cons_self h₀
  exact ⟨hu.route routing, (Registry.route_canonical routing).trans hc⟩

theorem registry_isNamed (h : (r.registry o).result = .ok R) : ∀ n ∈ R.names, isNamed n = true := by
  obtain ⟨hr, R₀, _, h₀, _⟩ := registry_ok.mp h
  intro n hn
  rw [registry_names h, mem_firstOccurrences, List.mem_cons] at hn
  rcases hn.1 with rfl | hn
  · exact hr
  · exact Registry.declareAll_isNamed h₀ n hn

end RecordFamily
