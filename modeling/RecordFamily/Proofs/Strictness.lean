import RecordFamily.Proofs.Derivation
import RecordFamily.Sample

/-!
# Strict derivations

Strictness turns warnings into refusals and changes nothing else. A variant that is declared again
is found long before a name that is generated twice, and other things may go wrong in between.

* `repetitions`, `RecordOf.redeclared`: the items of a list that stand further in front already, and
  the variants of a record that are declared again;
* `declareAll_lenient`, `declareAll_warnings`: declarations with and without strictness, and what
  they warn about;
* `derives_lenient`, `derive_warnings`: the same for whole derivations;
* `RecordOf.StrictnessRefuses`: a record whose derivations differ in nothing but refusals;
* **`strictness_refuses`**: every record is one.
-/

namespace RecordFamily

/-! ## Names that are declared again -/

/-- The names that stand among the earlier ones or further in front. -/
def repetitions (earlier names : List String) : List String :=
  (names.zipIdx.filter fun p => (earlier ++ names.take p.2).contains p.1).map Prod.fst

/-- **The variants that the record declares again**: they repeat an earlier one, or its own name. -/
def RecordOf.redeclared (r : Record) : List String := repetitions [r.name] r.variants

section Repetitions

variable {earlier earlier' names : List String} {name : String}

theorem repetitions_nil : repetitions earlier [] = [] := rfl

theorem repetitions_cons : repetitions earlier (name :: names) =
    (if name ∈ earlier then [name] else []) ++ repetitions (earlier ++ [name]) names := by
  have hrest : ((name :: names).zipIdx.tail.filter fun p =>
      (earlier ++ (name :: names).take p.2).contains p.1).map Prod.fst =
        repetitions (earlier ++ [name]) names := by
    rw [List.zipIdx_cons', List.tail_cons, List.filter_map, List.map_map, repetitions]
    refine congrArg _ (List.filter_congr fun p _ => ?_)
    simp
  rw [← hrest, repetitions, List.zipIdx_cons', List.tail_cons, List.filter_cons]
  by_cases h : name ∈ earlier <;> simp [h]

theorem repetitions_congr (h : ∀ n, n ∈ earlier ↔ n ∈ earlier') :
    repetitions earlier names = repetitions earlier' names := by
  refine congrArg _ (List.filter_congr fun p _ => ?_)
  rw [Bool.eq_iff_iff, List.contains_iff_mem, List.contains_iff_mem, List.mem_append,
    List.mem_append, h]

end Repetitions

/-! ## Declarations -/

section Declarations

variable {R R' : Registry String} {strict : Bool} {name : String} {names : List String}

theorem mem_names_declared (h : (R.declare name strict).result = .ok R') (n : String) :
    n ∈ R'.names ↔ n ∈ R.names ++ [name] := by
  rw [Registry.mem_names_declare h, List.mem_append, List.mem_singleton]

theorem declare_lenient : (R.declare name strict).result = .ok R' ↔
    (R.declare name false).result = .ok R' ∧ (strict = true → name ∉ R.names) := by
  rw [Registry.declare_ok, Registry.declare_ok]
  cases strict <;> by_cases h : name ∈ R.names <;> simp [h]

theorem declare_warnings (h : (R.declare name strict).result = .ok R') :
    (R.declare name strict).warnings =
      (if name ∈ R.names then [name] else []).map .duplicateVariant := by
  rcases Registry.declare_ok.mp h with ⟨hmem, rfl, _⟩ | ⟨hnew, _⟩
  · rw [Registry.declare, if_pos (Registry.contains_iff.mpr hmem), if_pos hmem]
    rfl
  · have hcontains : ¬ R.contains name = true := fun hc => hnew (Registry.contains_iff.mp hc)
    rw [Registry.declare, if_neg hcontains, if_neg hnew]
    rfl

theorem checkVariantName_warnings (h : isNamed name = true) :
    (checkVariantName name).warnings = [] := by
  rw [checkVariantName, if_pos h]
  rfl

/-- **Strict declarations are lenient ones without repetitions.** -/
theorem declareAll_lenient : (R.declareAll strict names).result = .ok R' ↔
    (R.declareAll false names).result = .ok R' ∧
      (strict = true → repetitions R.names names = []) := by
  induction names generalizing R with
  | nil => simp [Registry.declareAll, repetitions_nil]
  | cons name names ih =>
    rw [Registry.declareAll_cons, Registry.declareAll_cons, repetitions_cons]
    simp only [List.append_eq_nil_iff, ite_eq_right_iff, List.cons_ne_self, imp_false]
    -- What comes later is compared with the names of the registry after this declaration.
    constructor
    · rintro ⟨hname, R₁, h₁, h⟩
      obtain ⟨h₁', hnew⟩ := declare_lenient.mp h₁
      obtain ⟨h', hrest⟩ := ih.mp h
      rw [repetitions_congr (mem_names_declared h₁)] at hrest
      exact ⟨⟨hname, R₁, h₁', h'⟩, fun hs => ⟨hnew hs, hrest hs⟩⟩
    · rintro ⟨⟨hname, R₁, h₁, h⟩, hs⟩
      rw [← repetitions_congr (mem_names_declared h₁)] at hs
      exact ⟨hname, R₁, declare_lenient.mpr ⟨h₁, fun hstrict => (hs hstrict).1⟩,
        ih.mpr ⟨h, fun hstrict => (hs hstrict).2⟩⟩

/-- **Each repetition is warned about**, in order. -/
theorem declareAll_warnings (h : (R.declareAll strict names).result = .ok R') :
    (R.declareAll strict names).warnings =
      (repetitions R.names names).map .duplicateVariant := by
  induction names generalizing R with
  | nil => rfl
  | cons name names ih =>
    obtain ⟨hname, R₁, h₁, h⟩ := Registry.declareAll_cons.mp h
    have hcheck : (checkVariantName name).result = .ok () :=
      Registry.checkVariantName_ok.mpr hname
    rw [Registry.declareAll, Outcome.warnings_bind hcheck, checkVariantName_warnings hname,
      Outcome.warnings_bind h₁, declare_warnings h₁, ih h,
      repetitions_congr (mem_names_declared h₁), repetitions_cons, List.map_append]
    rfl

end Declarations

/-! ## Derivations -/

/-- The options that refuse nothing. -/
def OptionsOf.lenient (o : Options) : Options :=
  { o with strictVariants := false, strictNames := false }

section Derivations

variable {r : Record} {o : Options} {R : Registry String} {ss : List (Share String)} {F : Family}

theorem registry_lenient : (r.registry o).result = .ok R ↔
    (r.registry o.lenient).result = .ok R ∧ (o.strictVariants = true → r.redeclared = []) := by
  rw [registry_ok, registry_ok]
  constructor
  · rintro ⟨hname, R₀, routing, h₀, hrouting, hR⟩
    obtain ⟨h₀, hnone⟩ := declareAll_lenient.mp h₀
    exact ⟨⟨hname, R₀, routing, h₀, hrouting, hR⟩, hnone⟩
  · rintro ⟨⟨hname, R₀, routing, h₀, hrouting, hR⟩, hnone⟩
    exact ⟨hname, R₀, routing, declareAll_lenient.mpr ⟨h₀, hnone⟩, hrouting, hR⟩

/-- **A derivation is a lenient one in which nothing is found that it refuses.** -/
theorem derives_lenient : Derives r o R ss F ↔ Derives r o.lenient R ss F ∧
    (o.strictVariants = true → r.redeclared = []) ∧
      (o.strictNames = true → F.diagnostics = []) := by
  constructor
  · intro h
    obtain ⟨hR, hnone⟩ := registry_lenient.mp h.registry
    refine ⟨⟨h.checked, hR, h.shares, h.canonical, h.variants, h.interfaces, h.edges, h.conversions,
      h.diagnostics, .inr rfl, h.fallbacks, h.docstring, h.imports⟩, hnone, fun hs => ?_⟩
    exact h.permitted.resolve_right fun hf => by simp [hf] at hs
  · rintro ⟨h, hnone, hclean⟩
    have hpermitted : F.diagnostics = [] ∨ o.strictNames = false := by
      cases hs : o.strictNames with
      | true => exact .inl (hclean hs)
      | false => exact .inr rfl
    exact ⟨h.checked, registry_lenient.mpr ⟨h.registry, hnone⟩, h.shares, h.canonical, h.variants,
      h.interfaces, h.edges, h.conversions, h.diagnostics, hpermitted, h.fallbacks, h.docstring,
      h.imports⟩

theorem registry_warnings (h : (r.registry o).result = .ok R) :
    (r.registry o).warnings = r.redeclared.map .duplicateVariant := by
  obtain ⟨hname, R₀, routing, h₀, hrouting, _⟩ := registry_ok.mp h
  have hcheck : (checkVariantName r.name).result = .ok () := Registry.checkVariantName_ok.mpr hname
  have hrouted : (Outcome.ofExcept ((r.annotations.foldlM (Routing.add R₀) {}).mapError
      Failure.derivation)).result = .ok routing := mapError_eq_ok.mpr hrouting
  rw [RecordOf.registry, Outcome.warnings_bind hcheck, checkVariantName_warnings hname,
    Outcome.warnings_bind h₀, declareAll_warnings h₀, Outcome.warnings_bind hrouted]
  exact List.append_nil _

theorem shares_warnings {declared : List String} {canonical : String} {fs : List Field}
    (h : (shares declared canonical fs).result = .ok ss) :
    (shares declared canonical fs).warnings = [] := by
  induction fs generalizing ss with
  | nil => rfl
  | cons f fs ih =>
    rw [shares, Outcome.bind_ok] at h
    obtain ⟨rule, hrule, h⟩ := h
    obtain ⟨rest, hrest, _⟩ := Outcome.bind_ok.mp h
    have hsilent : (f.parseRule declared canonical).warnings = [] := by
      unfold FieldOf.parseRule
      cases f.rule declared canonical <;> rfl
    rw [shares, Outcome.warnings_bind hrule, hsilent, Outcome.warnings_bind hrest, ih hrest]
    rfl

theorem warnAll_warnings (entries : List String) :
    (warnAll entries).warnings = entries.map .nameCollision := by
  induction entries with
  | nil => rfl
  | cons entry entries ih =>
    rw [warnAll, Outcome.warnings_bind (Outcome.warn_result _), Outcome.warnings_warn, ih]
    rfl

theorem synthesize_warnings {vs : List Variant} {p : List Edge × List Conversion}
    (h : (synthesize vs).result = .ok p) : (synthesize vs).warnings = [] := by
  have hc : (Outcome.ofExcept ((conversionsOf vs).mapError Failure.fault)).result = .ok p.2 :=
    mapError_eq_ok.mpr (synthesize_ok.mp h).1
  rw [synthesize, Outcome.warnings_bind hc]
  rfl

theorem reportCollisions_warnings {entries : List String}
    (h : (reportCollisions entries o).result = .ok ()) :
    (reportCollisions entries o).warnings = entries.map .nameCollision := by
  unfold reportCollisions at h ⊢
  split_ifs at h ⊢ with hempty hstrict
  · rw [List.isEmpty_iff.mp hempty]
    rfl
  · cases h
  · exact warnAll_warnings entries

/-- **A derivation warns about the variants that are declared again, and then about the names that
are generated twice.** -/
theorem derive_warnings (h : (r.derive o).result = .ok F) : (r.derive o).warnings =
    r.redeclared.map .duplicateVariant ++ F.diagnostics.map .nameCollision := by
  obtain ⟨R, ss, h⟩ := derive_ok.mp h
  have hshares : (shares R.names r.name r.fields).result = .ok ss := shares_ok.mpr h.shares
  have hreport : (reportCollisions F.diagnostics o).result = .ok () :=
    reportCollisions_ok.mpr h.permitted
  have hfallbacks : (Outcome.ofExcept (fallbackEntries o (ss.map Share.field))).result = .ok _ :=
    fallbackEntries_eq o _
  rw [RecordOf.derive, Outcome.warnings_bind h.checked_result, Outcome.warnings_bind h.registry,
    Outcome.warnings_bind hshares, Outcome.warnings_bind h.synthesized]
  dsimp only
  rw [h.reported, Outcome.warnings_bind hreport, Outcome.warnings_bind hfallbacks,
    Outcome.warnings_bind (Outcome.trace_result _), registry_warnings h.registry,
    shares_warnings hshares, synthesize_warnings h.synthesized, reportCollisions_warnings hreport]
  simp

/-- Names that are generated twice are refused where this is asked for. -/
theorem derive_refused (h : Derives r o R ss F) (hd : F.diagnostics ≠ []) :
    (r.derive { o with strictNames := true }).result =
      .error (.derivation (.nameCollision F.diagnostics)) := by
  rw [h.derive_result true, reportCollisions, if_neg (by simpa using hd)]
  rfl

/-- **A record has a family exactly when it has one leniently and nothing in it is refused.** -/
theorem derive_lenient : (r.derive o).result = .ok F ↔ (r.derive o.lenient).result = .ok F ∧
    (o.strictVariants = true → r.redeclared = []) ∧
      (o.strictNames = true → F.diagnostics = []) := by
  rw [derive_ok, derive_ok]
  constructor
  · rintro ⟨R, ss, h⟩
    obtain ⟨h, hrefused⟩ := derives_lenient.mp h
    exact ⟨⟨R, ss, h⟩, hrefused⟩
  · rintro ⟨⟨R, ss, h⟩, hrefused⟩
    exact ⟨R, ss, derives_lenient.mpr ⟨h, hrefused⟩⟩

end Derivations

/-! ## Strictness -/

/-- **Strictness only refuses.** The strict derivation has the family of the lenient one where that
one has no warning, and none otherwise. The lenient one warns about each variant that is declared
again and then about each name that is generated twice, in order; the latter alone are refused where
only they are asked for. -/
structure RecordOf.StrictnessRefuses (r : Record) (fallbacks : List (String × String)) : Prop where
  strict : ∀ F, (r.derive ⟨true, true, fallbacks⟩).result = .ok F ↔
    (r.derive ⟨false, false, fallbacks⟩).result = .ok F ∧
      (r.derive ⟨false, false, fallbacks⟩).warnings = []
  clean : ∀ F, (r.derive ⟨true, true, fallbacks⟩).result = .ok F → F.diagnostics = []
  warned : ∀ F, (r.derive ⟨false, false, fallbacks⟩).result = .ok F →
    (r.derive ⟨false, false, fallbacks⟩).warnings =
      r.redeclared.map .duplicateVariant ++ F.diagnostics.map .nameCollision
  refused : ∀ F, (r.derive ⟨false, false, fallbacks⟩).result = .ok F →
    ((∃ e, (r.derive ⟨false, true, fallbacks⟩).result = .error (.derivation e) ∧
      e.kind = .nameCollision ∧ e.message = "; ".intercalate F.diagnostics) ↔ F.diagnostics ≠ [])
  kept : ∀ F, (r.derive ⟨false, false, fallbacks⟩).result = .ok F → F.diagnostics = [] →
    (r.derive ⟨false, true, fallbacks⟩).result = .ok F

/-- **A strict derivation is a lenient one without warnings.** -/
theorem strictness_refuses (r : Record) (fallbacks : List (String × String)) :
    r.StrictnessRefuses fallbacks := by
  -- All four derivations are compared with the lenient one.
  have hlenient : ∀ strictVariants strictNames F,
      (r.derive ⟨strictVariants, strictNames, fallbacks⟩).result = .ok F ↔
        (r.derive ⟨false, false, fallbacks⟩).result = .ok F ∧
          (strictVariants = true → r.redeclared = []) ∧ (strictNames = true → F.diagnostics = []) :=
    fun _ _ F => derive_lenient
  have hkept : ∀ F, (r.derive ⟨false, false, fallbacks⟩).result = .ok F → F.diagnostics = [] →
      (r.derive ⟨false, true, fallbacks⟩).result = .ok F :=
    fun F h hd => (hlenient false true F).mpr ⟨h, nofun, fun _ => hd⟩
  refine ⟨fun F => ?_, fun F h => ((hlenient true true F).mp h).2.2 rfl,
    fun F h => derive_warnings h, fun F h => ⟨?_, fun hd => ?_⟩, hkept⟩
  · rw [hlenient true true F]
    refine and_congr_right fun h => ?_
    rw [derive_warnings h, List.append_eq_nil_iff, List.map_eq_nil_iff, List.map_eq_nil_iff]
    simp
  · rintro ⟨e, he, _⟩ hd
    rw [hkept F h hd] at he
    cases he
  · obtain ⟨R, ss, h⟩ := derive_ok.mp h
    exact ⟨_, derive_refused h hd, rfl, rfl⟩

example : (RecordOf.derive { samplePerson true with variants := ["Stub", "Person", "Stub"] }
    {}).warnings = [.duplicateVariant "Person", .duplicateVariant "Stub"] := by decide +kernel

end RecordFamily
