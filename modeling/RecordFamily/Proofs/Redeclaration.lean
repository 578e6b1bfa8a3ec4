import RecordFamily.Proofs.Decoration

/-!
# Variants that are declared again

As long as variants are only declared, a registry holds nothing but names and marks. A variant that is
declared again then has nothing to lose, and the registry stays as it was.

* `Registry.IsFresh`, `IsFresh.reset_eq`: registries of names and marks, in which variants start anew
  without a change;
* `RecordOf.declaredOnce`: the record that declares each of its variants once;
* `declareAll_once`, `registry_once`: declarations and registries without the repetitions;
* `Derives.variants_eq`: the canonical variant of a family and the others;
* **`redeclarations_harmless`**: the repetitions of a record do not matter for its family.
-/

namespace RecordFamily

/-- **The record that declares each of its variants once**: its own name is no longer declared, nor is
any name for a second time. -/
def RecordOf.declaredOnce (r : Record) : Record :=
  { r with variants := firstOccurrences [r.name] r.variants }

namespace Registry

variable {R : Registry String} {names : List String}

/-! ## Registries of names and marks -/

/-- Names and marks are all that the registry holds. -/
def IsFresh (R : Registry String) : Prop := ∀ v ∈ R.variants, v = .empty v.name v.isCanonical

theorem isFresh_ofCanonical (name : String) : (ofCanonical name).IsFresh := by
  intro v hv
  rw [List.mem_singleton.mp hv]
  rfl

theorem IsFresh.append (hR : R.IsFresh) (name : String) : (R.append name).IsFresh := by
  intro v hv
  rcases List.mem_append.mp hv with hv | hv
  · exact hR v hv
  · rw [List.mem_singleton.mp hv]
    rfl

theorem IsFresh.reset_eq (hR : R.IsFresh) (name : String) : R.reset name = R := by
  have hkept : ∀ v ∈ R.variants, (if v.name == name then .empty name v.isCanonical else v) = v := by
    intro v hv
    by_cases hname : (v.name == name) = true
    · rw [if_pos hname, ← eq_of_beq hname]
      exact (hR v hv).symm
    · rw [if_neg hname]
  have hvariants : (R.reset name).variants = R.variants :=
    (List.map_congr_left hkept).trans (List.map_id' _)
  calc R.reset name = ⟨R.canonical, (R.reset name).variants⟩ := rfl
    _ = R := by rw [hvariants]

/-! ## Declarations without repetitions -/

/-- **A fresh registry comes to the same by declarations without repetitions.** -/
theorem declareAll_once (hR : R.IsFresh) (hnamed : ∀ n ∈ R.names, isNamed n = true) :
    (R.declareAll false names).result =
      (R.declareAll false (firstOccurrences R.names names)).result := by
  induction names generalizing R with
  | nil => rfl
  | cons name names ih =>
    by_cases hmem : name ∈ R.names
    · -- What is there already is a valid name, and its declaration leaves the registry alone.
      have hcheck : (checkVariantName name).result = .ok () :=
        checkVariantName_ok.mpr (hnamed name hmem)
      have hdeclare : (R.declare name false).result = .ok R :=
        declare_ok.mpr (.inl ⟨hmem, rfl, (hR.reset_eq name).symm⟩)
      rw [firstOccurrences_cons_of_mem hmem, declareAll, Outcome.result_bind hcheck,
        Outcome.result_bind hdeclare]
      exact ih hR hnamed
    · rw [firstOccurrences_cons_of_notMem hmem, declareAll, declareAll]
      refine Outcome.bind_congr rfl fun _ hcheck => Outcome.bind_congr rfl fun R₁ hdeclare => ?_
      have hname := checkVariantName_ok.mp hcheck
      obtain rfl : R₁ = R.append name := by
        rcases declare_ok.mp hdeclare with ⟨hmem', _, _⟩ | ⟨_, h⟩
        · exact absurd hmem' hmem
        · exact h
      have hnames : ∀ n, n ∈ (R.append name).names ↔ n ∈ name :: R.names := by
        simp [names_append, or_comm]
      have hvalid : ∀ n ∈ (R.append name).names, isNamed n = true := by
        intro n hn
        rcases List.mem_cons.mp ((hnames n).mp hn) with rfl | hn
        · exact hname
        · exact hnamed n hn
      rw [ih (hR.append name) hvalid, firstOccurrences_congr hnames]

end Registry

/-! ## Derivations without repetitions -/

section Derivation

variable {r : Record} {o : Options} {R : Registry String} {ss : List (Share String)} {F : Family}

/-- **The registry of a record does not depend on repetitions.** -/
theorem registry_once (ho : o.strictVariants = false) :
    (r.registry o).result = (r.declaredOnce.registry o).result := by
  rw [RecordOf.registry, RecordOf.registry, ho]
  refine Outcome.bind_congr rfl fun _ hcheck => Outcome.bind_congr ?_ fun _ _ => rfl
  have hname := Registry.checkVariantName_ok.mp hcheck
  exact Registry.declareAll_once (Registry.isFresh_ofCanonical r.name)
    (List.forall_mem_singleton.mpr hname)

theorem derive_once (ho : o.strictVariants = false) :
    (r.derive o).result = (r.declaredOnce.derive o).result := by
  rw [RecordOf.derive, RecordOf.derive]
  exact Outcome.bind_congr rfl fun _ _ => Outcome.bind_congr (registry_once ho) fun _ _ => rfl

/-- The canonical variant comes first, marked and decorated, and no other is marked. -/
theorem Derives.variants_eq (h : Derives r o R ss F) : ∃ V rest, F.variants = V :: rest ∧
    V.name = r.name ∧ V.isCanonical = true ∧ V.decorations = r.decorations r.name ∧
      ∀ W ∈ rest, W.isCanonical = false := by
  have hnames : F.variants.map VariantOf.name = r.name :: firstOccurrences [r.name] r.variants := by
    rw [h.map_name, registry_names h.registry, firstOccurrences_cons_of_notMem List.not_mem_nil]
  obtain ⟨V, rest, hF, hV, hrest⟩ := List.map_eq_cons_iff.mp hnames
  have hmem : V ∈ F.variants := hF ▸ List.mem_cons_self
  refine ⟨V, rest, hF, hV, ?_, ?_, fun W hW => ?_⟩
  · rw [h.isCanonical_eq hmem, hV, beq_self_eq_true]
  · rw [h.decorations_eq hmem, hV]
  · have hne : W.name ≠ r.name := by
      have hw : W.name ∈ firstOccurrences [r.name] r.variants := hrest ▸ List.mem_map_of_mem hW
      exact fun he => (mem_firstOccurrences.mp hw).2 (he ▸ List.mem_singleton_self _)
    rw [h.isCanonical_eq (hF ▸ List.mem_cons_of_mem V hW)]
    exact beq_eq_false_iff_ne.mpr hne

/-- **Variants that are declared again do no harm** where they are not refused: the record has the
family, or fails with the error, of the record that declares each variant once. The canonical variant
stays in front, marked and with all its decorations. -/
theorem redeclarations_harmless (ho : o.strictVariants = false) :
    (r.derive o).result = (r.declaredOnce.derive o).result ∧
      ∀ F, (r.derive o).result = .ok F → ∃ V rest, F.variants = V :: rest ∧ V.name = r.name ∧
        V.isCanonical = true ∧ V.decorations = r.decorations r.name ∧
          ∀ W ∈ rest, W.isCanonical = false := by
  refine ⟨derive_once ho, fun F hF => ?_⟩
  obtain ⟨R, ss, h⟩ := derive_ok.mp hF
  exact h.variants_eq

end Derivation

/-- An article that is declared again after its variants, and decorated in two ways. -/
def decoratedArticle : Record :=
  { redeclaredArticle with
    annotations := "@dataclass(slots=True)" :: "attr_for('Article', '@final')" ::
      sampleArticle.annotations }

theorem redeclarations_harmless_article : ({} : Options).strictVariants = false ∧
    decoratedArticle.declaredOnce.variants = ["Draft", "ArticleCard"] ∧
    (decoratedArticle.derive {}).result = (decoratedArticle.declaredOnce.derive {}).result ∧
    ∃ F V rest, (decoratedArticle.derive {}).result = .ok F ∧ F.variants = V :: rest ∧
      V.name = "Article" ∧ V.isCanonical = true ∧
        V.decorations = ["@dataclass(slots=True)", "@final"] ∧
          ∀ W ∈ rest, W.isCanonical = false := by
  obtain ⟨hsame, hfirst⟩ := redeclarations_harmless (r := decoratedArticle) (o := {}) rfl
  have hyields : (decoratedArticle.derive {}).yields (fun _ => true) = true := by decide +kernel
  obtain ⟨F, hF, _⟩ := Outcome.yields_iff.mp hyields
  obtain ⟨V, rest, hvariants, hname, hmarked, hdecorations, hothers⟩ := hfirst F hF
  have hlisted : decoratedArticle.decorations "Article" = ["@dataclass(slots=True)", "@final"] := by
    decide +kernel
  exact ⟨rfl, by decide +kernel, hsame, F, V, rest, hF, hvariants, hname, hmarked,
    hdecorations.trans hlisted, hothers⟩

end RecordFamily
