import Mathlib.Data.List.Forall2
import RecordFamily.Proofs.Validity

/-!
# Records without one of their fields

A field that is removed is gone from the variants, the interfaces, the edges and the fallbacks, and
all else stays where it is. Conversions get easier: none that takes no arguments is lost, and none
with arguments is added.

* `RecordOf.without`, `erase_eq_filter_name`: a record without a field, which is known by its name;
* `VariantOf.Loses`, `EdgeOf.without`: variants and edges before and after a field is gone;
* `missingFields_loses`, `between_loses`, `edgesOf_loses`: the difference of two variants that lose
  a field;
* `Derives.without`: the derivation of a record without a field;
* `FamilyOf.IsWithout`, **`derive_without`**: the family of a record without one of its fields.
-/

namespace RecordFamily

open List

/-- The record without a field. -/
def RecordOf.without (r : Record) (f : Field) : Record := { r with fields := r.fields.erase f }

/-- A field is removed by its name where names are distinct. -/
theorem erase_eq_filter_name {fs : List Field} (h : (fs.map FieldOf.name).Nodup) {f : Field}
    (hf : f ∈ fs) : fs.erase f = fs.filter fun g => g.name != f.name := by
  rw [h.of_map.erase_eq_filter]
  refine List.filter_congr fun g hg => ?_
  have hiff : g = f ↔ g.name = f.name :=
    ⟨congrArg FieldOf.name, List.inj_on_of_nodup_map h hg hf⟩
  rw [Bool.eq_iff_iff, bne_iff_ne, bne_iff_ne, ne_eq, hiff]

/-! ## Variants that lose a field -/

/-- The second variant is the first one without the field of this name. -/
structure VariantOf.Loses (field : String) (V V' : Variant) : Prop where
  name : V'.name = V.name
  fields : V'.fields = V.fields.filter fun f => f.name != field

/-- The edge without the field of this name. -/
def EdgeOf.without (field : String) (e : Edge) : Edge :=
  { e with
    missing := e.missing.filter fun n => n != field
    missingWithDefault := e.missingWithDefault.filter fun n => n != field
    missingWithoutDefault := e.missingWithoutDefault.filter fun n => n != field
    common := e.common.filter fun n => n != field }

section Loses

variable {field : String} {S S' T T' : Variant} {vs vs' : List Variant}

theorem hasField_loses (hS : S.Loses field S') {f : Field} (hf : f.name ≠ field) :
    S'.hasField f.name = S.hasField f.name := by
  rw [Bool.eq_iff_iff, hasField_iff, hasField_iff, VariantOf.fieldNames, VariantOf.fieldNames,
    hS.fields, List.mem_map, List.mem_map]
  constructor
  · rintro ⟨g, hg, hname⟩
    exact ⟨g, List.mem_of_mem_filter hg, hname⟩
  · rintro ⟨g, hg, hname⟩
    have hkept : (g.name != field) = true := bne_iff_ne.mpr (hname ▸ hf)
    exact ⟨g, List.mem_filter.mpr ⟨hg, hkept⟩, hname⟩

theorem filter_hasField_loses (p : Bool → Bool) (hS : S.Loses field S') (hT : T.Loses field T') :
    (T'.fields.filter fun f => p (S'.hasField f.name)) =
      (T.fields.filter fun f => p (S.hasField f.name)).filter fun f => f.name != field := by
  rw [hT.fields, List.filter_comm, List.filter_filter, List.filter_filter]
  refine List.filter_congr fun f _ => ?_
  by_cases hf : f.name = field
  · simp [hf]
  · rw [hasField_loses hS hf, Bool.and_comm]

theorem missingFields_loses (hS : S.Loses field S') (hT : T.Loses field T') :
    missingFields T' S' = (missingFields T S).filter fun f => f.name != field :=
  filter_hasField_loses Bool.not hS hT

theorem commonFields_loses (hS : S.Loses field S') (hT : T.Loses field T') :
    commonFields T' S' = (commonFields T S).filter fun f => f.name != field :=
  filter_hasField_loses id hS hT

/-- **The difference of two variants** that lose a field. -/
theorem between_loses (hS : S.Loses field S') (hT : T.Loses field T') :
    EdgeOf.between S' T' = (EdgeOf.between S T).without field := by
  have hnames : ∀ fs : List Field, (fs.filter fun f => f.name != field).map FieldOf.name =
      (fs.map FieldOf.name).filter fun n => n != field := by
    intro fs
    rw [List.filter_map]
    rfl
  simp only [EdgeOf.between, EdgeOf.without, missingFields_loses hS hT, commonFields_loses hS hT,
    hS.name, hT.name, ← hnames, List.filter_comm]

theorem orderedPairs_loses (h : Forall₂ (VariantOf.Loses field) vs vs') :
    Forall₂ (fun p p' => p.1.Loses field p'.1 ∧ p.2.Loses field p'.2) (orderedPairs vs)
      (orderedPairs vs') := by
  refine List.rel_flatMap h fun S S' hS => ?_
  refine List.rel_map (fun T T' hT => ⟨hS, hT⟩) (List.rel_filter (fun T T' hT => ?_) h)
  change (!S.name == T.name) = true ↔ (!S'.name == T'.name) = true
  rw [hS.name, hT.name]

theorem edgesOf_loses (h : Forall₂ (VariantOf.Loses field) vs vs') :
    edgesOf vs' = (edgesOf vs).map (EdgeOf.without field) := by
  rw [edgesOf, edgesOf, List.map_map]
  exact map_eq_of_forall₂ ((orderedPairs_loses h).imp fun _ _ hp => between_loses hp.1 hp.2)

theorem serves_fromSource_loses (hS : S.Loses field S') (hT : T.Loses field T')
    (h : ConversionKind.serves .fromSource (missingFields T S) = true) :
    ConversionKind.serves .fromSource (missingFields T' S') = true := by
  rw [ConversionKind.serves, List.all_eq_true] at h ⊢
  rw [missingFields_loses hS hT]
  exact fun f hf => h f (List.mem_of_mem_filter hf)

theorem serves_parameterized_loses (hS : S.Loses field S') (hT : T.Loses field T')
    {k : ConversionKind} (hk : k ≠ .fromSource) (h : k.serves (missingFields T' S') = true) :
    k.serves (missingFields T S) = true := by
  obtain ⟨f, hf, hlacked⟩ := (serves_parameterized hk).mp h
  have hmem := mem_missingFields.mpr ⟨hf, hlacked⟩
  rw [missingFields_loses hS hT] at hmem
  exact (serves_parameterized hk).mpr ⟨f, mem_missingFields.mp (List.mem_of_mem_filter hmem)⟩

end Loses

/-! ## The derivation without a field -/

section Derivation

variable {r : Record} {o : Options} {R : Registry String} {ss : List (Share String)} {F F' : Family}
  {f : Field}

/-- The shares without that of the field of this name. -/
def sharesWithout (field : String) (ss : List (Share String)) : List (Share String) :=
  ss.filter fun s => s.field.name != field

/-- **The derivation of the record without a field** has the same registry, and the other shares. -/
theorem Derives.without (h : Derives r o R ss F) (ho : o.strictNames = false) (hf : f ∈ r.fields) :
    ∃ F', Derives (r.without f) o R (sharesWithout f.name ss) F' := by
  obtain ⟨hvalid, hnodup⟩ := checkFields_ok.mp h.checked
  have hfields : (r.without f).fields = r.fields.filter fun g => g.name != f.name :=
    erase_eq_filter_name hnodup hf
  have hchecked : checkFields (r.without f) = .ok () := by
    refine checkFields_ok.mpr ⟨fun g hg => hvalid g (List.mem_of_mem_erase hg), ?_⟩
    exact hnodup.sublist ((List.erase_sublist).map _)
  have hshares : Forall₂ (Share.IsOf R.names r.name) (r.without f).fields
      (sharesWithout f.name ss) := by
    rw [hfields]
    refine List.rel_filter (fun g s hs => ?_) h.shares
    change (g.name != f.name) = true ↔ (s.field.name != f.name) = true
    rw [hs.2]
    rfl
  exact exists_derives hchecked h.registry (shares_ok.mpr hshares) ho

theorem Derives.loses (h : Derives r o R ss F)
    (h' : Derives (r.without f) o R (sharesWithout f.name ss) F') :
    Forall₂ (VariantOf.Loses f.name) F.variants F'.variants := by
  rw [h.variants, h'.variants, List.forall₂_map_left_iff, List.forall₂_map_right_iff,
    List.forall₂_same]
  intro v hv
  obtain ⟨hnone, _, _⟩ := (registry_undistributed h.registry).1.blank v hv
  refine ⟨rfl, ?_⟩
  simp only [VariantOf.receive, hnone, List.nil_append, sharesWithout]
  rw [List.filter_map, List.filter_comm]
  rfl

end Derivation

/-! ## Families without a field -/

/-- **The family is the other one without the field of this name.** The field is gone from the lists
of fields, and all else is where it was; there are all conversions without arguments, and none with
arguments is new. -/
structure FamilyOf.IsWithout (F' F : Family) (field : String) : Prop where
  variants : F'.variants.map (fun V => (V.name, V.fields)) =
    F.variants.map fun V => (V.name, V.fields.filter fun f => f.name != field)
  interfaces : F'.interfaces = F.interfaces.filter fun i => i.fieldName != field
  fallbacks : F'.fallbacks = F.fallbacks.filter fun e => e.1 != field
  edges : F'.edges = F.edges.map (EdgeOf.without field)
  kept : ∀ c ∈ F.conversions, c.kind = .fromSource → ∃ c' ∈ F'.conversions,
    c'.kind = .fromSource ∧ c'.source = c.source ∧ c'.target = c.target
  not_new : ∀ c' ∈ F'.conversions, c'.kind = .intoTarget ∨ c'.kind = .intoDefaults →
    ∃ c ∈ F.conversions, c.kind = c'.kind ∧ c.source = c'.source ∧ c.target = c'.target

/-- **A record without one of its fields has the family without that field.** -/
theorem derive_without {r : Record} {o : Options} {F : Family} {f : Field}
    (h : (r.derive o).result = .ok F) (ho : o.strictNames = false) (hf : f ∈ r.fields) :
    ∃ F', ((r.without f).derive o).result = .ok F' ∧ F'.IsWithout F f.name := by
  obtain ⟨R, ss, h⟩ := derive_ok.mp h
  obtain ⟨F', h'⟩ := h.without ho hf
  -- Variants correspond in order, so that a conversion is found again between those that its own
  -- variants have become.
  have hlost := h.loses h'
  refine ⟨F', derive_ok.mpr ⟨R, _, h'⟩, ?_, ?_, ?_, ?_, ?_, ?_⟩
  · refine map_eq_of_forall₂ (hlost.imp fun V V' hV => ?_)
    rw [hV.name, hV.fields]
  · rw [h.interfaces, h'.interfaces, sharesWithout, List.filter_map]
    rfl
  · have hkept : (sharesWithout f.name ss).map Share.field =
        (ss.map Share.field).filter fun g => g.name != f.name := by
      rw [List.filter_map]
      rfl
    rw [h.fallbacks, h'.fallbacks, hkept, List.filter_comm]
    exact (List.filter_map (p := fun e : String × String => e.1 != f.name)).symm
  · rw [h.edges, h'.edges, edgesOf_loses hlost]
  · intro c hc hk
    obtain ⟨S, hS, T, hT, hne, k, hserves, rfl⟩ := h.mem_conversions.mp hc
    obtain rfl : k = .fromSource := hk
    obtain ⟨S', hS', hSS'⟩ := exists_of_forall₂ hlost hS
    obtain ⟨T', hT', hTT'⟩ := exists_of_forall₂ hlost hT
    have hne' : S'.name ≠ T'.name := by rwa [hSS'.name, hTT'.name]
    exact ⟨_, h'.mem_conversions.mpr ⟨S', hS', T', hT', hne', _,
      serves_fromSource_loses hSS' hTT' hserves, rfl⟩, rfl, hSS'.name, hTT'.name⟩
  · intro c' hc' hk
    obtain ⟨S', hS', T', hT', hne', k, hserves, rfl⟩ := h'.mem_conversions.mp hc'
    have hk : k ≠ .fromSource := by
      rintro rfl
      simp [VariantOf.conversion] at hk
    have hfound : Forall₂ (flip (VariantOf.Loses f.name)) F'.variants F.variants := hlost.flip
    obtain ⟨S, hS, hSS'⟩ := exists_of_forall₂ hfound hS'
    obtain ⟨T, hT, hTT'⟩ := exists_of_forall₂ hfound hT'
    have hne : S.name ≠ T.name := by rwa [← hSS'.name, ← hTT'.name]
    exact ⟨_, h.mem_conversions.mpr ⟨S, hS, T, hT, hne, k,
      serves_parameterized_loses hSS' hTT' hk hserves, rfl⟩, rfl, hSS'.name.symm, hTT'.name.symm⟩

/-- Without the body, which it alone lacks and has to be given, a card becomes an article by itself.
-/
theorem derive_without_body : ∃ F F' f, (sampleArticle.derive {}).result = .ok F ∧
    ({} : Options).strictNames = false ∧ f ∈ sampleArticle.fields ∧ f.name = "body" ∧
      F.conversions.length = 10 ∧ ((sampleArticle.without f).derive {}).result = .ok F' ∧
        F'.IsWithout F f.name := by
  have hyields : (sampleArticle.derive {}).yields (fun F => F.conversions.length = 10) = true := by
    decide +kernel
  obtain ⟨F, hF, hlength⟩ := Outcome.yields_iff.mp hyields
  have hbody : sampleField "body" "str" ["not_in(\"ArticleCard\")"] ∈ sampleArticle.fields := by
    decide
  obtain ⟨F', hF', hwithout⟩ := derive_without hF rfl hbody
  exact ⟨F, F', _, hF, rfl, hbody, rfl, of_decide_eq_true hlength, hF', hwithout⟩

end RecordFamily
