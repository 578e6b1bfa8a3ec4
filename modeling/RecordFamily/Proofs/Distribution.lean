import RecordFamily.Proofs.Derivation
import RecordFamily.Sample

/-!
# Who owns which field

The fields of a derived family are handed out as their rules say.

* `Derives.fields_eq`, `Derives.names_nodup`, `Derives.fieldNames_nodup`: what a variant owns, and
  that names are distinct;
* `Derives.field_eq`: a field is the same in every variant that owns it;
* `VariantOf.Receives`, `InterfaceOf.Splits`, `FamilyOf.Distributes`: variants with the fields of their
  rules, interfaces that tell owners from others, and a family of such variants and interfaces;
* **`distribution_exact`**: every derived family is one.
-/

namespace RecordFamily

open List

theorem hasField_iff {V : Variant} {name : String} :
    V.hasField name = true ↔ name ∈ V.fieldNames := by
  rw [VariantOf.hasField, VariantOf.fieldNames, List.any_eq_true, List.mem_map]
  simp only [beq_iff_eq]

theorem hasField_eq (V : Variant) (name : String) : V.hasField name = V.fieldNames.contains name := by
  rw [Bool.eq_iff_iff, hasField_iff, List.contains_iff_mem]

/-! ## The parts of a derived family -/

namespace Derives

variable {r : Record} {o : Options} {R : Registry String} {ss : List (Share String)} {F : Family}
  {V W : Variant}

theorem mem_variants (h : Derives r o R ss F) :
    V ∈ F.variants ↔ ∃ v ∈ R.variants, v.receive ss = V := by
  rw [h.variants, List.mem_map]

theorem map_name (h : Derives r o R ss F) : F.variants.map VariantOf.name = R.names := by
  rw [h.variants, List.map_map]
  rfl

theorem names_nodup (h : Derives r o R ss F) : (F.variants.map VariantOf.name).Nodup := by
  rw [h.map_name]
  exact registry_nodup h.registry

theorem isValidName (h : Derives r o R ss F) (hV : V ∈ F.variants) :
    isValidName V.name = true := by
  refine registry_isNamed h.registry V.name ?_
  rw [← h.map_name]
  exact List.mem_map_of_mem hV

/-- A variant is known by its name. -/
theorem variant_eq (h : Derives r o R ss F) (hV : V ∈ F.variants) (hW : W ∈ F.variants)
    (hn : V.name = W.name) : V = W :=
  List.inj_on_of_nodup_map h.names_nodup hV hW hn

theorem isCanonical_eq (h : Derives r o R ss F) (hV : V ∈ F.variants) :
    V.isCanonical = (V.name == r.name) := by
  obtain ⟨v, hv, rfl⟩ := h.mem_variants.mp hV
  obtain ⟨hu, hc⟩ := registry_undistributed h.registry
  rw [← hc]
  exact hu.marked v hv

/-- What a variant has comes out of the shares: it had nothing before. -/
theorem received (h : Derives r o R ss F) (hV : V ∈ F.variants) :
    V.fields = (ss.filter fun s => s.isFor V.name).map Share.field ∧
      V.capabilities = (ss.filter fun s => s.isFor V.name).map Share.capability ∧
        V.absences = (ss.filter fun s => !s.isFor V.name).map Share.absence := by
  obtain ⟨v, hv, rfl⟩ := h.mem_variants.mp hV
  obtain ⟨hf, hc, ha⟩ := (registry_undistributed h.registry).1.blank v hv
  simp only [VariantOf.receive, hf, hc, ha, List.nil_append, and_self]

/-- **A variant owns the fields whose shares are for it.** -/
theorem fields_eq (h : Derives r o R ss F) (hV : V ∈ F.variants) :
    V.fields = (ss.filter fun s => s.isFor V.name).map Share.field :=
  (h.received hV).1

theorem capabilities_eq (h : Derives r o R ss F) (hV : V ∈ F.variants) :
    V.capabilities = (ss.filter fun s => s.isFor V.name).map Share.capability :=
  (h.received hV).2.1

theorem absences_eq (h : Derives r o R ss F) (hV : V ∈ F.variants) :
    V.absences = (ss.filter fun s => !s.isFor V.name).map Share.absence :=
  (h.received hV).2.2

theorem shareNames_nodup (h : Derives r o R ss F) : (ss.map fun s => s.field.name).Nodup := by
  rw [Share.map_name h.shares]
  exact (checkFields_ok.mp h.checked).2

theorem mem_fields (h : Derives r o R ss F) (hV : V ∈ F.variants) {f : Field} :
    f ∈ V.fields ↔ ∃ s ∈ ss, s.isFor V.name = true ∧ s.field = f := by
  rw [h.fields_eq hV, List.mem_map]
  simp only [List.mem_filter, and_assoc]

/-- Variants share the fields of the record, whose names were checked. -/
theorem isValidName_share (h : Derives r o R ss F) {s : Share String} (hs : s ∈ ss) :
    RecordFamily.isValidName s.field.name = true := by
  have hname : s.field.name ∈ r.fields.map FieldOf.name := by
    rw [← Share.map_name h.shares]
    exact List.mem_map_of_mem hs
  obtain ⟨f, hf, he⟩ := List.mem_map.mp hname
  rw [← he]
  exact ((checkFields_ok.mp h.checked).1 f hf).2

theorem isValidName_field (h : Derives r o R ss F) (hV : V ∈ F.variants) {f : Field}
    (hf : f ∈ V.fields) : RecordFamily.isValidName f.name = true := by
  obtain ⟨s, hs, _, rfl⟩ := (h.mem_fields hV).mp hf
  exact h.isValidName_share hs

/-- The fields of a variant stand in the order of the record. -/
theorem fieldNames_sublist (h : Derives r o R ss F) (hV : V ∈ F.variants) :
    V.fieldNames <+ r.fields.map FieldOf.name := by
  rw [← Share.map_name h.shares, VariantOf.fieldNames, h.fields_eq hV, List.map_map]
  exact List.filter_sublist.map _

theorem fieldNames_nodup (h : Derives r o R ss F) (hV : V ∈ F.variants) : V.fieldNames.Nodup :=
  (h.fieldNames_sublist hV).nodup (checkFields_ok.mp h.checked).2

/-- **A field is the same in all variants that own it**, with its default and its annotations. -/
theorem field_eq (h : Derives r o R ss F) (hV : V ∈ F.variants) (hW : W ∈ F.variants) {f g : Field}
    (hf : f ∈ V.fields) (hg : g ∈ W.fields) (hn : f.name = g.name) : f = g := by
  obtain ⟨s, hs, _, rfl⟩ := (h.mem_fields hV).mp hf
  obtain ⟨t, ht, _, rfl⟩ := (h.mem_fields hW).mp hg
  rw [List.inj_on_of_nodup_map h.shareNames_nodup hs ht hn]

theorem mem_fieldNames (h : Derives r o R ss F) (hV : V ∈ F.variants) {s : Share String}
    (hs : s ∈ ss) : s.field.name ∈ V.fieldNames ↔ s.isFor V.name = true := by
  rw [VariantOf.fieldNames, List.mem_map]
  constructor
  · rintro ⟨f, hf, hn⟩
    obtain ⟨t, ht, hfor, rfl⟩ := (h.mem_fields hV).mp hf
    rwa [← List.inj_on_of_nodup_map h.shareNames_nodup ht hs hn]
  · intro hfor
    exact ⟨s.field, (h.mem_fields hV).mpr ⟨s, hs, hfor, rfl⟩, rfl⟩

/-- Every field with a default has a fallback, wherever it is owned. -/
theorem mem_fallbacks (h : Derives r o R ss F) (hV : V ∈ F.variants) {f : Field}
    (hf : f ∈ V.fields) (hd : f.default = true) : f.name ∈ F.fallbacks.map Prod.fst := by
  obtain ⟨s, hs, _, rfl⟩ := (h.mem_fields hV).mp hf
  rw [h.fallbacks, List.map_map]
  exact List.mem_map.mpr
    ⟨s.field, List.mem_filter.mpr ⟨List.mem_map.mpr ⟨s, hs, rfl⟩, hd⟩, rfl⟩

end Derives

/-! ## Visibility as declared -/

/-- The variant has its part of the fields with these rules: those whose rules name it, as their
rules left them, their interfaces, and the markers of all others. -/
structure VariantOf.Receives (V : Variant) (ruled : List (Field × FieldRule String)) : Prop where
  fields : V.fields = (ruled.filter fun p => p.2.targets.contains V.name).map fun p => p.1.ruled p.2
  capabilities : V.capabilities = V.fields.map fun f => capabilityName f.name
  absences : V.absences = (ruled.filter fun p => !p.2.targets.contains V.name).map fun p =>
    absenceName p.1.name

/-- The interface is that of the field. -/
structure InterfaceOf.IsOf (f : Field) (i : Interface) : Prop where
  fieldName : i.fieldName = f.name
  fieldType : i.fieldType = f.type
  name : i.name = capabilityName f.name
  absenceName : i.absenceName = RecordFamily.absenceName f.name
  getter : i.getter = getterName f.name
  setter : i.setter = setterName f.name

/-- The interface tells the variants that own its field from the others: each variant is named once
and in order, and among the owners exactly when it has the field. -/
structure InterfaceOf.Splits (i : Interface) (variants : List Variant) : Prop where
  owners : i.implementors <+ variants.map VariantOf.name
  others : i.nonImplementors <+ variants.map VariantOf.name
  disjoint : i.implementors.Disjoint i.nonImplementors
  all : i.implementors ++ i.nonImplementors ~ variants.map VariantOf.name
  owner_iff : ∀ V ∈ variants, V.name ∈ i.implementors ↔ i.fieldName ∈ V.fieldNames

/-- **The fields of the family are distributed as the record declares.** The canonical variant comes
first and the others follow where they are declared first; each variant has the fields whose rules
name it, and each field has an interface that tells its owners. -/
structure FamilyOf.Distributes (F : Family) (r : Record) : Prop where
  names : F.variants.map VariantOf.name = firstOccurrences [] (r.name :: r.variants)
  names_nodup : (F.variants.map VariantOf.name).Nodup
  canonical : ∀ V ∈ F.variants, V.isCanonical = (V.name == r.name)
  received : ∃ rules,
    Forall₂ (fun f rule => f.rule (F.variants.map VariantOf.name) r.name = .ok rule) r.fields rules ∧
      ∀ V ∈ F.variants, V.Receives (r.fields.zip rules)
  interfaces : Forall₂ InterfaceOf.IsOf r.fields F.interfaces
  split : ∀ i ∈ F.interfaces, i.Splits F.variants

section Visibility

variable {r : Record} {o : Options} {R : Registry String} {ss : List (Share String)} {F : Family}

theorem Share.eq_map_zip {declared : List String} {canonical : String} {fs : List Field}
    (h : Forall₂ (Share.IsOf declared canonical) fs ss) :
    ss = (fs.zip (ss.map Share.rule)).map fun p => ⟨p.1.ruled p.2, p.2⟩ := by
  induction h with
  | nil => rfl
  | cons hfs _ ih =>
    rw [List.map_cons, List.zip_cons_cons, List.map_cons, ← ih, ← hfs.2]

theorem Derives.receives (h : Derives r o R ss F) {V : Variant} (hV : V ∈ F.variants) :
    V.Receives (r.fields.zip (ss.map Share.rule)) where
  fields := by
    conv_lhs => rw [h.fields_eq hV, Share.eq_map_zip h.shares]
    rw [List.filter_map, List.map_map]
    rfl
  capabilities := by
    rw [h.fields_eq hV, h.capabilities_eq hV, List.map_map]
    rfl
  absences := by
    conv_lhs => rw [h.absences_eq hV, Share.eq_map_zip h.shares]
    rw [List.filter_map, List.map_map]
    rfl

theorem Derives.interface_isOf (h : Derives r o R ss F) :
    Forall₂ InterfaceOf.IsOf r.fields F.interfaces := by
  rw [h.interfaces, List.forall₂_map_right_iff]
  refine h.shares.imp fun f s hs => ?_
  have hn : s.field.name = f.name := by rw [hs.2]; rfl
  have ht : s.field.type = f.type := by rw [hs.2]; rfl
  exact ⟨hn, ht, congrArg capabilityName hn, congrArg absenceName hn, congrArg getterName hn,
    congrArg setterName hn⟩

theorem Derives.interface_splits (h : Derives r o R ss F) {i : Interface}
    (hi : i ∈ F.interfaces) : i.Splits F.variants := by
  rw [h.interfaces] at hi
  obtain ⟨s, hs, rfl⟩ := List.mem_map.mp hi
  have hnames := h.map_name
  constructor
  · rw [hnames]
    exact List.filter_sublist
  · rw [hnames]
    exact List.filter_sublist
  · intro v hv hv'
    have h₁ : s.isFor v = true := (List.mem_filter.mp hv).2
    have h₂ : (!s.isFor v) = true := (List.mem_filter.mp hv').2
    rw [h₁] at h₂
    exact absurd h₂ (by decide)
  · rw [hnames]
    exact List.filter_append_perm _ _
  · intro V hV
    change V.name ∈ R.names.filter s.isFor ↔ s.field.name ∈ V.fieldNames
    rw [h.mem_fieldNames hV hs, List.mem_filter, ← hnames]
    exact and_iff_right (List.mem_map_of_mem hV)

/-- **Fields are distributed as declared.** -/
theorem distribution_exact (h : (r.derive o).result = .ok F) : F.Distributes r := by
  obtain ⟨R, ss, h⟩ := derive_ok.mp h
  refine ⟨?_, h.names_nodup, fun V hV => h.isCanonical_eq hV,
    ⟨ss.map Share.rule, ?_, fun V hV => h.receives hV⟩, h.interface_isOf,
    fun i hi => h.interface_splits hi⟩
  · rw [h.map_name, registry_names h.registry]
  · rw [h.map_name, List.forall₂_map_right_iff]
    exact h.shares.imp fun _ _ hs => hs.1

end Visibility

/-- An article whose variants are declared again, and a field that no variant owns. -/
def redeclaredArticle : Record where
  name := "Article"
  fields := sampleArticle.fields ++
    [sampleField "draft_of" "str" ["not_in('Article', 'Draft', 'ArticleCard')", "default"]]
  annotations := sampleArticle.annotations
  variants := ["Draft", "ArticleCard", "Draft", "Article"]
  docstring := none
  imports := []

theorem distribution_exact_redeclared : ∃ F, (redeclaredArticle.derive {}).result = .ok F ∧
    F.variants.map VariantOf.name = ["Article", "Draft", "ArticleCard"] ∧
      F.Distributes redeclaredArticle := by
  have hyields : (redeclaredArticle.derive {}).yields (fun _ => true) = true := by decide +kernel
  obtain ⟨F, hF, _⟩ := Outcome.yields_iff.mp hyields
  have h := distribution_exact hF
  exact ⟨F, hF, h.names.trans (by decide), h⟩

end RecordFamily
