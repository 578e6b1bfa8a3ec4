import Mathlib.Data.List.Perm.Basic
import RecordFamily.Proofs.Distribution

/-!
# Conversions between the variants of a family

A conversion is settled by its source, its target and its kind. It copies what both own, and the kind
tells which of the missing fields are filled by their fallbacks and which by arguments.

* `ConversionKind.serves`, `ConversionKind.fallsBack`: the pairs that have a conversion of a kind, and
  the missing fields that it fills without an argument;
* `VariantOf.conversion`, `VariantOf.conversionsTo`: the conversion of a kind, and all of a pair;
* **`conversionsBetween_eq`**, **`Derives.conversions_eq`**: these are the conversions of a derivation;
* `succeeds_conversionsBetween`: what the synthesis of conversions looks up is there.
-/

namespace RecordFamily

open List

/-! ## Missing and common fields -/

section Fields

variable {S T : Variant} {f : Field}

theorem mem_missingFields : f ∈ missingFields T S ↔ f ∈ T.fields ∧ f.name ∉ S.fieldNames := by
  rw [missingFields, List.mem_filter, Bool.not_eq_true', Bool.eq_false_iff, ne_eq, hasField_iff]

theorem mem_commonFields : f ∈ commonFields T S ↔ f ∈ T.fields ∧ f.name ∈ S.fieldNames := by
  rw [commonFields, List.mem_filter, hasField_iff]

/-- Every field of the target is common or missing. -/
theorem common_append_missing_perm : commonFields T S ++ missingFields T S ~ T.fields :=
  List.filter_append_perm _ _

end Fields

/-! ## Kinds -/

namespace ConversionKind

/-- All kinds, in the order in which they are synthesized. -/
def all : List ConversionKind := [fromSource, intoTarget, intoDefaults]

theorem mem_all (k : ConversionKind) : k ∈ all := by
  cases k <;> decide

/-- A missing field is filled by its fallback, without an argument. -/
def fallsBack : ConversionKind → Field → Bool
  | intoTarget, _ => false
  | fromSource, f | intoDefaults, f => f.default

theorem fallsBack_iff {k : ConversionKind} {f : Field} :
    k.fallsBack f = true ↔ f.default = true ∧ k ≠ .intoTarget := by
  cases k <;> simp [fallsBack]

/-- A pair with these missing fields has a conversion of the kind. -/
def serves : ConversionKind → List Field → Bool
  | fromSource, missing => missing.all FieldOf.default
  | intoTarget, missing | intoDefaults, missing => !missing.isEmpty

end ConversionKind

namespace VariantOf

/-- The conversion of a kind from a source to a target. -/
def conversion (S T : Variant) (k : ConversionKind) : Conversion where
  kind := k
  source := S.name
  target := T.name
  name := match k with
    | .fromSource => fromName S.name
    | .intoTarget => intoName T.name
    | .intoDefaults => intoDefaultsName T.name
  owner := match k with
    | .fromSource => T.name
    | .intoTarget | .intoDefaults => S.name
  arguments := (missingFields T S).filter fun f => !k.fallsBack f
  copied := (commonFields T S).map FieldOf.name
  defaulted := ((missingFields T S).filter k.fallsBack).map FieldOf.name
  assigned := ((missingFields T S).filter fun f => !k.fallsBack f).map FieldOf.name

/-- The conversions from a source to a target. -/
def conversionsTo (S T : Variant) : List Conversion :=
  (ConversionKind.all.filter fun k => k.serves (missingFields T S)).map (S.conversion T)

end VariantOf

theorem mem_conversionsTo {S T : Variant} {c : Conversion} : c ∈ S.conversionsTo T ↔
    ∃ k : ConversionKind, k.serves (missingFields T S) = true ∧ S.conversion T k = c := by
  rw [VariantOf.conversionsTo, List.mem_map]
  simp only [List.mem_filter, ConversionKind.mem_all, true_and]

section Served

variable {S T : Variant}

theorem serves_fromSource : ConversionKind.serves .fromSource (missingFields T S) = true ↔
    ∀ f ∈ T.fields, f.name ∉ S.fieldNames → f.default = true := by
  simp only [ConversionKind.serves, List.all_eq_true, mem_missingFields, and_imp]

theorem serves_parameterized {k : ConversionKind} (hk : k ≠ .fromSource) :
    k.serves (missingFields T S) = true ↔ ∃ f ∈ T.fields, f.name ∉ S.fieldNames := by
  have h : k.serves (missingFields T S) = !(missingFields T S).isEmpty := by
    cases k
    · exact absurd rfl hk
    · rfl
    · rfl
  rw [h, Bool.not_eq_true', List.isEmpty_eq_false_iff_exists_mem]
  simp only [mem_missingFields]

theorem requiredFields_eq_nil
    (h : ConversionKind.serves .fromSource (missingFields T S) = true) :
    (missingFields T S).filter (fun f => !f.default) = [] := by
  have hall : ∀ f ∈ missingFields T S, f.default = true := List.all_eq_true.mp h
  exact List.filter_eq_nil_iff.mpr fun f hf => by simp [hall f hf]

theorem assigned_fromSource
    (h : ConversionKind.serves .fromSource (missingFields T S) = true) :
    (S.conversion T .fromSource).assigned = [] :=
  congrArg (List.map FieldOf.name) (requiredFields_eq_nil h)

theorem isTotal_between : (EdgeOf.between S T).isTotal =
    ConversionKind.serves .fromSource (missingFields T S) := by
  rw [Bool.eq_iff_iff, EdgeOf.isTotal, List.isEmpty_iff]
  simp [EdgeOf.between, ConversionKind.serves]

end Served

/-! ## The synthesized conversions -/

section Synthesis

variable {S T : Variant}

theorem argument_eq (hT : T.fieldNames.Nodup) {f : Field} (hf : f ∈ T.fields) :
    EdgeOf.argument T.fields f.name = .ok f := by
  have hr : (T.fields.reverse.map FieldOf.name).Nodup := by
    rw [List.map_reverse, List.nodup_reverse]
    exact hT
  rw [EdgeOf.argument, requireKeys_string, find?_key_eq hr (List.mem_reverse.mpr hf)]
  rfl

theorem arguments_eq (hT : T.fieldNames.Nodup) {fs : List Field} (hfs : ∀ f ∈ fs, f ∈ T.fields) :
    (fs.map FieldOf.name).mapM (EdgeOf.argument T.fields) = .ok fs := by
  rw [mapM_eq_ok, List.forall₂_map_left_iff, List.forall₂_same]
  exact fun f hf => argument_eq hT (hfs f hf)

theorem direct_eq : (EdgeOf.between S T).direct =
    .ok (if ConversionKind.serves .fromSource (missingFields T S) then
      [S.conversion T .fromSource] else []) := by
  rw [EdgeOf.direct, isTotal_between]
  split_ifs with h
  · rw [requireLetters_string]
    simp only [VariantOf.conversion, ConversionKind.fallsBack, requiredFields_eq_nil h]
    rfl
  · rfl

theorem parameterized_eq (hT : T.fieldNames.Nodup) :
    (EdgeOf.between S T).parameterized T.fields = .ok (if (missingFields T S).isEmpty then [] else
      [S.conversion T .intoTarget, S.conversion T .intoDefaults]) := by
  have hmem : ∀ f ∈ missingFields T S, f ∈ T.fields := fun f hf => (mem_missingFields.mp hf).1
  have hall := arguments_eq hT hmem
  have hsub : ∀ f ∈ (missingFields T S).filter fun f => !f.default, f ∈ T.fields :=
    fun f hf => hmem f (List.mem_of_mem_filter hf)
  have hsome := arguments_eq hT hsub
  have hempty : (EdgeOf.between S T).missing.isEmpty = (missingFields T S).isEmpty := by
    rw [EdgeOf.between, List.isEmpty_map]
  rw [EdgeOf.parameterized, hempty]
  split_ifs with h
  · rfl
  · refine bind_eq_ok.mpr ⟨_, hall, bind_eq_ok.mpr ⟨_, hsome, ?_⟩⟩
    have hno : (missingFields T S).filter (ConversionKind.fallsBack .intoTarget) = [] := by
      simp [ConversionKind.fallsBack]
    have hyes : (missingFields T S).filter (fun _ => true) = missingFields T S := by simp
    simp only [VariantOf.conversion, ConversionKind.fallsBack, Bool.not_false, hno, hyes]
    rfl

/-- **The conversions of a pair** are those of the kinds that serve it. -/
theorem conversionsBetween_eq (hT : T.fieldNames.Nodup) :
    conversionsBetween S T = .ok (S.conversionsTo T) := by
  rw [conversionsBetween, requireKeys_string]
  change (EdgeOf.between S T).conversions T.fields = _
  rw [EdgeOf.conversions, requireKeys_string, direct_eq, parameterized_eq hT]
  refine congrArg Except.ok ?_
  rw [VariantOf.conversionsTo, ConversionKind.all]
  simp only [List.filter_cons, List.filter_nil]
  have hinto : ConversionKind.serves .intoTarget (missingFields T S) =
      !(missingFields T S).isEmpty := rfl
  have hdefaults : ConversionKind.serves .intoDefaults (missingFields T S) =
      !(missingFields T S).isEmpty := rfl
  rw [hinto, hdefaults]
  cases ConversionKind.serves .fromSource (missingFields T S) <;>
    cases (missingFields T S).isEmpty <;> rfl

/-- A field of a variant is found by its name, which others may share. -/
theorem succeeds_argument {fields : List Field} {name : String}
    (h : name ∈ fields.map FieldOf.name) : Succeeds (EdgeOf.argument fields name) := by
  rw [EdgeOf.argument, requireKeys_string]
  obtain ⟨f, hf, rfl⟩ := List.mem_map.mp h
  have hfind : (fields.reverse.find? fun g => g.name == f.name).isSome := by
    rw [List.find?_isSome]
    exact ⟨f, List.mem_reverse.mpr hf, beq_self_eq_true _⟩
  obtain ⟨g, hg⟩ := Option.isSome_iff_exists.mp hfind
  rw [hg]
  exact .ok g

/-- **What the conversions of a pair look up is there**, for any two variants. -/
theorem succeeds_conversionsBetween (S T : Variant) : Succeeds (conversionsBetween S T) := by
  have hnames : ∀ fs : List Field, (∀ f ∈ fs, f ∈ missingFields T S) →
      Succeeds ((fs.map FieldOf.name).mapM (EdgeOf.argument T.fields)) := by
    intro fs hfs
    refine Succeeds.mapM fun name hn => succeeds_argument ?_
    obtain ⟨f, hf, rfl⟩ := List.mem_map.mp hn
    exact List.mem_map_of_mem (mem_missingFields.mp (hfs f hf)).1
  have hdirect : Succeeds (EdgeOf.between S T).direct := by
    unfold EdgeOf.direct
    split_ifs
    · exact .ok _
    · exact .ok _
  have hparameterized : Succeeds ((EdgeOf.between S T).parameterized T.fields) := by
    unfold EdgeOf.parameterized
    split_ifs
    · exact .ok _
    · exact (hnames _ fun _ hf => hf).bind fun _ _ =>
        (hnames _ fun _ hf => List.mem_of_mem_filter hf).bind fun _ _ => .ok _
  rw [conversionsBetween, requireKeys_string]
  refine .bind (.ok ()) fun _ _ => ?_
  rw [EdgeOf.conversions, requireKeys_string]
  exact .bind (.ok ()) fun _ _ => hdirect.bind fun _ _ => hparameterized.bind fun _ _ => .ok _

end Synthesis

/-! ## The conversions of a derived family -/

section Family

variable {r : Record} {o : Options} {R : Registry String} {ss : List (Share String)} {F : Family}

theorem mem_orderedPairs {variants : List Variant} {S T : Variant} :
    (S, T) ∈ orderedPairs variants ↔ S ∈ variants ∧ T ∈ variants ∧ S.name ≠ T.name := by
  simp only [orderedPairs, List.mem_flatMap, List.mem_map, List.mem_filter, Bool.not_eq_true',
    beq_eq_false_iff_ne, Prod.mk.injEq]
  constructor
  · rintro ⟨s, hs, t, ⟨ht, hne⟩, rfl, rfl⟩
    exact ⟨hs, ht, hne⟩
  · rintro ⟨hS, hT, hne⟩
    exact ⟨S, hS, T, ⟨hT, hne⟩, rfl, rfl⟩

theorem exists_orderedPair {variants : List Variant} {P : Variant → Variant → Prop} :
    (∃ p ∈ orderedPairs variants, P p.1 p.2) ↔
      ∃ S ∈ variants, ∃ T ∈ variants, S.name ≠ T.name ∧ P S T := by
  constructor
  · rintro ⟨⟨S, T⟩, hp, h⟩
    obtain ⟨hS, hT, hne⟩ := mem_orderedPairs.mp hp
    exact ⟨S, hS, T, hT, hne, h⟩
  · rintro ⟨S, hS, T, hT, hne, h⟩
    exact ⟨(S, T), mem_orderedPairs.mpr ⟨hS, hT, hne⟩, h⟩

theorem Derives.mem_edges (h : Derives r o R ss F) {e : Edge} : e ∈ F.edges ↔
    ∃ S ∈ F.variants, ∃ T ∈ F.variants, S.name ≠ T.name ∧ EdgeOf.between S T = e := by
  rw [h.edges, edgesOf, List.mem_map]
  exact exists_orderedPair (P := fun S T => EdgeOf.between S T = e)

/-- An edge is known by the names of its ends. -/
theorem Derives.edge_eq (h : Derives r o R ss F) {S T : Variant} (hS : S ∈ F.variants)
    (hT : T ∈ F.variants) {e : Edge} (he : e ∈ F.edges) (hs : e.source = S.name)
    (ht : e.target = T.name) : S.name ≠ T.name ∧ EdgeOf.between S T = e := by
  obtain ⟨S', hS', T', hT', hne, rfl⟩ := h.mem_edges.mp he
  obtain rfl : S' = S := h.variant_eq hS' hS hs
  obtain rfl : T' = T := h.variant_eq hT' hT ht
  exact ⟨hne, rfl⟩

/-- **The conversions of a family**, pair by pair. -/
theorem Derives.conversions_eq (h : Derives r o R ss F) :
    F.conversions = (orderedPairs F.variants).flatMap fun p => p.1.conversionsTo p.2 := by
  have hall : (orderedPairs F.variants).mapM (fun p => conversionsBetween p.1 p.2) =
      .ok ((orderedPairs F.variants).map fun p => p.1.conversionsTo p.2) :=
    mapM_ok fun p hp => conversionsBetween_eq (h.fieldNames_nodup (mem_orderedPairs.mp hp).2.1)
  have hc := h.conversions
  rw [conversionsOf, hall] at hc
  rw [List.flatMap]
  exact (Except.ok.inj hc).symm

theorem Derives.mem_conversions (h : Derives r o R ss F) {c : Conversion} :
    c ∈ F.conversions ↔ ∃ S ∈ F.variants, ∃ T ∈ F.variants, S.name ≠ T.name ∧
      ∃ k : ConversionKind, k.serves (missingFields T S) = true ∧ S.conversion T k = c := by
  rw [h.conversions_eq, List.mem_flatMap,
    exists_orderedPair (P := fun S T => c ∈ S.conversionsTo T)]
  simp only [mem_conversionsTo]

theorem Derives.variant?_eq (h : Derives r o R ss F) {V : Variant} (hV : V ∈ F.variants) :
    F.variant? V.name = some V :=
  find?_key_eq h.names_nodup hV

end Family

end RecordFamily
