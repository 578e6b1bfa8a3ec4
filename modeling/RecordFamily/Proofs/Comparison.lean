import RecordFamily.Proofs.Conversion

/-!
# The fields of two variants

An edge says which fields its target has in common with its source and which ones are missing there.

* `eq_filter_of_sublist`: a part of a list without repetitions is settled by its members;
* `Interleaves`, `interleaves_filter`: a list that two others make up, each in its own order;
* `missing_eq`, `common_eq`: the names on an edge by the names of the fields at its ends;
* `disjoint_missing`, `interleaves_between`, `missing_subset_append`: edges back, and by way of a third
  variant;
* `Derives.common_eq_filter`: common fields in the order of the record, whichever way the edge goes;
* `FamilyOf.Compares`: a family whose edges fit together;
* **`fields_compared`**: every derived family is one.
-/

namespace RecordFamily

open List

/-! ## Parts of a list -/

/-- The third list is made of the first two, and each of them stands in it in its order. -/
inductive Interleaves {α : Type} : List α → List α → List α → Prop where
  | nil : Interleaves [] [] []
  | left {a : α} {as bs cs : List α} (h : Interleaves as bs cs) : Interleaves (a :: as) bs (a :: cs)
  | right {b : α} {as bs cs : List α} (h : Interleaves as bs cs) :
    Interleaves as (b :: bs) (b :: cs)

section Lists

variable {α : Type} {as bs : List α}

/-- A part of a list without repetitions is settled by its members. -/
theorem eq_filter_of_sublist {p : α → Bool} (h : as <+ bs) (hbs : bs.Nodup)
    (hp : ∀ b ∈ bs, b ∈ as ↔ p b = true) : as = bs.filter p := by
  have hall : as.filter p = as := List.filter_eq_self.mpr fun a ha => (hp a (h.subset ha)).mp ha
  have hsub : as <+ bs.filter p := hall ▸ h.filter p
  have hperm : as ~ bs.filter p := by
    refine (List.perm_ext_iff_of_nodup (h.nodup hbs) (hbs.filter p)).mpr fun b => ?_
    rw [List.mem_filter]
    constructor
    · exact fun hb => ⟨h.subset hb, (hp b (h.subset hb)).mp hb⟩
    · exact fun hb => (hp b hb.1).mpr hb.2
  exact hsub.eq_of_length hperm.length_eq

theorem interleaves_filter (p : α → Bool) (as : List α) :
    Interleaves (as.filter fun a => !p a) (as.filter p) as := by
  induction as with
  | nil => exact .nil
  | cons a as ih =>
    by_cases ha : p a
    · simpa [ha] using ih.right
    · simpa [ha] using ih.left

end Lists

/-! ## Edges -/

section Edges

variable {S T U : Variant} {name : String}

theorem missing_eq : (EdgeOf.between S T).missing =
    T.fieldNames.filter fun n => !S.fieldNames.contains n := by
  simp only [EdgeOf.between, missingFields, VariantOf.fieldNames, List.filter_map, hasField_eq]
  rfl

theorem common_eq : (EdgeOf.between S T).common =
    T.fieldNames.filter fun n => S.fieldNames.contains n := by
  simp only [EdgeOf.between, commonFields, VariantOf.fieldNames, List.filter_map, hasField_eq]
  rfl

theorem mem_missing : name ∈ (EdgeOf.between S T).missing ↔
    name ∈ T.fieldNames ∧ name ∉ S.fieldNames := by
  simp [missing_eq]

theorem mem_common : name ∈ (EdgeOf.between S T).common ↔
    name ∈ T.fieldNames ∧ name ∈ S.fieldNames := by
  simp [common_eq]

theorem disjoint_missing :
    (EdgeOf.between S T).missing.Disjoint (EdgeOf.between T S).missing := by
  intro n hn hn'
  exact (mem_missing.mp hn).2 (mem_missing.mp hn').1

theorem interleaves_between :
    Interleaves (EdgeOf.between S T).missing (EdgeOf.between S T).common T.fieldNames := by
  rw [missing_eq, common_eq]
  exact interleaves_filter _ _

theorem missing_subset_append : (EdgeOf.between S U).missing ⊆
    (EdgeOf.between S T).missing ++ (EdgeOf.between T U).missing := by
  intro n hn
  obtain ⟨hU, hS⟩ := mem_missing.mp hn
  rw [List.mem_append, mem_missing, mem_missing]
  by_cases hT : n ∈ T.fieldNames
  · exact .inl ⟨hT, hS⟩
  · exact .inr ⟨hU, hT⟩

end Edges

/-! ## The edges of a derived family -/

/-- The family has the edge, from the first variant to the second. -/
structure FamilyOf.HasEdge (F : Family) (S T : Variant) (e : Edge) : Prop where
  mem : e ∈ F.edges
  source : e.source = S.name
  target : e.target = T.name

/-- **The edges of the family fit together.** There is one from each variant to each other one, and on
all of them the fields stand in the same order. -/
structure FamilyOf.Compares (F : Family) (order : List String) : Prop where
  edge : ∀ S ∈ F.variants, ∀ T ∈ F.variants, S ≠ T → ∃! e, F.HasEdge S T e
  /-- What two variants have in common is the same list in both directions. -/
  symmetric : ∀ S ∈ F.variants, ∀ T ∈ F.variants,
    ∀ d, F.HasEdge S T d → ∀ e, F.HasEdge T S e → d.common = e.common
  canonical : ∀ S ∈ F.variants, ∀ T ∈ F.variants, ∀ e, F.HasEdge S T e →
    e.common = order.filter fun n => S.hasField n && T.hasField n
  disjoint : ∀ S ∈ F.variants, ∀ T ∈ F.variants,
    ∀ d, F.HasEdge S T d → ∀ e, F.HasEdge T S e → d.missing.Disjoint e.missing
  /-- The fields of the target are made of the missing and the common ones, in order. -/
  merged : ∀ S ∈ F.variants, ∀ T ∈ F.variants, ∀ e, F.HasEdge S T e →
    Interleaves e.missing e.common T.fieldNames ∧
      T.fieldNames = order.filter fun n => e.missing.contains n || e.common.contains n
  /-- What is missing on the direct way is missing on one of two legs. -/
  triangle : ∀ S ∈ F.variants, ∀ T ∈ F.variants, ∀ U ∈ F.variants,
    ∀ c, F.HasEdge S U c → ∀ d, F.HasEdge S T d → ∀ e, F.HasEdge T U e →
      c.missing ⊆ d.missing ++ e.missing

namespace Derives

variable {r : Record} {o : Options} {R : Registry String} {ss : List (Share String)} {F : Family}
  {S T : Variant}

theorem hasEdge_iff (h : Derives r o R ss F) (hS : S ∈ F.variants) (hT : T ∈ F.variants)
    {e : Edge} : F.HasEdge S T e ↔ S ≠ T ∧ EdgeOf.between S T = e := by
  constructor
  · intro he
    obtain ⟨hne, heq⟩ := h.edge_eq hS hT he.mem he.source he.target
    exact ⟨fun hST => hne (congrArg VariantOf.name hST), heq⟩
  · rintro ⟨hne, rfl⟩
    have hnames : S.name ≠ T.name := fun hn => hne (h.variant_eq hS hT hn)
    exact ⟨h.mem_edges.mpr ⟨S, hS, T, hT, hnames, rfl⟩, rfl, rfl⟩

/-- **Common fields stand in the order of the record**, whichever way the edge goes. -/
theorem common_eq_filter (h : Derives r o R ss F) (hT : T ∈ F.variants) :
    (EdgeOf.between S T).common =
      (r.fields.map FieldOf.name).filter fun n => S.hasField n && T.hasField n := by
  refine eq_filter_of_sublist ?_ (checkFields_ok.mp h.checked).2 fun n _ => ?_
  · rw [common_eq]
    exact List.filter_sublist.trans (h.fieldNames_sublist hT)
  · rw [mem_common, Bool.and_eq_true, hasField_iff, hasField_iff, and_comm]

theorem fieldNames_eq_filter (h : Derives r o R ss F) (hT : T ∈ F.variants) :
    T.fieldNames = (r.fields.map FieldOf.name).filter fun n =>
      (EdgeOf.between S T).missing.contains n || (EdgeOf.between S T).common.contains n := by
  have hnodup := (checkFields_ok.mp h.checked).2
  refine eq_filter_of_sublist (h.fieldNames_sublist hT) hnodup fun n _ => ?_
  rw [Bool.or_eq_true, List.contains_iff_mem, List.contains_iff_mem, mem_missing, mem_common,
    ← and_or_left, and_iff_left (Decidable.em _).symm]

end Derives

/-- **Every derived family compares its variants consistently.** -/
theorem fields_compared {r : Record} {o : Options} {F : Family}
    (h : (r.derive o).result = .ok F) : F.Compares (r.fields.map FieldOf.name) := by
  obtain ⟨R, ss, h⟩ := derive_ok.mp h
  constructor
  · intro S hS T hT hne
    refine ⟨.between S T, (h.hasEdge_iff hS hT).mpr ⟨hne, rfl⟩, fun e he => ?_⟩
    exact ((h.hasEdge_iff hS hT).mp he).2.symm
  · intro S hS T hT d hd e he
    obtain ⟨_, rfl⟩ := (h.hasEdge_iff hS hT).mp hd
    obtain ⟨_, rfl⟩ := (h.hasEdge_iff hT hS).mp he
    rw [h.common_eq_filter hT, h.common_eq_filter hS]
    simp only [Bool.and_comm]
  · intro S hS T hT e he
    obtain ⟨_, rfl⟩ := (h.hasEdge_iff hS hT).mp he
    exact h.common_eq_filter hT
  · intro S hS T hT d hd e he
    obtain ⟨_, rfl⟩ := (h.hasEdge_iff hS hT).mp hd
    obtain ⟨_, rfl⟩ := (h.hasEdge_iff hT hS).mp he
    exact disjoint_missing
  · intro S hS T hT e he
    obtain ⟨_, rfl⟩ := (h.hasEdge_iff hS hT).mp he
    exact ⟨interleaves_between, h.fieldNames_eq_filter hT⟩
  · intro S hS T hT U hU c hc d hd e he
    obtain ⟨_, rfl⟩ := (h.hasEdge_iff hS hU).mp hc
    obtain ⟨_, rfl⟩ := (h.hasEdge_iff hS hT).mp hd
    obtain ⟨_, rfl⟩ := (h.hasEdge_iff hT hU).mp he
    exact missing_subset_append

/-- A draft and a card each lack fields of the other, on both sides of those that they share. -/
theorem fields_compared_article : ∃ F, (sampleArticle.derive {}).result = .ok F ∧
    ((F.edge? "Draft" "ArticleCard").any fun e =>
      e.missing = ["published_at"] ∧ e.common = ["title", "tags"]) = true ∧
    ((F.edge? "ArticleCard" "Draft").any fun e =>
      e.missing = ["body", "revision"] ∧ e.common = ["title", "tags"]) = true ∧
    F.Compares ["title", "body", "tags", "published_at", "revision"] := by
  have hyields : (sampleArticle.derive {}).yields (fun F =>
      ((F.edge? "Draft" "ArticleCard").any fun e =>
        e.missing = ["published_at"] ∧ e.common = ["title", "tags"]) ∧
      (F.edge? "ArticleCard" "Draft").any fun e =>
        e.missing = ["body", "revision"] ∧ e.common = ["title", "tags"]) = true := by decide +kernel
  obtain ⟨F, hF, hedges⟩ := Outcome.yields_iff.mp hyields
  obtain ⟨hcard, hdraft⟩ := of_decide_eq_true hedges
  exact ⟨F, hF, hcard, hdraft, fields_compared hF⟩

end RecordFamily
