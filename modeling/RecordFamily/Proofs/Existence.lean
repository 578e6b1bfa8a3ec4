import RecordFamily.Proofs.Conversion

/-!
# Which conversions there are

A family has an edge for each ordered pair of its variants, and between two variants the conversions
that their fields allow.

* `distinctPairs`: the ordered pairs of distinct items, with their number and their order;
* `FamilyOf.ConvertsExactly`: a family with one edge for each pair, and the conversions that the missing
  fields of the pairs ask for;
* **`conversion_existence`**: every derived family is one.
-/

namespace RecordFamily

open List

/-! ## Ordered pairs -/

/-- The ordered pairs of distinct items, the first item changing last. -/
def distinctPairs (names : List String) : List (String × String) :=
  names.flatMap fun s => (names.filter fun t => s != t).map fun t => (s, t)

theorem nodup_distinctPairs {names : List String} (h : names.Nodup) :
    (distinctPairs names).Nodup := by
  refine List.nodup_flatMap.mpr ⟨fun s _ => ?_, h.imp fun {a b} hab => ?_⟩
  · exact (h.filter _).map fun _ _ he => (Prod.mk.inj he).2
  · intro p hp hq
    obtain ⟨_, _, rfl⟩ := List.mem_map.mp hp
    obtain ⟨_, _, he⟩ := List.mem_map.mp hq
    exact hab (Prod.mk.inj he).1.symm

/-- Each of `n` items makes a pair with each of the others. -/
theorem length_distinctPairs {names : List String} (h : names.Nodup) :
    (distinctPairs names).length = names.length * (names.length - 1) := by
  have hothers : ∀ s ∈ names,
      ((names.filter fun t => s != t).map fun t => (s, t)).length = names.length - 1 := by
    intro s hs
    have he : (names.filter fun t => s != t) = names.erase s := by
      rw [h.erase_eq_filter]
      exact List.filter_congr fun t _ => bne_comm
    rw [List.length_map, he, List.length_erase_of_mem hs]
  rw [distinctPairs, List.length_flatMap, List.map_congr_left hothers, List.map_const',
    List.sum_replicate_nat]

theorem orderedPairs_names (variants : List Variant) :
    (orderedPairs variants).map (fun p => (p.1.name, p.2.name)) =
      distinctPairs (variants.map VariantOf.name) := by
  rw [orderedPairs, distinctPairs, List.map_flatMap, List.flatMap_map]
  refine List.flatMap_congr fun S _ => ?_
  rw [List.filter_map, List.map_map, List.map_map]
  rfl

/-! ## Families with all their conversions -/

/-- The conversion is of the kind, between the two variants, and a member of the third. -/
structure ConversionOf.IsBetween (c : Conversion) (S T : Variant) (k : ConversionKind)
    (owner : Variant) : Prop where
  kind : c.kind = k
  source : c.source = S.name
  target : c.target = T.name
  owner : c.owner = owner.name

/-- **The family has an edge for each pair of its variants, and the conversions that the fields of the
pair allow**, once each. -/
structure FamilyOf.ConvertsExactly (F : Family) : Prop where
  names : (F.variants.map VariantOf.name).Nodup
  edges : F.edges.map (fun e => (e.source, e.target)) =
    distinctPairs (F.variants.map VariantOf.name)
  edges_nodup : (F.edges.map fun e => (e.source, e.target)).Nodup
  edges_length : F.edges.length = F.variants.length * (F.variants.length - 1)
  /-- A conversion without arguments: no missing field lacks a fallback. -/
  ofSource : ∀ S ∈ F.variants, ∀ T ∈ F.variants, S.name ≠ T.name →
    ((∃ c ∈ F.conversions, c.IsBetween S T .fromSource T) ↔
      ∀ f ∈ T.fields, f.name ∉ S.fieldNames → f.default = true)
  /-- Conversions with arguments: some field is missing. -/
  parameterized : ∀ S ∈ F.variants, ∀ T ∈ F.variants, S.name ≠ T.name →
    ∀ k, k = .intoTarget ∨ k = .intoDefaults →
      ((∃ c ∈ F.conversions, c.IsBetween S T k S) ↔ ∃ f ∈ T.fields, f.name ∉ S.fieldNames)
  owner : ∀ c ∈ F.conversions, c.owner = if c.kind = .fromSource then c.target else c.source
  once : (F.conversions.map fun c => (c.source, c.target, c.kind)).Nodup
  /-- There is always a way. -/
  always : ∀ S ∈ F.variants, ∀ T ∈ F.variants, S.name ≠ T.name →
    ∃ c ∈ F.conversions, c.source = S.name ∧ c.target = T.name
  /-- A conversion belongs to one edge, and copies what both ends own. -/
  edge : ∀ c ∈ F.conversions, ∃ e ∈ F.edges,
    (e.source = c.source ∧ e.target = c.target ∧ c.copied = e.common) ∧
      ∀ e' ∈ F.edges, e'.source = c.source → e'.target = c.target → e' = e

/-- Some kind serves every pair: without a missing field the one that takes no arguments. -/
theorem exists_serves (S T : Variant) :
    ∃ k : ConversionKind, k.serves (missingFields T S) = true := by
  by_cases h : ∃ f ∈ T.fields, f.name ∉ S.fieldNames
  · exact ⟨.intoTarget, (serves_parameterized (by decide)).mpr h⟩
  · exact ⟨.fromSource, serves_fromSource.mpr fun f hf hn => absurd ⟨f, hf, hn⟩ h⟩

namespace Derives

variable {r : Record} {o : Options} {R : Registry String} {ss : List (Share String)} {F : Family}

theorem edges_names (h : Derives r o R ss F) : F.edges.map (fun e => (e.source, e.target)) =
    distinctPairs (F.variants.map VariantOf.name) := by
  rw [h.edges, edgesOf, List.map_map, ← orderedPairs_names]
  rfl

/-- The conversion of a kind is there when the kind serves the pair. -/
theorem exists_isBetween (h : Derives r o R ss F) {S T : Variant} (hS : S ∈ F.variants)
    (hT : T ∈ F.variants) (hne : S.name ≠ T.name) {k : ConversionKind} {owner : Variant}
    (ho : (S.conversion T k).owner = owner.name) :
    (∃ c ∈ F.conversions, c.IsBetween S T k owner) ↔ k.serves (missingFields T S) = true := by
  constructor
  · rintro ⟨c, hc, hb⟩
    obtain ⟨S', hS', T', hT', _, k', hk, rfl⟩ := h.mem_conversions.mp hc
    obtain rfl : k' = k := hb.kind
    rwa [← h.variant_eq hS' hS hb.source, ← h.variant_eq hT' hT hb.target]
  · intro hk
    exact ⟨S.conversion T k, h.mem_conversions.mpr ⟨S, hS, T, hT, hne, k, hk, rfl⟩,
      ⟨rfl, rfl, rfl, ho⟩⟩

theorem conversions_once (h : Derives r o R ss F) :
    (F.conversions.map fun c => (c.source, c.target, c.kind)).Nodup := by
  have hpairs := nodup_distinctPairs h.names_nodup
  rw [← orderedPairs_names, List.Nodup, List.pairwise_map] at hpairs
  rw [h.conversions_eq, List.map_flatMap]
  -- Within a pair the kinds differ, and between two pairs the names do.
  refine List.nodup_flatMap.mpr ⟨fun p _ => ?_, hpairs.imp fun {p q} hpq => ?_⟩
  · have hkinds : ConversionKind.all.Nodup := by decide
    rw [VariantOf.conversionsTo, List.map_map]
    exact (hkinds.filter _).map fun _ _ he => (Prod.mk.inj (Prod.mk.inj he).2).2
  · intro key hp hq
    obtain ⟨c, hc, rfl⟩ := List.mem_map.mp hp
    obtain ⟨d, hd, he⟩ := List.mem_map.mp hq
    obtain ⟨_, _, rfl⟩ := mem_conversionsTo.mp hc
    obtain ⟨_, _, rfl⟩ := mem_conversionsTo.mp hd
    obtain ⟨hs, he⟩ := Prod.mk.inj he
    exact hpq (Prod.ext hs.symm (Prod.mk.inj he).1.symm)

theorem exists_edge (h : Derives r o R ss F) {c : Conversion} (hc : c ∈ F.conversions) :
    ∃ e ∈ F.edges, (e.source = c.source ∧ e.target = c.target ∧ c.copied = e.common) ∧
      ∀ e' ∈ F.edges, e'.source = c.source → e'.target = c.target → e' = e := by
  obtain ⟨S, hS, T, hT, hne, k, _, rfl⟩ := h.mem_conversions.mp hc
  have he : EdgeOf.between S T ∈ F.edges := h.mem_edges.mpr ⟨S, hS, T, hT, hne, rfl⟩
  refine ⟨.between S T, he, ⟨rfl, rfl, rfl⟩, fun e' he' hs ht => ?_⟩
  exact (h.edge_eq hS hT he' hs ht).2.symm

end Derives

/-- **The conversions of a derived family are those that the fields of its variants allow.** -/
theorem conversion_existence {r : Record} {o : Options} {F : Family}
    (h : (r.derive o).result = .ok F) : F.ConvertsExactly := by
  obtain ⟨R, ss, h⟩ := derive_ok.mp h
  have hnodup := nodup_distinctPairs h.names_nodup
  refine ⟨h.names_nodup, h.edges_names, h.edges_names ▸ hnodup, ?_, ?_, ?_, ?_, h.conversions_once,
    ?_, fun c hc => h.exists_edge hc⟩
  · have hlength := congrArg List.length h.edges_names
    rwa [List.length_map, length_distinctPairs h.names_nodup, List.length_map] at hlength
  · intro S hS T hT hne
    rw [h.exists_isBetween hS hT hne rfl, serves_fromSource]
  · rintro S hS T hT hne k (rfl | rfl)
    · rw [h.exists_isBetween hS hT hne rfl, serves_parameterized (by decide)]
    · rw [h.exists_isBetween hS hT hne rfl, serves_parameterized (by decide)]
  · intro c hc
    obtain ⟨S, _, T, _, _, k, _, rfl⟩ := h.mem_conversions.mp hc
    cases k <;> rfl
  · intro S hS T hT hne
    obtain ⟨k, hk⟩ := exists_serves S T
    exact ⟨S.conversion T k, h.mem_conversions.mpr ⟨S, hS, T, hT, hne, k, hk, rfl⟩, rfl, rfl⟩

theorem conversion_existence_article : ∃ F, (sampleArticle.derive {}).result = .ok F ∧
    F.edges.length = 6 ∧ F.conversions.length = 10 ∧ F.ConvertsExactly := by
  have hyields : (sampleArticle.derive {}).yields
      (fun F => F.edges.length = 6 ∧ F.conversions.length = 10) = true := by decide +kernel
  obtain ⟨F, hF, hlengths⟩ := Outcome.yields_iff.mp hyields
  obtain ⟨hedges, hconversions⟩ := of_decide_eq_true hlengths
  exact ⟨F, hF, hedges, hconversions, conversion_existence hF⟩

end RecordFamily
