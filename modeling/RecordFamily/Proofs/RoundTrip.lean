import RecordFamily.Proofs.Valuation

/-!
# Conversions one after the other

What is left of a record that was converted twice.

* `FamilyOf.RoundTrips`: a family in which the way there and back keeps what both ends own;
* **`round_trip`**: every derived family is one;
* `FamilyOf.Composes`: a family in which two conversions without arguments make up a third;
* **`direct_composition`**: every derived family is one.
-/

namespace RecordFamily

open List

variable {α : Type}

/-! ## There and back -/

/-- **The way there and back keeps what both ends own**, however it is taken. Where the target owns all
that the source does, the way back takes no arguments and restores the source. -/
structure FamilyOf.RoundTrips (F : Family) (fallback : Valuation α) : Prop where
  builds : F.Builds fallback
  common : ∀ S ∈ F.variants, ∀ T ∈ F.variants, ∀ j c, F.Has S T j c → ∀ k d, F.Has T S k d →
    ∀ source given given' : Valuation α, ∀ n ∈ S.fieldNames, n ∈ T.fieldNames →
      d.apply fallback (c.apply fallback source given) given' n = source n
  exists_back : ∀ S ∈ F.variants, ∀ T ∈ F.variants, S.name ≠ T.name →
    (∀ n ∈ S.fieldNames, n ∈ T.fieldNames) → ∃ d, F.Has T S .fromSource d
  restored : ∀ S ∈ F.variants, ∀ T ∈ F.variants, (∀ n ∈ S.fieldNames, n ∈ T.fieldNames) →
    ∀ k c, F.Has S T k c → ∀ d, F.Has T S .fromSource d →
      ∀ source given : Valuation α, source.IsOf S.fieldNames →
        d.apply fallback (c.apply fallback source given) Valuation.empty = source

section Apply

variable {S T : Variant} {j k : ConversionKind} {n : String}
  {fallback source given given' : Valuation α}

theorem apply_back_common (hS : n ∈ S.fieldNames) (hT : n ∈ T.fieldNames) :
    (T.conversion S k).apply fallback ((S.conversion T j).apply fallback source given) given' n =
      source n := by
  rw [apply_common hS hT, apply_common hT hS]

/-- A target that owns all that the source does gives it all back. -/
theorem apply_back_eq (hsub : ∀ n ∈ S.fieldNames, n ∈ T.fieldNames)
    (hsource : source.IsOf S.fieldNames) :
    (T.conversion S k).apply fallback ((S.conversion T j).apply fallback source given) given' =
      source := by
  funext n
  by_cases hS : n ∈ S.fieldNames
  · exact apply_back_common hS (hsub n hS)
  · rw [apply_foreign hS, hsource.eq_none hS]

end Apply

/-- **Converting away and back keeps all common fields.** -/
theorem round_trip {r : Record} {o : Options} {F : Family} (h : (r.derive o).result = .ok F)
    (value : String → α) : F.RoundTrips (F.fallback value) := by
  obtain ⟨R, ss, h⟩ := derive_ok.mp h
  refine ⟨h.builds value, ?_, ?_, ?_⟩
  · intro S hS T hT j c hc k d hd source given given' n hnS hnT
    obtain ⟨_, _, rfl⟩ := (h.has_iff hS hT).mp hc
    obtain ⟨_, _, rfl⟩ := (h.has_iff hT hS).mp hd
    exact apply_back_common hnS hnT
  · intro S hS T hT hne hsub
    have hserves : ConversionKind.serves .fromSource (missingFields S T) = true :=
      serves_fromSource.mpr fun f hf hn => absurd (hsub f.name (List.mem_map_of_mem hf)) hn
    exact ⟨_, (h.has_iff hT hS).mpr ⟨hne.symm, hserves, rfl⟩⟩
  · intro S hS T hT hsub k c hc d hd source given hsource
    obtain ⟨_, _, rfl⟩ := (h.has_iff hS hT).mp hc
    obtain ⟨_, _, rfl⟩ := (h.has_iff hT hS).mp hd
    exact apply_back_eq hsub hsource

/-- A page is made a digest and the digest a page again. -/
theorem round_trip_page : ∃ F, (samplePage.derive {}).result = .ok F ∧
    ((F.find? "Page" "Digest" .intoTarget).isSome ∧ (F.find? "Digest" "Page" .fromSource).isSome) ∧
      F.RoundTrips (F.fallback id) := by
  have hyields : (samplePage.derive {}).yields (fun F =>
      (F.find? "Page" "Digest" .intoTarget).isSome ∧
        (F.find? "Digest" "Page" .fromSource).isSome) = true := by decide +kernel
  obtain ⟨F, hF, hfound⟩ := Outcome.yields_iff.mp hyields
  exact ⟨F, hF, of_decide_eq_true hfound, round_trip hF id⟩

/-! ## One after another -/

/-- **Conversions without arguments compose.** The composed and the direct conversion differ only in
the fields that are lost on the way: those the first variant owns and the second lacks. -/
structure FamilyOf.Composes (F : Family) (fallback : Valuation α) : Prop where
  builds : F.Builds fallback
  exists_direct : ∀ A ∈ F.variants, ∀ B ∈ F.variants, ∀ C ∈ F.variants, A.name ≠ C.name →
    ∀ c, F.Has A B .fromSource c → ∀ d, F.Has B C .fromSource d → ∃ e, F.Has A C .fromSource e
  agree : ∀ A ∈ F.variants, ∀ B ∈ F.variants, ∀ C ∈ F.variants,
    ∀ c, F.Has A B .fromSource c → ∀ d, F.Has B C .fromSource d → ∀ e, F.Has A C .fromSource e →
      ∀ source : Valuation α, ∀ n ∈ C.fieldNames, ¬ (n ∈ A.fieldNames ∧ n ∉ B.fieldNames) →
        d.apply fallback (c.apply fallback source Valuation.empty) Valuation.empty n =
          e.apply fallback source Valuation.empty n
  /-- A field that is lost on the way comes back as its fallback. -/
  lost : ∀ A ∈ F.variants, ∀ B ∈ F.variants, ∀ C ∈ F.variants,
    ∀ c, F.Has A B .fromSource c → ∀ d, F.Has B C .fromSource d → ∀ e, F.Has A C .fromSource e →
      ∀ source : Valuation α, ∀ n ∈ C.fieldNames, n ∈ A.fieldNames → n ∉ B.fieldNames →
        d.apply fallback (c.apply fallback source Valuation.empty) Valuation.empty n = fallback n ∧
          e.apply fallback source Valuation.empty n = source n

section Direct

variable {S T : Variant} {n : String} {fallback source given : Valuation α}

theorem apply_direct_missing (hT : T.fieldNames.Nodup)
    (hserves : ConversionKind.serves .fromSource (missingFields T S) = true)
    (hn : n ∈ T.fieldNames) (hS : n ∉ S.fieldNames) :
    (S.conversion T .fromSource).apply fallback source given n = fallback n := by
  obtain ⟨f, hf, rfl⟩ := List.mem_map.mp hn
  have hdefault : ConversionKind.fallsBack .fromSource f = true :=
    serves_fromSource.mp hserves f hf hS
  rw [apply_missing hT hf hS, if_pos hdefault]

end Direct

namespace Derives

variable {r : Record} {o : Options} {R : Registry String} {ss : List (Share String)} {F : Family}
  {A B C : Variant}

/-- Missing fields that fall back on the way from each variant to the next do so on the way from the
first to the last. -/
theorem serves_trans (h : Derives r o R ss F) (hB : B ∈ F.variants) (hC : C ∈ F.variants)
    (hAB : ConversionKind.serves .fromSource (missingFields B A) = true)
    (hBC : ConversionKind.serves .fromSource (missingFields C B) = true) :
    ConversionKind.serves .fromSource (missingFields C A) = true := by
  refine serves_fromSource.mpr fun f hf hA => ?_
  by_cases hfB : f.name ∈ B.fieldNames
  · obtain ⟨g, hg, hn⟩ := List.mem_map.mp hfB
    -- The field has its default in every variant that owns it.
    obtain rfl : g = f := h.field_eq hB hC hg hf hn
    exact serves_fromSource.mp hAB g hg hA
  · exact serves_fromSource.mp hBC f hf hfB

end Derives

/-- **Conversions without arguments compose**, and the way makes a difference only where it loses a
field. -/
theorem direct_composition {r : Record} {o : Options} {F : Family}
    (h : (r.derive o).result = .ok F) (value : String → α) : F.Composes (F.fallback value) := by
  obtain ⟨R, ss, h⟩ := derive_ok.mp h
  refine ⟨h.builds value, ?_, ?_, ?_⟩
  · intro A hA B hB C hC hne c hc d hd
    obtain ⟨_, hAB, rfl⟩ := (h.has_iff hA hB).mp hc
    obtain ⟨_, hBC, rfl⟩ := (h.has_iff hB hC).mp hd
    exact ⟨_, (h.has_iff hA hC).mpr ⟨hne, h.serves_trans hB hC hAB hBC, rfl⟩⟩
  · intro A hA B hB C hC c hc d hd e he source n hn hkept
    obtain ⟨_, hAB, rfl⟩ := (h.has_iff hA hB).mp hc
    obtain ⟨_, hBC, rfl⟩ := (h.has_iff hB hC).mp hd
    obtain ⟨_, hAC, rfl⟩ := (h.has_iff hA hC).mp he
    have hnodup := h.fieldNames_nodup hC
    by_cases hnA : n ∈ A.fieldNames
    · have hnB : n ∈ B.fieldNames := by_contra fun hnB => hkept ⟨hnA, hnB⟩
      rw [apply_common hn hnB, apply_common hnB hnA, apply_common hn hnA]
    · rw [apply_direct_missing hnodup hAC hn hnA]
      by_cases hnB : n ∈ B.fieldNames
      · rw [apply_common hn hnB, apply_direct_missing (h.fieldNames_nodup hB) hAB hnB hnA]
      · rw [apply_direct_missing hnodup hBC hn hnB]
  · intro A hA B hB C hC c hc d hd e he source n hn hnA hnB
    obtain ⟨_, _, rfl⟩ := (h.has_iff hA hB).mp hc
    obtain ⟨_, hBC, rfl⟩ := (h.has_iff hB hC).mp hd
    obtain ⟨_, _, rfl⟩ := (h.has_iff hA hC).mp he
    exact ⟨apply_direct_missing (h.fieldNames_nodup hC) hBC hn hnB, apply_common hn hnA⟩

/-- A page is made a digest by way of its stub, and directly. -/
theorem direct_composition_page : ∃ F, (samplePage.derive {}).result = .ok F ∧
    ((F.find? "Page" "Stub" .fromSource).isSome ∧ (F.find? "Stub" "Digest" .fromSource).isSome) ∧
      F.Composes (F.fallback id) := by
  have hyields : (samplePage.derive {}).yields (fun F =>
      (F.find? "Page" "Stub" .fromSource).isSome ∧
        (F.find? "Stub" "Digest" .fromSource).isSome) = true := by decide +kernel
  obtain ⟨F, hF, hfound⟩ := Outcome.yields_iff.mp hyields
  exact ⟨F, hF, of_decide_eq_true hfound, direct_composition hF id⟩

end RecordFamily
