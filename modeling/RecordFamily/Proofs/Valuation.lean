import RecordFamily.Proofs.Completeness

/-!
# Conversions as functions

A record is known by the values of its fields. A conversion makes a record of its target from a record
of its source, the values that the fallbacks of the family have, and the values of its arguments.

* `Valuation`, `Valuation.IsOf`: values of fields, and the fields that they are values of;
* `FamilyOf.fallback`: the values of the fallbacks of a family;
* **`ConversionOf.apply`**: the conversion as a function;
* `apply_common`, `apply_missing`, `apply_foreign`: its values at the fields that both ends own, at those
  that the source lacks, and at all other names;
* `FamilyOf.Has`, `Derives.has_iff`: the conversions of a family by their ends and kinds;
* `FamilyOf.Builds`, **`Derives.builds`**: they make records of their targets;
* `samplePage`: a record whose family has conversions of all kinds.
-/

namespace RecordFamily

open List

/-! ## Valuations -/

/-- Values of fields, by name. -/
abbrev Valuation (α : Type) := String → Option α

namespace Valuation

variable {α : Type}

/-- The fields of these names have values, and no others have. -/
def IsOf (v : Valuation α) (names : List String) : Prop := ∀ n, (v n).isSome = true ↔ n ∈ names

/-- No values. -/
def empty : Valuation α := fun _ => none

theorem IsOf.eq_none {v : Valuation α} {names : List String} (h : v.IsOf names) {n : String}
    (hn : n ∉ names) : v n = none := by
  have hnone : ¬ (v n).isSome = true := fun hs => hn ((h n).mp hs)
  rwa [Option.not_isSome_iff_eq_none] at hnone

end Valuation

/-- The values of the fallbacks of a family, where `value` is the value of an expression. -/
def FamilyOf.fallback {α : Type} (F : Family) (value : String → α) : Valuation α := fun n =>
  (F.fallbacks.lookup n).map value

/-- **The conversion as a function.** A field of the target has the value that it has in the source, the
value of its fallback, or that of its argument. -/
def ConversionOf.apply {α : Type} (c : Conversion) (fallback source given : Valuation α) :
    Valuation α := fun n =>
  if n ∈ c.copied then source n
  else if n ∈ c.defaulted then fallback n
  else if n ∈ c.assigned then given n
  else none

/-! ## The values that a conversion yields -/

section Apply

variable {S T : Variant} {k : ConversionKind} {f : Field} {n : String} {α : Type}
  {fallback source given : Valuation α}

theorem mem_copied : n ∈ (S.conversion T k).copied ↔ n ∈ T.fieldNames ∧ n ∈ S.fieldNames := by
  change n ∈ (commonFields T S).map FieldOf.name ↔ n ∈ T.fields.map FieldOf.name ∧ n ∈ S.fieldNames
  rw [List.mem_map, List.mem_map]
  constructor
  · rintro ⟨f, hf, rfl⟩
    obtain ⟨hT, hS⟩ := mem_commonFields.mp hf
    exact ⟨⟨f, hT, rfl⟩, hS⟩
  · rintro ⟨⟨f, hT, rfl⟩, hS⟩
    exact ⟨f, mem_commonFields.mpr ⟨hT, hS⟩, rfl⟩

theorem name_mem_defaulted (hT : T.fieldNames.Nodup) (hf : f ∈ T.fields) :
    f.name ∈ (S.conversion T k).defaulted ↔ f.name ∉ S.fieldNames ∧ k.fallsBack f = true :=
  name_mem_filter_missing hT hf

theorem name_mem_assigned (hT : T.fieldNames.Nodup) (hf : f ∈ T.fields) :
    f.name ∈ (S.conversion T k).assigned ↔ f.name ∉ S.fieldNames ∧ k.fallsBack f = false := by
  rw [← Bool.not_eq_true']
  exact name_mem_filter_missing hT hf

theorem apply_common (hT : n ∈ T.fieldNames) (hS : n ∈ S.fieldNames) :
    (S.conversion T k).apply fallback source given n = source n :=
  if_pos (mem_copied.mpr ⟨hT, hS⟩)

/-- The kind decides between the fallback and the argument of a missing field. -/
theorem apply_missing (hT : T.fieldNames.Nodup) (hf : f ∈ T.fields) (hS : f.name ∉ S.fieldNames) :
    (S.conversion T k).apply fallback source given f.name =
      if k.fallsBack f then fallback f.name else given f.name := by
  have hcopied : f.name ∉ (S.conversion T k).copied := fun h => hS (mem_copied.mp h).2
  rw [ConversionOf.apply, if_neg hcopied]
  by_cases hk : k.fallsBack f = true
  · rw [if_pos ((name_mem_defaulted hT hf).mpr ⟨hS, hk⟩), if_pos hk]
  · have hdefaulted : f.name ∉ (S.conversion T k).defaulted := fun h =>
      hk ((name_mem_defaulted hT hf).mp h).2
    have hassigned : f.name ∈ (S.conversion T k).assigned :=
      (name_mem_assigned hT hf).mpr ⟨hS, Bool.eq_false_iff.mpr hk⟩
    rw [if_neg hdefaulted, if_pos hassigned, if_neg hk]

theorem apply_foreign (hT : n ∉ T.fieldNames) :
    (S.conversion T k).apply fallback source given n = none := by
  have hall := (conversion_perm (S := S) (T := T) (k := k)).mem_iff.not.mpr hT
  simp only [List.mem_append, not_or] at hall
  rw [ConversionOf.apply, if_neg hall.1.1, if_neg hall.1.2, if_neg hall.2]

/-- **A conversion makes a record of its target.** -/
theorem apply_isOf (hT : T.fieldNames.Nodup)
    (hfallback : ∀ f ∈ T.fields, f.default = true → (fallback f.name).isSome = true)
    (hsource : source.IsOf S.fieldNames) (hgiven : given.IsOf (S.conversion T k).assigned) :
    ((S.conversion T k).apply fallback source given).IsOf T.fieldNames := by
  intro n
  by_cases hn : n ∈ T.fieldNames
  · by_cases hS : n ∈ S.fieldNames
    · rw [apply_common hn hS, hsource n]
      exact iff_of_true hS hn
    · obtain ⟨f, hf, rfl⟩ := List.mem_map.mp hn
      rw [apply_missing hT hf hS]
      by_cases hk : k.fallsBack f = true
      · rw [if_pos hk]
        exact iff_of_true (hfallback f hf (ConversionKind.fallsBack_iff.mp hk).1) hn
      · rw [if_neg hk, hgiven f.name]
        exact iff_of_true ((name_mem_assigned hT hf).mpr ⟨hS, Bool.eq_false_iff.mpr hk⟩) hn
  · rw [apply_foreign hn]
    exact iff_of_false Bool.false_ne_true hn

end Apply

/-! ## Conversions of a derived family -/

/-- The family has the conversion of a kind from the one variant to the other. -/
structure FamilyOf.Has (F : Family) (S T : Variant) (k : ConversionKind) (c : Conversion) :
    Prop where
  mem : c ∈ F.conversions
  kind : c.kind = k
  source : c.source = S.name
  target : c.target = T.name

/-- **Conversions build records of their targets**: from a record of the source and values for the
arguments, every field of the target has a value, and nothing else has. -/
def FamilyOf.Builds {α : Type} (F : Family) (fallback : Valuation α) : Prop :=
  ∀ S ∈ F.variants, ∀ T ∈ F.variants, ∀ k c, F.Has S T k c → ∀ source given : Valuation α,
    source.IsOf S.fieldNames → given.IsOf c.assigned →
      (c.apply fallback source given).IsOf T.fieldNames

namespace Derives

variable {r : Record} {o : Options} {R : Registry String} {ss : List (Share String)} {F : Family}
  {S T : Variant} {k : ConversionKind} {c : Conversion} {α : Type}

/-- **The conversions that a family has** are those of the kinds that serve their ends. -/
theorem has_iff (h : Derives r o R ss F) (hS : S ∈ F.variants) (hT : T ∈ F.variants) :
    F.Has S T k c ↔
      S.name ≠ T.name ∧ k.serves (missingFields T S) = true ∧ S.conversion T k = c := by
  constructor
  · intro hc
    obtain ⟨S', hS', T', hT', hne, k', hk, rfl⟩ := h.mem_conversions.mp hc.mem
    obtain rfl : S' = S := h.variant_eq hS' hS hc.source
    obtain rfl : T' = T := h.variant_eq hT' hT hc.target
    obtain rfl : k' = k := hc.kind
    exact ⟨hne, hk, rfl⟩
  · rintro ⟨hne, hk, rfl⟩
    exact ⟨h.mem_conversions.mpr ⟨S, hS, T, hT, hne, k, hk, rfl⟩, rfl, rfl, rfl⟩

theorem fallback_isSome (h : Derives r o R ss F) (hT : T ∈ F.variants) (value : String → α)
    {f : Field} (hf : f ∈ T.fields) (hd : f.default = true) :
    (F.fallback value f.name).isSome = true := by
  obtain ⟨e, he⟩ := exists_lookup (h.mem_fallbacks hT hf hd)
  rw [FamilyOf.fallback, he]
  rfl

/-- **A derived family builds what its conversions lead to.** -/
theorem builds (h : Derives r o R ss F) (value : String → α) : F.Builds (F.fallback value) := by
  intro S hS T hT k c hc source given hsource hgiven
  obtain ⟨_, _, rfl⟩ := (h.has_iff hS hT).mp hc
  exact apply_isOf (h.fieldNames_nodup hT) (fun f hf hd => h.fallback_isSome hT value hf hd)
    hsource hgiven

end Derives

/-! ## A family with conversions of all kinds -/

/-- A page. Its stub loses the body, its digest has all that the page and the stub have, and the signed
page has an author besides, for which there is no fallback. -/
def samplePage : Record where
  name := "Page"
  fields := [
    sampleField "title" "str" [],
    sampleField "body" "str" ["not_in(\"Stub\")", "default"],
    sampleField "views" "int" ["not_in(\"Page\")", "default"],
    sampleField "author" "str" ["only_in(\"Signed\")"]]
  annotations := []
  variants := ["Stub", "Digest", "Signed"]
  docstring := none
  imports := []

end RecordFamily
