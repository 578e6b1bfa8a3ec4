import RecordFamily.Proofs.Method

/-!
# Calling conventions

The three conversions from one variant to another differ in what they ask for. Called with the same
values they build the same record.

* `apply_intoTarget_eq`: fallbacks that are given as arguments do what the conversion does that fills
  them itself;
* `FamilyOf.ConventionsAgree`: a family whose conventions agree;
* **`conventions_agree`**: every derived family is one.
-/

namespace RecordFamily

open List

variable {α : Type}

/-- **The calling conventions of a family agree**, where a field is missing: the conversion that asks
for all missing fields, given the fallbacks of those that have one, does what the conversion does that
fills them itself. Without a required field this asks for nothing and does what the conversion without
arguments does, and the two are emitted with the same keyword arguments. -/
structure FamilyOf.ConventionsAgree (F : Family) (fallback : Valuation α) : Prop where
  builds : F.Builds fallback
  parameterized : ∀ S ∈ F.variants, ∀ T ∈ F.variants, S.name ≠ T.name →
    (∃ f ∈ T.fields, f.name ∉ S.fieldNames) →
      (∃ c, F.Has S T .intoTarget c) ∧ ∃ d, F.Has S T .intoDefaults d
  explicit : ∀ S ∈ F.variants, ∀ T ∈ F.variants,
    ∀ c, F.Has S T .intoTarget c → ∀ d, F.Has S T .intoDefaults d →
      ∀ source given all : Valuation α,
        (∀ f ∈ T.fields, f.name ∉ S.fieldNames →
          all f.name = if f.default then fallback f.name else given f.name) →
        c.apply fallback source all = d.apply fallback source given
  direct : ∀ S ∈ F.variants, ∀ T ∈ F.variants, ∀ e ∈ F.edges, e.source = S.name →
    e.target = T.name → e.isTotal = true → ∃ b, F.Has S T .fromSource b
  noArguments : ∀ S ∈ F.variants, ∀ T ∈ F.variants,
    ∀ b, F.Has S T .fromSource b → ∀ d, F.Has S T .intoDefaults d →
      d.arguments = [] ∧ ∀ source : Valuation α,
        d.apply fallback source Valuation.empty = b.apply fallback source Valuation.empty
  /-- The emitted calls differ in their receivers and in nothing else. -/
  emitted : ∃ s, F.WrittenAs .full s ∧ ∀ S ∈ F.variants, ∀ T ∈ F.variants,
    ∀ b, F.Has S T .fromSource b → ∀ d, F.Has S T .intoDefaults d →
      (∃ m m' arguments, b.EmittedAs F s S T m ∧ d.EmittedAs F s S T m' ∧
        constructorCall "cls" "other" arguments <:+ m.lines ∧
          constructorCall T.name "self" arguments <:+ m'.lines) ∧
        ∀ receiver f, b.valueOf F S receiver f = d.valueOf F S receiver f

section Apply

variable {S T : Variant} {fallback source given all : Valuation α}

theorem apply_intoTarget_eq (hT : T.fieldNames.Nodup)
    (hall : ∀ f ∈ T.fields, f.name ∉ S.fieldNames →
      all f.name = if f.default then fallback f.name else given f.name) :
    (S.conversion T .intoTarget).apply fallback source all =
      (S.conversion T .intoDefaults).apply fallback source given := by
  funext n
  by_cases hn : n ∈ T.fieldNames
  · by_cases hS : n ∈ S.fieldNames
    · rw [apply_common hn hS, apply_common hn hS]
    · obtain ⟨f, hf, rfl⟩ := List.mem_map.mp hn
      rw [apply_missing hT hf hS, apply_missing hT hf hS]
      exact hall f hf hS
  · rw [apply_foreign hn, apply_foreign hn]

end Apply

/-- **The three calling conventions agree.** -/
theorem conventions_agree {r : Record} {o : Options} {F : Family}
    (h : (r.derive o).result = .ok F) (value : String → α) :
    F.ConventionsAgree (F.fallback value) := by
  obtain ⟨R, ss, h⟩ := derive_ok.mp h
  refine ⟨h.builds value, ?_, ?_, ?_, ?_, ?_⟩
  · intro S hS T hT hne hmissing
    have hinto := (serves_parameterized (by decide : ConversionKind.intoTarget ≠ _)).mpr hmissing
    have hdefaults := (serves_parameterized (by decide : ConversionKind.intoDefaults ≠ _)).mpr hmissing
    exact ⟨⟨_, (h.has_iff hS hT).mpr ⟨hne, hinto, rfl⟩⟩,
      ⟨_, (h.has_iff hS hT).mpr ⟨hne, hdefaults, rfl⟩⟩⟩
  · intro S hS T hT c hc d hd source given all hall
    obtain ⟨_, _, rfl⟩ := (h.has_iff hS hT).mp hc
    obtain ⟨_, _, rfl⟩ := (h.has_iff hS hT).mp hd
    exact apply_intoTarget_eq (h.fieldNames_nodup hT) hall
  · intro S hS T hT e he hs ht htotal
    obtain ⟨hne, rfl⟩ := h.edge_eq hS hT he hs ht
    rw [isTotal_between] at htotal
    exact ⟨_, (h.has_iff hS hT).mpr ⟨hne, htotal, rfl⟩⟩
  · intro S hS T hT b hb d hd
    obtain ⟨_, hserves, rfl⟩ := (h.has_iff hS hT).mp hb
    obtain ⟨_, _, rfl⟩ := (h.has_iff hS hT).mp hd
    -- The two kinds fall back alike, so they fill the fields alike.
    exact ⟨requiredFields_eq_nil hserves, fun _ => rfl⟩
  · obtain ⟨M, hM⟩ := h.exists_module .full
    refine ⟨M.layout, writtenAs_layout hM, fun S hS T hT b hb d hd => ?_⟩
    obtain ⟨_, hfrom, rfl⟩ := (h.has_iff hS hT).mp hb
    obtain ⟨_, hinto, rfl⟩ := (h.has_iff hS hT).mp hd
    have hcall : constructorCall "cls" "other" (S.methodTo T .fromSource F.fallbacks).arguments <:+
        (S.methodTo T .fromSource F.fallbacks).lines :=
      (List.suffix_cons _ _).trans (List.suffix_cons _ _)
    have hcall' : constructorCall T.name "self" (S.methodTo T .intoDefaults F.fallbacks).arguments <:+
        (S.methodTo T .intoDefaults F.fallbacks).lines := List.suffix_cons _ _
    -- Both methods take each field from the same place, so one list of keyword arguments is theirs.
    have hsame : (S.methodTo T .intoDefaults F.fallbacks).arguments =
        (S.methodTo T .fromSource F.fallbacks).arguments := rfl
    rw [hsame] at hcall'
    refine ⟨⟨_, _, _, h.emittedAs hM hS hT hb.mem hfrom, h.emittedAs hM hS hT hd.mem hinto,
      hcall, hcall'⟩, fun receiver f => ?_⟩
    rw [← value_methodTo, ← value_methodTo]
    rfl

/-- A stub is made a digest, which asks for nothing, and a signed page, which asks for its author. -/
theorem conventions_agree_page : ∃ F, (samplePage.derive {}).result = .ok F ∧
    ((F.find? "Stub" "Digest" .fromSource).isSome ∧ (F.find? "Stub" "Digest" .intoDefaults).isSome ∧
      (F.find? "Stub" "Signed" .fromSource).isNone ∧ (F.find? "Stub" "Signed" .intoTarget).isSome) ∧
      F.ConventionsAgree (F.fallback id) := by
  have hyields : (samplePage.derive {}).yields (fun F =>
      (F.find? "Stub" "Digest" .fromSource).isSome ∧ (F.find? "Stub" "Digest" .intoDefaults).isSome ∧
        (F.find? "Stub" "Signed" .fromSource).isNone ∧
          (F.find? "Stub" "Signed" .intoTarget).isSome) = true := by decide +kernel
  obtain ⟨F, hF, hfound⟩ := Outcome.yields_iff.mp hyields
  exact ⟨F, hF, of_decide_eq_true hfound, conventions_agree hF id⟩

end RecordFamily
