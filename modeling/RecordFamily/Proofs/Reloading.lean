import RecordFamily.Proofs.Dictionary
import RecordFamily.Proofs.JsonReading
import RecordFamily.Proofs.Rendering

/-!
# Families that are saved and loaded again

A family is read back from its dictionary form as it was, and from its JSON document with its
fallbacks in the order of their keys. Nothing that is put out of it shows the difference, the YAML
document aside.

* `FamilyOf.sorted`: a family with its fallbacks in order;
* `method_sorted`, `classModule_sorted`, `json_sorted`: what it is put out as;
* `FamilyOf.Reloads`, **`family_reloads`**: a family that loses nothing when it is saved.
-/

namespace RecordFamily

open List

/-- The family with its fallbacks in the order of their keys. -/
def FamilyOf.sorted (F : Family) : Family := { F with fallbacks := byKey F.fallbacks }

/-! ## Formats -/

section Formats

variable {F : Family} {mode : ClassMode}

/-- **The order of the fallbacks does not matter** for the methods. -/
theorem method_sorted (h : (F.fallbacks.map Prod.fst).Nodup) (c : Conversion) :
    c.method F.sorted = c.method F := by
  -- A fallback is only ever looked up by the name of its field.
  have horigin : c.origin F.sorted.fallbacks = c.origin F.fallbacks := by
    funext name
    have hlookup : F.sorted.fallbacks.lookup name = F.fallbacks.lookup name :=
      (lookup_perm (byKey_perm F.fallbacks).symm h name).symm
    rw [ConversionOf.origin, ConversionOf.origin, hlookup]
  have harguments : c.keywordArguments F.sorted.fallbacks =
      (c.keywordArguments F.fallbacks : Variant → _) := by
    funext target
    rw [ConversionOf.keywordArguments, ConversionOf.keywordArguments, horigin]
  have htarget : F.sorted.variant? c.target = F.variant? c.target := rfl
  rw [ConversionOf.method, ConversionOf.method, htarget, harguments]

theorem classModule_sorted (h : (F.fallbacks.map Prod.fst).Nodup) :
    F.sorted.classModule mode = F.classModule mode := by
  have hmembers : conversionMembers F.sorted mode = conversionMembers F mode := by
    funext v
    cases mode with
    | records => rfl
    | full =>
      have hmembers : F.sorted.membersOf v.name = F.membersOf v.name := rfl
      simp only [conversionMembers, hmembers, method_sorted h]
  have hclass : VariantOf.recordClass F.sorted mode = VariantOf.recordClass F mode := by
    funext v
    rw [VariantOf.recordClass, VariantOf.recordClass, classBody, classBody, hmembers]
    rfl
  rw [FamilyOf.classModule, FamilyOf.classModule, hclass]
  rfl

theorem json_sorted : F.sorted.json = F.json := by
  have hfallbacks : Json.valueText .indented 1 (fallbackValue F.sorted.fallbacks) =
      Json.valueText .indented 1 (fallbackValue F.fallbacks) := by
    have hsorted : ∀ fallbacks : List (String × String),
        byKey (fallbacks.map fun e => (e.1, Value.text e.2)) =
          (byKey fallbacks).map fun e => (e.1, Value.text e.2) := map_byKey fun _ _ => rfl
    have htexts : ∀ fallbacks : List (String × String),
        ∀ e ∈ fallbacks.map fun e => (e.1, Value.text e.2),
          Json.valueText .indented 2 e.2 = some (Json.indentedText 2 e.2) := by
      intro fallbacks
      exact List.forall_mem_map.mpr fun _ _ => rfl
    rw [fallbackValue_eq, fallbackValue_eq, Json.valueText_record (htexts _),
      Json.valueText_record (htexts _), hsorted, hsorted, FamilyOf.sorted, byKey_byKey]
  -- All other entries are the same.
  have htext : Json.write .indented F.sorted.toValue = Json.write .indented F.toValue := by
    rw [FamilyOf.toValue, FamilyOf.toValue, Value.record, Value.record, Json.write, Json.write,
      Json.valueText, Json.valueText]
    refine congrArg (Option.bind · _) (Json.entryTexts_congr ?_)
    exact .cons ⟨rfl, rfl⟩ <| .cons ⟨rfl, rfl⟩ <| .cons ⟨rfl, rfl⟩ <| .cons ⟨rfl, rfl⟩ <|
      .cons ⟨rfl, rfl⟩ <| .cons ⟨rfl, rfl⟩ <| .cons ⟨rfl, rfl⟩ <| .cons ⟨rfl, hfallbacks⟩ <|
      .cons ⟨rfl, rfl⟩ .nil
  rw [FamilyOf.json, FamilyOf.json, htext]

/-- **What is put out of a family** does not show in which order its fallbacks stand, the YAML
document aside. -/
theorem render_sorted (h : (F.fallbacks.map Prod.fst).Nodup) {format : OutputFormat}
    (hformat : format ≠ .yaml) : F.sorted.render format = F.render format := by
  cases format with
  | classes => exact congrArg (Except.map _) (classModule_sorted h)
  | records => exact congrArg (Except.map _) (classModule_sorted h)
  | json => exact congrArg (Except.map _) json_sorted
  | yaml => exact absurd rfl hformat
  | graph => rfl
  | detailedGraph => rfl

end Formats

/-! ## Reloading -/

/-- **Nothing of the family is lost when it is saved.** It is read back from its dictionary form as
it was. From its JSON document it is read back with the same fallbacks in some order, and put out as
the same text, or with the same failure, in every format but the YAML document. -/
structure FamilyOf.Reloads (F : Family) : Prop where
  dictionary : FamilyOf.ofValue F.toValue = .ok F
  document : ∃ text F', F.json = .ok text ∧ FamilyOf.ofJson text = .ok F' ∧
    F' = { F with fallbacks := F'.fallbacks } ∧ F'.fallbacks ~ F.fallbacks ∧
      ∀ format, format ≠ .yaml → F'.render format = F.render format

/-- **A family whose fields have names, and whose fallbacks are a mapping, loses nothing when it is
saved.** -/
theorem family_reloads {F : Family} (hF : F.IsNamed) (h : (F.fallbacks.map Prod.fst).Nodup) :
    F.Reloads := by
  refine ⟨FamilyOf.ofValue_toValue hF, ?_⟩
  obtain ⟨text, htext, hread⟩ := Json.read_write (FamilyOf.isPlain_toValue h) (by decide)
  have hjson : F.json = .ok text := by
    rw [FamilyOf.json, htext]
  have hloaded : FamilyOf.ofJson text = .ok F.sorted := by
    rw [FamilyOf.ofJson, hread]
    exact FamilyOf.ofValue_inOrder hF
  exact ⟨text, F.sorted, hjson, hloaded, rfl, byKey_perm F.fallbacks,
    fun format hformat => render_sorted h hformat⟩

/-- The fallbacks of an article are not in the order of their keys. -/
theorem family_reloads_article : ∃ F, (sampleArticle.derive {}).result = .ok F ∧ F.IsNamed ∧
    F.fallbacks.map Prod.fst = ["tags", "revision"] ∧ (F.fallbacks.map Prod.fst).Nodup ∧
      F.Reloads := by
  have hyields : (sampleArticle.derive {}).yields (fun F =>
      (∀ V ∈ F.variants, ∀ f ∈ V.fields, f.name ≠ "") ∧
        (∀ c ∈ F.conversions, ∀ f ∈ c.arguments, f.name ≠ "") ∧
          F.fallbacks.map Prod.fst = ["tags", "revision"]) = true := by decide +kernel
  obtain ⟨F, hF, hparts⟩ := Outcome.yields_iff.mp hyields
  obtain ⟨hfields, harguments, hkeys⟩ := of_decide_eq_true hparts
  have hnodup : (F.fallbacks.map Prod.fst).Nodup := by
    rw [hkeys]
    decide
  exact ⟨F, hF, ⟨hfields, harguments⟩, hkeys, hnodup, family_reloads ⟨hfields, harguments⟩ hnodup⟩

end RecordFamily
