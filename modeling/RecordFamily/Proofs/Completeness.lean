import RecordFamily.Proofs.Conversion

/-!
# Conversions are complete

A conversion fills every field of its target once, and from a place that has a value for it.

* `ConversionOf.Completes`: a conversion that does so, from a given source to a given target;
* `Derives.completes`: the conversion of a kind does so;
* **`conversion_completes`**: every conversion of a derived family does so.
-/

namespace RecordFamily

open List

/-- **The conversion fills each field of the target once**: it copies fields that the source owns, and
fills those that the source lacks by fallbacks or arguments, as its kind has it. -/
structure ConversionOf.Completes (c : Conversion) (S T : Variant) : Prop where
  /-- No field is filled twice. -/
  nodup : (c.copied ++ c.defaulted ++ c.assigned).Nodup
  /-- Every field is filled. -/
  perm : c.copied ++ c.defaulted ++ c.assigned ~ T.fieldNames
  copied_sublist : c.copied <+ T.fieldNames
  defaulted_sublist : c.defaulted <+ T.fieldNames
  assigned_sublist : c.assigned <+ T.fieldNames
  /-- What is copied is there. -/
  owned : ∀ n ∈ c.copied, n ∈ S.fieldNames
  /-- What is not copied is not there. -/
  lacked : ∀ n ∈ c.defaulted ++ c.assigned, n ∉ S.fieldNames
  /-- The arguments are the fields that are assigned. -/
  arguments : c.arguments = T.fields.filter fun f => c.assigned.contains f.name
  argument_names : c.arguments.map FieldOf.name = c.assigned
  /-- A fallback is used only where the field has one. -/
  default : ∀ n ∈ c.defaulted, ∃ f ∈ T.fields, f.name = n ∧ f.default = true
  ofSource : c.kind = .fromSource → c.assigned = []
  intoTarget : c.kind = .intoTarget →
    c.defaulted = [] ∧ c.assigned = T.fieldNames.filter fun n => !S.fieldNames.contains n
  intoDefaults : c.kind = .intoDefaults → c.assigned =
    (T.fields.filter fun f => !f.default && !S.fieldNames.contains f.name).map FieldOf.name

section Conversion

variable {S T : Variant} {k : ConversionKind}

/-- Copied, defaulted and assigned fields make up the target. -/
theorem conversion_perm :
    (S.conversion T k).copied ++ (S.conversion T k).defaulted ++ (S.conversion T k).assigned ~
      T.fieldNames := by
  have hmissing := (List.filter_append_perm k.fallsBack (missingFields T S)).map FieldOf.name
  have hall := (common_append_missing_perm (S := S) (T := T)).map FieldOf.name
  rw [List.map_append] at hmissing hall
  rw [List.append_assoc]
  exact (hmissing.append_left _).trans hall

theorem conversion_lacked {n : String}
    (hn : n ∈ (S.conversion T k).defaulted ++ (S.conversion T k).assigned) : n ∉ S.fieldNames := by
  have hmissing : n ∈ (missingFields T S).map FieldOf.name := by
    rcases List.mem_append.mp hn with hn | hn
    · exact List.filter_sublist.map _ |>.subset hn
    · exact List.filter_sublist.map _ |>.subset hn
  obtain ⟨f, hf, rfl⟩ := List.mem_map.mp hmissing
  exact (mem_missingFields.mp hf).2

theorem filter_missingFields (p : Field → Bool) : (missingFields T S).filter p =
    T.fields.filter fun f => p f && !S.fieldNames.contains f.name := by
  rw [missingFields, List.filter_filter]
  exact List.filter_congr fun f _ => by rw [hasField_eq]

theorem name_mem_filter_missing (hT : T.fieldNames.Nodup) {f : Field} (hf : f ∈ T.fields)
    {p : Field → Bool} : f.name ∈ ((missingFields T S).filter p).map FieldOf.name ↔
      f.name ∉ S.fieldNames ∧ p f = true := by
  constructor
  · intro h
    obtain ⟨g, hg, hn⟩ := List.mem_map.mp h
    obtain ⟨hg, hp⟩ := List.mem_filter.mp hg
    obtain ⟨hgT, hgS⟩ := mem_missingFields.mp hg
    obtain rfl : g = f := List.inj_on_of_nodup_map hT hgT hf hn
    exact ⟨hgS, hp⟩
  · rintro ⟨hS, hp⟩
    exact List.mem_map_of_mem (List.mem_filter.mpr ⟨mem_missingFields.mpr ⟨hf, hS⟩, hp⟩)

theorem conversion_arguments (hT : T.fieldNames.Nodup) : (S.conversion T k).arguments =
    T.fields.filter fun f => (S.conversion T k).assigned.contains f.name := by
  change (missingFields T S).filter (fun f => !k.fallsBack f) = _
  rw [filter_missingFields]
  refine List.filter_congr fun f hf => ?_
  have hassigned : f.name ∈ (S.conversion T k).assigned ↔
      f.name ∉ S.fieldNames ∧ (!k.fallsBack f) = true := name_mem_filter_missing hT hf
  rw [Bool.eq_iff_iff, List.contains_iff_mem, hassigned]
  simp [and_comm]

/-- The conversion of a kind that serves its pair completes the target. -/
theorem conversion_completes_of_serves (hT : T.fieldNames.Nodup)
    (hk : k.serves (missingFields T S) = true) : (S.conversion T k).Completes S T where
  nodup := conversion_perm.nodup_iff.mpr hT
  perm := conversion_perm
  copied_sublist := List.filter_sublist.map _
  defaulted_sublist := (List.filter_sublist.trans List.filter_sublist).map _
  assigned_sublist := (List.filter_sublist.trans List.filter_sublist).map _
  owned := by
    intro n hn
    obtain ⟨f, hf, rfl⟩ := List.mem_map.mp hn
    exact (mem_commonFields.mp hf).2
  lacked := fun _ hn => conversion_lacked hn
  arguments := conversion_arguments hT
  argument_names := rfl
  default := by
    intro n hn
    obtain ⟨f, hf, rfl⟩ := List.mem_map.mp hn
    obtain ⟨hf, hd⟩ := List.mem_filter.mp hf
    exact ⟨f, (mem_missingFields.mp hf).1, rfl, (ConversionKind.fallsBack_iff.mp hd).1⟩
  ofSource := by
    rintro (rfl : k = .fromSource)
    exact assigned_fromSource hk
  intoTarget := by
    rintro (rfl : k = .intoTarget)
    refine ⟨List.map_eq_nil_iff.mpr (List.filter_eq_nil_iff.mpr fun f _ => by
      simp [ConversionKind.fallsBack]), ?_⟩
    change ((missingFields T S).filter _).map FieldOf.name = _
    rw [filter_missingFields]
    change _ = (T.fields.map FieldOf.name).filter _
    rw [List.filter_map]
    rfl
  intoDefaults := by
    rintro (rfl : k = .intoDefaults)
    change ((missingFields T S).filter _).map FieldOf.name = _
    rw [filter_missingFields]
    rfl

end Conversion

/-- **Every conversion of a derived family is complete.** Its source and its target are variants of the
family; it fills the fields of the target once each, and the fallbacks that it needs are there. -/
theorem conversion_completes {r : Record} {o : Options} {F : Family}
    (h : (r.derive o).result = .ok F) {c : Conversion} (hc : c ∈ F.conversions) :
    ∃ S T, F.variant? c.source = some S ∧ F.variant? c.target = some T ∧ c.Completes S T ∧
      T.fieldNames <+ r.fields.map FieldOf.name ∧
        ∀ n ∈ c.defaulted, n ∈ F.fallbacks.map Prod.fst := by
  obtain ⟨R, ss, h⟩ := derive_ok.mp h
  obtain ⟨S, hS, T, hT, _, k, hk, rfl⟩ := h.mem_conversions.mp hc
  have hcomplete := conversion_completes_of_serves (h.fieldNames_nodup hT) hk
  refine ⟨S, T, h.variant?_eq hS, h.variant?_eq hT, hcomplete, h.fieldNames_sublist hT, ?_⟩
  intro n hn
  obtain ⟨f, hf, rfl, hd⟩ := hcomplete.default n hn
  exact h.mem_fallbacks hT hf hd

/-- A card is made an article: the body is asked for and the revision falls back. -/
theorem conversion_completes_article : ∃ F c, (sampleArticle.derive {}).result = .ok F ∧
    c ∈ F.conversions ∧ (c.copied = ["title", "tags", "published_at"] ∧
      c.defaulted = ["revision"] ∧ c.assigned = ["body"]) ∧
    ∃ S T, F.variant? c.source = some S ∧ F.variant? c.target = some T ∧ c.Completes S T ∧
      T.fieldNames <+ sampleArticle.fields.map FieldOf.name ∧
        ∀ n ∈ c.defaulted, n ∈ F.fallbacks.map Prod.fst := by
  have hyields : (sampleArticle.derive {}).yields (fun F => F.conversions.any fun c =>
      c.copied = ["title", "tags", "published_at"] ∧ c.defaulted = ["revision"] ∧
        c.assigned = ["body"]) = true := by decide +kernel
  obtain ⟨F, hF, hany⟩ := Outcome.yields_iff.mp hyields
  obtain ⟨c, hc, hparts⟩ := List.any_eq_true.mp hany
  exact ⟨F, c, hF, hc, of_decide_eq_true hparts, conversion_completes hF hc⟩

end RecordFamily
