import RecordFamily.Proofs.BodyNames
import RecordFamily.Proofs.Method

/-!
# Names that are generated twice

The report of a family on its names is made before any class is written. It agrees with the classes
that are written later.

* `memberCollision_inj`, `memberCollision_ne_topLevel`: an entry tells what it is about, since no
  variant has a point in its name;
* `mem_collisions`, `collisions_eq_nil`, `nodup_collisions`: what is reported, and that it is once;
* `defined_recordClass`: the names that the class of a variant defines;
* `Derives.defines`: its lines define them and nothing else;
* `FamilyOf.Reports`: a report that is exact for a text;
* **`collisions_reported`**: that of every derived family is, for the text of the family.
-/

namespace RecordFamily

open List

/-! ## Entries -/

/-- What stands before the first point is known, and what stands after it. -/
theorem append_point_inj {xs ys xs' ys' : List Char} (h : '.' ∉ xs) (h' : '.' ∉ xs')
    (he : xs ++ '.' :: ys = xs' ++ '.' :: ys') : xs = xs' ∧ ys = ys' := by
  have hxs : xs = xs' := by rw [← takeWhile_before h ys, he, takeWhile_before h' ys']
  subst hxs
  exact ⟨rfl, List.cons_injective (List.append_cancel_left he)⟩

theorem toList_memberCollision (v n : String) : (memberCollision v n).toList =
    '\x60' :: (v.toList ++ '.' :: n.toList) ++ "\x60 is generated more than once".toList := by
  have he : memberCollision v n = "\x60" ++ v ++ "." ++ n ++ "\x60 is generated more than once" := rfl
  simp [he, String.toList_append]

theorem toList_topLevelCollision (n : String) : (topLevelCollision n).toList =
    '\x60' :: n.toList ++ "\x60 is generated more than once".toList := by
  have he : topLevelCollision n = "\x60" ++ n ++ "\x60 is generated more than once" := rfl
  simp [he, String.toList_append]

theorem memberCollision_inj {v w n m : String} (hv : '.' ∉ v.toList) (hw : '.' ∉ w.toList) :
    memberCollision v n = memberCollision w m ↔ v = w ∧ n = m := by
  constructor
  · intro h
    have hlist := congrArg String.toList h
    rw [toList_memberCollision, toList_memberCollision] at hlist
    have hinner := List.cons_injective (List.append_cancel_right hlist)
    obtain ⟨hvw, hnm⟩ := append_point_inj hv hw hinner
    exact ⟨String.toList_inj.mp hvw, String.toList_inj.mp hnm⟩
  · rintro ⟨rfl, rfl⟩
    rfl

theorem topLevelCollision_inj {n m : String} : topLevelCollision n = topLevelCollision m ↔ n = m := by
  constructor
  · intro h
    have hlist := congrArg String.toList h
    rw [toList_topLevelCollision, toList_topLevelCollision] at hlist
    exact String.toList_inj.mp (List.cons_injective (List.append_cancel_right hlist))
  · rintro rfl
    rfl

/-- An entry on a member has a point, and one on a name without a point has none. -/
theorem memberCollision_ne_topLevel {v n m : String} (hm : '.' ∉ m.toList) :
    memberCollision v n ≠ topLevelCollision m := by
  intro h
  have hlist := congrArg String.toList h
  rw [toList_memberCollision, toList_topLevelCollision] at hlist
  have hinner := List.cons_injective (List.append_cancel_right hlist)
  exact hm (hinner ▸ List.mem_append_right _ List.mem_cons_self)

/-! ## The report -/

section Report

variable {variants : List Variant} {interfaces : List Interface} {conversions : List Conversion}

theorem mem_collisions {e : String} : e ∈ collisions variants interfaces conversions ↔
    (∃ V ∈ variants, ∃ n, 2 ≤ (memberNames V conversions).count n ∧ memberCollision V.name n = e) ∨
      ∃ n, 2 ≤ (topLevelNames variants interfaces).count n ∧ topLevelCollision n = e := by
  simp only [collisions, List.mem_append, List.mem_flatMap, List.mem_map, mem_repeated]

theorem collisions_eq_nil : collisions variants interfaces conversions = [] ↔
    (∀ V ∈ variants, (memberNames V conversions).Nodup) ∧
      (topLevelNames variants interfaces).Nodup := by
  simp only [collisions, List.append_eq_nil_iff, List.flatMap_eq_nil_iff, List.map_eq_nil_iff,
    repeated_eq_nil]

/-- **Nothing is reported twice**, where no name but those of members has a point. -/
theorem nodup_collisions (hnames : (variants.map VariantOf.name).Nodup)
    (hvariants : ∀ V ∈ variants, '.' ∉ V.name.toList)
    (htop : ∀ n ∈ topLevelNames variants interfaces, '.' ∉ n.toList) :
    (collisions variants interfaces conversions).Nodup := by
  have hmem : ∀ n ∈ repeated (topLevelNames variants interfaces), '.' ∉ n.toList := fun n hn =>
    htop n (List.count_pos_iff.mp (by have := mem_repeated.mp hn; omega))
  rw [collisions, List.nodup_append']
  refine ⟨List.nodup_flatMap.mpr ⟨?_, ?_⟩, ?_, ?_⟩
  · intro V hV
    exact (nodup_repeated _).map fun n m h =>
      ((memberCollision_inj (hvariants V hV) (hvariants V hV)).mp h).2
  · -- Entries on different variants differ in what stands before the point.
    refine (List.pairwise_map.mp hnames).imp_of_mem fun {V W} hV hW hne => ?_
    intro e he he'
    obtain ⟨n, _, rfl⟩ := List.mem_map.mp he
    obtain ⟨m, _, hm⟩ := List.mem_map.mp he'
    exact hne ((memberCollision_inj (hvariants W hW) (hvariants V hV)).mp hm).1.symm
  · exact (nodup_repeated _).map fun n m h => topLevelCollision_inj.mp h
  · intro e he he'
    obtain ⟨V, _, he⟩ := List.mem_flatMap.mp he
    obtain ⟨n, _, rfl⟩ := List.mem_map.mp he
    obtain ⟨m, hm, he'⟩ := List.mem_map.mp he'
    exact memberCollision_ne_topLevel (hmem m hm) he'.symm

end Report

/-! ## The names that a class defines -/

section Defined

variable {F : Family} {v : Variant}

theorem docstringMembers_ok {ms : List ClassMember} (h : docstringMembers F v = .ok ms) :
    ms = [] ∨ ∃ text, ms = [.docstring text] := by
  unfold docstringMembers at h
  split at h
  · split_ifs at h
    · obtain ⟨text, _, rfl⟩ := map_eq_ok.mp h
      exact .inr ⟨text, rfl⟩
    · cases h
      exact .inl rfl
  · cases h
    exact .inl rfl

theorem fieldMembers_ok {ms : List ClassMember} (h : fieldMembers v = .ok ms) :
    ms = [] ∧ v.fieldNames = [] ∨
      ∃ entries, ms = [.fields entries] ∧ entries.map Prod.fst = v.fieldNames := by
  unfold fieldMembers at h
  split_ifs at h with hf
  · cases h
    refine .inl ⟨rfl, ?_⟩
    rw [VariantOf.fieldNames, List.isEmpty_iff.mp hf]
    rfl
  · obtain ⟨entries, hentries, h⟩ := bind_eq_ok.mp h
    cases h
    refine .inr ⟨entries, rfl, map_eq_of_mapM hentries fun f e he => ?_⟩
    obtain ⟨_, _, he⟩ := bind_eq_ok.mp he
    cases he
    rfl

theorem conversionMembers_ok {ms : List ClassMember} (h : conversionMembers F .full v = .ok ms) :
    Forall₂ (fun c m => ∃ method : Method, method.name = c.name ∧ m = .conversion method)
      (F.membersOf v.name) ms := by
  refine (mapM_eq_ok.mp h).imp fun c m hm => ?_
  obtain ⟨method, hmethod, rfl⟩ := map_eq_ok.mp hm
  exact ⟨method, name_of_method hmethod, rfl⟩

theorem defined_docstringMembers {ms : List ClassMember} (h : docstringMembers F v = .ok ms) :
    ms.flatMap ClassMember.defined = [] := by
  rcases docstringMembers_ok h with rfl | ⟨_, rfl⟩
  · rfl
  · rfl

theorem defined_fieldMembers {ms : List ClassMember} (h : fieldMembers v = .ok ms) :
    ms.flatMap ClassMember.defined = v.fieldNames := by
  rcases fieldMembers_ok h with ⟨rfl, hnone⟩ | ⟨entries, rfl, hnames⟩
  · exact hnone.symm
  · exact (List.append_nil _).trans hnames

theorem defined_accessorMembers (v : Variant) :
    (accessorMembers v).flatMap ClassMember.defined = v.fields.flatMap accessorNames := by
  rw [accessorMembers, List.flatMap_assoc]
  rfl

theorem defined_conversionMembers {ms : List ClassMember}
    (h : conversionMembers F .full v = .ok ms) :
    ms.flatMap ClassMember.defined = (F.membersOf v.name).map ConversionOf.name := by
  have hnames : ms.map ClassMember.defined = (F.membersOf v.name).map fun c => [c.name] :=
    map_eq_of_forall₂ ((conversionMembers_ok h).imp fun c m hm => by
      obtain ⟨method, hname, rfl⟩ := hm
      rw [ClassMember.defined, hname])
  rw [List.flatMap, hnames, ← List.flatMap, ← List.map_eq_flatMap]

/-- **The class of a variant defines the members that are generated on it**, in order. -/
theorem defined_recordClass {C : RecordClass} (h : v.recordClass F .full = .ok C) :
    C.defined = memberNames v F.conversions := by
  obtain ⟨_, hbody⟩ := recordClass_ok h
  obtain ⟨docstring, fields, conversions, hdocstring, hfields, hconversions, hbody⟩ :=
    classBody_ok hbody
  have hdefined : C.defined =
      (docstring ++ fields ++ accessorMembers v ++ conversions).flatMap ClassMember.defined := by
    rw [RecordClass.defined, hbody]
    split_ifs with he
    · rw [List.isEmpty_iff.mp he]
      rfl
    · rfl
  rw [hdefined, List.flatMap_append, List.flatMap_append, List.flatMap_append,
    defined_docstringMembers hdocstring, defined_fieldMembers hfields, defined_accessorMembers,
    defined_conversionMembers hconversions]
  rfl

/-- Behind its documentation a class has fields, accessors and conversions, or the placeholder. -/
theorem exists_parts {C : RecordClass} (h : v.recordClass F .full = .ok C) :
    ∃ notes ms fields conversions, C.body = notes ++ ms ∧
      (notes = [] ∨ ∃ text, notes = [.docstring text]) ∧ fieldMembers v = .ok fields ∧
        conversionMembers F .full v = .ok conversions ∧
          ∀ m ∈ ms, m = .nothing ∨ m ∈ fields ∨ m ∈ accessorMembers v ∨ m ∈ conversions := by
  obtain ⟨_, hbody⟩ := recordClass_ok h
  obtain ⟨docstring, fields, conversions, hdocstring, hfields, hconversions, hbody⟩ :=
    classBody_ok hbody
  split_ifs at hbody
  · refine ⟨[], [.nothing], fields, conversions, hbody, .inl rfl, hfields, hconversions, ?_⟩
    exact fun m hm => .inl (List.mem_singleton.mp hm)
  · rw [List.append_assoc, List.append_assoc] at hbody
    refine ⟨docstring, _, fields, conversions, hbody, docstringMembers_ok hdocstring, hfields,
      hconversions, fun m hm => .inr ?_⟩
    rwa [← List.mem_append, ← List.mem_append]

end Defined

/-! ## Exact reports -/

/-- **The report of the family is exact for the text.** The class of a variant defines the members that
are generated on it, and a name is reported for a variant or for the text exactly when it is defined or
exported there more than once. -/
structure FamilyOf.Reports (F : Family) (s : SourceText) : Prop where
  defined : Forall₂ (fun V b => b.name = V.name ∧ b.Defines (memberNames V F.conversions))
    F.variants s.classes
  member : ∀ V ∈ F.variants, ∀ n, memberCollision V.name n ∈ F.diagnostics ↔
    2 ≤ (memberNames V F.conversions).count n
  exported : ∀ n ∈ s.exported, topLevelCollision n ∈ F.diagnostics ↔ 2 ≤ s.exported.count n
  /-- No other entries are there. -/
  only : ∀ e ∈ F.diagnostics,
    (∃ V ∈ F.variants, ∃ n, 2 ≤ (memberNames V F.conversions).count n ∧
      memberCollision V.name n = e) ∨
      ∃ n, 2 ≤ s.exported.count n ∧ topLevelCollision n = e
  nodup : F.diagnostics.Nodup
  clean : F.diagnostics = [] ↔
    (∀ V ∈ F.variants, (memberNames V F.conversions).Nodup) ∧ s.exported.Nodup

section Family

variable {r : Record} {o : Options} {R : Registry String} {ss : List (Share String)} {F : Family}

namespace Derives

theorem point_notMem_name (h : Derives r o R ss F) {V : Variant} (hV : V ∈ F.variants) :
    '.' ∉ V.name.toList :=
  notMem_of_isValidName (h.isValidName hV) (by decide)

theorem point_notMem_topLevel (h : Derives r o R ss F) :
    ∀ n ∈ topLevelNames F.variants F.interfaces, '.' ∉ n.toList := by
  intro n hn
  rcases List.mem_append.mp hn with hn | hn
  · obtain ⟨V, hV, rfl⟩ := List.mem_map.mp hn
    exact h.point_notMem_name hV
  · obtain ⟨i, hi, hn⟩ := List.mem_flatMap.mp hn
    rw [h.interfaces] at hi
    obtain ⟨s, hs, rfl⟩ := List.mem_map.mp hi
    have hpoint : '.' ∉ s.field.name.toList :=
      notMem_of_isValidName (h.isValidName_share hs) (by decide)
    rcases List.mem_cons.mp hn with rfl | hn
    · exact point_notMem_capabilityName hpoint
    · rw [List.mem_singleton.mp hn]
      exact point_notMem_absenceName hpoint

/-- A member is reported where it is generated more than once. -/
theorem member_mem_diagnostics (h : Derives r o R ss F) {V : Variant} (hV : V ∈ F.variants)
    {n : String} : memberCollision V.name n ∈ F.diagnostics ↔
      2 ≤ (memberNames V F.conversions).count n := by
  rw [h.diagnostics, mem_collisions]
  constructor
  · rintro (⟨W, hW, m, hcount, he⟩ | ⟨m, hcount, he⟩)
    · obtain ⟨hWV, rfl⟩ :=
        (memberCollision_inj (h.point_notMem_name hW) (h.point_notMem_name hV)).mp he
      rwa [h.variant_eq hV hW hWV.symm]
    · have hm : m ∈ topLevelNames F.variants F.interfaces := List.count_pos_iff.mp (by omega)
      exact absurd he.symm (memberCollision_ne_topLevel (h.point_notMem_topLevel m hm))
  · intro hcount
    exact .inl ⟨V, hV, n, hcount, rfl⟩

theorem topLevel_mem_diagnostics (h : Derives r o R ss F) {n : String} (hn : '.' ∉ n.toList) :
    topLevelCollision n ∈ F.diagnostics ↔
      2 ≤ (topLevelNames F.variants F.interfaces).count n := by
  rw [h.diagnostics, mem_collisions]
  constructor
  · rintro (⟨V, _, m, _, he⟩ | ⟨m, hcount, he⟩)
    · exact absurd he (memberCollision_ne_topLevel hn)
    · rwa [← topLevelCollision_inj.mp he]
  · intro hcount
    exact .inr ⟨n, hcount, rfl⟩

end Derives

theorem paren_notMem_name (S T : Variant) (k : ConversionKind) (hS : isValidName S.name = true)
    (hT : isValidName T.name = true) : '(' ∉ (S.conversion T k).name.toList := by
  have hsource : '(' ∉ S.name.toList := notMem_of_isValidName hS (by decide)
  have htarget : '(' ∉ T.name.toList := notMem_of_isValidName hT (by decide)
  cases k with
  | fromSource =>
    change '(' ∉ ("from_" ++ snakeOfPascal S.name).toList
    rw [String.toList_append, List.mem_append, not_or]
    exact ⟨by decide, notMem_snakeOfPascal (by decide) hsource⟩
  | intoTarget =>
    have hwords : '(' ∉ ("into" ++ T.name).toList := by
      rw [String.toList_append, List.mem_append, not_or]
      exact ⟨by decide, htarget⟩
    exact notMem_snakeOfPascal (by decide) hwords
  | intoDefaults =>
    have hwords : '(' ∉ ("into" ++ T.name ++ "_defaults").toList := by
      rw [String.toList_append, String.toList_append, List.mem_append, List.mem_append, not_or, not_or]
      exact ⟨⟨by decide, htarget⟩, by decide⟩
    exact notMem_snakeOfPascal (by decide) hwords

/-- **The lines of a class** define the members that are generated on its variant, and nothing else. -/
theorem Derives.defines (h : Derives r o R ss F) {V : Variant} (hV : V ∈ F.variants) {C : RecordClass}
    (hC : V.recordClass F .full = .ok C) : C.block.Defines (memberNames V F.conversions) := by
  obtain ⟨notes, ms, fields, conversions, hbody, hnotes, hfields, hconversions, hms⟩ := exists_parts hC
  rw [← defined_recordClass hC]
  refine defines_block hbody hnotes fun m hm => ?_
  rcases hms m hm with rfl | hm | hm | hm
  · exact isLegible_nothing
  · rcases fieldMembers_ok hfields with ⟨rfl, _⟩ | ⟨entries, rfl, hnames⟩
    · cases hm
    · rw [List.mem_singleton.mp hm]
      refine isLegible_fields fun e he => ?_
      have hname : e.1 ∈ V.fieldNames := hnames ▸ List.mem_map_of_mem he
      obtain ⟨f, hf, hfe⟩ := List.mem_map.mp hname
      exact hfe ▸ h.isValidName_field hV hf
  · obtain ⟨f, hf, hm⟩ := List.mem_flatMap.mp hm
    have hparen : '(' ∉ f.name.toList :=
      notMem_of_isValidName (h.isValidName_field hV hf) (by decide)
    rcases List.mem_cons.mp hm with rfl | hm
    · exact isLegible_getter hparen
    · rw [List.mem_singleton.mp hm]
      exact isLegible_setter hparen
  · obtain ⟨c, hc, method, hname, rfl⟩ := exists_of_forall₂ (conversionMembers_ok hconversions).flip hm
    obtain ⟨S, hS, T, hT, _, k, _, rfl⟩ := h.mem_conversions.mp (List.mem_of_mem_filter hc)
    refine isLegible_conversion ?_
    rw [hname]
    exact paren_notMem_name S T k (h.isValidName hS) (h.isValidName hT)

/-- What is exported are the names that are generated beside the members. -/
theorem FamilyOf.WrittenAs.exported_perm {mode : ClassMode} {s : SourceText}
    (h : F.WrittenAs mode s) : s.exported ~ topLevelNames F.variants F.interfaces := by
  rw [h.exported]
  exact List.perm_append_comm

theorem Derives.reports (h : Derives r o R ss F) {M : ClassModule}
    (hM : F.classModule .full = .ok M) : F.Reports M.layout := by
  have hexported := (writtenAs_layout hM).exported_perm
  refine ⟨?_, fun V hV n => h.member_mem_diagnostics hV, ?_, ?_, ?_, ?_⟩
  · refine List.forall₂_map_right_iff.mpr ?_
    refine List.forall₂_iff_zip.mpr ⟨(classModule_ok hM).2.length_eq, fun {V C} hVC => ?_⟩
    have hC := List.forall₂_zip (classModule_ok hM).2 hVC
    exact ⟨(recordClass_ok hC).1, h.defines (List.of_mem_zip hVC).1 hC⟩
  · intro n hn
    rw [h.topLevel_mem_diagnostics (h.point_notMem_topLevel n (hexported.mem_iff.mp hn)),
      hexported.count_eq]
  · intro e he
    rw [h.diagnostics, mem_collisions] at he
    simpa only [hexported.count_eq] using he
  · rw [h.diagnostics]
    exact nodup_collisions h.names_nodup (fun V hV => h.point_notMem_name hV) h.point_notMem_topLevel
  · rw [h.diagnostics, collisions_eq_nil, hexported.nodup_iff]

end Family

/-- **Every derived family reports exactly what is generated twice** in its text. -/
theorem collisions_reported {r : Record} {o : Options} {F : Family}
    (h : (r.derive o).result = .ok F) : ∃ s, F.WrittenAs .full s ∧ F.Reports s := by
  obtain ⟨R, ss, h⟩ := derive_ok.mp h
  obtain ⟨M, hM⟩ := h.exists_module .full
  exact ⟨M.layout, writtenAs_layout hM, h.reports hM⟩

/-- A page with a field that has the name of an accessor, and one whose interface has the name of a
marker. -/
def clashingPage : Record where
  name := "Page"
  fields := [
    sampleField "title" "str" [],
    sampleField "get_title" "str" ["only_in(\"Page\")"],
    sampleField "no_title" "bool" []]
  annotations := []
  variants := ["Stub"]
  docstring := none
  imports := []

theorem collisions_reported_clashing : ∃ F, (clashingPage.derive {}).result = .ok F ∧
    F.diagnostics = [memberCollision "Page" "get_title", topLevelCollision "HasNoTitle"] ∧
      ∃ s, F.WrittenAs .full s ∧ F.Reports s := by
  have hyields : (clashingPage.derive {}).yields (fun F => F.diagnostics =
      [memberCollision "Page" "get_title", topLevelCollision "HasNoTitle"]) = true := by
    decide +kernel
  obtain ⟨F, hF, hdiagnostics⟩ := Outcome.yields_iff.mp hyields
  exact ⟨F, hF, of_decide_eq_true hdiagnostics, collisions_reported hF⟩

end RecordFamily
