import RecordFamily.Proofs.ClassText
import RecordFamily.Proofs.Rendering
import RecordFamily.Proofs.Valuation

/-!
# Emitted conversions

The method that a conversion of a derived family is emitted as decides anew where each field of the
target comes from. It decides as the conversion does, and what it refers to is there.

* `VariantOf.originOf`, `VariantOf.methodTo`: the method of a kind between two variants;
* **`Derives.method_eq`**: a conversion of its kind is emitted as this method;
* `Method.bareNames`: the names that the constructor call of a method uses by themselves;
* `ConversionOf.methodLines`, `lines_methodTo`: the lines of the method, spelled out;
* `writtenAs_layout`, `exists_mem_body`: the text of a module, and the method in the class of its owner;
* `KeywordArgument.Fills`, `ConversionOf.EmittedAs`: keyword arguments that fill the fields of the
  target, and conversions whose methods stand in a text, pass such arguments and use each parameter once;
* **`emitted_conversions`**: every conversion of a derived family is one, in the text of the family.
-/

namespace RecordFamily

open List

/-! ## The method of a kind -/

namespace VariantOf

/-- Where the method of a kind takes the value of a field of the target from. -/
def originOf (S : Variant) (k : ConversionKind) (fallbacks : List (String × String)) (f : Field) :
    Origin :=
  if S.hasField f.name then .copied
  else if k.fallsBack f then .fallback ((fallbacks.lookup f.name).getD "")
  else .argument

/-- The method of a kind from a source to a target. -/
def methodTo (S T : Variant) (k : ConversionKind) (fallbacks : List (String × String)) :
    Method where
  name := (S.conversion T k).name
  onTarget := k == .fromSource
  source := S.name
  target := T.name
  parameters := if k == .fromSource then [] else
    (S.conversion T k).arguments.map fun a => (a.name, a.type)
  arguments := T.fields.map fun f => ⟨f.name, S.originOf k fallbacks f⟩

end VariantOf

/-- The names that the constructor call of a method uses by themselves. -/
def Method.bareNames (m : Method) : List String :=
  (m.arguments.filter fun a => a.origin == .argument).map KeywordArgument.field

section Method

variable {S T : Variant} {k : ConversionKind} {f : Field} {fallbacks : List (String × String)}

theorem originOf_eq_copied : S.originOf k fallbacks f = .copied ↔ f.name ∈ S.fieldNames := by
  rw [VariantOf.originOf, ← hasField_iff]
  split_ifs <;> simp_all

theorem originOf_eq_argument : S.originOf k fallbacks f = .argument ↔
    f.name ∉ S.fieldNames ∧ k.fallsBack f = false := by
  rw [VariantOf.originOf, ← hasField_iff]
  split_ifs <;> simp_all

theorem value_originOf (receiver : String) :
    KeywordArgument.value receiver ⟨f.name, S.originOf k fallbacks f⟩ =
      if f.name ∈ S.fieldNames then receiver ++ "." ++ f.name
        else if k.fallsBack f = true then (fallbacks.lookup f.name).getD "" else f.name := by
  simp only [VariantOf.originOf, hasField_iff]
  split_ifs
  · rfl
  · rfl
  · rfl

/-- The emitted method takes a field from where the conversion takes it. -/
theorem origin_eq (hT : T.fieldNames.Nodup) (hf : f ∈ T.fields)
    (hfallback : f.default = true → f.name ∈ fallbacks.map Prod.fst) :
    (S.conversion T k).origin fallbacks f.name = .ok (S.originOf k fallbacks f) := by
  have hcopied := mem_copied (S := S) (T := T) (k := k) (n := f.name)
  have hdefaulted := name_mem_defaulted (S := S) (k := k) hT hf
  have hname : f.name ∈ T.fieldNames := List.mem_map_of_mem hf
  unfold ConversionOf.origin VariantOf.originOf
  simp only [List.contains_iff_mem, hasField_iff]
  by_cases hS : f.name ∈ S.fieldNames
  · rw [if_pos (hcopied.mpr ⟨hname, hS⟩), if_pos hS]
  · rw [if_neg (fun h => hS (hcopied.mp h).2), if_neg hS]
    by_cases hk : k.fallsBack f = true
    · obtain ⟨e, he⟩ := exists_lookup (hfallback (ConversionKind.fallsBack_iff.mp hk).1)
      rw [if_pos (hdefaulted.mpr ⟨hS, hk⟩), if_pos hk, he]
      rfl
    · rw [if_neg (fun h => hk (hdefaulted.mp h).2), if_neg hk]

theorem bareNames_methodTo :
    (S.methodTo T k fallbacks).bareNames = (S.conversion T k).assigned := by
  change ((T.fields.map _).filter _).map KeywordArgument.field =
    ((missingFields T S).filter fun f => !k.fallsBack f).map FieldOf.name
  rw [filter_missingFields, List.filter_map, List.map_map]
  have hname : KeywordArgument.field ∘ (fun f : Field => ⟨f.name, S.originOf k fallbacks f⟩) =
      FieldOf.name := rfl
  rw [hname]
  refine congrArg (List.map FieldOf.name) (List.filter_congr fun f _ => ?_)
  rw [Bool.eq_iff_iff, Function.comp_apply, beq_iff_eq, originOf_eq_argument]
  simp [and_comm]

end Method

namespace Derives

variable {r : Record} {o : Options} {R : Registry String} {ss : List (Share String)} {F : Family}
  {S T : Variant}

/-- **The method of a conversion** is that of its kind between its ends. -/
theorem method_eq (h : Derives r o R ss F) (hT : T ∈ F.variants) (k : ConversionKind) :
    (S.conversion T k).method F = .ok (S.methodTo T k F.fallbacks) := by
  have harguments : (S.conversion T k).keywordArguments F.fallbacks T =
      .ok (T.fields.map fun f => ⟨f.name, S.originOf k F.fallbacks f⟩) := by
    rw [ConversionOf.keywordArguments, requireKeys_string]
    refine mapM_ok fun f hf => ?_
    rw [origin_eq (h.fieldNames_nodup hT) hf fun hd => h.mem_fallbacks hT hf hd]
    rfl
  have htarget : F.variant? (S.conversion T k).target = some T := h.variant?_eq hT
  unfold ConversionOf.method
  rw [htarget]
  exact bind_eq_ok.mpr ⟨_, harguments, rfl⟩

end Derives

/-! ## Methods in their classes -/

section Emission

variable {F : Family} {mode : ClassMode} {v : Variant}

theorem recordClass_ok {C : RecordClass} (h : v.recordClass F mode = .ok C) :
    C.name = v.name ∧ classBody F mode v = .ok C.body := by
  unfold VariantOf.recordClass at h
  obtain ⟨_, _, h⟩ := bind_eq_ok.mp h
  obtain ⟨_, _, h⟩ := bind_eq_ok.mp h
  obtain ⟨_, _, h⟩ := bind_eq_ok.mp h
  obtain ⟨body, hbody, h⟩ := bind_eq_ok.mp h
  cases h
  exact ⟨rfl, hbody⟩

theorem name_of_method {c : Conversion} {m : Method} (h : c.method F = .ok m) : m.name = c.name := by
  unfold ConversionOf.method at h
  split at h
  · cases h
  · obtain ⟨_, _, h⟩ := bind_eq_ok.mp h
    cases h
    rfl

theorem classBody_ok {body : List ClassMember} (h : classBody F mode v = .ok body) :
    ∃ docstring fields conversions, docstringMembers F v = .ok docstring ∧
      fieldMembers v = .ok fields ∧ conversionMembers F mode v = .ok conversions ∧
        body = if (docstring ++ fields ++ accessorMembers v ++ conversions).isEmpty then [.nothing]
          else docstring ++ fields ++ accessorMembers v ++ conversions := by
  unfold classBody at h
  obtain ⟨docstring, hdocstring, h⟩ := bind_eq_ok.mp h
  obtain ⟨fields, hfields, h⟩ := bind_eq_ok.mp h
  obtain ⟨conversions, hconversions, h⟩ := bind_eq_ok.mp h
  exact ⟨docstring, fields, conversions, hdocstring, hfields, hconversions, (Except.ok.inj h).symm⟩

/-- A body with members has no placeholder. -/
theorem mem_classBody {body : List ClassMember} (h : classBody F mode v = .ok body) :
    ∃ docstring fields conversions, docstringMembers F v = .ok docstring ∧
      fieldMembers v = .ok fields ∧ conversionMembers F mode v = .ok conversions ∧
        ∀ m ∈ docstring ++ fields ++ accessorMembers v ++ conversions, m ∈ body := by
  obtain ⟨docstring, fields, conversions, hdocstring, hfields, hconversions, rfl⟩ := classBody_ok h
  refine ⟨docstring, fields, conversions, hdocstring, hfields, hconversions, fun m hm => ?_⟩
  have hne := List.isEmpty_eq_false_iff_exists_mem.mpr ⟨m, hm⟩
  rwa [if_neg (Bool.eq_false_iff.mp hne)]

/-- In full mode the body of a class holds the methods of all conversions that are its members. -/
theorem conversion_mem_classBody {body : List ClassMember} (h : classBody F .full v = .ok body)
    {c : Conversion} (hc : c ∈ F.membersOf v.name) {m : Method} (hm : c.method F = .ok m) :
    ClassMember.conversion m ∈ body := by
  obtain ⟨_, _, conversions, _, _, hconversions, hbody⟩ := mem_classBody h
  obtain ⟨x, hx, hmx⟩ := exists_mem_of_mapM hconversions hc
  rw [hm] at hmx
  cases hmx
  exact hbody _ (List.mem_append_right _ hx)

theorem classModule_ok {M : ClassModule} (h : F.classModule mode = .ok M) :
    M.interfaces = F.interfaces.map InterfaceOf.classes ∧
      Forall₂ (fun v C => v.recordClass F mode = .ok C) F.variants M.records := by
  unfold FamilyOf.classModule at h
  obtain ⟨_, _, h⟩ := bind_eq_ok.mp h
  obtain ⟨records, hrecords, h⟩ := bind_eq_ok.mp h
  obtain ⟨_, _, h⟩ := bind_eq_ok.mp h
  cases h
  exact ⟨rfl, mapM_eq_ok.mp hrecords⟩

/-- **The text of a family** has a class for each variant. -/
theorem writtenAs_layout {M : ClassModule} (h : F.classModule mode = .ok M) :
    F.WrittenAs mode M.layout where
  rendered := by
    have hsource : F.source mode = .ok M.layout.text :=
      map_eq_ok.mpr ⟨M, h, M.text_eq_layout⟩
    cases mode with
    | full => exact hsource
    | records => exact hsource
  interfaces := by
    have hfront := infix_front M
    rw [(classModule_ok h).1, List.flatMap_map] at hfront
    simpa only [lines_classes] using hfront
  classes := by
    change (M.records.map RecordClass.block).map ClassBlock.name = _
    rw [List.map_map]
    exact map_eq_of_forall₂ ((classModule_ok h).2.imp fun _ _ hC => (recordClass_ok hC).1)
  exported := by
    have hnames : M.records.map RecordClass.name = F.variants.map VariantOf.name :=
      map_eq_of_forall₂ ((classModule_ok h).2.imp fun _ _ hC => (recordClass_ok hC).1)
    change M.exported = _
    rw [ClassModule.exported, hnames, (classModule_ok h).1, List.flatMap_map]
    rfl

theorem exists_mem_records {M : ClassModule} (h : F.classModule mode = .ok M)
    (hv : v ∈ F.variants) : ∃ C ∈ M.records, v.recordClass F mode = .ok C :=
  exists_mem_of_mapM (mapM_eq_ok.mpr (classModule_ok h).2) hv

/-- **A method is emitted** in the class of the variant that has the conversion as a member. -/
theorem exists_mem_body {M : ClassModule} (h : F.classModule .full = .ok M) {c : Conversion}
    (hc : c ∈ F.conversions) (hv : v ∈ F.variants) (ho : c.owner = v.name) {m : Method}
    (hm : c.method F = .ok m) :
    ∃ C ∈ M.records, C.name = c.owner ∧ ClassMember.conversion m ∈ C.body := by
  obtain ⟨C, hC, hclass⟩ := exists_mem_records h hv
  obtain ⟨hname, hbody⟩ := recordClass_ok hclass
  have hmember : c ∈ F.membersOf v.name := List.mem_filter.mpr ⟨hc, beq_iff_eq.mpr ho⟩
  exact ⟨C, hC, hname.trans ho.symm, conversion_mem_classBody hbody hmember hm⟩

end Emission

theorem Derives.exists_module {r : Record} {o : Options} {R : Registry String}
    {ss : List (Share String)} {F : Family} (h : Derives r o R ss F) (mode : ClassMode) :
    ∃ M, F.classModule mode = .ok M :=
  h.resolves.succeeds_classModule

/-! ## Well-scoped methods -/

/-- **The keyword argument fills the field** of the target, as a conversion of the family from the
variant has it. -/
structure KeywordArgument.Fills (F : Family) (c : Conversion) (S : Variant) (f : Field)
    (a : KeywordArgument) : Prop where
  field : a.field = f.name
  copied : a.origin = .copied ↔ f.name ∈ S.fieldNames
  fallback : (∃ e, F.fallbacks.lookup f.name = some e ∧ a.origin = .fallback e) ↔
    f.name ∉ S.fieldNames ∧ f.default = true ∧ c.kind ≠ .intoTarget
  /-- What is neither copied nor falls back is an argument. -/
  argument : a.origin = .argument ↔
    f.name ∉ S.fieldNames ∧ ¬ (f.default = true ∧ c.kind ≠ .intoTarget)
  text : ∀ receiver, a.text receiver = f.name ++ "=" ++
    if f.name ∈ S.fieldNames then receiver ++ "." ++ f.name
    else if f.default = true ∧ c.kind ≠ .intoTarget then (F.fallbacks.lookup f.name).getD ""
    else f.name

/-- What the conversion passes for a field of the target, where the converted record is called
`receiver`. -/
def ConversionOf.valueOf (F : Family) (c : Conversion) (S : Variant) (receiver : String) (f : Field) :
    String :=
  if f.name ∈ S.fieldNames then receiver ++ "." ++ f.name
  else if f.default = true ∧ c.kind ≠ .intoTarget then (F.fallbacks.lookup f.name).getD ""
  else f.name

/-- The lines of a method for the conversion that has these parameters after the receiver. -/
def ConversionOf.methodLines (F : Family) (c : Conversion) (S T : Variant)
    (parameters : List (String × String)) : List String :=
  if c.kind = .fromSource then
    "    @classmethod" ::
      ("    def " ++ c.name ++ "(cls, other: " ++ S.name ++ ") -> " ++ T.name ++ ":") ::
        callLines "cls" (T.fields.map fun f => (f.name, c.valueOf F S "other" f))
  else
    ("    def " ++ c.name ++ "(" ++
      ", ".intercalate ("self" :: parameters.map fun p => p.1 ++ ": " ++ p.2) ++
      ") -> " ++ T.name ++ ":") ::
        callLines T.name (T.fields.map fun f => (f.name, c.valueOf F S "self" f))

/-- **The conversion is emitted as the method**, whose lines stand in the class of its owner in the
text. The method passes one keyword argument for each field of the target, in order, and uses each of
its parameters once. -/
structure ConversionOf.EmittedAs (F : Family) (s : SourceText) (c : Conversion) (S T : Variant)
    (m : Method) : Prop where
  method : c.method F = .ok m
  emitted : ∃ M, F.classModule .full = .ok M ∧
    ∃ C ∈ M.records, C.name = c.owner ∧ ClassMember.conversion m ∈ C.body
  lines : m.lines = c.methodLines F S T m.parameters
  written : ∃ b ∈ s.classes, b.name = c.owner ∧ c.methodLines F S T m.parameters <:+: b.body
  fills : Forall₂ (KeywordArgument.Fills F c S) T.fields m.arguments
  /-- What is used by itself is a parameter. -/
  bareNames : ∀ n ∈ m.bareNames, n ∈ m.parameters.map Prod.fst
  parameters : ∀ n ∈ m.parameters.map Prod.fst, m.bareNames.count n = 1
  ofSource : c.kind = .fromSource → m.bareNames = []

section Scope

variable {F : Family} {S T : Variant} {k : ConversionKind} {fallbacks : List (String × String)}

/-- The parameters of a method are what its constructor call uses by itself. -/
theorem parameters_methodTo (hserves : k.serves (missingFields T S) = true) :
    (S.methodTo T k fallbacks).parameters.map Prod.fst = (S.methodTo T k fallbacks).bareNames := by
  rw [bareNames_methodTo]
  cases k with
  | fromSource => exact (assigned_fromSource hserves).symm
  | intoTarget | intoDefaults => exact List.map_map

theorem value_methodTo (receiver : String) (f : Field) :
    KeywordArgument.value receiver ⟨f.name, S.originOf k F.fallbacks f⟩ =
      (S.conversion T k).valueOf F S receiver f := by
  rw [value_originOf]
  simp only [ConversionKind.fallsBack_iff]
  rfl

/-- **The lines of the method of a kind**, spelled out. -/
theorem lines_methodTo : (S.methodTo T k F.fallbacks).lines =
    (S.conversion T k).methodLines F S T (S.methodTo T k F.fallbacks).parameters := by
  have hvalues : ∀ receiver, (S.methodTo T k F.fallbacks).arguments.map
      (fun a => (a.field, a.value receiver)) =
        T.fields.map fun f => (f.name, (S.conversion T k).valueOf F S receiver f) := by
    intro receiver
    rw [VariantOf.methodTo, List.map_map]
    exact List.map_congr_left fun f _ => Prod.ext rfl (value_methodTo receiver f)
  rw [Method.lines_eq, hvalues, hvalues]
  cases k with
  | fromSource => rfl
  | intoTarget | intoDefaults => rfl

end Scope

namespace Derives

variable {r : Record} {o : Options} {R : Registry String} {ss : List (Share String)} {F : Family}
  {S T : Variant} {k : ConversionKind}

theorem fills (h : Derives r o R ss F) (hT : T ∈ F.variants) {f : Field} (hf : f ∈ T.fields) :
    KeywordArgument.Fills F (S.conversion T k) S f ⟨f.name, S.originOf k F.fallbacks f⟩ where
  field := rfl
  copied := originOf_eq_copied
  fallback := by
    change _ ↔ f.name ∉ S.fieldNames ∧ f.default = true ∧ k ≠ .intoTarget
    rw [← ConversionKind.fallsBack_iff, VariantOf.originOf, ← hasField_iff]
    constructor
    · rintro ⟨e, _, he⟩
      split_ifs at he with hS hk
      exact ⟨hS, hk⟩
    · rintro ⟨hS, hk⟩
      obtain ⟨e, he⟩ :=
        exists_lookup (h.mem_fallbacks hT hf (ConversionKind.fallsBack_iff.mp hk).1)
      refine ⟨e, he, ?_⟩
      rw [if_neg hS, if_pos hk, he]
      rfl
  argument := by
    change _ ↔ f.name ∉ S.fieldNames ∧ ¬ (f.default = true ∧ k ≠ .intoTarget)
    rw [← ConversionKind.fallsBack_iff, Bool.not_eq_true]
    exact originOf_eq_argument
  text := fun receiver =>
    (KeywordArgument.text_eq _ receiver).trans (congrArg (f.name ++ "=" ++ ·) (value_methodTo receiver f))

theorem emittedAs (h : Derives r o R ss F) {M : ClassModule} (hM : F.classModule .full = .ok M)
    (hS : S ∈ F.variants) (hT : T ∈ F.variants) (hc : S.conversion T k ∈ F.conversions)
    (hserves : k.serves (missingFields T S) = true) :
    (S.conversion T k).EmittedAs F M.layout S T (S.methodTo T k F.fallbacks) := by
  have hparameters : (S.methodTo T k F.fallbacks).parameters.map Prod.fst =
      (S.methodTo T k F.fallbacks).bareNames := parameters_methodTo hserves
  have hassigned : (S.methodTo T k F.fallbacks).bareNames = (S.conversion T k).assigned :=
    bareNames_methodTo
  have hnodup : (S.conversion T k).assigned.Nodup :=
    (conversion_completes_of_serves (h.fieldNames_nodup hT) hserves).assigned_sublist.nodup
      (h.fieldNames_nodup hT)
  have hmethod := h.method_eq (S := S) hT k
  -- A conversion without arguments belongs to its target, the others to their source.
  have hbody : ∃ C ∈ M.records, C.name = (S.conversion T k).owner ∧
      ClassMember.conversion (S.methodTo T k F.fallbacks) ∈ C.body := by
    cases k with
    | fromSource => exact exists_mem_body hM hc hT rfl hmethod
    | intoTarget | intoDefaults => exact exists_mem_body hM hc hS rfl hmethod
  obtain ⟨C, hC, hname, hmember⟩ := hbody
  have hwritten : (S.methodTo T k F.fallbacks).lines <:+: C.block.body := infix_body hmember
  rw [lines_methodTo] at hwritten
  refine ⟨hmethod, ⟨M, hM, C, hC, hname, hmember⟩, lines_methodTo,
    ⟨C.block, List.mem_map_of_mem hC, hname, hwritten⟩, ?_, ?_, ?_, ?_⟩
  · exact List.forall₂_map_right_iff.mpr (List.forall₂_same.mpr fun f hf => h.fills hT hf)
  · intro n hn
    rwa [hparameters]
  · intro n hn
    rw [hparameters] at hn
    rw [hassigned] at hn ⊢
    exact List.count_eq_one_of_mem hnodup hn
  · rintro (rfl : k = .fromSource)
    rw [hassigned]
    exact assigned_fromSource hserves

end Derives

/-- **Emitted conversions are complete and well scoped.** -/
theorem emitted_conversions {r : Record} {o : Options} {F : Family}
    (h : (r.derive o).result = .ok F) : ∃ s, F.WrittenAs .full s ∧ ∀ c ∈ F.conversions,
      ∃ S T m, F.variant? c.source = some S ∧ F.variant? c.target = some T ∧
        c.EmittedAs F s S T m := by
  obtain ⟨R, ss, h⟩ := derive_ok.mp h
  obtain ⟨M, hM⟩ := h.exists_module .full
  refine ⟨M.layout, writtenAs_layout hM, fun c hc => ?_⟩
  obtain ⟨S, hS, T, hT, _, k, hk, rfl⟩ := h.mem_conversions.mp hc
  exact ⟨S, T, _, h.variant?_eq hS, h.variant?_eq hT, h.emittedAs hM hS hT hc hk⟩

/-- A signed page is made from a stub: the author is asked for, and the body falls back. -/
theorem emitted_conversions_page : ∃ F c s, (samplePage.derive {}).result = .ok F ∧
    c ∈ F.conversions ∧ (c.source = "Stub" ∧ c.target = "Signed" ∧ c.kind = .intoDefaults) ∧
      F.WrittenAs .full s ∧ ∃ S T m, F.variant? c.source = some S ∧
        F.variant? c.target = some T ∧ c.EmittedAs F s S T m := by
  have hyields : (samplePage.derive {}).yields (fun F => F.conversions.any fun c =>
      c.source = "Stub" ∧ c.target = "Signed" ∧ c.kind = .intoDefaults) = true := by decide +kernel
  obtain ⟨F, hF, hany⟩ := Outcome.yields_iff.mp hyields
  obtain ⟨c, hc, hends⟩ := List.any_eq_true.mp hany
  obtain ⟨s, hs, hemitted⟩ := emitted_conversions hF
  exact ⟨F, c, s, hF, hc, of_decide_eq_true hends, hs, hemitted c hc⟩

end RecordFamily
