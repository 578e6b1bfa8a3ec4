import RecordFamily.Proofs.Collision

/-!
# The bases of a class

The bases of a class are collected as interfaces and markers, and put in order by their positions in
the module. Where no name is generated twice, each position belongs to one name, and what comes out is
one base for each interface.

* `InterfaceOf.baseFor`: the base that a variant has for an interface;
* `interfacePosition?_eq`: the position of a name among distinct ones;
* `basesOf_eq`: names at growing positions are sorted to themselves;
* `Derives.bases_perm`: the bases before they are put in order;
* `ClassBlock.Implements`, `ClassBlock.Inherits`: classes with the methods that an interface asks for,
  and classes with one base for each interface, and with the methods that their bases ask for;
* **`clean_bases`**: the classes in the text of a family in which no name is generated twice are such.
-/

namespace RecordFamily

open List

/-- The base that the variant has for the interface: the interface itself where it owns the field, and
its marker otherwise. -/
def InterfaceOf.baseFor (i : Interface) (V : Variant) : String :=
  if V.hasField i.fieldName then i.name else i.absenceName

theorem baseFor_mem (i : Interface) (V : Variant) : i.baseFor V ∈ [i.name, i.absenceName] := by
  unfold InterfaceOf.baseFor
  split_ifs <;> simp

/-! ## Positions -/

section Positions

variable {interfaces : List Interface} {V : Variant}

/-- **A name has the position of the interface that it belongs to**, where all names are distinct. -/
theorem interfacePosition?_eq
    (hnames : (interfaces.flatMap fun i => [i.name, i.absenceName]).Nodup) {k : Nat}
    (hk : k < interfaces.length) {name : String}
    (hname : name ∈ [interfaces[k].name, interfaces[k].absenceName]) :
    interfacePosition? interfaces name = some k := by
  have hdisjoint := List.pairwise_iff_getElem.mp (List.nodup_flatMap.mp hnames).2
  have hmem : (interfaces[k], k) ∈ interfaces.zipIdx.reverse :=
    List.mem_reverse.mpr (List.mk_mem_zipIdx_iff_getElem?.mpr (List.getElem?_eq_getElem hk))
  have htest : ∀ i : Interface, (i.name == name || i.absenceName == name) = true ↔
      name ∈ [i.name, i.absenceName] := by
    intro i
    simp [eq_comm (a := name)]
  have hfound : (interfaces.zipIdx.reverse.find? fun i =>
      i.1.name == name || i.1.absenceName == name).isSome = true :=
    List.find?_isSome.mpr ⟨_, hmem, (htest _).mpr hname⟩
  obtain ⟨⟨i, m⟩, hi⟩ := Option.isSome_iff_exists.mp hfound
  have hfits := List.find?_some hi
  have hiname : name ∈ [i.name, i.absenceName] := (htest i).mp hfits
  have him := List.mk_mem_zipIdx_iff_getElem?.mp (List.mem_reverse.mp (List.mem_of_find?_eq_some hi))
  obtain ⟨hm, rfl⟩ := List.getElem?_eq_some_iff.mp him
  rw [interfacePosition?, hi]
  -- Interfaces at two positions have no name in common.
  rcases Nat.lt_trichotomy m k with hlt | rfl | hlt
  · exact absurd hname (hdisjoint m k hm hk hlt hiname)
  · rfl
  · exact absurd hiname (hdisjoint k m hk hm hlt hname)

/-- **Names at growing positions are in order.** -/
theorem basesOf_eq {bases : List String} (hperm : V.capabilities ++ V.absences ~ bases)
    (hpositions : bases.Pairwise fun a b => (interfacePosition? interfaces a).getD
      (interfaceNames interfaces).length < (interfacePosition? interfaces b).getD
        (interfaceNames interfaces).length) : basesOf interfaces V = bases := by
  let key : String → Nat × String := fun name =>
    ((interfacePosition? interfaces name).getD (interfaceNames interfaces).length, name)
  have hgrows : (bases.map key).Pairwise fun a b => a.1 < b.1 := List.pairwise_map.mpr hpositions
  have hkeys : ((bases.map key).map Prod.fst).Nodup :=
    List.pairwise_map.mpr (hgrows.imp fun h => Nat.ne_of_lt h)
  let sorted := ((V.capabilities ++ V.absences).map key).mergeSort fun a b => decide (a.1 ≤ b.1)
  have hsorted : sorted.Pairwise fun a b => decide (a.1 ≤ b.1) = true :=
    List.pairwise_mergeSort (fun a b c hab hbc => by simp only [decide_eq_true_eq] at *; omega)
      (fun a b => by simp only [Bool.or_eq_true, decide_eq_true_eq]; omega) _
  have hsame : sorted ~ bases.map key := (List.mergeSort_perm _ _).trans (hperm.map key)
  have heq : sorted = bases.map key := by
    refine hsame.eq_of_pairwise (fun a b ha hb hab hba => ?_) hsorted
      (hgrows.imp fun h => decide_eq_true (Nat.le_of_lt h))
    have hfst : a.1 = b.1 := by simp only [decide_eq_true_eq] at hab hba; omega
    exact List.inj_on_of_nodup_map hkeys (hsame.mem_iff.mp ha) hb hfst
  change sorted.map Prod.snd = bases
  rw [heq, List.map_map]
  exact List.map_id' bases

/-- Interfaces with a name in common are one. -/
theorem eq_of_mem_names (hnames : (interfaces.flatMap fun i => [i.name, i.absenceName]).Nodup)
    {i j : Interface} (hi : i ∈ interfaces) (hj : j ∈ interfaces) {name : String}
    (hni : name ∈ [i.name, i.absenceName]) (hnj : name ∈ [j.name, j.absenceName]) : i = j := by
  obtain ⟨k, hk, rfl⟩ := List.getElem_of_mem hi
  obtain ⟨l, hl, rfl⟩ := List.getElem_of_mem hj
  have hkl : some k = some l :=
    (interfacePosition?_eq hnames hk hni).symm.trans (interfacePosition?_eq hnames hl hnj)
  cases hkl
  rfl

/-- Among some of the interfaces one is found by either of its names. -/
theorem mem_map_filter (hnames : (interfaces.flatMap fun i => [i.name, i.absenceName]).Nodup)
    {f : Interface → String} (hf : ∀ i : Interface, f i ∈ [i.name, i.absenceName])
    {p : Interface → Bool} {i : Interface} (hi : i ∈ interfaces) :
    f i ∈ (interfaces.filter p).map f ↔ p i = true := by
  rw [List.mem_map]
  constructor
  · rintro ⟨j, hj, hname⟩
    obtain ⟨hj, hp⟩ := List.mem_filter.mp hj
    rwa [eq_of_mem_names hnames hi hj (hf i) (hname ▸ hf j)]
  · exact fun hp => ⟨i, List.mem_filter.mpr ⟨hi, hp⟩, rfl⟩

theorem baseFor_positions (hnames : (interfaces.flatMap fun i => [i.name, i.absenceName]).Nodup)
    (last : Nat) : (interfaces.map fun i => i.baseFor V).Pairwise fun a b =>
      (interfacePosition? interfaces a).getD last < (interfacePosition? interfaces b).getD last := by
  rw [List.pairwise_iff_getElem]
  intro m k hm hk hlt
  rw [List.length_map] at hm hk
  rw [List.getElem_map, List.getElem_map, interfacePosition?_eq hnames hm (baseFor_mem _ V),
    interfacePosition?_eq hnames hk (baseFor_mem _ V)]
  exact hlt

end Positions

/-! ## The bases of a derived variant -/

/-- What is chosen for an item, sorted by the choice, is what is chosen for the items in order. -/
theorem map_filter_append_perm {α β : Type} (p : α → Bool) (f g : α → β) (items : List α) :
    (items.filter p).map f ++ (items.filter fun a => !p a).map g ~
      items.map fun a => if p a then f a else g a := by
  have hf : (items.filter p).map f = (items.filter p).map fun a => if p a then f a else g a :=
    List.map_congr_left fun a ha => by rw [if_pos (List.mem_filter.mp ha).2]
  have hg : (items.filter fun a => !p a).map g =
      (items.filter fun a => !p a).map fun a => if p a then f a else g a :=
    List.map_congr_left fun a ha => by
      have hpa : p a = false := by simpa using (List.mem_filter.mp ha).2
      rw [hpa, if_neg Bool.false_ne_true]
  rw [hf, hg, ← List.map_append]
  exact (List.filter_append_perm p items).map _

namespace Derives

variable {r : Record} {o : Options} {R : Registry String} {ss : List (Share String)} {F : Family}
  {V : Variant}

theorem filter_interfaces (h : Derives r o R ss F) (hV : V ∈ F.variants) (b : Bool) :
    F.interfaces.filter (fun i => V.hasField i.fieldName == b) =
      (ss.filter fun s => s.isFor V.name == b).map fun s => s.interface R.names := by
  rw [h.interfaces, List.filter_map]
  refine congrArg _ (List.filter_congr fun s hs => ?_)
  have howned : V.hasField s.field.name = s.isFor V.name := by
    rw [Bool.eq_iff_iff, hasField_iff, h.mem_fieldNames hV hs]
  change (V.hasField s.field.name == b) = _
  rw [howned]

theorem capabilities_interfaces (h : Derives r o R ss F) (hV : V ∈ F.variants) : V.capabilities =
    (F.interfaces.filter fun i => V.hasField i.fieldName).map InterfaceOf.name := by
  have hfilter := h.filter_interfaces hV true
  simp only [beq_true] at hfilter
  rw [h.capabilities_eq hV, hfilter, List.map_map]
  rfl

theorem absences_interfaces (h : Derives r o R ss F) (hV : V ∈ F.variants) : V.absences =
    (F.interfaces.filter fun i => !V.hasField i.fieldName).map InterfaceOf.absenceName := by
  have hfilter := h.filter_interfaces hV false
  simp only [beq_false] at hfilter
  rw [h.absences_eq hV, hfilter, List.map_map]
  rfl

/-- **The bases of a variant are those for the interfaces**, apart from their order. -/
theorem bases_perm (h : Derives r o R ss F) (hV : V ∈ F.variants) :
    V.capabilities ++ V.absences ~ F.interfaces.map fun i => i.baseFor V := by
  rw [h.capabilities_interfaces hV, h.absences_interfaces hV]
  exact map_filter_append_perm (fun i : Interface => V.hasField i.fieldName) _ _ F.interfaces

theorem exists_field (h : Derives r o R ss F) (hV : V ∈ F.variants) {i : Interface}
    (hi : i ∈ F.interfaces) (howned : i.fieldName ∈ V.fieldNames) :
    ∃ f ∈ V.fields, f.name = i.fieldName ∧ f.type = i.fieldType := by
  rw [h.interfaces] at hi
  obtain ⟨s, hs, rfl⟩ := List.mem_map.mp hi
  exact ⟨s.field, (h.mem_fields hV).mpr ⟨s, hs, (h.mem_fieldNames hV hs).mp howned, rfl⟩, rfl, rfl⟩

theorem accessors_eq (h : Derives r o R ss F) {i : Interface} (hi : i ∈ F.interfaces) :
    i.getter = getterName i.fieldName ∧ i.setter = setterName i.fieldName := by
  rw [h.interfaces] at hi
  obtain ⟨s, _, rfl⟩ := List.mem_map.mp hi
  exact ⟨rfl, rfl⟩

/-- Where no name is generated twice, no interface or marker shares its name with another. -/
theorem interfaceNames_nodup (h : Derives r o R ss F) (hclean : F.diagnostics = []) :
    (F.interfaces.flatMap fun i => [i.name, i.absenceName]).Nodup := by
  rw [h.diagnostics, collisions_eq_nil] at hclean
  exact (List.nodup_append.mp hclean.2).2.1

/-- The interface of a field is among those of a variant exactly when the variant owns the field. -/
theorem mem_capabilities (h : Derives r o R ss F) (hclean : F.diagnostics = []) (hV : V ∈ F.variants)
    {i : Interface} (hi : i ∈ F.interfaces) :
    i.name ∈ V.capabilities ↔ i.fieldName ∈ V.fieldNames := by
  rw [h.capabilities_interfaces hV, ← hasField_iff]
  exact mem_map_filter (h.interfaceNames_nodup hclean) (fun _ => List.mem_cons_self) hi

theorem mem_absences (h : Derives r o R ss F) (hclean : F.diagnostics = []) (hV : V ∈ F.variants)
    {i : Interface} (hi : i ∈ F.interfaces) :
    i.absenceName ∈ V.absences ↔ i.fieldName ∉ V.fieldNames := by
  have hsecond : ∀ i : Interface, i.absenceName ∈ [i.name, i.absenceName] :=
    fun _ => List.mem_cons_of_mem _ List.mem_cons_self
  rw [h.absences_interfaces hV, ← hasField_iff, Bool.not_eq_true, ← Bool.not_eq_true']
  exact mem_map_filter (h.interfaceNames_nodup hclean) hsecond hi

end Derives

/-! ## Classes with their bases -/

/-- **The class gives what the interface asks for**: a body for each of its abstract methods, behind the
line that declares it. -/
structure ClassBlock.Implements (b : ClassBlock) (i : Interface) : Prop where
  getter : ["    def " ++ i.getter ++ "(self) -> " ++ i.fieldType ++ ":",
    "        return self." ++ i.fieldName] <:+: b.body
  setter : ["    def " ++ i.setter ++ "(self, value: " ++ i.fieldType ++ ") -> None:",
    "        self." ++ i.fieldName ++ " = value"] <:+: b.body

/-- **The class inherits as its variant has it**: from one interface or marker for each field, in the
order of the fields. -/
structure ClassBlock.Inherits (F : Family) (V : Variant) (b : ClassBlock) : Prop where
  name : b.name = V.name
  bases : b.bases = F.interfaces.map fun i => i.baseFor V
  nodup : b.bases.Nodup
  implements : ∀ i ∈ F.interfaces, i.name ∈ b.bases → b.Implements i
  /-- A variant has the interface of a field or its marker, and not both. -/
  exclusive : ∀ i ∈ F.interfaces, i.name ∈ V.capabilities ↔ i.absenceName ∉ V.absences
  owned_iff : ∀ i ∈ F.interfaces, i.name ∈ V.capabilities ↔ i.fieldName ∈ V.fieldNames

section Classes

variable {r : Record} {o : Options} {R : Registry String} {ss : List (Share String)} {F : Family}
  {V : Variant} {mode : ClassMode} {C : RecordClass}

theorem bases_recordClass (h : V.recordClass F mode = .ok C) :
    C.bases = basesOf F.interfaces V := by
  unfold VariantOf.recordClass at h
  obtain ⟨_, _, h⟩ := bind_eq_ok.mp h
  obtain ⟨_, _, h⟩ := bind_eq_ok.mp h
  obtain ⟨bases, hbases, h⟩ := bind_eq_ok.mp h
  obtain ⟨_, _, h⟩ := bind_eq_ok.mp h
  rw [mapM_textOr] at hbases
  cases h
  exact (Except.ok.inj hbases).symm

theorem accessors_mem_body (h : V.recordClass F mode = .ok C) {f : Field} (hf : f ∈ V.fields) :
    ClassMember.getter f.name f.type ∈ C.body ∧ ClassMember.setter f.name f.type ∈ C.body := by
  obtain ⟨_, _, _, _, _, _, hbody⟩ := mem_classBody (recordClass_ok h).2
  have hmem : ∀ m ∈ [ClassMember.getter f.name f.type, .setter f.name f.type], m ∈ C.body :=
    fun m hm => hbody m (List.mem_append_left _ (List.mem_append_right _
      (List.mem_flatMap.mpr ⟨f, hf, hm⟩)))
  exact ⟨hmem _ List.mem_cons_self, hmem _ (List.mem_cons_of_mem _ List.mem_cons_self)⟩

namespace Derives

/-- A class implements the interfaces of the fields that its variant owns. -/
theorem implements (h : Derives r o R ss F) (hV : V ∈ F.variants)
    (hC : V.recordClass F mode = .ok C) {i : Interface} (hi : i ∈ F.interfaces)
    (howned : i.fieldName ∈ V.fieldNames) : C.block.Implements i := by
  obtain ⟨f, hf, hname, htype⟩ := h.exists_field hV hi howned
  obtain ⟨hget, hset⟩ := accessors_mem_body hC hf
  obtain ⟨hgetter, hsetter⟩ := h.accessors_eq hi
  have hgetlines := infix_body hget
  have hsetlines := infix_body hset
  rw [lines_getter, hname, htype, ← hgetter] at hgetlines
  rw [lines_setter, hname, htype, ← hsetter] at hsetlines
  exact ⟨hgetlines, hsetlines⟩

/-- **Where no name is generated twice, the class of a variant inherits as the variant has it.** -/
theorem inherits (h : Derives r o R ss F) (hclean : F.diagnostics = []) (hV : V ∈ F.variants)
    (hC : V.recordClass F mode = .ok C) : C.block.Inherits F V := by
  have hnames := h.interfaceNames_nodup hclean
  have hpositions := baseFor_positions (V := V) hnames (interfaceNames F.interfaces).length
  have hbases : C.block.bases = F.interfaces.map fun i => i.baseFor V :=
    (bases_recordClass hC).trans (basesOf_eq (h.bases_perm hV) hpositions)
  refine ⟨(recordClass_ok hC).1, hbases, ?_, ?_, ?_, fun i hi => h.mem_capabilities hclean hV hi⟩
  · rw [hbases]
    refine List.Pairwise.imp ?_ hpositions
    rintro a _ hlt rfl
    exact Nat.lt_irrefl _ hlt
  · intro i hi hbase
    rw [hbases] at hbase
    obtain ⟨j, hj, hname⟩ := List.mem_map.mp hbase
    have hname : j.baseFor V = i.name := hname
    have hij : i = j := eq_of_mem_names hnames hi hj List.mem_cons_self (hname ▸ baseFor_mem j V)
    subst hij
    refine h.implements hV hC hi (hasField_iff.mp ?_)
    -- A variant that lacks the field has the marker among its bases, which is called otherwise.
    by_contra hlacked
    rw [InterfaceOf.baseFor, if_neg hlacked] at hname
    have hdistinct := (List.nodup_flatMap.mp hnames).1 i hi
    exact (List.nodup_cons.mp hdistinct).1 (List.mem_singleton.mpr hname.symm)
  · intro i hi
    rw [h.mem_capabilities hclean hV hi, h.mem_absences hclean hV hi, not_not]

end Derives

/-- **In a family without names that are generated twice, every class has one base for each field**: an
interface that it implements, or a marker. -/
theorem clean_bases (h : (r.derive o).result = .ok F) (hclean : F.diagnostics = [])
    (mode : ClassMode) : F.interfaces.map InterfaceOf.fieldName = r.fields.map FieldOf.name ∧
      ∃ s, F.WrittenAs mode s ∧ Forall₂ (ClassBlock.Inherits F) F.variants s.classes := by
  obtain ⟨R, ss, h⟩ := derive_ok.mp h
  obtain ⟨M, hM⟩ := h.exists_module mode
  have hrecords := (classModule_ok hM).2
  refine ⟨?_, M.layout, writtenAs_layout hM, List.forall₂_map_right_iff.mpr ?_⟩
  · rw [h.interfaces, List.map_map, ← Share.map_name h.shares]
    rfl
  · refine List.forall₂_iff_zip.mpr ⟨hrecords.length_eq, fun {V C} hVC => ?_⟩
    exact h.inherits hclean (List.of_mem_zip hVC).1 (List.forall₂_zip hrecords hVC)

theorem clean_bases_article : ∃ F, (sampleArticle.derive {}).result = .ok F ∧ F.diagnostics = [] ∧
    F.interfaces.map InterfaceOf.fieldName = sampleArticle.fields.map FieldOf.name ∧
      ∃ s, F.WrittenAs .full s ∧ Forall₂ (ClassBlock.Inherits F) F.variants s.classes := by
  have hyields : (sampleArticle.derive {}).yields (fun F => F.diagnostics = []) = true := by
    decide +kernel
  obtain ⟨F, hF, hclean⟩ := Outcome.yields_iff.mp hyields
  have hclean : F.diagnostics = [] := of_decide_eq_true hclean
  exact ⟨F, hF, hclean, clean_bases hF hclean .full⟩

end Classes

end RecordFamily
