import RecordFamily.Dictionary.Read
import RecordFamily.Dictionary.Write
import RecordFamily.Proofs.KeyOrder
import RecordFamily.Proofs.Outcome

/-!
# Dictionaries are read back

The dictionary form of a family is read back as the family, and it does not matter in which order
the keys of the dictionaries stand.

* `Value.Keeps`: changes of a value that leave what is read from dictionaries, with `Value.keeps_id`
  and `Value.keeps_inOrder`;
* `Keeps.dictionary`, `Keeps.slotAt`, `Keeps.partsAt` and the like: what stands at a key;
* `Keeps.field`, `Keeps.variant`, `Keeps.interface`, `Keeps.edge`, `Keeps.conversion`: the parts of
  a family;
* `FamilyOf.IsNamed`: families whose fields have names;
* **`FamilyOf.ofValue_toValue`**, **`FamilyOf.ofValue_inOrder`**: families;
* `FamilyOf.isPlain_toValue`: their dictionary forms are plain.
-/

namespace RecordFamily

open List

/-! ## Changes that do not matter -/

/-- **The change leaves what is read from dictionaries**: texts and the like stay, lists are changed
item by item, and what stood at a key of a mapping of distinct texts is found there, changed. -/
structure Value.Keeps (change : Value → Value) : Prop where
  null : change null = null
  bool : ∀ b, change (bool b) = bool b
  text : ∀ s, change (text s) = text s
  list : ∀ xs, change (list xs) = list (xs.map change)
  record : ∀ es, (es.map Prod.fst).Nodup → ∃ fs, change (record es) = map fs ∧
    ∀ e ∈ es, find? fs e.1 = some (change e.2)

namespace Value

theorem keeps_id : Keeps id where
  null := rfl
  bool := fun _ => rfl
  text := fun _ => rfl
  list := fun xs => by rw [List.map_id]; rfl
  record := fun _ hkeys => ⟨_, rfl, fun _ he => find?_record hkeys he⟩

theorem keeps_inOrder : Keeps inOrder where
  null := inOrder_null
  bool := inOrder_bool
  text := inOrder_text
  list := inOrder_list
  record := by
    intro es hkeys
    refine ⟨_, inOrder_record es, fun e he => ?_⟩
    have hsorted : (((byKey es).map fun e => (e.1, e.2.inOrder)).map Prod.fst).Nodup := by
      rw [List.map_map]
      exact ((byKey_perm es).map Prod.fst).nodup_iff.mpr hkeys
    have hmem : (e.1, e.2.inOrder) ∈ (byKey es).map fun e => (e.1, e.2.inOrder) :=
      List.mem_map_of_mem (mem_byKey.mpr he)
    exact find?_record hsorted hmem

end Value

/-! ## What stands at a key -/

namespace Value.Keeps

section Keys

variable {change : Value → Value} {es : List (Value × Value)} {key : String}

/-- **What a dictionary was written from is found in it**, changed. -/
theorem dictionary (h : Keeps change) {v : Value} {parts : List (String × Value)}
    (hv : v = .record parts) (hkeys : (parts.map Prod.fst).Nodup) :
    ∃ es, (change v).entries = .ok es ∧ (change v).members = .ok es ∧
      ∀ e ∈ parts, find? es e.1 = some (change e.2) := by
  obtain ⟨es, hes, hfind⟩ := h.record parts hkeys
  rw [hv, hes]
  exact ⟨es, rfl, rfl, hfind⟩

theorem slot (h : Keeps change) (s : String) : change (Slot.toValue s) = .text s := h.text s

theorem slotAt (h : Keeps change) {s : String}
    (hkey : find? es key = some (change (Slot.toValue s))) :
    (RecordFamily.slotAt es key : Except Failure String) = .ok s := by
  rw [RecordFamily.slotAt, required, hkey, h.slot]
  rfl

theorem slotAt? (h : Keeps change) {s : Option String}
    (hkey : find? es key = some (change (slotOrNull s))) :
    (RecordFamily.slotAt? es key : Except Failure (Option String)) = .ok s := by
  rw [RecordFamily.slotAt?, hkey]
  cases s with
  | none => rw [slotOrNull, h.null]
  | some s =>
    rw [slotOrNull, h.slot]
    rfl

theorem markAt (h : Keeps change) {b : Bool}
    (hkey : find? es key = some (change (Mark.toValue b))) :
    (RecordFamily.markAt es key : Except Failure Bool) = .ok b := by
  have hmark : change (Mark.toValue b) = .bool b := h.bool b
  rw [RecordFamily.markAt, hkey, hmark]
  rfl

/-- **What is written part by part is read part by part.** -/
theorem partsAt (h : Keeps change) {α : Type} {write : α → Value} {read : Value → Except Failure α}
    {parts : List α} (hkey : find? es key = some (change (Value.list (parts.map write))))
    (hread : ∀ x ∈ parts, read (change (write x)) = .ok x) :
    (elementsAt es key >>= fun vs => vs.mapM read) = .ok parts := by
  have helements : elementsAt es key = .ok ((parts.map write).map change) := by
    rw [elementsAt, hkey, h.list]
    rfl
  rw [helements, ok_bind, mapM_eq_ok, List.forall₂_map_left_iff, List.forall₂_map_left_iff,
    List.forall₂_same]
  exact hread

theorem slotsAt (h : Keeps change) {slots : List String}
    (hkey : find? es key = some (change (slotList slots))) :
    (RecordFamily.slotsAt es key : Except Failure (List String)) = .ok slots :=
  h.partsAt hkey fun s _ => by
    rw [h.slot]
    rfl

theorem textsAt (h : Keeps change) {slots : List String}
    (hkey : find? es key = some (change (slotList slots))) :
    (RecordFamily.textsAt es key : Except Failure (List String)) = .ok slots := by
  rw [RecordFamily.textsAt, hkey, slotList, h.list]
  change (((slots.map Slot.toValue).map change).mapM _) = _
  rw [mapM_eq_ok, List.forall₂_map_left_iff, List.forall₂_map_left_iff, List.forall₂_same]
  intro s _
  rw [h.slot]
  rfl

end Keys

/-! ## Parts of a family -/

section Parts

variable {change : Value → Value}

/-- **A field with a name is read back.** -/
theorem field (h : Keeps change) {f : Field} (hname : f.name ≠ "") :
    FieldOf.ofValue (change f.toValue) = .ok f := by
  obtain ⟨es, -, hmembers, hfind⟩ := h.dictionary (v := f.toValue) rfl (by simp)
  simp only [List.forall_mem_cons] at hfind
  obtain ⟨hname', htype, hannotations, hdefault, hpassthrough, -⟩ := hfind
  -- An empty name counts as missing, and a mapping without a name is refused.
  have hgiven : givenName es = some (.text f.name) := by
    rw [givenName, hname', h.slot]
    simp [truthy, hname]
  have hwording : wordingAt es "type" "Any" = .ok f.type := by
    rw [wordingAt, htype, h.slot]
    rfl
  have hset : isGivenAt es "default" = f.default := by
    rw [isGivenAt, hdefault, h.bool]
    rfl
  have hwritten : wordingOf (.text f.name) = .ok f.name := rfl
  simp only [FieldOf.ofValue, hmembers, ok_bind, hgiven, hwritten, hwording,
    h.textsAt hannotations, h.textsAt hpassthrough, hset]
  rfl

theorem fieldsAt (h : Keeps change) {es : List (Value × Value)} {key : String} {fields : List Field}
    (hkey : find? es key = some (change (Value.list (fields.map FieldOf.toValue))))
    (hnames : ∀ f ∈ fields, f.name ≠ "") :
    (RecordFamily.fieldsAt es key : Except Failure (List Field)) = .ok fields :=
  h.partsAt hkey fun f hf => h.field (hnames f hf)

theorem variant (h : Keeps change) {V : Variant} (hnames : ∀ f ∈ V.fields, f.name ≠ "") :
    VariantOf.ofValue (change V.toValue) = .ok V := by
  obtain ⟨es, hentries, -, hfind⟩ := h.dictionary (v := V.toValue) rfl (by simp)
  simp only [List.forall_mem_cons] at hfind
  obtain ⟨hname, hcanonical, hdecorations, hfields, hcapabilities, habsences, -⟩ := hfind
  simp only [VariantOf.ofValue, hentries, ok_bind, h.slotAt hname, h.markAt hcanonical,
    h.slotsAt hdecorations, h.fieldsAt hfields hnames, h.slotsAt hcapabilities, h.slotsAt habsences]
  rfl

theorem interface (h : Keeps change) (i : Interface) :
    InterfaceOf.ofValue (change i.toValue) = .ok i := by
  obtain ⟨es, hentries, -, hfind⟩ := h.dictionary (v := i.toValue) rfl (by simp)
  simp only [List.forall_mem_cons] at hfind
  obtain ⟨hfield, htype, hname, habsence, hgetter, hsetter, howners, hothers, -⟩ := hfind
  simp only [InterfaceOf.ofValue, hentries, ok_bind, h.slotAt hfield, h.slotAt htype,
    h.slotAt hname, h.slotAt habsence, h.slotAt hgetter, h.slotAt hsetter, h.slotsAt howners,
    h.slotsAt hothers]
  rfl

theorem edge (h : Keeps change) (e : Edge) : EdgeOf.ofValue (change e.toValue) = .ok e := by
  obtain ⟨es, hentries, -, hfind⟩ := h.dictionary (v := e.toValue) rfl (by simp)
  simp only [List.forall_mem_cons] at hfind
  obtain ⟨hsource, htarget, hmissing, hwith, hwithout, hcommon, -⟩ := hfind
  simp only [EdgeOf.ofValue, hentries, ok_bind, h.slotAt hsource, h.slotAt htarget,
    h.slotsAt hmissing, h.slotsAt hwith, h.slotsAt hwithout, h.slotsAt hcommon]
  rfl

theorem kind (h : Keeps change) (k : ConversionKind) :
    ConversionKind.ofValue (change (.text k.word)) = .ok k := by
  rw [h.text]
  cases k <;> rfl

theorem conversion (h : Keeps change) {c : Conversion} (hnames : ∀ f ∈ c.arguments, f.name ≠ "") :
    ConversionOf.ofValue (change c.toValue) = .ok c := by
  obtain ⟨es, hentries, -, hfind⟩ := h.dictionary (v := c.toValue) rfl (by simp)
  simp only [List.forall_mem_cons] at hfind
  obtain ⟨hkind, hsource, htarget, hname, howner, harguments, hcopied, hdefaulted, hassigned, -⟩ :=
    hfind
  have hrequired : required es "kind" >>= ConversionKind.ofValue = .ok c.kind := by
    rw [required, hkind]
    exact h.kind c.kind
  simp only [ConversionOf.ofValue, hentries, ok_bind, hrequired, h.slotAt hsource, h.slotAt htarget,
    h.slotAt hname, h.slotAt howner, h.fieldsAt harguments hnames, h.slotsAt hcopied,
    h.slotsAt hdefaulted, h.slotsAt hassigned]
  rfl

end Parts

end Value.Keeps

/-! ## Families -/

/-- **The fields of the family have names**: those of its variants, and the arguments of its
conversions. -/
structure FamilyOf.IsNamed (F : Family) : Prop where
  fields : ∀ V ∈ F.variants, ∀ f ∈ V.fields, f.name ≠ ""
  arguments : ∀ c ∈ F.conversions, ∀ f ∈ c.arguments, f.name ≠ ""

section Families

variable {F : Family}

/-- Fallbacks by field name, in dictionary form. -/
def fallbackValue (fallbacks : List (String × String)) : Value :=
  .map (fallbacks.map fun e => (Slot.toValue e.1, Slot.toValue e.2))

theorem fallbackValue_eq (fallbacks : List (String × String)) :
    fallbackValue fallbacks = .record (fallbacks.map fun e => (e.1, .text e.2)) := by
  rw [Value.record, List.map_map]
  rfl

theorem fallbacksAt_eq {es : List (Value × Value)} {fallbacks : List (String × String)}
    (hkey : Value.find? es "fallbacks" = some (fallbackValue fallbacks)) :
    (fallbacksAt es : Except Failure (List (String × String))) = .ok fallbacks := by
  rw [fallbacksAt, hkey]
  change ((fallbacks.map _).mapM _) = _
  rw [mapM_eq_ok, List.forall₂_map_left_iff, List.forall₂_same]
  exact fun _ _ => rfl

theorem Value.Keeps.family {change : Value → Value} (h : Value.Keeps change) (hF : F.IsNamed)
    {fallbacks : List (String × String)}
    (hchange : change (fallbackValue F.fallbacks) = fallbackValue fallbacks) :
    FamilyOf.ofValue (change F.toValue) = .ok { F with fallbacks := fallbacks } := by
  obtain ⟨es, hentries, -, hfind⟩ := h.dictionary (v := F.toValue) rfl (by simp)
  simp only [List.forall_mem_cons] at hfind
  obtain ⟨hcanonical, hdocstring, himports, hvariants, hinterfaces, hedges, hconversions,
    hfallbacks, hdiagnostics, -⟩ := hfind
  have hfound : Value.find? es "fallbacks" = some (fallbackValue fallbacks) :=
    hfallbacks.trans (congrArg some hchange)
  -- Each list of parts is found first and then read, in two steps.
  obtain ⟨_, hvs, hvariants⟩ := bind_eq_ok.mp
    (h.partsAt hvariants fun V hV => h.variant (hF.fields V hV))
  obtain ⟨_, his, hinterfaces⟩ := bind_eq_ok.mp (h.partsAt hinterfaces fun i _ => h.interface i)
  obtain ⟨_, hes', hedges⟩ := bind_eq_ok.mp (h.partsAt hedges fun e _ => h.edge e)
  obtain ⟨_, hcs, hconversions⟩ := bind_eq_ok.mp
    (h.partsAt hconversions fun c hc => h.conversion (hF.arguments c hc))
  simp only [FamilyOf.ofValue, hentries, ok_bind, h.slotAt hcanonical, h.slotAt? hdocstring,
    h.slotsAt himports, hvs, hvariants, his, hinterfaces, hes', hedges, hcs, hconversions,
    fallbacksAt_eq hfound, h.slotsAt hdiagnostics]
  rfl

/-- **A family is read back from its dictionary form.** -/
theorem FamilyOf.ofValue_toValue (hF : F.IsNamed) : FamilyOf.ofValue F.toValue = .ok F :=
  Value.keeps_id.family hF rfl

/-- **A family is read back from its dictionary form with the keys in order**, with its fallbacks in
the order of their keys. -/
theorem FamilyOf.ofValue_inOrder (hF : F.IsNamed) :
    FamilyOf.ofValue F.toValue.inOrder = .ok { F with fallbacks := byKey F.fallbacks } := by
  refine Value.keeps_inOrder.family hF ?_
  have hsorted : byKey (F.fallbacks.map fun e => (e.1, Value.text e.2)) =
      (byKey F.fallbacks).map fun e => (e.1, Value.text e.2) := map_byKey (fun _ _ => rfl) _
  rw [fallbackValue_eq, Value.inOrder_record, hsorted, List.map_map, fallbackValue_eq]
  rfl

end Families

/-! ## Dictionary forms are plain -/

section Plain

open Value

variable {n : Nat}

theorem isPlain_slotList (slots : List String) : (slotList slots).IsPlain (n + 1) := by
  refine .list fun x hx => ?_
  obtain ⟨s, _, rfl⟩ := List.mem_map.mp hx
  exact .text s

theorem isPlain_slotOrNull (slot : Option String) : (slotOrNull slot).IsPlain n := by
  cases slot with
  | none => exact .null
  | some s => exact .text s

theorem isPlain_parts {α : Type} {write : α → Value} {parts : List α}
    (h : ∀ x ∈ parts, (write x).IsPlain n) : (Value.list (parts.map write)).IsPlain (n + 1) :=
  .list (List.forall_mem_map.mpr h)

theorem FieldOf.isPlain_toValue (f : Field) : f.toValue.IsPlain (n + 2) := by
  refine .record (by simp) ?_
  simp only [List.forall_mem_cons]
  exact ⟨.text _, .text _, isPlain_slotList _, .bool _, isPlain_slotList _, by simp⟩

theorem VariantOf.isPlain_toValue (V : Variant) : V.toValue.IsPlain (n + 4) := by
  refine .record (by simp) ?_
  simp only [List.forall_mem_cons]
  exact ⟨.text _, .bool _, isPlain_slotList _, isPlain_parts fun f _ => f.isPlain_toValue,
    isPlain_slotList _, isPlain_slotList _, by simp⟩

theorem InterfaceOf.isPlain_toValue (i : Interface) : i.toValue.IsPlain (n + 2) := by
  refine .record (by simp) ?_
  simp only [List.forall_mem_cons]
  exact ⟨.text _, .text _, .text _, .text _, .text _, .text _, isPlain_slotList _,
    isPlain_slotList _, by simp⟩

theorem EdgeOf.isPlain_toValue (e : Edge) : e.toValue.IsPlain (n + 2) := by
  refine .record (by simp) ?_
  simp only [List.forall_mem_cons]
  exact ⟨.text _, .text _, isPlain_slotList _, isPlain_slotList _, isPlain_slotList _,
    isPlain_slotList _, by simp⟩

theorem ConversionOf.isPlain_toValue (c : Conversion) : c.toValue.IsPlain (n + 4) := by
  refine .record (by simp) ?_
  simp only [List.forall_mem_cons]
  exact ⟨.text _, .text _, .text _, .text _, .text _, isPlain_parts fun f _ => f.isPlain_toValue,
    isPlain_slotList _, isPlain_slotList _, isPlain_slotList _, by simp⟩

theorem isPlain_fallbackValue {fallbacks : List (String × String)}
    (h : (fallbacks.map Prod.fst).Nodup) : (fallbackValue fallbacks).IsPlain (n + 1) := by
  rw [fallbackValue_eq]
  refine .record (by rwa [List.map_map]) (List.forall_mem_map.mpr fun e _ => .text e.2)

/-- **The dictionary form of a family is plain**, when its fallbacks are a mapping. -/
theorem FamilyOf.isPlain_toValue {F : Family} (h : (F.fallbacks.map Prod.fst).Nodup) :
    F.toValue.IsPlain 6 := by
  refine .record (by simp) ?_
  simp only [List.forall_mem_cons]
  exact ⟨.text _, isPlain_slotOrNull _, isPlain_slotList _,
    isPlain_parts fun V _ => V.isPlain_toValue, isPlain_parts fun i _ => i.isPlain_toValue,
    isPlain_parts fun e _ => e.isPlain_toValue, isPlain_parts fun c _ => c.isPlain_toValue,
    isPlain_fallbackValue h, isPlain_slotList _, by simp⟩

end Plain

end RecordFamily
