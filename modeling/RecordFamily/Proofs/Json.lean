import RecordFamily.Demand
import RecordFamily.Dictionary.Write
import RecordFamily.Json.Writer
import RecordFamily.Proofs.Outcome

/-!
# Values that JSON knows

* `Value.isJson`: null, truth values, numbers, texts, lists of such values, and mappings of texts to
  them;
* **`Json.exists_write`**: such a value has a text in both layouts;
* **`FamilyOf.isJson_toValue`**: the dictionary form of a family whose slots hold text is such a value.
-/

namespace RecordFamily

namespace Value

/-! ## The values -/

mutual

/-- The value is one that a JSON document holds. -/
def isJson : Value → Bool
  | null | bool _ | int _ | float _ | text _ => true
  | list xs => areJson xs
  | map es => entriesAreJson es
  | bytes _ | date _ | moment _ | pair _ _ | set _ | named _ _ | again _ => false

/-- All values of a list are such values. -/
def areJson : List Value → Bool
  | [] => true
  | x :: xs => x.isJson && areJson xs

/-- All keys of a mapping are texts, and its values such values. -/
def entriesAreJson : List (Value × Value) → Bool
  | [] => true
  | (k, v) :: es => k.isText && v.isJson && entriesAreJson es

end

@[simp] theorem isJson_text (s : String) : (text s).isJson = true := rfl

@[simp] theorem isJson_bool (b : Bool) : (bool b).isJson = true := rfl

@[simp] theorem isText_text (s : String) : (text s).isText = true := rfl

@[simp] theorem isJson_null : null.isJson = true := rfl

@[simp] theorem isJson_list {xs : List Value} :
    (list xs).isJson = true ↔ ∀ x ∈ xs, x.isJson = true := by
  rw [isJson]
  induction xs with
  | nil => simp [areJson]
  | cons x xs ih => simp [areJson, ih]

@[simp] theorem isJson_map {es : List (Value × Value)} :
    (map es).isJson = true ↔ ∀ e ∈ es, e.1.isText = true ∧ e.2.isJson = true := by
  rw [isJson]
  induction es with
  | nil => simp [entriesAreJson]
  | cons e es ih => simp [entriesAreJson, ih]

@[simp] theorem isJson_record {es : List (String × Value)} :
    (record es).isJson = true ↔ ∀ e ∈ es, e.2.isJson = true := by
  rw [record, isJson_map, List.forall_mem_map]
  exact forall₂_congr fun _ _ => and_iff_right rfl

theorem eq_text {v : Value} (h : v.isText = true) : ∃ s, v = text s := by
  cases v with
  | text s => exact ⟨s, rfl⟩
  | _ => cases h

end Value

/-! ## Their texts -/

namespace Json

variable {layout : Layout}

theorem exists_sortedByKey {entries : List (Value × String)}
    (h : ∀ e ∈ entries, e.1.isText = true) :
    ∃ sorted, sortedByKey entries = some sorted ∧ ∀ e ∈ sorted, e ∈ entries := by
  unfold sortedByKey
  extract_lets textKeys numberKeys
  have hlength : textKeys.length = entries.length := by
    rw [List.filterMap_length_eq_length]
    intro e he
    obtain ⟨s, hs⟩ := Value.eq_text (h e he)
    rw [hs]
    rfl
  have hmem : ∀ p ∈ textKeys, p.2 ∈ entries := by
    intro p hp
    obtain ⟨e, he, hp⟩ := List.mem_filterMap.mp hp
    split at hp
    · cases hp
      exact he
    · cases hp
  refine ⟨_, if_pos (beq_iff_eq.mpr hlength), fun e he => ?_⟩
  obtain ⟨p, hp, rfl⟩ := List.mem_map.mp he
  exact hmem p (List.mem_mergeSort.mp hp)

theorem exists_membersText (layout : Layout) {entries : List (Value × String)}
    (h : ∀ e ∈ entries, e.1.isText = true) :
    ∃ members, membersText layout entries = some members := by
  have hmembers : ∀ es : List (Value × String), (∀ e ∈ es, e.1.isText = true) →
      ∃ members, (es.mapM fun e => do return (← keyText e.1) ++ ": " ++ e.2) = some members := by
    intro es hes
    induction es with
    | nil => exact ⟨[], rfl⟩
    | cons e es ih =>
      obtain ⟨s, hs⟩ := Value.eq_text (hes e List.mem_cons_self)
      obtain ⟨members, hm⟩ := ih fun e he => hes e (List.mem_cons_of_mem _ he)
      exact ⟨(quotedText s ++ ": " ++ e.2) :: members, by rw [List.mapM_cons, hm, hs]; rfl⟩
  unfold membersText
  split_ifs
  · obtain ⟨sorted, hs, hmem⟩ := exists_sortedByKey h
    rw [hs]
    exact hmembers sorted fun e he => h e (hmem e he)
  · exact hmembers entries h

mutual

theorem exists_valueText : ∀ (v : Value), v.isJson = true → ∀ depth,
    ∃ s, valueText layout depth v = some s
  | .null, _, _ | .bool _, _, _ | .int _, _, _ | .float _, _, _ | .text _, _, _ => ⟨_, rfl⟩
  | .list xs, h, depth => by
    obtain ⟨items, hi⟩ := exists_itemTexts xs h (depth + 1)
    exact ⟨enclosed layout depth "[" "]" items, by rw [valueText, hi]; rfl⟩
  | .map es, h, depth => by
    obtain ⟨entries, he, hk⟩ := exists_entryTexts es h (depth + 1)
    obtain ⟨members, hm⟩ := exists_membersText layout hk
    refine ⟨enclosed layout depth "\x7b" "\x7d" members, ?_⟩
    simp [valueText, he, hm]

theorem exists_itemTexts : ∀ (xs : List Value), Value.areJson xs = true → ∀ depth,
    ∃ items, itemTexts layout depth xs = some items
  | [], _, _ => ⟨[], rfl⟩
  | x :: xs, h, depth => by
    obtain ⟨hx, hxs⟩ := Bool.and_eq_true_iff.mp h
    obtain ⟨s, hs⟩ := exists_valueText x hx depth
    obtain ⟨items, hi⟩ := exists_itemTexts xs hxs depth
    exact ⟨s :: items, by rw [itemTexts, hs, hi]; rfl⟩

theorem exists_entryTexts : ∀ (es : List (Value × Value)), Value.entriesAreJson es = true → ∀ depth,
    ∃ entries, entryTexts layout depth es = some entries ∧ ∀ e ∈ entries, e.1.isText = true
  | [], _, _ => ⟨[], rfl, by simp⟩
  | (k, v) :: es, h, depth => by
    obtain ⟨hkv, hes⟩ := Bool.and_eq_true_iff.mp h
    obtain ⟨hk, hv⟩ := Bool.and_eq_true_iff.mp hkv
    obtain ⟨s, hs⟩ := exists_valueText v hv depth
    obtain ⟨entries, he, hkeys⟩ := exists_entryTexts es hes depth
    exact ⟨(k, s) :: entries, by rw [entryTexts, hs, he]; rfl, List.forall_mem_cons.mpr ⟨hk, hkeys⟩⟩

end

/-- **A value that JSON knows has a text.** -/
theorem exists_write (layout : Layout) {v : Value} (h : v.isJson = true) :
    ∃ s, write layout v = some s :=
  exists_valueText v h 0

end Json

/-! ## Dictionary forms -/

theorem isJson_slotList (slots : List String) : (slotList slots).isJson = true := by
  simp [slotList, Slot.toValue]

theorem isJson_slotOrNull (slot : Option String) : (slotOrNull slot).isJson = true := by
  cases slot <;> rfl

theorem FieldOf.isJson_toValue (f : Field) : f.toValue.isJson = true := by
  simp [FieldOf.toValue, Slot.toValue, isJson_slotList]

theorem VariantOf.isJson_toValue (v : Variant) : v.toValue.isJson = true := by
  simp [VariantOf.toValue, Slot.toValue, Mark.toValue, isJson_slotList, FieldOf.isJson_toValue]

theorem InterfaceOf.isJson_toValue (i : Interface) : i.toValue.isJson = true := by
  simp [InterfaceOf.toValue, Slot.toValue, isJson_slotList]

theorem EdgeOf.isJson_toValue (e : Edge) : e.toValue.isJson = true := by
  simp [EdgeOf.toValue, Slot.toValue, isJson_slotList]

theorem ConversionOf.isJson_toValue (c : Conversion) : c.toValue.isJson = true := by
  simp [ConversionOf.toValue, Slot.toValue, isJson_slotList, FieldOf.isJson_toValue]

/-- **The dictionary form of a family is a value that JSON knows.** -/
theorem FamilyOf.isJson_toValue (F : Family) : F.toValue.isJson = true := by
  have hfallbacks : ∀ e : Value × Value,
      e ∈ F.fallbacks.map (fun e => (Slot.toValue e.1, Slot.toValue e.2)) →
        e.1.isText = true ∧ e.2.isJson = true := by
    intro e he
    obtain ⟨_, _, rfl⟩ := List.mem_map.mp he
    exact ⟨rfl, rfl⟩
  simp only [FamilyOf.toValue, Value.isJson_record, List.forall_mem_cons, Value.isJson_map.mpr hfallbacks]
  simp [Slot.toValue, isJson_slotList, isJson_slotOrNull,
    VariantOf.isJson_toValue, InterfaceOf.isJson_toValue, EdgeOf.isJson_toValue,
    ConversionOf.isJson_toValue]

end RecordFamily
