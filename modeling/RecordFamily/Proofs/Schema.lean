import RecordFamily.Proofs.Tidy
import RecordFamily.Proofs.Wording
import RecordFamily.Schema.Basic

/-!
# Reading schemas

Of the values in which only collections have names, which ones a schema puts into words, and what
comes of reading one.

* `Schema.isComplete`: the field entries with a name and a type;
* `Schema.asked`: the values that are put into words when a schema without names is read;
* `Schema.worded`: those of any schema, whose collections are opened;
* `asks_record`, `asks_options`: records and options put theirs into words;
* **`asks_worded`**, `asks_schema`: a schema puts these values into words, and is under control
  otherwise;
* `hasWording_asked`: a schema without names that has a wording has one for all of them.
-/

namespace RecordFamily

open Value

/-! ## What is put into words -/

namespace Schema

/-- The field entry is a mapping with a name and a type. -/
def isComplete : Value → Bool
  | .map es => (givenName es).isSome && isGivenAt es "type"
  | _ => false

/-- The values at a key, where a lone value counts as a list. -/
def listed (es : List (Value × Value)) (key : String) : List Value :=
  ((find? es key).getD .null).asList

/-- The values of a field entry that are put into words. -/
def askedOfField : Value → List Value
  | .map es => (find? es "name").toList ++ (find? es "type").toList ++ listed es "annotations"
      ++ listed es "passthrough"
  | _ => []

/-- The values of a record that are put into words, those of its options aside. -/
def askedOfRecord (es : List (Value × Value)) : List Value :=
  (find? es "name").toList ++ (listed es "fields").flatMap askedOfField ++ listed es "annotations"
    ++ listed es "variants" ++ listed es "imports"

/-- The values of fallbacks that are put into words, which their keys are, too. -/
def askedOfFallbacks : Option Value → List Value
  | some (.map fs) => fs.flatMap fun e => [e.1, e.2]
  | _ => []

/-- The values of options that are put into words. -/
def askedOfOptions : Value → List Value
  | .map os => askedOfFallbacks (find? os "fallbacks")
  | _ => []

/-- The name of a field entry without a type, which is put into words to report it. -/
def askedOfIncomplete : Value → List Value
  | .map es => (givenName es).toList
  | _ => []

/-- **The values that are put into words when a schema is read**: none when its keys are wrong, and
only those of the first incomplete field entry when there is one. -/
def asked : Value → List Value
  | .map es =>
    match checkKeys es, (itemsAt es "fields").find? fun v => !isComplete v with
    | .error _, _ => []
    | .ok _, some v => askedOfIncomplete v
    | .ok _, none => askedOfRecord es ++ askedOfOptions ((find? es "options").getD .null)
  | _ => []

/-! ## What is put into words where collections have names -/

/-- The values of a record that are put into words, those of its options aside. -/
def wordedOfRecord (es : List (Value × Value)) : List Value :=
  (find? es "name").toList ++ (listed es "fields").flatMap (fun v => askedOfField v.opened)
    ++ listed es "annotations" ++ listed es "variants" ++ listed es "imports"

/-- The values of options that are put into words. -/
def wordedOfOptions (v : Value) : List Value :=
  match v.opened with
  | .map os => askedOfFallbacks ((find? os "fallbacks").map opened)
  | _ => []

/-- **The values that are put into words when a schema is read**, whose collections are opened. -/
def worded (v : Value) : List Value :=
  match v.opened with
  | .map es =>
    match checkKeys es, (itemsAt es "fields").find? fun v => !isComplete v.opened with
    | .error _, _ => []
    | .ok _, some v => askedOfIncomplete v.opened
    | .ok _, none => wordedOfRecord es ++ wordedOfOptions ((find? es "options").getD .null)
  | _ => []

end Schema

open Schema

/-! ## Records -/

theorem asks_wordingAt (es : List (Value × Value)) (key missing : String) :
    Asks Succeeds (find? es key).toList (wordingAt es key missing) := by
  unfold wordingAt
  cases find? es key with
  | none => exact .ok missing
  | some v => exact .wordingOf v

theorem asks_textsAt (es : List (Value × Value)) (key : String) :
    Asks Succeeds (listed es key) (textsAt es key : Except Failure (List String)) := by
  have hall : Asks Succeeds ((listed es key).flatMap fun v => [v])
      (textsAt es key : Except Failure (List String)) :=
    Asks.mapM fun v _ => (Asks.wordingOf v).before fun h => h.bind fun s _ => .ok _
  rwa [List.flatMap_singleton'] at hall

theorem asks_field {v : Value} (h : isComplete v.opened = true) :
    Asks Succeeds (askedOfField v.opened) (FieldOf.ofValue v : Except Failure Field) := by
  unfold FieldOf.ofValue members
  cases hv : v.opened with
  | map es =>
    rw [hv] at h
    obtain ⟨name, hname⟩ := Option.isSome_iff_exists.mp (Bool.and_eq_true_iff.mp h).1
    have hfind : find? es "name" = some name := (Option.filter_eq_some_iff.mp hname).1
    simp only [askedOfField, hfind, List.append_assoc]
    refine .after (.ok es) fun _ he => ?_
    obtain rfl := Except.ok.inj he
    simp only [hname]
    have htype := asks_wordingAt es "type" "Any"
    have hannotations := asks_textsAt es "annotations"
    have hpassthrough := asks_textsAt es "passthrough"
    refine (Asks.wordingOf name).bind fun _ _ => htype.bind fun _ _ => hannotations.bind fun _ _ => ?_
    exact hpassthrough.before fun hp => hp.bind fun _ _ => .ok _
  | _ =>
    rw [hv] at h
    cases h

/-! ## The keys of a schema -/

namespace Schema

variable {es : List (Value × Value)} {key : String}

theorem checkKeys_ok : checkKeys es = .ok () ↔ isGivenAt es "name" = true ∧
    checkList es "variants" = .ok () ∧ checkList es "fields" = .ok () ∧
      checkTextOrList es "annotations" = .ok () ∧ checkTextOrList es "imports" = .ok () ∧
        checkOptions es = .ok () ∧ checkDocstring es = .ok () := by
  unfold checkKeys
  by_cases hname : isGivenAt es "name" = true
  · simp only [hname, Bool.not_true, Bool.false_eq_true, if_false, check_eq_ok, true_and]
  · rw [if_pos (by simpa using hname)]
    exact iff_of_false (fun h => nomatch h) fun h => hname h.1

/-- What the checks look at: null counts as nothing, and anything else stands for itself. -/
theorem valueAt_cases (es : List (Value × Value)) (key : String) :
    valueAt es key = none ∧ (find? es key).getD .null = .null ∨
      ∃ v, valueAt es key = some v.bare ∧ find? es key = some v := by
  unfold valueAt
  cases find? es key with
  | none => exact .inl ⟨rfl, rfl⟩
  | some v =>
    cases v with
    | null => exact .inl ⟨rfl, rfl⟩
    | _ => exact .inr ⟨_, rfl, rfl⟩

theorem list_of_checkList (hes : (Value.map es).isTidy = true) (h : checkList es key = .ok ()) :
    (find? es key).getD .null = .null ∨ ∃ v xs, find? es key = some v ∧ v.opened = .list xs := by
  unfold checkList at h
  rcases valueAt_cases es key with ⟨-, hf⟩ | ⟨v, hv, hf⟩
  · exact .inl hf
  · rw [hv] at h
    split at h
    · next hn => cases hn
    · next xs hl =>
      obtain ⟨ys, hys⟩ := exists_opened_list (isTidy_find? hes hf) (Option.some.inj hl)
      exact .inr ⟨v, ys, hf, hys⟩
    · cases h

theorem map_of_checkOptions (hes : (Value.map es).isTidy = true) (h : checkOptions es = .ok ()) :
    (find? es "options").getD .null = .null ∨
      ∃ v os, find? es "options" = some v ∧ v.opened = .map os := by
  unfold checkOptions at h
  rcases valueAt_cases es "options" with ⟨-, hf⟩ | ⟨v, hv, hf⟩
  · exact .inl hf
  · rw [hv] at h
    split at h
    · next hn => cases hn
    · next os hm =>
      obtain ⟨fs, hfs⟩ := exists_opened_map (isTidy_find? hes hf) (Option.some.inj hm)
      exact .inr ⟨v, fs, hf, hfs⟩
    · cases h

theorem text_of_checkDocstring (hes : (Value.map es).isTidy = true) (h : checkDocstring es = .ok ()) :
    (find? es "docstring").getD .null = .null ∨ ∃ s, find? es "docstring" = some (.text s) := by
  unfold checkDocstring at h
  rcases valueAt_cases es "docstring" with ⟨-, hf⟩ | ⟨v, hv, hf⟩
  · exact .inl hf
  · rw [hv] at h
    split at h
    · next hn => cases hn
    · next s ht =>
      exact .inr ⟨s, by rw [hf, eq_text_of_bare (isTidy_find? hes hf) (Option.some.inj ht)]⟩
    · cases h

/-- Where a list may stand, what is listed is the list. -/
theorem listed_eq_itemsAt (hes : (Value.map es).isTidy = true) (h : checkList es key = .ok ()) :
    listed es key = itemsAt es key := by
  unfold listed itemsAt
  rcases list_of_checkList hes h with hf | ⟨v, xs, hf, hv⟩
  · cases hv : find? es key with
    | none => rfl
    | some v =>
      rw [hv, Option.getD_some] at hf
      rw [hf]
      rfl
  · rw [hf, Option.getD_some, asList, Option.map_some, hv]

theorem succeeds_docstring (hes : (Value.map es).isTidy = true) (h : checkDocstring es = .ok ()) :
    Succeeds (slotAt? es "docstring" : Except Failure (Option String)) := by
  unfold slotAt?
  rcases text_of_checkDocstring hes h with hf | ⟨s, hf⟩
  · cases hv : find? es "docstring" with
    | none => exact .ok none
    | some v =>
      rw [hv, Option.getD_some] at hf
      rw [hf]
      exact .ok none
  · rw [hf]
    exact .ok (some s)

end Schema

/-- **A record puts its values into words.** -/
theorem asks_record {v : Value} {es : List (Value × Value)} (hv : v.opened = .map es)
    (hes : (Value.map es).isTidy = true) (hk : checkKeys es = .ok ())
    (hc : ∀ v ∈ itemsAt es "fields", isComplete v.opened = true) :
    Asks Succeeds (wordedOfRecord es) (RecordOf.ofValue v : Except Failure Record) := by
  obtain ⟨_, _, hfields, _, _, _, hdocstring⟩ := checkKeys_ok.mp hk
  rw [← listed_eq_itemsAt hes hfields] at hc
  simp only [RecordOf.ofValue, members, hv, wordedOfRecord, List.append_assoc]
  refine .after (.ok es) fun _ he => ?_
  obtain rfl := Except.ok.inj he
  have hname := asks_wordingAt es "name" ""
  have hasked : Asks Succeeds ((listed es "fields").flatMap fun v => askedOfField v.opened)
      ((listed es "fields").mapM fun v => (FieldOf.ofValue v : Except Failure Field)) :=
    Asks.mapM fun v hv => asks_field (hc v hv)
  have hannotations := asks_textsAt es "annotations"
  have hvariants := asks_textsAt es "variants"
  have himports := asks_textsAt es "imports"
  refine hname.bind fun _ _ => hasked.bind fun _ _ => hannotations.bind fun _ _ => ?_
  refine hvariants.bind fun _ _ => .after (succeeds_docstring hes hdocstring) fun _ _ => ?_
  exact himports.before fun hi => hi.bind fun _ _ => .ok _

/-! ## Options -/

theorem asks_textEntries (done : List (String × String)) (fs : List (Value × Value)) :
    Asks Succeeds (fs.flatMap fun e => [e.1, e.2])
      ((Options.textEntries done fs).mapError Failure.fault) := by
  -- On the entries, for any entries done before.
  induction fs generalizing done with
  | nil => exact .ok done
  | cons e fs ih =>
    rw [Options.textEntries, mapError_bind]
    change Asks Succeeds ([e.1] ++ ([e.2] ++ fs.flatMap fun e => [e.1, e.2])) _
    refine (Asks.wordingOf e.1).bind fun key _ => ?_
    rw [mapError_bind]
    exact (Asks.wordingOf e.2).bind fun value _ => ih _

theorem asks_fallbacks {v : Option Value} (h : ∀ w, v = some w → w.isTidy = true) :
    Asks Controlled (askedOfFallbacks (v.map opened)) (Options.fallbacksOf v) := by
  cases v with
  | none => exact .none (.of_succeeds (.ok []))
  | some w =>
    have htruthy := truthy_opened (h w rfl)
    unfold Options.fallbacksOf
    cases ht : w.truthy with
    | false =>
      -- An empty value has nothing to put into words.
      rw [ht] at htruthy
      have hnone : askedOfFallbacks ((some w).map opened) = [] := by
        rw [Option.map_some]
        generalize w.opened = x at htruthy
        cases x with
        | map fs =>
          cases fs with
          | nil => rfl
          | cons => cases htruthy
        | _ => rfl
      rw [hnone]
      simp only [Option.filter, ht, Bool.false_eq_true, if_false]
      exact .none (.of_succeeds (.ok []))
    | true =>
      simp only [Option.filter, ht, if_true, Option.map_some]
      cases w.opened with
      | map fs => exact (asks_textEntries [] fs).imp .of_succeeds
      | _ => exact .none (.refuse _)

/-- **Options put their fallbacks into words.** -/
theorem asks_options {v : Value} {es : List (Value × Value)} (hv : v.opened = .map es)
    (hes : (Value.map es).isTidy = true) (hk : checkKeys es = .ok ()) :
    Asks Controlled (wordedOfOptions ((find? es "options").getD .null)) (optionsAt v) := by
  obtain ⟨_, _, _, _, _, hoptions, _⟩ := checkKeys_ok.mp hk
  simp only [optionsAt, hv]
  rcases map_of_checkOptions hes hoptions with hw | ⟨w, os, hw, hos⟩
  · rw [hw]
    exact .none (.of_succeeds ⟨{}, rfl⟩)
  · have hwtidy := isTidy_find? hes hw
    have htruthy := truthy_opened hwtidy
    have hostidy : (Value.map os).isTidy = true := hos ▸ isTidy_opened hwtidy
    rw [hw, Option.getD_some, Options.ofValue, wordedOfOptions, hos, ← htruthy, hos]
    cases os with
    | nil => exact .none (.of_succeeds ⟨{}, rfl⟩)
    | cons e os =>
      have hfallbacks := asks_fallbacks (v := find? (e :: os) "fallbacks")
        fun w hw => isTidy_find? hostidy hw
      exact hfallbacks.before fun h => h.bind fun _ _ => .of_succeeds (.ok _)

/-! ## Schemas -/

theorem checkEntry_ok {position : Nat} {v : Value} (h : isComplete v.opened = true) :
    checkEntry position v = .ok () := by
  unfold checkEntry
  cases hv : v.opened with
  | map es =>
    rw [hv] at h
    obtain ⟨hname, htype⟩ := Bool.and_eq_true_iff.mp h
    obtain ⟨name, hname⟩ := Option.isSome_iff_exists.mp hname
    simp only [hname, htype, if_true]
  | _ =>
    rw [hv] at h
    cases h

theorem checkEntry_incomplete (position : Nat) {v : Value} (h : isComplete v.opened = false) :
    Asks Controlled (askedOfIncomplete v.opened) (checkEntry position v) ∧
      checkEntry position v ≠ .ok () := by
  unfold checkEntry
  cases hv : v.opened with
  | map es =>
    simp only [askedOfIncomplete]
    cases hname : givenName es with
    | none => exact ⟨.none (.refuse _), nofun⟩
    | some name =>
      have htype : ¬ isGivenAt es "type" = true := by
        simpa [hv, isComplete, hname] using h
      simp only [if_neg htype]
      refine ⟨(Asks.wordingOf name).before fun h => ?_, fun h => ?_⟩
      · exact (Controlled.of_succeeds h).bind fun _ _ => .refuse _
      · obtain ⟨_, _, h⟩ := bind_eq_ok.mp h
        cases h
  | _ => exact ⟨.none (.refuse _), nofun⟩

theorem checkEntries_ok {position : Nat} {vs : List Value}
    (h : ∀ v ∈ vs, isComplete v.opened = true) : checkEntries position vs = .ok () := by
  induction vs generalizing position with
  | nil => rfl
  | cons v vs ih =>
    obtain ⟨hv, hvs⟩ := List.forall_mem_cons.mp h
    exact check_eq_ok.mpr ⟨checkEntry_ok hv, ih hvs⟩

theorem checkEntries_incomplete (position : Nat) {vs : List Value} {w : Value}
    (hw : (vs.find? fun v => !isComplete v.opened) = some w) :
    Asks Controlled (askedOfIncomplete w.opened) (checkEntries position vs) ∧
      checkEntries position vs ≠ .ok () := by
  induction vs generalizing position with
  | nil => cases hw
  | cons v vs ih =>
    rw [checkEntries]
    cases hcomplete : isComplete v.opened with
    | true =>
      rw [List.find?_cons_of_neg (by simp [hcomplete])] at hw
      rw [checkEntry_ok hcomplete]
      exact ih _ hw
    | false =>
      rw [List.find?_cons_of_pos (by simp [hcomplete])] at hw
      obtain rfl := Option.some.inj hw
      obtain ⟨hasks, hne⟩ := checkEntry_incomplete position hcomplete
      refine ⟨hasks.before fun h => h.bind fun u hu => absurd hu hne, fun h => ?_⟩
      exact hne (check_eq_ok.mp h).1

theorem schema_result (v : Value) : (Schema.ofValue v).result = (Schema.checkShape v >>= fun _ =>
    RecordOf.ofValue v >>= fun record => optionsAt v >>= fun options =>
      .ok ⟨record, options⟩) := by
  simp only [Schema.ofValue, Outcome.bind_result, Outcome.ofExcept_result, Outcome.trace_result,
    Outcome.pure_result]
  rfl

/-- **Reading a schema puts these values into words**, and nothing else gets out of control. -/
theorem asks_worded {v : Value} (h : v.isTidy = true) :
    Asks Controlled (worded v) (Schema.ofValue v).result := by
  rw [schema_result]
  cases hv : v.opened with
  | map es =>
    have hes : (Value.map es).isTidy = true := hv ▸ isTidy_opened h
    simp only [Schema.checkShape, worded, hv]
    cases hk : checkKeys es with
    | error e => exact .none (.refuse e)
    | ok u =>
      -- The field entries are looked at before anything else is put into words.
      cases hw : (itemsAt es "fields").find? fun v => !isComplete v.opened with
      | some w =>
        obtain ⟨hasks, hne⟩ := checkEntries_incomplete 1 hw
        exact hasks.before fun hc => hc.bind fun u hu => absurd hu hne
      | none =>
        have hcomplete : ∀ v ∈ itemsAt es "fields", isComplete v.opened = true := by
          simpa using List.find?_eq_none.mp hw
        refine .after ⟨(), checkEntries_ok hcomplete⟩ fun _ _ => ?_
        exact (asks_record hv hes hk hcomplete).bind fun _ _ =>
          (asks_options hv hes hk).before fun ho => ho.bind fun _ _ => .of_succeeds (.ok _)
  | _ =>
    simp only [Schema.checkShape, worded, hv]
    exact .none (.refuse _)

/-! ## Schemas without names -/

section Json

variable {es : List (Value × Value)}

/-- What is listed at a key is the value there or an item of the list there. -/
theorem exists_of_mem_listed (hes : (Value.map es).isJson = true) {key : String} {w : Value}
    (hw : w ∈ listed es key) :
    ∃ v, find? es key = some v ∧ (w = v ∨ ∃ xs, v = .list xs ∧ w ∈ xs) := by
  unfold listed at hw
  cases hv : find? es key with
  | none =>
    rw [hv] at hw
    cases hw
  | some v =>
    have hjson := isJson_find? hes hv
    rw [hv, Option.getD_some, asList, opened_of_isJson hjson] at hw
    refine ⟨v, rfl, ?_⟩
    cases v with
    | null => cases hw
    | list xs => exact .inr ⟨xs, rfl, hw⟩
    | pair => cases hjson
    | _ => exact .inl (List.mem_singleton.mp hw)

theorem exists_of_mem_itemsAt (hes : (Value.map es).isJson = true) {key : String} {w : Value}
    (hw : w ∈ itemsAt es key) : ∃ xs, find? es key = some (.list xs) ∧ w ∈ xs := by
  unfold itemsAt at hw
  split at hw
  · next xs hxs =>
    obtain ⟨v, hv, hxs⟩ := Option.map_eq_some_iff.mp hxs
    rw [opened_of_isJson (isJson_find? hes hv)] at hxs
    exact ⟨xs, hxs ▸ hv, hw⟩
  · cases hw

theorem isJson_listed (hes : (Value.map es).isJson = true) (key : String) :
    ∀ v ∈ listed es key, v.isJson = true := by
  intro w hw
  obtain ⟨v, hv, rfl | ⟨xs, rfl, hmem⟩⟩ := exists_of_mem_listed hes hw
  · exact isJson_find? hes hv
  · exact isJson_list.mp (isJson_find? hes hv) w hmem

theorem isJson_itemsAt (hes : (Value.map es).isJson = true) (key : String) :
    ∀ v ∈ itemsAt es key, v.isJson = true := by
  intro w hw
  obtain ⟨xs, hv, hmem⟩ := exists_of_mem_itemsAt hes hw
  exact isJson_list.mp (isJson_find? hes hv) w hmem

theorem find?_incomplete_of_isJson {vs : List Value} (h : ∀ v ∈ vs, v.isJson = true) :
    vs.find? (fun v => !isComplete v.opened) = vs.find? fun v => !isComplete v := by
  induction vs with
  | nil => rfl
  | cons v vs ih =>
    obtain ⟨hv, hvs⟩ := List.forall_mem_cons.mp h
    rw [List.find?_cons, List.find?_cons, opened_of_isJson hv, ih hvs]

theorem wordedOfRecord_of_isJson (hes : (Value.map es).isJson = true) :
    wordedOfRecord es = askedOfRecord es := by
  have hfields : (listed es "fields").flatMap (fun v => askedOfField v.opened) =
      (listed es "fields").flatMap askedOfField :=
    List.flatMap_congr fun v hv => by rw [opened_of_isJson (isJson_listed hes "fields" v hv)]
  rw [wordedOfRecord, askedOfRecord, hfields]

theorem wordedOfOptions_of_isJson {v : Value} (h : v.isJson = true) :
    wordedOfOptions v = askedOfOptions v := by
  rw [wordedOfOptions, opened_of_isJson h]
  cases v with
  | map os =>
    have hopened : (find? os "fallbacks").map opened = find? os "fallbacks" := by
      cases hw : find? os "fallbacks" with
      | none => rfl
      | some w => rw [Option.map_some, opened_of_isJson (isJson_find? h hw)]
    simp only [askedOfOptions, hopened]
  | _ => rfl

/-- Without names a schema puts into words what stands in it. -/
theorem worded_of_isJson {v : Value} (h : v.isJson = true) : worded v = asked v := by
  rw [worded, opened_of_isJson h]
  cases v with
  | map es =>
    have hfind := find?_incomplete_of_isJson (isJson_itemsAt h "fields")
    have hoptions : ((find? es "options").getD .null).isJson = true := by
      cases hw : find? es "options" with
      | none => rfl
      | some w => exact isJson_find? h hw
    simp only [asked, hfind, wordedOfRecord_of_isJson h, wordedOfOptions_of_isJson hoptions]
    cases checkKeys es with
    | error => rfl
    | ok =>
      cases hw : (itemsAt es "fields").find? fun v => !isComplete v with
      | none => rfl
      | some w =>
        have hjson := isJson_itemsAt h "fields" w (List.mem_of_find?_eq_some hw)
        simp only [opened_of_isJson hjson]
  | _ => rfl

theorem hasWording_toList (h : (Value.map es).HasWording) (key : String) :
    ∀ w ∈ (find? es key).toList, w.HasWording := fun _ hw => h.find? (Option.mem_toList.mp hw)

theorem hasWording_listed (hes : (Value.map es).isJson = true) (h : (Value.map es).HasWording)
    (key : String) : ∀ w ∈ listed es key, w.HasWording := by
  intro w hw
  obtain ⟨v, hv, rfl | ⟨xs, rfl, hmem⟩⟩ := exists_of_mem_listed hes hw
  · exact h.find? hv
  · exact (h.find? hv).item hmem

theorem hasWording_askedOfField {v : Value} (hv : v.isJson = true) (h : v.HasWording) :
    ∀ w ∈ askedOfField v, w.HasWording := by
  cases v with
  | map es =>
    rw [askedOfField]
    simp only [List.forall_mem_append]
    exact ⟨⟨⟨hasWording_toList h _, hasWording_toList h _⟩, hasWording_listed hv h _⟩,
      hasWording_listed hv h _⟩
  | _ => exact List.forall_mem_nil _

theorem hasWording_askedOfRecord (hes : (Value.map es).isJson = true)
    (h : (Value.map es).HasWording) : ∀ w ∈ askedOfRecord es, w.HasWording := by
  have hfields : ∀ w ∈ (listed es "fields").flatMap askedOfField, w.HasWording := by
    intro w hw
    obtain ⟨v, hv, hw⟩ := List.mem_flatMap.mp hw
    exact hasWording_askedOfField (isJson_listed hes _ v hv) (hasWording_listed hes h _ v hv) w hw
  rw [askedOfRecord]
  simp only [List.forall_mem_append]
  exact ⟨⟨⟨⟨hasWording_toList h _, hfields⟩, hasWording_listed hes h _⟩,
    hasWording_listed hes h _⟩, hasWording_listed hes h _⟩

theorem hasWording_askedOfOptions {v : Value} (hv : v.isJson = true) (h : v.HasWording) :
    ∀ w ∈ askedOfOptions v, w.HasWording := by
  cases v with
  | map os =>
    rw [askedOfOptions]
    cases hf : find? os "fallbacks" with
    | none => exact List.forall_mem_nil _
    | some x =>
      have hjson := isJson_find? hv hf
      have hword := h.find? hf
      cases x with
      | map fs =>
        intro w hw
        obtain ⟨e, he, hw⟩ := List.mem_flatMap.mp hw
        obtain ⟨hkey, -⟩ := isJson_map.mp hjson e he
        obtain ⟨s, hs⟩ := eq_text hkey
        rcases List.mem_pair.mp hw with rfl | rfl
        · rw [hs]
          exact ⟨(by decide : 0 < heightBound), rfl⟩
        · exact hword.entry he
      | _ => exact List.forall_mem_nil _
  | _ => exact List.forall_mem_nil _

/-- **A schema without names that has a wording has one for all that it puts into words.** -/
theorem hasWording_asked {v : Value} (hv : v.isJson = true) (h : v.HasWording) :
    ∀ w ∈ asked v, w.HasWording := by
  cases v with
  | map es =>
    have hoptions : ((find? es "options").getD .null).isJson = true ∧
        ((find? es "options").getD .null).HasWording := by
      cases hf : find? es "options" with
      | none => exact ⟨rfl, by decide, rfl⟩
      | some x => exact ⟨isJson_find? hv hf, h.find? hf⟩
    simp only [asked]
    cases checkKeys es with
    | error => exact List.forall_mem_nil _
    | ok =>
      cases hw : (itemsAt es "fields").find? fun v => !isComplete v with
      | none =>
        exact List.forall_mem_append.mpr ⟨hasWording_askedOfRecord hv h,
          hasWording_askedOfOptions hoptions.1 hoptions.2⟩
      | some w =>
        obtain ⟨xs, hxs, hmem⟩ := exists_of_mem_itemsAt hv (List.mem_of_find?_eq_some hw)
        have hword := (h.find? hxs).item hmem
        cases w with
        | map fs =>
          intro x hx
          exact hword.find? (Option.filter_eq_some_iff.mp (Option.mem_toList.mp hx)).1
        | _ => exact List.forall_mem_nil _
  | _ => exact List.forall_mem_nil _

/-- **Reading a schema without names puts these values into words**, and nothing else gets out of
control. -/
theorem asks_schema {v : Value} (h : v.isJson = true) :
    Asks Controlled (asked v) (Schema.ofValue v).result := by
  rw [← worded_of_isJson h]
  exact asks_worded (isTidy_of_isJson v h)

end Json

end RecordFamily
