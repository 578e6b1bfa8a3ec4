import RecordFamily.Proofs.Check
import RecordFamily.Proofs.Schema

/-!
# The shape of schemas

A schema is held to a shape before it is read. The shape is written down for the reader of a schema,
and it is what the checks decide, but for the fallbacks: values that count as empty are let through in
their place, which is meant for mappings and for null.

* `Schema.HasKeys`, `Schema.IsEntry`, `Schema.FallbacksFit`: the parts of the shape;
* **`Schema.IsDocumented`**, `Schema.IsAccepted`: the shape as it is written down, and as it is checked,
  with `isDocumented_iff`;
* `Schema.NamelessFirst`: schemas in which the first thing wrong is a field entry without a name;
* `Schema.checks`: the checks on the shape, in order, with `checks_iff` and `firstViolated_checks`;
* `decides_schema`: they decide about the reading of a schema, unless what is put into words has no
  wording;
* **`schema_accepts`**: which schemas are read, and how the others are refused.
-/

namespace RecordFamily

open Value

namespace Schema

/-! ## The shape -/

/-- The value is a list. -/
def IsList (v : Value) : Prop := ∃ xs, v = .list xs

/-- The value is a text. -/
def IsText (v : Value) : Prop := ∃ s, v = .text s

/-- The value is a mapping. -/
def IsMap (v : Value) : Prop := ∃ es, v = .map es

/-- The key is missing or holds null, or it holds a value of the kind. -/
def MayHold (es : List (Value × Value)) (key : String) (Kind : Value → Prop) : Prop :=
  ∀ v, find? es key = some v → v = .null ∨ Kind v

/-- **The keys of a schema** hold values of the right kinds. -/
structure HasKeys (es : List (Value × Value)) : Prop where
  name : isGivenAt es "name" = true
  variants : MayHold es "variants" IsList
  fields : MayHold es "fields" IsList
  annotations : MayHold es "annotations" fun v => IsText v ∨ IsList v
  imports : MayHold es "imports" fun v => IsText v ∨ IsList v
  options : MayHold es "options" IsMap
  docstring : MayHold es "docstring" IsText

/-- The value is a field entry: a mapping that gives a name and a type. -/
def IsEntry (v : Value) : Prop :=
  ∃ es, v = .map es ∧ isGivenAt es "name" = true ∧ isGivenAt es "type" = true

/-- The fallbacks among the options of a schema, where there are some, are of the kind. -/
def FallbacksFit (Kind : Value → Prop) (es : List (Value × Value)) : Prop :=
  ∀ os, find? es "options" = some (.map os) → MayHold os "fallbacks" Kind

/-- The value has the shape of a schema, with fallbacks of the kind. -/
def HasShape (Kind : Value → Prop) (v : Value) : Prop :=
  ∃ es, v = .map es ∧ HasKeys es ∧ (∀ w ∈ itemsAt es "fields", IsEntry w) ∧ FallbacksFit Kind es

/-- **The value has the documented shape of a schema.** -/
def IsDocumented : Value → Prop := HasShape IsMap

/-- The value may stand for fallbacks: it is a mapping or counts as empty. -/
def PassesAsMap (v : Value) : Prop := v.truthy = true → IsMap v

/-- **The value has the shape that a schema is held to.** -/
def IsAccepted : Value → Prop := HasShape PassesAsMap

/-- Something that counts as empty stands for the fallbacks, and is neither null nor a mapping. -/
def HasEmptyMisfit (v : Value) : Prop :=
  ∃ es os w, v = .map es ∧ find? es "options" = some (.map os) ∧ find? os "fallbacks" = some w ∧
    w.truthy = false ∧ w ≠ .null ∧ ¬ IsMap w

/-- **The first thing wrong with the schema is a field entry without a name.** -/
def NamelessFirst (v : Value) : Prop :=
  ∃ es before fs after, v = .map es ∧ HasKeys es ∧
    itemsAt es "fields" = before ++ .map fs :: after ∧ (∀ w ∈ before, IsEntry w) ∧
      isGivenAt fs "name" = false

theorem isDocumented_iff {v : Value} : IsDocumented v ↔ IsAccepted v ∧ ¬ HasEmptyMisfit v := by
  constructor
  · rintro ⟨es, rfl, hkeys, hentries, hfallbacks⟩
    refine ⟨⟨es, rfl, hkeys, hentries, fun os hos w hw => ?_⟩, ?_⟩
    · exact (hfallbacks os hos w hw).imp_right fun hmap _ => hmap
    · rintro ⟨_, os, w, ⟨⟩, hos, hw, -, hnull, hmap⟩
      exact (hfallbacks os hos w hw).elim hnull hmap
  · rintro ⟨⟨es, rfl, hkeys, hentries, hfallbacks⟩, hmisfit⟩
    refine ⟨es, rfl, hkeys, hentries, fun os hos w hw => ?_⟩
    by_contra hn
    obtain ⟨hnull, hmap⟩ := not_or.mp hn
    cases htruthy : w.truthy with
    | true => exact hmap (((hfallbacks os hos w hw).resolve_left hnull) htruthy)
    | false => exact hmisfit ⟨es, os, w, rfl, hos, hw, htruthy, hnull, hmap⟩

/-! ## The checks on the shape -/

/-- A check on the shape. -/
def shapeCheck (p : Prop) : Check := ⟨p, .schemaParseError⟩

/-- The checks on the keys of a schema. -/
def keyChecks (es : List (Value × Value)) : List Check := [
  shapeCheck (isGivenAt es "name" = true),
  shapeCheck (MayHold es "variants" IsList),
  shapeCheck (MayHold es "fields" IsList),
  shapeCheck (MayHold es "annotations" fun v => IsText v ∨ IsList v),
  shapeCheck (MayHold es "imports" fun v => IsText v ∨ IsList v),
  shapeCheck (MayHold es "options" IsMap),
  shapeCheck (MayHold es "docstring" IsText)]

/-- The checks on a field entry. -/
def entryChecks (v : Value) : List Check := [
  shapeCheck (IsMap v),
  ⟨∀ es, v = .map es → isGivenAt es "name" = true, .unnamedField⟩,
  shapeCheck (∀ es, v = .map es → isGivenAt es "type" = true)]

/-- **The checks on the shape of a schema**, in order. -/
def checks : Value → List Check
  | .map es => keyChecks es ++ ((itemsAt es "fields").flatMap entryChecks
      ++ [shapeCheck (FallbacksFit PassesAsMap es)])
  | _ => [shapeCheck False]

section Checks

variable {es : List (Value × Value)} {v : Value}

theorem keyChecks_iff : (∀ c ∈ keyChecks es, c.holds) ↔ HasKeys es := by
  simp only [keyChecks, List.forall_mem_cons, List.not_mem_nil, false_implies, implies_true, and_true,
    shapeCheck]
  exact ⟨fun ⟨h₁, h₂, h₃, h₄, h₅, h₆, h₇⟩ => ⟨h₁, h₂, h₃, h₄, h₅, h₆, h₇⟩,
    fun h => ⟨h.name, h.variants, h.fields, h.annotations, h.imports, h.options, h.docstring⟩⟩

theorem entryChecks_iff : (∀ c ∈ entryChecks v, c.holds) ↔ IsEntry v := by
  simp only [entryChecks, List.forall_mem_cons, List.not_mem_nil, false_implies, implies_true,
    and_true, shapeCheck]
  constructor
  · rintro ⟨⟨es, rfl⟩, hname, htype⟩
    exact ⟨es, rfl, hname es rfl, htype es rfl⟩
  · rintro ⟨es, rfl, hname, htype⟩
    exact ⟨⟨es, rfl⟩, fun _ he => Value.map.inj he ▸ hname, fun _ he => Value.map.inj he ▸ htype⟩

/-- **The accepted schemas are those whose checks all hold.** -/
theorem checks_iff : (∀ c ∈ checks v, c.holds) ↔ IsAccepted v := by
  cases v with
  | map es =>
    simp only [checks, List.forall_mem_append, List.forall_mem_flatMap, List.forall_mem_singleton,
      keyChecks_iff, entryChecks_iff]
    constructor
    · exact fun ⟨hkeys, hentries, hfallbacks⟩ => ⟨es, rfl, hkeys, hentries, hfallbacks⟩
    · rintro ⟨_, ⟨⟩, hkeys, hentries, hfallbacks⟩
      exact ⟨hkeys, hentries, hfallbacks⟩
  | _ =>
    refine iff_of_false (fun h => h _ List.mem_cons_self) ?_
    rintro ⟨_, ⟨⟩, _⟩

/-- The keys of a schema have nothing to do with names of fields. -/
theorem not_firstViolated_keyChecks : ¬ FirstViolated (keyChecks es) .unnamedField := by
  intro h
  obtain ⟨c, hc, hk⟩ := h.exists_kind
  simp only [keyChecks, List.mem_cons, List.not_mem_nil, or_false] at hc
  rcases hc with rfl | rfl | rfl | rfl | rfl | rfl | rfl <;> cases hk

theorem firstViolated_entryChecks : FirstViolated (entryChecks v) .unnamedField ↔
    ∃ fs, v = .map fs ∧ isGivenAt fs "name" = false := by
  simp only [entryChecks, shapeCheck, FirstViolated.cons_iff, reduceCtorEq, and_false, false_or,
    and_true]
  constructor
  · rintro ⟨⟨fs, rfl⟩, hname | ⟨-, -, h⟩⟩
    · exact ⟨fs, rfl, by simpa using hname⟩
    · cases h
  · rintro ⟨fs, rfl, hname⟩
    exact ⟨⟨fs, rfl⟩, .inl fun h => Bool.false_ne_true (hname.symm.trans (h fs rfl))⟩

/-- **An entry without a name is told when it is the first thing wrong.** -/
theorem firstViolated_unnamed : FirstViolated (checks v) .unnamedField ↔ NamelessFirst v := by
  cases v with
  | map es =>
    have hlast : ¬ FirstViolated [shapeCheck (FallbacksFit PassesAsMap es)] .unnamedField := by
      intro h
      obtain ⟨_, hc, hk⟩ := h.exists_kind
      rw [List.mem_singleton.mp hc] at hk
      cases hk
    simp only [checks, FirstViolated.append_iff, FirstViolated.flatMap_iff, keyChecks_iff,
      entryChecks_iff, firstViolated_entryChecks, not_firstViolated_keyChecks, hlast, and_false,
      or_false, false_or]
    constructor
    · rintro ⟨hkeys, before, _, after, hsplit, hbefore, fs, rfl, hname⟩
      exact ⟨es, before, fs, after, rfl, hkeys, hsplit, hbefore, hname⟩
    · rintro ⟨_, before, fs, after, ⟨⟩, hkeys, hsplit, hbefore, hname⟩
      exact ⟨hkeys, before, _, after, hsplit, hbefore, fs, rfl, hname⟩
  | _ =>
    refine iff_of_false (fun h => ?_) ?_
    · obtain ⟨_, hc, hk⟩ := h.exists_kind
      rw [List.mem_singleton.mp hc] at hk
      cases hk
    · rintro ⟨_, _, _, _, ⟨⟩, _⟩

theorem kind_of_mem_checks : ∀ c ∈ checks v, c.kind = .schemaParseError ∨ c.kind = .unnamedField := by
  cases v with
  | map es =>
    simp only [checks, List.forall_mem_append, List.forall_mem_flatMap, keyChecks, entryChecks,
      shapeCheck, List.forall_mem_cons, List.not_mem_nil, false_implies, implies_true, reduceCtorEq,
      or_false, or_true, and_self]
  | _ => exact List.forall_mem_singleton.mpr (.inl rfl)

end Checks

/-! ## What decides about a schema -/

section Decisions

variable {es : List (Value × Value)} {v : Value}

theorem mayHold_iff (hes : (Value.map es).isJson = true) {key : String} {Kind : Value → Prop} :
    MayHold es key Kind ↔ ∀ v, valueAt es key = some v → Kind v := by
  unfold MayHold
  rcases valueAt_cases es key with ⟨hv, hf⟩ | ⟨v, hv, hf⟩
  · rw [hv]
    refine iff_of_true (fun v hfind => .inl ?_) nofun
    rw [hfind] at hf
    exact hf
  · have hbare : v.bare = v := by
      have hjson := isJson_find? hes hf
      cases v with
      | named => cases hjson
      | _ => rfl
    have hnull : v ≠ .null := by
      rintro rfl
      simp [valueAt, hf] at hv
    rw [hv, hf, hbare]
    simp only [Option.some.injEq, forall_eq', hnull, false_or]

section Keys

variable (hes : (Value.map es).isJson = true)

include hes

theorem decides_checkList (key : String) :
    Decides [shapeCheck (MayHold es key IsList)] (checkList es key) := by
  rw [shapeCheck, mayHold_iff hes]
  unfold checkList
  split
  · next hv => exact .single fun _ h => nomatch hv.symm.trans h
  · next xs hv => exact .single fun _ h => ⟨xs, Option.some.inj (h.symm.trans hv)⟩
  · next v hlist hv =>
    refine .refused rfl fun h => ?_
    obtain ⟨xs, rfl⟩ := h v hv
    exact hlist xs rfl

theorem decides_checkTextOrList (key : String) :
    Decides [shapeCheck (MayHold es key fun v => IsText v ∨ IsList v)] (checkTextOrList es key) := by
  rw [shapeCheck, mayHold_iff hes]
  unfold checkTextOrList
  split
  · next hv => exact .single fun _ h => nomatch hv.symm.trans h
  · next xs hv => exact .single fun _ h => .inr ⟨xs, Option.some.inj (h.symm.trans hv)⟩
  · next s hv => exact .single fun _ h => .inl ⟨s, Option.some.inj (h.symm.trans hv)⟩
  · next v hlist htext hv =>
    refine .refused rfl fun h => ?_
    rcases h v hv with ⟨s, rfl⟩ | ⟨xs, rfl⟩
    · exact htext s rfl
    · exact hlist xs rfl

theorem decides_checkOptions :
    Decides [shapeCheck (MayHold es "options" IsMap)] (checkOptions es) := by
  rw [shapeCheck, mayHold_iff hes]
  unfold checkOptions
  split
  · next hv => exact .single fun _ h => nomatch hv.symm.trans h
  · next os hv => exact .single fun _ h => ⟨os, Option.some.inj (h.symm.trans hv)⟩
  · next v hmap hv =>
    refine .refused rfl fun h => ?_
    obtain ⟨os, rfl⟩ := h v hv
    exact hmap os rfl

theorem decides_checkDocstring :
    Decides [shapeCheck (MayHold es "docstring" IsText)] (checkDocstring es) := by
  rw [shapeCheck, mayHold_iff hes]
  unfold checkDocstring
  split
  · next hv => exact .single fun _ h => nomatch hv.symm.trans h
  · next s hv => exact .single fun _ h => ⟨s, Option.some.inj (h.symm.trans hv)⟩
  · next v htext hv =>
    refine .refused rfl fun h => ?_
    obtain ⟨s, rfl⟩ := h v hv
    exact htext s rfl

theorem decides_checkKeys : Decides (keyChecks es) (checkKeys es) := by
  unfold checkKeys
  refine .guard (by rw [Bool.not_eq_true', Bool.not_eq_true]) rfl ?_
  refine (decides_checkList hes "variants").bind fun _ _ => ?_
  refine (decides_checkList hes "fields").bind fun _ _ => ?_
  refine (decides_checkTextOrList hes "annotations").bind fun _ _ => ?_
  refine (decides_checkTextOrList hes "imports").bind fun _ _ => ?_
  exact (decides_checkOptions hes).bind fun _ _ => decides_checkDocstring hes

end Keys

theorem isSome_givenName : (givenName es).isSome = isGivenAt es "name" := by
  rw [givenName, isGivenAt]
  cases find? es "name" with
  | none => rfl
  | some v => cases h : v.truthy <;> simp [h]

theorem isComplete_iff : isComplete v = true ↔ IsEntry v := by
  cases v with
  | map es =>
    rw [isComplete, isSome_givenName, Bool.and_eq_true]
    constructor
    · rintro ⟨hname, htype⟩
      exact ⟨es, rfl, hname, htype⟩
    · rintro ⟨_, ⟨⟩, hname, htype⟩
      exact ⟨hname, htype⟩
  | _ =>
    refine iff_of_false Bool.false_ne_true ?_
    rintro ⟨_, ⟨⟩, _⟩

/-- The checks decide about a field entry whose name, where it has to be reported, has a wording. -/
theorem decides_checkEntry {position : Nat} (hv : v.isJson = true)
    (hw : ¬ IsEntry v → ∀ w ∈ askedOfIncomplete v, w.HasWording) :
    Decides (entryChecks v) (checkEntry position v) := by
  unfold checkEntry
  rw [opened_of_isJson hv]
  cases v with
  | map es =>
    refine .pass ⟨es, rfl⟩ ?_
    simp only [askedOfIncomplete] at hw ⊢
    have hsome : (givenName es).isSome = isGivenAt es "name" := isSome_givenName
    cases hname : givenName es with
    | none =>
      rw [hname] at hsome
      exact .refused rfl fun h => Bool.false_ne_true (hsome.trans (h es rfl))
    | some name =>
      rw [hname] at hsome
      refine .pass (fun _ he => Value.map.inj he ▸ hsome.symm) ?_
      dsimp only
      split_ifs with htype
      · exact .single fun _ he => Value.map.inj he ▸ htype
      · have hentry : ¬ IsEntry (.map es) := by
          rintro ⟨_, ⟨⟩, -, h⟩
          exact htype h
        rw [hname] at hw
        obtain ⟨text, htext⟩ := (Asks.wordingOf name).good (hw hentry)
        rw [htext]
        exact .refused rfl fun h => htype (h es rfl)
  | _ =>
    refine .refused rfl ?_
    rintro ⟨_, ⟨⟩⟩

theorem decides_checkEntries {position : Nat} {vs : List Value} (hvs : ∀ v ∈ vs, v.isJson = true)
    (hw : ∀ v, vs.find? (fun v => !isComplete v) = some v →
      ∀ w ∈ askedOfIncomplete v, w.HasWording) :
    Decides (vs.flatMap entryChecks) (checkEntries position vs) := by
  induction vs generalizing position with
  | nil => exact .of_succeeds (.ok _)
  | cons v vs ih =>
    obtain ⟨hv, hvs⟩ := List.forall_mem_cons.mp hvs
    have hentry : Decides (entryChecks v) (checkEntry position v) := by
      refine decides_checkEntry hv fun hn => hw v ?_
      exact List.find?_cons_of_pos (by simpa [← isComplete_iff] using hn)
    rw [checkEntries, List.flatMap_cons]
    refine hentry.bind fun _ hok => ih hvs fun w hfind => hw w ?_
    have hcomplete : isComplete v = true :=
      isComplete_iff.mpr (entryChecks_iff.mp (hentry.holds _ hok))
    rw [List.find?_cons_of_neg (by simp [hcomplete]), hfind]

theorem decides_fallbacks {os : List (Value × Value)} (hos : (Value.map os).isJson = true)
    (hw : ∀ w ∈ askedOfFallbacks (find? os "fallbacks"), w.HasWording) :
    Decides [shapeCheck (MayHold os "fallbacks" PassesAsMap)]
      (Options.fallbacksOf (find? os "fallbacks")) := by
  unfold MayHold Options.fallbacksOf
  cases hfind : find? os "fallbacks" with
  | none => exact .single fun _ h => nomatch h
  | some v =>
    rw [hfind] at hw
    cases htruthy : v.truthy with
    | false =>
      simp only [Option.filter, htruthy, Bool.false_eq_true, if_false, Option.map_none]
      refine .single fun w hv => .inr fun ht => ?_
      obtain rfl := Option.some.inj hv
      exact absurd ht (by simp [htruthy])
    | true =>
      simp only [Option.filter, htruthy, if_true, Option.map_some,
        opened_of_isJson (isJson_find? hos hfind)]
      cases v with
      | map fs =>
        obtain ⟨texts, htexts⟩ := (asks_textEntries [] fs).good hw
        simp only [htexts]
        exact .single fun w hv => .inr fun _ => ⟨fs, (Option.some.inj hv).symm⟩
      | null => cases htruthy
      | _ =>
        refine .refused rfl fun h => ?_
        rcases h _ rfl with hnull | hmap
        · cases hnull
        · obtain ⟨_, hmap⟩ := hmap htruthy
          cases hmap

theorem decides_options (hes : (Value.map es).isJson = true) (hkeys : HasKeys es)
    (hw : ∀ w ∈ askedOfOptions ((find? es "options").getD .null), w.HasWording) :
    Decides [shapeCheck (FallbacksFit PassesAsMap es)] (optionsAt (.map es)) := by
  change Decides _ (Options.ofValue ((find? es "options").getD .null))
  unfold FallbacksFit
  cases hfind : find? es "options" with
  | none => exact .single fun _ h => nomatch h
  | some v =>
    rw [hfind, Option.getD_some] at hw
    rcases hkeys.options v hfind with rfl | ⟨os, rfl⟩
    · exact .single fun _ h => nomatch h
    · cases os with
      | nil =>
        refine .single fun os hos w hw => ?_
        cases hos
        cases hw
      | cons e os =>
        have hdecides := decides_fallbacks (isJson_find? hes hfind) hw
        have hsame : (∀ fs, some (Value.map (e :: os)) = some (.map fs) →
            MayHold fs "fallbacks" PassesAsMap) ↔ MayHold (e :: os) "fallbacks" PassesAsMap :=
          ⟨fun h => h _ rfl, fun h fs hfs => Value.map.inj (Option.some.inj hfs) ▸ h⟩
        rw [hsame]
        exact hdecides.bind_succeeds fun _ _ => .ok _

/-- **The checks decide about a schema** when all that is put into words has a wording. -/
theorem decides_schema {v : Value} (h : v.isJson = true) (hw : ∀ w ∈ asked v, w.HasWording) :
    Decides (checks v) (Schema.ofValue v).result := by
  rw [schema_result, checkShape, opened_of_isJson h]
  cases v with
  | map es =>
    have hitems := isJson_itemsAt h "fields"
    have hkeys := decides_checkKeys h
    have hentries : ∀ _ : Unit, (checkKeys es).mapError Failure.derivation = .ok () →
        Decides ((itemsAt es "fields").flatMap entryChecks)
          (checkEntries 1 (itemsAt es "fields")) := by
      intro _ hk
      refine decides_checkEntries hitems fun w hfind => ?_
      simpa only [asked, mapError_eq_ok.mp hk, hfind] using hw
    rw [checks, ← List.append_assoc]
    refine (hkeys.mapError.bind hentries).bind fun _ hshape => ?_
    obtain ⟨hk, hc⟩ := check_eq_ok.mp hshape
    have hentry : ∀ w ∈ itemsAt es "fields", IsEntry w := fun w hmem =>
      entryChecks_iff.mp fun c hc' =>
        (hentries () hk).holds _ hc c (List.mem_flatMap.mpr ⟨w, hmem, hc'⟩)
    have hcomplete : ∀ w ∈ itemsAt es "fields", isComplete w = true :=
      fun w hmem => isComplete_iff.mpr (hentry w hmem)
    have hnone : ((itemsAt es "fields").find? fun w => !isComplete w) = none := by
      simpa using hcomplete
    have hk := mapError_eq_ok.mp hk
    simp only [asked, hk, hnone, List.forall_mem_append] at hw
    obtain ⟨hrecord, hoptions⟩ := hw
    rw [← wordedOfRecord_of_isJson h] at hrecord
    obtain ⟨record, hrecord⟩ := (asks_record (v := .map es) rfl (isTidy_of_isJson _ h) hk
      fun w hmem => by rw [opened_of_isJson (hitems w hmem)]; exact hcomplete w hmem).good hrecord
    rw [hrecord, ok_bind]
    have hholds := keyChecks_iff.mp (hkeys.holds () hk)
    exact (decides_options h hholds hoptions).bind_succeeds fun _ _ => .ok _
  | _ => exact .refused rfl id

end Decisions

end Schema

/-! ## Which schemas are read -/

open Schema

/-- **A schema is read exactly when it has the shape that it is held to and all that it puts into words
has a wording.** The shape is the documented one, but that something empty may stand for the fallbacks.
A schema of another shape is refused, and a field entry without a name is told when it is the first
thing wrong. Only a missing wording gets the reading out of control. -/
theorem schema_accepts {v : Value} (h : v.isJson = true) :
    ((∃ s, (Schema.ofValue v).result = .ok s) ↔ IsAccepted v ∧ ∀ w ∈ asked v, w.HasWording) ∧
      (IsDocumented v ↔ IsAccepted v ∧ ¬ HasEmptyMisfit v) ∧
      ∀ e, (Schema.ofValue v).result = .error e →
        (∃ d, e = .derivation d ∧ ¬ IsAccepted v ∧ (∀ w ∈ asked v, w.HasWording) ∧
          (d.kind = .unnamedField ∧ NamelessFirst v ∨
            d.kind = .schemaParseError ∧ ¬ NamelessFirst v)) ∨
        (∃ w ∈ asked v, ¬ w.HasWording) ∧ (e = .fault .tooDeep ∨ e = .fault .numberTooLong) := by
  by_cases hw : ∀ w ∈ asked v, w.HasWording
  · have hdecides := decides_schema h hw
    have haccepted := hdecides.succeeds_iff.trans checks_iff
    refine ⟨haccepted.trans (and_iff_left hw).symm, isDocumented_iff, fun e he => .inl ?_⟩
    obtain ⟨k, hk, hfirst⟩ := hdecides.violated e he
    obtain ⟨d, rfl, rfl⟩ := Failure.kind?_eq_some.mp hk
    have hrefused : ¬ IsAccepted v := fun ha =>
      FirstViolated.exists_iff.mp ⟨_, hfirst⟩ (checks_iff.mpr ha)
    refine ⟨d, rfl, hrefused, hw, ?_⟩
    obtain ⟨c, hc, hkind⟩ := hfirst.exists_kind
    rcases kind_of_mem_checks c hc with hparse | hunnamed
    · refine .inr ⟨hkind.symm.trans hparse, fun hfield => ?_⟩
      have hsame := (firstViolated_unnamed.mpr hfield).unique hfirst
      rw [← hkind, hparse] at hsame
      cases hsame
    · rw [← hkind, hunnamed] at hfirst
      exact .inl ⟨hkind.symm.trans hunnamed, firstViolated_unnamed.mp hfirst⟩
  · have hn : ∃ w ∈ asked v, ¬ w.HasWording := by simpa using hw
    have hfault := (asks_schema h).fault hn
    refine ⟨iff_of_false ?_ fun ha => hw ha.2, isDocumented_iff, fun e he => .inr ⟨hn, ?_⟩⟩
    · rintro ⟨s, hs⟩
      rcases hfault with hf | hf <;> cases hs.symm.trans hf
    · exact hfault.imp (fun hf => Except.error.inj (he.symm.trans hf))
        fun hf => Except.error.inj (he.symm.trans hf)

/-- A schema whose second field entry has no name. -/
def namelessSchema : Value := .record [
  ("name", .text "Page"),
  ("fields", .list [.record [("name", .text "title"), ("type", .text "str")],
    .record [("type", .text "int")], .text "size"])]

theorem schema_accepts_nameless : namelessSchema.isJson = true ∧
    (Schema.ofValue namelessSchema).result = .error (.derivation (.unnamedEntry 2)) ∧
      ¬ IsAccepted namelessSchema ∧ NamelessFirst namelessSchema := by
  have hresult : (Schema.ofValue namelessSchema).result =
      .error (.derivation (.unnamedEntry 2)) := by decide +kernel
  refine ⟨rfl, hresult, ?_⟩
  rcases (schema_accepts (v := namelessSchema) rfl).2.2 _ hresult with
    ⟨d, hd, hrefused, -, ⟨-, hfield⟩ | ⟨hkind, -⟩⟩ | ⟨-, hf | hf⟩
  · exact ⟨hrefused, hfield⟩
  · rw [← Failure.derivation.inj hd] at hkind
    cases hkind
  · cases hf
  · cases hf

/-- A schema with an empty list as its fallbacks. -/
def listedSchema : Value := .record [
  ("name", .text "Page"),
  ("options", .record [("fallbacks", .list [])])]

/-- An empty list of fallbacks is let through. -/
theorem empty_list_accepted : listedSchema.isJson = true ∧ ¬ IsDocumented listedSchema ∧
    (Schema.ofValue listedSchema).result =
      .ok ⟨⟨"Page", [], [], [], none, []⟩, {}⟩ := by
  refine ⟨rfl, ?_, by decide +kernel⟩
  rintro ⟨_, ⟨⟩, -, -, hfallbacks⟩
  rcases hfallbacks _ rfl _ rfl with hnull | ⟨_, hmap⟩
  · cases hnull
  · cases hmap

end RecordFamily
