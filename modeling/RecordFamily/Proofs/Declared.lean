import RecordFamily.Derivation
import RecordFamily.Proofs.Dictionary
import RecordFamily.Proofs.Schema
import RecordFamily.Sample

/-!
# Records that are saved and loaded again

The dictionary form of a record leaves out what rules have left on its fields. A derivation reads the
rules anew and overwrites both, so that nothing of it is missed: the record that is loaded again has
the same family, and the same failures and notices.

* `RecordOf.asDeclared`: a record without what rules have left on its fields;
* **`derive_asDeclared`**: its derivation is that of the record;
* `RecordOf.ofValue_toValue`: it is what is read back from the dictionary form;
* `Schema.ofValue_toValue`: the dictionary form is a schema with the default options;
* **`record_reloads`**: a record whose fields have names loses nothing that its derivation needs.
-/

namespace RecordFamily

open Value

/-- The field without what its rule has left on it. -/
def FieldOf.asDeclared {τ : Type} (f : FieldOf τ) : FieldOf τ :=
  { f with default := false, passthrough := [] }

/-- **The record without what rules have left on its fields.** -/
def RecordOf.asDeclared {τ : Type} (r : RecordOf τ) : RecordOf τ :=
  { r with fields := r.fields.map FieldOf.asDeclared }

/-! ## Derivations -/

section Derivations

variable {τ : Type} [BEq τ] [Slot τ]

theorem checkFieldsFrom_asDeclared (record : String) (position : Nat) (seen : List τ)
    (fs : List (FieldOf τ)) : checkFieldsFrom record position seen (fs.map FieldOf.asDeclared) =
      checkFieldsFrom record position seen fs := by
  induction fs generalizing position seen with
  | nil => rfl
  | cons f fs ih =>
    rw [List.map_cons, checkFieldsFrom, checkFieldsFrom, ih]
    rfl

theorem checkFields_asDeclared (r : RecordOf τ) : checkFields r.asDeclared = checkFields r :=
  checkFieldsFrom_asDeclared _ _ _ _

/-- A rule replaces whatever an earlier one has left on its field. -/
theorem shares_asDeclared (declared : List τ) (canonical : τ) (fs : List (FieldOf τ)) :
    shares declared canonical (fs.map FieldOf.asDeclared) = shares declared canonical fs := by
  induction fs with
  | nil => rfl
  | cons f fs ih =>
    have hrule : f.asDeclared.parseRule declared canonical = f.parseRule declared canonical := rfl
    have hruled : ∀ rule, f.asDeclared.ruled rule = f.ruled rule := fun _ => rfl
    rw [List.map_cons, shares, shares, hrule, ih]
    simp only [hruled]

/-- **What rules have left on the fields of a record does not matter** to its derivation. -/
theorem derive_asDeclared (r : RecordOf τ) (options : OptionsOf τ) :
    r.asDeclared.derive options = r.derive options := by
  have hregistry : r.asDeclared.registry options = r.registry options := rfl
  have hshares : ∀ declared, shares declared r.asDeclared.name r.asDeclared.fields =
      shares declared r.name r.fields := fun declared => shares_asDeclared declared r.name r.fields
  rw [RecordOf.derive, RecordOf.derive, checkFields_asDeclared, hregistry]
  simp only [hshares]
  rfl

end Derivations

/-! ## Dictionary forms -/

section Dictionaries

open Schema

variable {f : Field} {r : Record}

theorem FieldOf.declaration_eq (f : Field) : ∃ es, f.declaration = .map es ∧
    find? es "name" = some (.text f.name) ∧ find? es "type" = some (.text f.type) ∧
      find? es "annotations" = some (slotList f.annotations) ∧ find? es "default" = none ∧
        find? es "passthrough" = none :=
  ⟨_, rfl, rfl, rfl, rfl, rfl, rfl⟩

theorem RecordOf.toValue_eq (r : Record) : ∃ es, r.toValue = .map es ∧
    find? es "name" = some (.text r.name) ∧ find? es "docstring" = some (slotOrNull r.docstring) ∧
      find? es "imports" = some (slotList r.imports) ∧
        find? es "variants" = some (slotList r.variants) ∧
          find? es "annotations" = some (slotList r.annotations) ∧
            find? es "fields" = some (.list (r.fields.map FieldOf.declaration)) ∧
              find? es "options" = none :=
  ⟨_, rfl, rfl, rfl, rfl, rfl, rfl, rfl, rfl⟩

theorem givenName_text {es : List (Value × Value)} {s : String}
    (h : find? es "name" = some (.text s)) (hs : s ≠ "") : givenName es = some (.text s) := by
  rw [givenName, h]
  simp [truthy, hs]

theorem isGivenAt_text {es : List (Value × Value)} {key s : String}
    (h : find? es key = some (.text s)) (hs : s ≠ "") : isGivenAt es key = true := by
  rw [isGivenAt, h]
  simp [truthy, hs]

theorem wordingAt_text {es : List (Value × Value)} {key missing s : String}
    (h : find? es key = some (.text s)) : wordingAt es key missing = .ok s := by
  rw [wordingAt, h]
  rfl

/-- A field with a name is read back as it was declared. -/
theorem FieldOf.ofValue_declaration (hname : f.name ≠ "") :
    FieldOf.ofValue f.declaration = .ok f.asDeclared := by
  obtain ⟨es, hes, hname', htype, hannotations, hdefault, hpassthrough⟩ := f.declaration_eq
  have hmembers : f.declaration.members = .ok es := by
    rw [hes]
    rfl
  have hset : isGivenAt es "default" = false := by
    rw [isGivenAt, hdefault]
    rfl
  have hwritten : wordingOf (.text f.name) = .ok f.name := rfl
  have hnone : textsAt es "passthrough" = (.ok [] : Except Failure (List String)) := by
    rw [textsAt, hpassthrough]
    rfl
  simp only [FieldOf.ofValue, hmembers, ok_bind, givenName_text hname' hname, hwritten,
    wordingAt_text htype, keeps_id.textsAt hannotations, hnone, hset]
  rfl

/-- **A record whose fields have names is read back as it was declared.** -/
theorem RecordOf.ofValue_toValue (hnames : ∀ f ∈ r.fields, f.name ≠ "") :
    RecordOf.ofValue r.toValue = .ok r.asDeclared := by
  obtain ⟨es, hes, hname, hdocstring, himports, hvariants, hannotations, hfields, -⟩ := r.toValue_eq
  have hmembers : r.toValue.members = .ok es := by
    rw [hes]
    rfl
  have hread : (((find? es "fields").getD .null).asList.mapM FieldOf.ofValue :
      Except Failure (List Field)) = .ok (r.fields.map FieldOf.asDeclared) := by
    rw [hfields]
    change ((r.fields.map FieldOf.declaration).mapM _) = _
    rw [mapM_eq_ok, List.forall₂_map_left_iff, List.forall₂_map_right_iff, List.forall₂_same]
    exact fun f hf => FieldOf.ofValue_declaration (hnames f hf)
  simp only [RecordOf.ofValue, hmembers, ok_bind, wordingAt_text hname, hread,
    keeps_id.textsAt hannotations, keeps_id.textsAt hvariants, keeps_id.slotAt? hdocstring,
    keeps_id.textsAt himports]
  rfl

/-- **The dictionary form of a record is a schema** with the default options, when the record, its
fields and their types have names. -/
theorem Schema.ofValue_toValue (hname : r.name ≠ "") (hnames : ∀ f ∈ r.fields, f.name ≠ "")
    (htypes : ∀ f ∈ r.fields, f.type ≠ "") :
    (Schema.ofValue r.toValue).result = .ok ⟨r.asDeclared, {}⟩ := by
  obtain ⟨es, hes, hname', hdocstring, himports, hvariants, hannotations, hfields, hoptions⟩ :=
    r.toValue_eq
  have hkeys : checkKeys es = .ok () := by
    refine checkKeys_ok.mpr ⟨isGivenAt_text hname' hname, ?_, ?_, ?_, ?_, ?_, ?_⟩
    · rw [checkList, valueAt, hvariants]
      rfl
    · rw [checkList, valueAt, hfields]
      rfl
    · rw [checkTextOrList, valueAt, hannotations]
      rfl
    · rw [checkTextOrList, valueAt, himports]
      rfl
    · rw [checkOptions, valueAt, hoptions]
    · rw [checkDocstring, valueAt, hdocstring]
      cases r.docstring <;> rfl
  have hitems : itemsAt es "fields" = r.fields.map FieldOf.declaration := by
    rw [itemsAt, hfields]
    rfl
  have hcomplete : ∀ v ∈ itemsAt es "fields", isComplete v.opened = true := by
    rw [hitems]
    refine List.forall_mem_map.mpr fun f hf => ?_
    obtain ⟨fs, hfs, hname, htype, -⟩ := f.declaration_eq
    rw [hfs]
    change isComplete (.map fs) = true
    rw [isComplete, givenName_text hname (hnames f hf), isGivenAt_text htype (htypes f hf)]
    rfl
  have hshape : checkShape r.toValue = .ok () := by
    rw [hes]
    change ((checkKeys es).mapError _ >>= fun _ => checkEntries 1 (itemsAt es "fields")) = _
    rw [hkeys]
    exact checkEntries_ok hcomplete
  have hdefault : optionsAt r.toValue = .ok {} := by
    rw [hes]
    change Options.ofValue ((find? es "options").getD .null) = _
    rw [hoptions]
    rfl
  rw [schema_result, hshape, ok_bind, RecordOf.ofValue_toValue hnames, ok_bind, hdefault]
  rfl

end Dictionaries

/-! ## Reloading -/

/-- **A record whose fields have names loses nothing that its derivation needs** when it is saved and
loaded again: under all options the derivation of the record that is loaded has the same result and
the same notices. When the record and the types of its fields have names, too, the saved record is a
schema with the default options. -/
theorem record_reloads {r : Record} (hnames : ∀ f ∈ r.fields, f.name ≠ "") :
    ∃ loaded : Record, RecordOf.ofValue r.toValue = .ok loaded ∧
      (∀ options : Options, loaded.derive options = r.derive options) ∧
        (r.name ≠ "" → (∀ f ∈ r.fields, f.type ≠ "") →
          (Schema.ofValue r.toValue).result = .ok ⟨loaded, {}⟩) :=
  ⟨r.asDeclared, RecordOf.ofValue_toValue hnames, derive_asDeclared r,
    fun hname htypes => Schema.ofValue_toValue hname hnames htypes⟩

/-- An article whose fields claim to have fallbacks and notes that no annotation gives them. -/
def staleArticle : Record :=
  { sampleArticle with
    fields := sampleArticle.fields.map fun f => { f with default := true, passthrough := ["stale"] } }

theorem record_reloads_stale : (∀ f ∈ staleArticle.fields, f.name ≠ "") ∧ staleArticle.name ≠ "" ∧
    (∀ f ∈ staleArticle.fields, f.type ≠ "") ∧
      ∃ loaded : Record, RecordOf.ofValue staleArticle.toValue = .ok loaded ∧ loaded ≠ staleArticle ∧
        (∀ options : Options, loaded.derive options = staleArticle.derive options) ∧
          (Schema.ofValue staleArticle.toValue).result = .ok ⟨loaded, {}⟩ := by
  have hnames : ∀ f ∈ staleArticle.fields, f.name ≠ "" := by decide
  have hname : staleArticle.name ≠ "" := by decide
  have htypes : ∀ f ∈ staleArticle.fields, f.type ≠ "" := by decide
  obtain ⟨loaded, hloaded, hderive, hschema⟩ := record_reloads hnames
  refine ⟨hnames, hname, htypes, loaded, hloaded, ?_, hderive, hschema hname htypes⟩
  rintro rfl
  exact absurd hloaded (by decide +kernel)

end RecordFamily
