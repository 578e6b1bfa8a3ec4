import RecordFamily.Proofs.Collision
import RecordFamily.Proofs.Existence
import RecordFamily.Proofs.WordCase

/-!
# Clashes between generated names

Names of the common forms leave one way for two members of a variant to be called the same, and one way
for two interfaces: a variant `XDefaults` beside a variant `X`, and a field `no_x` beside a field `x`.

* `fromName_eq`, `intoName_eq`, `intoDefaultsName_eq`: names of conversions by the words of variants;
* `ConversionOf.ClashesWithDefaults`: a conversion to a variant `XDefaults` beside one to a variant `X`;
* **`conversion_names_clash`**: no other conversions of one variant are called the same;
* `capabilityName_inj`, `absenceName_inj`, `capabilityName_eq_absenceName`: interfaces and markers that
  are called the same;
* **`interface_names_clash`**: no others are in a family.
-/

namespace RecordFamily

open List Naming

/-! ## Names of conversions -/

section Conversions

variable {p q : String}

theorem fromName_eq (source : String) : fromName source = "from_" ++ snakeOfPascal source := rfl

theorem toList_intoName (target : String) :
    (intoName target).toList = "into".toList ++ target.toList.flatMap snakeChar := by
  have hname : intoName target = snakeOfPascal ("into" ++ target) := rfl
  have hinto : snakeChars "into".toList = "into".toList := by decide
  rw [hname, toList_snakeOfPascal, String.toList_append, snakeChars_append (by decide), hinto]

/-- **The words of the target** come after `into`. -/
theorem intoName_eq (hp : isPascalName p = true) : intoName p = "into_" ++ snakeOfPascal p := by
  rw [← String.toList_inj, toList_intoName, flatMap_snakeChar hp, String.toList_append,
    toList_snakeOfPascal]
  rfl

/-- **A name for fallbacks** is the name for a target that ends in `Defaults`. -/
theorem intoDefaultsName_eq (target : String) :
    intoDefaultsName target = intoName (target ++ "Defaults") := by
  have hname : intoDefaultsName target = intoName (target ++ "_defaults") :=
    congrArg snakeOfPascal String.append_assoc
  have hends : "_defaults".toList.flatMap snakeChar = "Defaults".toList.flatMap snakeChar := by decide
  rw [hname, ← String.toList_inj, toList_intoName, toList_intoName, String.toList_append,
    String.toList_append, List.flatMap_append, List.flatMap_append, hends]

theorem fromName_inj (hp : isPascalName p = true) (hq : isPascalName q = true) :
    fromName p = fromName q ↔ p = q := by
  rw [fromName_eq, fromName_eq, String.append_right_inj, snakeOfPascal_inj hp hq]

theorem intoName_inj (hp : isPascalName p = true) (hq : isPascalName q = true) :
    intoName p = intoName q ↔ p = q := by
  rw [intoName_eq hp, intoName_eq hq, String.append_right_inj, snakeOfPascal_inj hp hq]

theorem fromName_ne_intoName : fromName p ≠ intoName q := by
  intro h
  have hlist := congrArg String.toList h
  rw [fromName_eq, toList_intoName, String.toList_append] at hlist
  exact absurd (List.cons.inj hlist).1 (by decide)

theorem isPascalName_defaults (hp : isPascalName p = true) :
    isPascalName (p ++ "Defaults") = true := by
  rw [isPascalName, String.toList_append]
  exact isPascal_append hp (by decide)

end Conversions

/-- **The first conversion leads to a variant `XDefaults`**, with all arguments, where the second leads
to the variant `X` and falls back. -/
def ConversionOf.ClashesWithDefaults (c d : Conversion) : Prop :=
  c.kind = .intoTarget ∧ d.kind = .intoDefaults ∧ c.target = d.target ++ "Defaults"

/-- The name of a conversion, by its kind and the names of its variants. -/
def ConversionKind.memberName (source target : String) : ConversionKind → String
  | fromSource => fromName source
  | intoTarget => intoName target
  | intoDefaults => intoName (target ++ "Defaults")

theorem name_conversion (S T : Variant) (k : ConversionKind) :
    (S.conversion T k).name = k.memberName S.name T.name := by
  cases k with
  | fromSource => rfl
  | intoTarget => rfl
  | intoDefaults => exact intoDefaultsName_eq T.name

/-- **Names agree within a kind for one variant**, and between two kinds for a variant `XDefaults` and
a variant `X`. -/
theorem memberName_eq_iff {p q p' q' : String} {k k' : ConversionKind}
    (hp : isPascalName p = true) (hq : isPascalName q = true) (hp' : isPascalName p' = true)
    (hq' : isPascalName q' = true) : k.memberName p q = k'.memberName p' q' ↔
      (k = k' ∧ if k = .fromSource then p = p' else q = q') ∨
        (k = .intoTarget ∧ k' = .intoDefaults ∧ q = q' ++ "Defaults") ∨
          k' = .intoTarget ∧ k = .intoDefaults ∧ q' = q ++ "Defaults" := by
  have hd := isPascalName_defaults hq
  have hd' := isPascalName_defaults hq'
  cases k with
  | fromSource =>
    cases k' with
    | fromSource => simp [ConversionKind.memberName, fromName_inj hp hp']
    | intoTarget => simp [ConversionKind.memberName, fromName_ne_intoName]
    | intoDefaults => simp [ConversionKind.memberName, fromName_ne_intoName]
  | intoTarget =>
    cases k' with
    | fromSource => simp [ConversionKind.memberName, fromName_ne_intoName.symm]
    | intoTarget => simp [ConversionKind.memberName, intoName_inj hq hq']
    | intoDefaults => simp [ConversionKind.memberName, intoName_inj hq hd']
  | intoDefaults =>
    cases k' with
    | fromSource => simp [ConversionKind.memberName, fromName_ne_intoName.symm]
    | intoTarget => simp [ConversionKind.memberName, intoName_inj hd hq', eq_comm]
    | intoDefaults => simp [ConversionKind.memberName, intoName_inj hd hd', String.append_left_inj]

/-- **Two conversions of one variant have the same name** exactly where one of them leads to a variant
`XDefaults` and the other, with fallbacks, to a variant `X`. -/
theorem conversion_names_clash {r : Record} {o : Options} {F : Family}
    (h : (r.derive o).result = .ok F) (hnames : ∀ V ∈ F.variants, isPascalName V.name = true) :
    ∀ c ∈ F.conversions, ∀ d ∈ F.conversions, c ≠ d → c.owner = d.owner →
      (c.name = d.name ↔ c.ClashesWithDefaults d ∨ d.ClashesWithDefaults c) := by
  obtain ⟨R, ss, h⟩ := derive_ok.mp h
  intro c hc d hd hne howner
  obtain ⟨S, hS, T, hT, _, k, _, rfl⟩ := h.mem_conversions.mp hc
  obtain ⟨S', hS', T', hT', _, k', _, rfl⟩ := h.mem_conversions.mp hd
  rw [name_conversion, name_conversion,
    memberName_eq_iff (hnames S hS) (hnames T hT) (hnames S' hS') (hnames T' hT')]
  refine or_iff_right ?_
  -- Conversions of one kind have the variant that owns them in common, and differ in the other.
  rintro ⟨rfl, hsame⟩
  have hdiffer : S.name = S'.name → T.name ≠ T'.name := by
    intro hs ht
    rw [h.variant_eq hS hS' hs, h.variant_eq hT hT' ht] at hne
    exact hne rfl
  cases k with
  | fromSource => exact hdiffer hsame howner
  | intoTarget => exact hdiffer howner hsame
  | intoDefaults => exact hdiffer howner hsame

/-- A page, and a page with defaults. -/
def pageWithDefaults : Record where
  name := "Root"
  fields := [
    sampleField "id" "int" [],
    sampleField "slug" "str" ["only_in(\"Page\")"],
    sampleField "note" "str" ["only_in(\"PageDefaults\")", "default"]]
  annotations := []
  variants := ["Page", "PageDefaults"]
  docstring := none
  imports := []

theorem conversion_names_clash_page : ∃ F, (pageWithDefaults.derive {}).result = .ok F ∧
    (∀ V ∈ F.variants, isPascalName V.name = true) ∧
    ∃ c ∈ F.conversions, ∃ d ∈ F.conversions, c ≠ d ∧ c.owner = "Root" ∧ d.owner = "Root" ∧
      c.name = "into_page_defaults" ∧ c.name = d.name ∧
        (c.ClashesWithDefaults d ∨ d.ClashesWithDefaults c) := by
  have hyields : (pageWithDefaults.derive {}).yields (fun F =>
      (∀ V ∈ F.variants, isPascalName V.name = true) ∧
        ∃ c ∈ F.conversions, ∃ d ∈ F.conversions, c ≠ d ∧ c.owner = "Root" ∧ d.owner = "Root" ∧
          c.name = "into_page_defaults" ∧ c.name = d.name) = true := by decide +kernel
  obtain ⟨F, hF, hclash⟩ := Outcome.yields_iff.mp hyields
  obtain ⟨hnames, c, hc, d, hd, hne, howner, howner', hname, hsame⟩ := of_decide_eq_true hclash
  have hiff := conversion_names_clash hF hnames c hc d hd hne (howner.trans howner'.symm)
  exact ⟨F, hF, hnames, c, hc, d, hd, hne, howner, howner', hname, hsame, hiff.mp hsame⟩

/-! ## Names of interfaces -/

section Interfaces

variable {p q : String}

/-- **A marker is called as the interface** of a field whose name has `no_` in front. -/
theorem absenceName_eq (field : String) : absenceName field = capabilityName ("no_" ++ field) := by
  have hno : pascalOfSnake ("no_" ++ field) = "No" ++ pascalOfSnake field := by
    have hfield : ("no_" ++ field).toList = "no".toList ++ '_' :: field.toList :=
      String.toList_append
    have hchars : pascalChars true "no".toList = "No".toList := by decide
    rw [← String.toList_inj, toList_pascalOfSnake, hfield, pascalChars_join, hchars,
      String.toList_append, toList_pascalOfSnake]
  rw [capabilityName_eq, hno, ← String.append_assoc]
  rfl

theorem isSnakeName_no (hq : IsSnakeName q) : IsSnakeName ("no_" ++ q) := by
  have hjoin : IsSnake ("no".toList ++ '_' :: q.toList) := .join (by decide) hq
  rw [IsSnakeName, String.toList_append]
  exact hjoin

theorem capabilityName_inj (hp : IsSnakeName p) (hq : IsSnakeName q) :
    capabilityName p = capabilityName q ↔ p = q := by
  rw [capabilityName_eq, capabilityName_eq, String.append_right_inj, pascalOfSnake_inj hp hq]

theorem capabilityName_eq_absenceName (hp : IsSnakeName p) (hq : IsSnakeName q) :
    capabilityName p = absenceName q ↔ p = "no_" ++ q := by
  rw [absenceName_eq, capabilityName_inj hp (isSnakeName_no hq)]

theorem absenceName_inj (hp : IsSnakeName p) (hq : IsSnakeName q) :
    absenceName p = absenceName q ↔ p = q := by
  rw [absenceName_eq p, capabilityName_eq_absenceName (isSnakeName_no hp) hq,
    String.append_right_inj]

/-- **Interfaces and markers have distinct names** unless some name is another one with `no_` in
front. -/
theorem nodup_interfaceNames {names : List String} (hnames : names.Nodup)
    (hsnake : ∀ n ∈ names, IsSnakeName n) :
    (names.flatMap fun n => [capabilityName n, absenceName n]).Nodup ↔
      ∀ p ∈ names, ∀ q ∈ names, p ≠ "no_" ++ q := by
  have hsplit : names.map capabilityName ++ names.map absenceName ~
      names.flatMap fun n => [capabilityName n, absenceName n] := by
    have hperm := List.map_append_flatMap_perm names capabilityName fun n => [absenceName n]
    rwa [← List.map_eq_flatMap] at hperm
  have hcapabilities : (names.map capabilityName).Nodup := hnames.map_on fun p hp q hq he =>
    (capabilityName_inj (hsnake p hp) (hsnake q hq)).mp he
  have habsences : (names.map absenceName).Nodup := hnames.map_on fun p hp q hq he =>
    (absenceName_inj (hsnake p hp) (hsnake q hq)).mp he
  rw [← hsplit.nodup_iff, List.nodup_append', and_iff_right hcapabilities, and_iff_right habsences]
  constructor
  · intro hdisjoint p hp q hq he
    have hsame := (capabilityName_eq_absenceName (hsnake p hp) (hsnake q hq)).mpr he
    exact hdisjoint (List.mem_map_of_mem hp) (hsame ▸ List.mem_map_of_mem hq)
  · intro hno name hcapability habsence
    obtain ⟨p, hp, rfl⟩ := List.mem_map.mp hcapability
    obtain ⟨q, hq, he⟩ := List.mem_map.mp habsence
    exact hno p hp q hq ((capabilityName_eq_absenceName (hsnake p hp) (hsnake q hq)).mp he.symm)

theorem Derives.interfaceNames_eq {r : Record} {o : Options} {R : Registry String}
    {ss : List (Share String)} {F : Family} (h : Derives r o R ss F) :
    (F.interfaces.flatMap fun i => [i.name, i.absenceName]) =
      (r.fields.map FieldOf.name).flatMap fun n => [capabilityName n, absenceName n] := by
  rw [h.interfaces, List.flatMap_map, ← Share.map_name h.shares, List.flatMap_map]
  rfl

end Interfaces

/-- **An interface has the name of a marker** exactly where they belong to a field `no_x` and to a field
`x`, and otherwise all names differ. A family has a name twice where its record has two such fields. -/
theorem interface_names_clash :
    (∀ p q, IsSnakeName p → IsSnakeName q →
      (p ≠ q → capabilityName p ≠ capabilityName q ∧ absenceName p ≠ absenceName q) ∧
        (capabilityName p = absenceName q ↔ p = "no_" ++ q)) ∧
    ∀ (r : Record) (o : Options) (F : Family), (r.derive o).result = .ok F →
      (∀ f ∈ r.fields, IsSnakeName f.name) →
        (¬ (F.interfaces.flatMap fun i => [i.name, i.absenceName]).Nodup ↔
          ∃ f ∈ r.fields, ∃ g ∈ r.fields, f.name = "no_" ++ g.name) := by
  constructor
  · intro p q hp hq
    refine ⟨fun hne => ⟨?_, ?_⟩, capabilityName_eq_absenceName hp hq⟩
    · exact fun he => hne ((capabilityName_inj hp hq).mp he)
    · exact fun he => hne ((absenceName_inj hp hq).mp he)
  · intro r o F h hsnake
    obtain ⟨R, ss, h⟩ := derive_ok.mp h
    have hnames : ∀ n ∈ r.fields.map FieldOf.name, IsSnakeName n := List.forall_mem_map.mpr hsnake
    rw [h.interfaceNames_eq, nodup_interfaceNames (checkFields_ok.mp h.checked).2 hnames]
    simp only [List.forall_mem_map, ne_eq, not_forall, not_not, exists_prop]

theorem interface_names_clash_page : ∃ F, (clashingPage.derive {}).result = .ok F ∧
    (∀ f ∈ clashingPage.fields, IsSnakeName f.name) ∧ capabilityName "no_title" = absenceName "title" ∧
      ¬ (F.interfaces.flatMap fun i => [i.name, i.absenceName]).Nodup := by
  have htitle : IsSnakeName "title" := .word (by decide)
  have hget : IsSnakeName "get_title" := .join (w := "get".toList) (by decide) htitle
  have hno : IsSnakeName "no_title" := isSnakeName_no htitle
  have hsnake : ∀ f ∈ clashingPage.fields, IsSnakeName f.name := by
    simp [clashingPage, sampleField, htitle, hget, hno]
  have hyields : (clashingPage.derive {}).yields (fun _ => true) = true := by decide +kernel
  obtain ⟨F, hF, _⟩ := Outcome.yields_iff.mp hyields
  obtain ⟨hpairs, hfamily⟩ := interface_names_clash
  refine ⟨F, hF, hsnake, (hpairs _ _ hno htitle).2.mpr (by decide), ?_⟩
  exact (hfamily clashingPage {} F hF hsnake).mpr (by decide)

end RecordFamily
