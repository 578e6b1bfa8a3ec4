import RecordFamily.Proofs.Check
import RecordFamily.Proofs.Derivation
import RecordFamily.Proofs.Rule

/-!
# The checks on a field rule

The annotations of a field are read one after the other: each has to be fit for its place, and at most
one of them may be an inclusion directive, whose names are looked up at the end.

* `FieldDirective.Fits`, `IsFit`: directives and annotations that are fit for a field;
* `inclusionWords`: the words of the inclusion directives;
* `annotationChecks`, `FieldOf.ruleChecks`: the checks on the annotations of a field, in order;
* `RuleDraft.Tracks`: the draft knows the inclusion directive among the annotations that were read;
* `decides_add`, `decides_rule`, **`decides_shares`**: the checks decide about one more annotation,
  about the rule of a field, and about those of all fields;
* `FieldOf.HasRule`, **`ruleChecks_iff`**: fields whose annotations form a rule, which are those whose
  checks all hold.
-/

namespace RecordFamily

open List

/-! ## Annotations of a field -/

/-- The directive is written as its word asks for: with at least one name, or without parentheses. -/
structure FieldDirective.Fits (word : FieldDirective) (d : Directive) : Prop where
  call : d.hasCall = word.takesNames
  names : word.takesNames = true → d.args ≠ []

/-- **The annotation is fit for a field**: if it begins with a word in lower case, it is a field
directive that is written as its word asks for. -/
def IsFit (note : String) : Prop :=
  Directive.isReserved note = true → ∃ word d, Directive.parse note = .ok d ∧
    d.name = FieldDirective.name word ∧ word.Fits d

/-- The names of the inclusion directives. -/
def inclusionWords : List String :=
  (FieldDirective.all.filter fun word => word.ruleKind?.isSome).map FieldDirective.name

/-- The checks on the annotations of a field, those in `earlier` having been read: each is fit, and no
second one is an inclusion directive. -/
def annotationChecks (earlier : List String) : List String → List Check
  | [] => []
  | note :: notes =>
    ⟨IsFit note, .malformedDirective⟩ ::
    ⟨Directive.isIn inclusionWords note = true →
      ∀ n ∈ earlier, Directive.isIn inclusionWords n = false, .conflictingDirective⟩ ::
    annotationChecks (earlier ++ [note]) notes

/-- The names that the inclusion directives among the annotations list are declared. -/
def ListsDeclared (declared notes : List String) : Prop :=
  ∀ note ∈ notes, Directive.isIn inclusionWords note = true → ∀ d, Directive.parse note = .ok d →
    ∀ name ∈ d.args, name ∈ declared

/-- **The checks on the rule of a field**, in order. -/
def FieldOf.ruleChecks (declared : List String) (f : Field) : List Check :=
  annotationChecks [] f.annotations ++ [⟨ListsDeclared declared f.annotations, .unknownVariant⟩]

section Words

variable {note : String} {word : FieldDirective}

theorem name_mem_fieldWords (word : FieldDirective) : word.name ∈ fieldWords := by
  cases word <;> decide

/-- Field directives begin with words in lower case. -/
theorem isReserved_of_head (h : Directive.head? note = some word.name) :
    Directive.isReserved note = true := by
  rw [Directive.isReserved, h]
  cases word <;> decide

theorem isIn_inclusionWords (h : Directive.head? note = some word.name) :
    Directive.isIn inclusionWords note = true ↔ word.ruleKind?.isSome = true := by
  rw [Directive.isIn, h]
  cases word <;> decide

theorem isIn_fieldWords (h : Directive.isIn inclusionWords note = true) :
    Directive.isIn fieldWords note = true := by
  obtain ⟨name, hname, hhead⟩ := isIn_iff.mp h
  obtain ⟨word, _, rfl⟩ := List.mem_map.mp hname
  exact isIn_iff.mpr ⟨word.name, name_mem_fieldWords word, hhead⟩

/-- A fit annotation in lower case begins with the word of a field directive. -/
theorem isIn_of_isFit (h : IsFit note) (hreserved : Directive.isReserved note = true) :
    Directive.isIn fieldWords note = true := by
  obtain ⟨word, d, hd, hname, _⟩ := h hreserved
  unfold Directive.isReserved at hreserved
  split at hreserved
  · next name hhead =>
    rw [Directive.parse_name hhead hd] at hname
    exact isIn_iff.mpr ⟨_, name_mem_fieldWords word, hname ▸ hhead⟩
  · cases hreserved

theorem isFit_iff {d : Directive} (hhead : Directive.head? note = some word.name)
    (hd : Directive.parse note = .ok d) : IsFit note ↔ word.Fits d := by
  have hname : d.name = word.name := Directive.parse_name hhead hd
  constructor
  · intro h
    obtain ⟨word', d', hd', hname', hfits⟩ := h (isReserved_of_head hhead)
    have hdd : d' = d := Except.ok.inj (hd'.symm.trans hd)
    subst hdd
    have hword : some word = some word' := by
      rw [← ofName?_name word, ← hname, hname', ofName?_name]
    rwa [Option.some.inj hword]
  · exact fun h _ => ⟨word, d, hd, hname, h⟩

end Words

/-! ## One more annotation -/

namespace RuleDraft

variable {field note : String} {draft draft' : RuleDraft String} {notes : List String}

/-- **The draft tracks the annotations**: it has the inclusion directive among them. -/
structure Tracks (draft : RuleDraft String) (notes : List String) : Prop where
  listed : ∀ d, draft.inclusion = some d →
    ∃ note ∈ notes, Directive.isIn inclusionWords note = true ∧ Directive.parse note = .ok d
  parsed : ∀ note ∈ notes, Directive.isIn inclusionWords note = true →
    ∃ d, draft.inclusion = some d ∧ Directive.parse note = .ok d

theorem Tracks.empty : ({} : RuleDraft String).Tracks [] where
  listed _ h := nomatch h
  parsed := List.forall_mem_nil _

theorem Tracks.inclusion_eq_none (h : draft.Tracks notes) : draft.inclusion = none ↔
    ∀ n ∈ notes, Directive.isIn inclusionWords n = false := by
  constructor
  · intro hnone n hn
    by_contra hin
    obtain ⟨d, hd, _⟩ := h.parsed n hn (by simpa using hin)
    rw [hnone] at hd
    cases hd
  · intro hall
    cases hd : draft.inclusion with
    | none => rfl
    | some d =>
      obtain ⟨n, hn, hin, _⟩ := h.listed d hd
      rw [hall n hn] at hin
      cases hin

theorem add_string (field : String) (draft : RuleDraft String) (note : String) :
    draft.add field note = if Directive.isIn fieldWords note then
      Directive.parse note >>= draft.addDirective field
    else if Directive.isReserved note then
      .error (.unknownDirective field ((Directive.head? note).getD "") note)
    else .ok (draft.addPassthrough note) := rfl

theorem add_ok (h : draft.add field note = .ok draft') :
    Directive.isIn inclusionWords note = false ∧ draft'.inclusion = draft.inclusion ∨
      Directive.isIn inclusionWords note = true ∧ draft.inclusion = none ∧
        ∃ d, Directive.parse note = .ok d ∧ draft'.inclusion = some d := by
  rw [add_string] at h
  split_ifs at h with hin
  · obtain ⟨word, hhead⟩ := exists_word_of_isIn hin
    obtain ⟨d, hd, h⟩ := bind_eq_ok.mp h
    rw [addDirective, Directive.parse_name hhead hd, ofName?_name] at h
    obtain ⟨_, _, h⟩ := bind_eq_ok.mp h
    have hincl := isIn_inclusionWords hhead
    split at h
    · next hkind =>
      cases h
      rw [hkind] at hincl
      exact .inl ⟨by simpa using hincl, rfl⟩
    · cases h
    · next hkind hnone =>
      cases h
      rw [hkind] at hincl
      exact .inr ⟨hincl.mpr rfl, hnone, d, hd, rfl⟩
  · cases h
    exact .inl ⟨Bool.eq_false_iff.mpr fun hi => hin (isIn_fieldWords hi), rfl⟩

/-- **One more annotation is tracked.** -/
theorem Tracks.add (h : draft.Tracks notes) (ha : draft.add field note = .ok draft') :
    draft'.Tracks (notes ++ [note]) := by
  rcases add_ok ha with ⟨hin, he⟩ | ⟨hin, hnone, d, hd, he⟩
  · constructor
    · intro d hd
      obtain ⟨n, hn, h'⟩ := h.listed d (he ▸ hd)
      exact ⟨n, List.mem_append_left _ hn, h'⟩
    · intro n hn hi
      rcases List.mem_append.mp hn with hn | hn
      · rw [he]
        exact h.parsed n hn hi
      · rw [List.mem_singleton.mp hn, hin] at hi
        cases hi
  · have hall := h.inclusion_eq_none.mp hnone
    constructor
    · intro d' hd'
      rw [he] at hd'
      cases hd'
      exact ⟨note, List.mem_append_right _ List.mem_cons_self, hin, hd⟩
    · intro n hn hi
      rcases List.mem_append.mp hn with hn | hn
      · rw [hall n hn] at hi
        cases hi
      · rw [List.mem_singleton.mp hn]
        exact ⟨d, he, hd⟩

theorem Tracks.foldlM {earlier : List String} (h : draft.Tracks earlier)
    (ha : notes.foldlM (RuleDraft.add field) draft = .ok draft') :
    draft'.Tracks (earlier ++ notes) := by
  induction notes generalizing draft earlier with
  | nil =>
    cases ha
    rwa [List.append_nil]
  | cons note notes ih =>
    rw [List.foldlM_cons] at ha
    obtain ⟨draft₁, h₁, ha⟩ := bind_eq_ok.mp ha
    have hrest := ih (h.add h₁) ha
    rwa [List.append_assoc] at hrest

end RuleDraft

/-! ## Decisions -/

section Decisions

variable {field note : String} {draft : RuleDraft String} {earlier notes : List String}

/-- What asks for an annotation that can be parsed is violated where it cannot. -/
theorem decides_unparsed {α : Type} {cs : List Check} {p : Prop} {e : DerivationError}
    (he : Directive.parse note = .error e) (hp : p → ∃ d, Directive.parse note = .ok d) :
    Decides (⟨p, .malformedDirective⟩ :: cs) (.error e : Except DerivationError α) := by
  have hkind : HasKind.kind? e = some ErrorKind.malformedDirective :=
    congrArg some (Directive.kind_of_parse he)
  refine .refused hkind fun h => ?_
  obtain ⟨d, hd⟩ := hp h
  rw [he] at hd
  cases hd

theorem decides_checkShape {word : FieldDirective} {d : Directive}
    (hargs : d.args ≠ [] → d.hasCall = true) :
    Decides [⟨word.Fits d, .malformedDirective⟩] (checkShape field word d) := by
  unfold checkShape
  split_ifs with htakes hempty hcall
  · exact .refused rfl fun h => h.names htakes (List.isEmpty_iff.mp hempty)
  · have hne : d.args ≠ [] := fun he => hempty (List.isEmpty_iff.mpr he)
    exact .single ⟨by rw [htakes, hargs hne], fun _ => hne⟩
  · refine .refused rfl fun h => ?_
    rw [h.call] at hcall
    exact htakes hcall
  · refine .single ⟨?_, fun h => absurd h htakes⟩
    rw [Bool.eq_false_iff.mpr htakes, Bool.eq_false_iff.mpr hcall]

theorem decides_addDirective {word : FieldDirective} {d : Directive}
    (hword : FieldDirective.ofName? d.name = some word) (hargs : d.args ≠ [] → d.hasCall = true) :
    Decides [⟨word.Fits d, .malformedDirective⟩,
      ⟨word.ruleKind?.isSome = true → draft.inclusion = none, .conflictingDirective⟩]
        (draft.addDirective field d) := by
  rw [RuleDraft.addDirective, hword]
  refine (decides_checkShape hargs).bind fun _ _ => ?_
  split
  · next hkind => exact .single fun hsome => by simp [hkind] at hsome
  · next hkind hfirst =>
    refine .refused rfl fun hsingle => ?_
    rw [hsingle (by rw [hkind]; rfl)] at hfirst
    cases hfirst
  · next hnone => exact .single fun _ => hnone

/-- **The checks decide about one more annotation.** -/
theorem decides_add (h : draft.Tracks earlier) :
    Decides [⟨IsFit note, .malformedDirective⟩, ⟨Directive.isIn inclusionWords note = true →
      ∀ n ∈ earlier, Directive.isIn inclusionWords n = false, .conflictingDirective⟩]
        (draft.add field note) := by
  rw [RuleDraft.add_string]
  split_ifs with hin hreserved
  · obtain ⟨word, hhead⟩ := exists_word_of_isIn hin
    cases hd : Directive.parse note with
    | error e =>
      refine decides_unparsed hd fun hfit => ?_
      obtain ⟨_, d, hd, _⟩ := hfit (isReserved_of_head hhead)
      exact ⟨d, hd⟩
    | ok d =>
      have hword : FieldDirective.ofName? d.name = some word := by
        rw [Directive.parse_name hhead hd, ofName?_name]
      rw [isFit_iff hhead hd, isIn_inclusionWords hhead, ← h.inclusion_eq_none]
      exact decides_addDirective hword (Directive.hasCall_of_parse hd)
  · exact .refused rfl fun hfit => hin (isIn_of_isFit hfit hreserved)
  · have hnot : Directive.isIn inclusionWords note ≠ true := fun hi => hin (isIn_fieldWords hi)
    exact .pass (fun hr => absurd hr hreserved) (.single fun hi => absurd hi hnot)

theorem decides_annotations (h : draft.Tracks earlier) :
    Decides (annotationChecks earlier notes) (notes.foldlM (RuleDraft.add field) draft) := by
  induction notes generalizing draft earlier with
  | nil => exact .of_succeeds (.ok _)
  | cons note notes ih =>
    rw [List.foldlM_cons]
    exact (decides_add h).bind fun draft' ha => ih (h.add ha)

variable {declared names : List String} {canonical : String}

theorem decides_listed (hnames : ∀ n, n ∈ names ↔ n ∈ declared) (h : draft.Tracks notes) :
    Decides [⟨ListsDeclared declared notes, .unknownVariant⟩]
      (draft.rule field names canonical) := by
  have hdeclared : ∀ n, isDeclared names n = true ↔ n ∈ declared := by
    intro n
    rw [← hnames, isDeclared, List.any_eq_true]
    simp
  unfold RuleDraft.rule
  split
  · next hnone =>
    have hall := h.inclusion_eq_none.mp hnone
    refine .single fun note hnote hin => ?_
    rw [hall note hnote] at hin
    cases hin
  · next d hd =>
    -- All inclusion directives among the annotations are this one.
    have hlists : ListsDeclared declared notes ↔ ∀ name ∈ d.args, name ∈ declared := by
      constructor
      · intro hl
        obtain ⟨note, hnote, hin, hparse⟩ := h.listed d hd
        exact hl note hnote hin d hparse
      · intro hargs note hnote hin d' hparse'
        obtain ⟨d'', hd'', hparse''⟩ := h.parsed note hnote hin
        rw [hd] at hd''
        cases hd''
        rw [hparse''] at hparse'
        cases hparse'
        exact hargs
    rw [hlists]
    refine Decides.bind_succeeds ?_ fun _ _ => .ok _
    unfold checkDeclared
    split
    · next name hfind =>
      have hbad := List.find?_some hfind
      refine .refused rfl fun hall => ?_
      rw [(hdeclared name).mpr (hall name (List.mem_of_find?_eq_some hfind))] at hbad
      cases hbad
    · next hfind =>
      refine .single fun name hname => (hdeclared name).mp ?_
      simpa using List.find?_eq_none.mp hfind name hname

/-- **The checks decide about the rule of a field.** -/
theorem decides_rule (hnames : ∀ n, n ∈ names ↔ n ∈ declared) (f : Field) :
    Decides (f.ruleChecks declared) (f.rule names canonical) :=
  (decides_annotations .empty).bind fun _ h => decides_listed hnames (RuleDraft.Tracks.empty.foldlM h)

theorem decides_shares (hnames : ∀ n, n ∈ names ↔ n ∈ declared) (fs : List Field) :
    Decides (fs.flatMap (FieldOf.ruleChecks declared)) (shares names canonical fs).result := by
  induction fs with
  | nil => exact .of_succeeds (.ok _)
  | cons f fs ih =>
    have hfirst : Decides (f.ruleChecks declared) (f.parseRule names canonical).result := by
      rw [parseRule_result]
      exact (decides_rule hnames f).mapError
    refine Outcome.decides_bind hfirst fun rule _ => ?_
    rw [Outcome.bind_result]
    exact ih.bind_succeeds fun _ _ => .ok _

end Decisions

/-! ## Fields with a rule -/

/-- **The annotations of the field form a rule** among the declared names: all are fit, at most one is
an inclusion directive, and it lists declared names. -/
structure FieldOf.HasRule (declared : List String) (f : Field) : Prop where
  fit : ∀ note ∈ f.annotations, IsFit note
  single : f.annotations.countP (Directive.isIn inclusionWords) ≤ 1
  listed : ListsDeclared declared f.annotations

theorem annotationChecks_iff {earlier notes : List String}
    (h : earlier.countP (Directive.isIn inclusionWords) ≤ 1) :
    (∀ c ∈ annotationChecks earlier notes, c.holds) ↔ (∀ note ∈ notes, IsFit note) ∧
      (earlier ++ notes).countP (Directive.isIn inclusionWords) ≤ 1 := by
  induction notes generalizing earlier with
  | nil => simpa [annotationChecks] using h
  | cons note notes ih =>
    have hsingle : (Directive.isIn inclusionWords note = true →
        ∀ n ∈ earlier, Directive.isIn inclusionWords n = false) ↔
          (earlier ++ [note]).countP (Directive.isIn inclusionWords) ≤ 1 := by
      rw [List.countP_append, List.countP_singleton]
      split_ifs with hin
      · have hzero : earlier.countP (Directive.isIn inclusionWords) = 0 ↔
            ∀ n ∈ earlier, Directive.isIn inclusionWords n = false := by
          simp only [List.countP_eq_zero, Bool.not_eq_true]
        rw [← hzero]
        exact ⟨fun h0 => by have := h0 hin; omega, fun hle _ => by omega⟩
      · exact iff_of_true (fun h' => absurd h' hin) h
    rw [annotationChecks, List.forall_mem_cons, List.forall_mem_cons, List.forall_mem_cons, hsingle]
    have happend : earlier ++ note :: notes = (earlier ++ [note]) ++ notes := by simp
    rw [happend]
    constructor
    · rintro ⟨hfit, hone, hrest⟩
      obtain ⟨hfits, hcount⟩ := (ih hone).mp hrest
      exact ⟨⟨hfit, hfits⟩, hcount⟩
    · rintro ⟨⟨hfit, hfits⟩, hcount⟩
      have hone := (List.sublist_append_left (earlier ++ [note]) notes).countP_le.trans hcount
      exact ⟨hfit, hone, (ih hone).mpr ⟨hfits, hcount⟩⟩

theorem ruleChecks_iff {declared : List String} {f : Field} :
    (∀ c ∈ f.ruleChecks declared, c.holds) ↔ f.HasRule declared := by
  have hnone : ([] : List String).countP (Directive.isIn inclusionWords) ≤ 1 := Nat.zero_le 1
  rw [FieldOf.ruleChecks, List.forall_mem_append, annotationChecks_iff hnone,
    List.forall_mem_singleton, List.nil_append]
  exact ⟨fun ⟨⟨hfit, hsingle⟩, hlisted⟩ => ⟨hfit, hsingle, hlisted⟩,
    fun h => ⟨⟨h.fit, h.single⟩, h.listed⟩⟩

end RecordFamily
