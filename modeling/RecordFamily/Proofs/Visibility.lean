import RecordFamily.Proofs.Sorting

/-!
# Visibility by directives

Which variants own a field is settled by the directives among its annotations, wherever they stand.

* `run_readRule`: reading a rule changes the field at the very end, if nothing fails;
* `RuleKind.Owner`, `FieldRule.Follows`: the owners under a rule, and a rule that says what the
  directives say;
* `RuleDraft.foldlM_default`: the mark of a fallback among the annotations that were read;
* `rule_follows`: a rule follows the directives;
* `FieldOf.HasRule.of_perm`, `FieldRule.Follows.agree`: their order does not matter;
* **`readRule_by_directives`**: a field has a rule exactly when its annotations form one, the rule
  follows them in any order, and a field without a rule is left alone.
-/

namespace RecordFamily

open List

/-! ## Reading in place -/

section InPlace

variable {α β ε σ : Type}

/-- What a step results in that leaves the state alone. -/
def resultIn (s : σ) : Except ε α → EStateM.Result ε σ α
  | .ok a => .ok a s
  | .error e => .error e s

theorem run_ofExcept (x : Except ε α) (s : σ) :
    (MonadExcept.ofExcept x : EStateM ε σ α).run s = resultIn s x := by
  cases x <;> rfl

/-- **A run of steps that leave the state alone leaves it alone.** -/
theorem run_foldlM_ofExcept (f : β → α → Except ε β) (as : List α) (b : β) (s : σ) :
    (as.foldlM (fun b a => MonadExcept.ofExcept (f b a)) b : EStateM ε σ β).run s =
      resultIn s (as.foldlM f b) := by
  induction as generalizing b with
  | nil => rfl
  | cons a as ih =>
    rw [List.foldlM_cons, EStateM.run_bind, run_ofExcept, List.foldlM_cons]
    cases f b a with
    | ok c => exact ih c
    | error e => rfl

/-- **Reading a rule changes the field where there is one**, and leaves it alone otherwise. -/
theorem run_readRule (f : Field) (declared : List String) (canonical : String) :
    (FieldOf.readRule declared canonical).run f = match f.rule declared canonical with
      | .ok rule => .ok rule (f.ruled rule)
      | .error e => .error e f := by
  have hrule : f.rule declared canonical =
      f.annotations.foldlM (RuleDraft.add (Slot.display f.name)) {} >>= fun draft =>
        draft.rule (Slot.display f.name) declared canonical := rfl
  rw [FieldOf.readRule, EStateM.run_bind, EStateM.run_get]
  dsimp only
  rw [EStateM.run_bind, run_foldlM_ofExcept, hrule]
  cases f.annotations.foldlM (RuleDraft.add (Slot.display f.name)) {} with
  | error e => rfl
  | ok draft =>
    dsimp only [resultIn]
    rw [EStateM.run_bind, run_ofExcept, ok_bind]
    cases draft.rule (Slot.display f.name) declared canonical <;> rfl

theorem run_readRule_ok {f g : Field} {declared : List String} {canonical : String}
    {rule : FieldRule String} : (FieldOf.readRule declared canonical).run f = .ok rule g ↔
      f.rule declared canonical = .ok rule ∧ g = f.ruled rule := by
  rw [run_readRule]
  cases f.rule declared canonical with
  | ok rule' =>
    rw [EStateM.Result.ok.injEq, Except.ok.injEq]
    constructor
    · rintro ⟨rfl, rfl⟩
      exact ⟨rfl, rfl⟩
    · rintro ⟨rfl, rfl⟩
      exact ⟨rfl, rfl⟩
  | error e => exact ⟨nofun, nofun⟩

theorem run_readRule_error {f g : Field} {declared : List String} {canonical : String}
    {e : DerivationError} (h : (FieldOf.readRule declared canonical).run f = .error e g) :
    g = f := by
  rw [run_readRule] at h
  split at h <;> cases h
  rfl

end InPlace

/-! ## Rules that follow directives -/

/-- The variant of a name owns a field under a rule of the kind. -/
def RuleKind.Owner (declared listed : List String) (canonical name : String) : RuleKind → Prop
  | .all => name ∈ declared
  | .onlyIn => name ∈ listed
  | .notIn => name ∈ declared ∧ name ∉ listed
  | .onlyInSelf => name = canonical

/-- **The rule follows the directives among the annotations.** -/
structure FieldRule.Follows (rule : FieldRule String) (declared : List String) (canonical : String)
    (notes : List String) : Prop where
  /-- An inclusion directive gives the kind, and the names that it lists. -/
  included : ∀ note ∈ notes, ∀ d, Directive.parse note = .ok d → ∀ word kind,
    d.name = FieldDirective.name word → word.ruleKind? = some kind →
      rule.kind = kind ∧ rule.listed = d.args
  /-- Without an inclusion directive all declared names own the field. -/
  unrestricted : (∀ note ∈ notes, ∀ d, Directive.parse note = .ok d → d.name ∉ inclusionWords) →
    rule.kind = .all ∧ rule.listed = []
  owners : ∀ name, name ∈ rule.targets ↔ rule.kind.Owner declared rule.listed canonical name
  default : rule.default = true ↔
    ∃ note ∈ notes, ∃ d, Directive.parse note = .ok d ∧ d.name = FieldDirective.default.name
  passthrough : rule.passthrough = notes.filter fun note => !Directive.isIn fieldWords note

section Drafts

variable {field note : String} {notes : List String} {draft draft' : RuleDraft String}

/-- Any vocabulary of field directives sorts out field directives alone. -/
theorem isIn_fieldWords_of_subset {vocabulary : List String}
    (hsub : ∀ n ∈ vocabulary, n ∈ fieldWords) (h : Directive.isIn vocabulary note = true) :
    Directive.isIn fieldWords note = true := by
  obtain ⟨name, hname, hhead⟩ := isIn_iff.mp h
  exact isIn_iff.mpr ⟨name, hsub name hname, hhead⟩

/-- A fallback directive, and no other, marks the field as one with a fallback. -/
theorem RuleDraft.add_default (h : draft.add field note = .ok draft') : draft'.default =
    (draft.default || Directive.isIn [FieldDirective.default.name] note) := by
  rw [RuleDraft.add_string] at h
  split_ifs at h with hin
  · obtain ⟨word, hhead⟩ := exists_word_of_isIn hin
    obtain ⟨d, hd, h⟩ := bind_eq_ok.mp h
    rw [RuleDraft.addDirective, Directive.parse_name hhead hd, ofName?_name] at h
    obtain ⟨_, _, h⟩ := bind_eq_ok.mp h
    rw [Directive.isIn, hhead]
    cases word with
    | default =>
      cases h
      exact (Bool.or_true _).symm
    | onlyIn | notIn | onlyInSelf =>
      cases hfirst : draft.inclusion with
      | some first =>
        rw [hfirst] at h
        cases h
      | none =>
        rw [hfirst] at h
        cases h
        exact (Bool.or_false _).symm
  · cases h
    have hnot : Directive.isIn [FieldDirective.default.name] note = false :=
      Bool.eq_false_iff.mpr fun hi => hin (isIn_fieldWords_of_subset (by decide) hi)
    rw [hnot, Bool.or_false]
    rfl

/-- **The mark of a fallback** among the annotations that were read. -/
theorem RuleDraft.foldlM_default (h : notes.foldlM (RuleDraft.add field) draft = .ok draft') :
    draft'.default =
      (draft.default || notes.any (Directive.isIn [FieldDirective.default.name])) := by
  induction notes generalizing draft with
  | nil =>
    cases h
    simp
  | cons note notes ih =>
    rw [List.foldlM_cons] at h
    obtain ⟨draft₁, h₁, h⟩ := bind_eq_ok.mp h
    rw [ih h, RuleDraft.add_default h₁, Bool.or_assoc, List.any_cons]

end Drafts

section Rules

variable {f : Field} {declared notes notes' : List String} {canonical : String}
  {rule rule' : FieldRule String}

theorem succeeds_rule_iff (f : Field) (declared : List String) (canonical : String) :
    Succeeds (f.rule declared canonical) ↔ f.HasRule declared :=
  (decides_rule (fun _ => Iff.rfl) f).succeeds_iff.trans ruleChecks_iff

/-- The draft behind a rule, which tracks the annotations. -/
theorem exists_tracks (h : f.rule declared canonical = .ok rule) : ∃ draft : RuleDraft String,
    f.annotations.foldlM (RuleDraft.add f.name) {} = .ok draft ∧ draft.Tracks f.annotations ∧
      rule = draft.toRule declared canonical := by
  obtain ⟨draft, hdraft, he⟩ := rule_ok h
  exact ⟨draft, hdraft, RuleDraft.Tracks.empty.foldlM hdraft, he⟩

theorem toRule_of_inclusion {draft : RuleDraft String} {d : Directive} {word : FieldDirective}
    {kind : RuleKind} (hd : draft.inclusion = some d) (hname : d.name = word.name)
    (hkind : word.ruleKind? = some kind) : (draft.toRule declared canonical).kind = kind ∧
      (draft.toRule declared canonical).listed = d.args := by
  have hword : ((FieldDirective.ofName? d.name).bind FieldDirective.ruleKind?).getD .all = kind := by
    rw [hname, ofName?_name, Option.bind_some, hkind]
    rfl
  rw [RuleDraft.toRule, hd]
  exact ⟨hword, rfl⟩

theorem mem_of_listed (h : f.rule declared canonical = .ok rule) {name : String}
    (hname : name ∈ rule.listed) : name ∈ declared := by
  obtain ⟨draft, _, htracks, rfl⟩ := exists_tracks h
  cases hinclusion : draft.inclusion with
  | none =>
    rw [RuleDraft.toRule, hinclusion] at hname
    cases hname
  | some d =>
    rw [RuleDraft.toRule, hinclusion] at hname
    obtain ⟨note, hnote, hin, hd⟩ := htracks.listed d hinclusion
    exact ((succeeds_rule_iff _ _ _).mp ⟨_, h⟩).listed note hnote hin d hd name hname

theorem mem_targetsOf {listed : List String} {kind : RuleKind} {name : String}
    (hlisted : ∀ n ∈ listed, n ∈ declared) : name ∈ targetsOf declared canonical kind listed ↔
      kind.Owner declared listed canonical name := by
  have hisListed : isListed listed name = true ↔ name ∈ listed := by
    simp [isListed]
  cases kind with
  | all => rfl
  | onlyIn =>
    rw [targetsOf, List.mem_filter, hisListed]
    exact and_iff_right_of_imp (hlisted name)
  | notIn =>
    rw [targetsOf, List.mem_filter, Bool.not_eq_true', ← Bool.not_eq_true, hisListed]
    rfl
  | onlyInSelf => exact List.mem_singleton

/-- Where annotations are fit, those sorted as fallback directives are such directives. -/
theorem isIn_default_iff {note : String} (hfit : IsFit note) :
    Directive.isIn [FieldDirective.default.name] note = true ↔
      ∃ d, Directive.parse note = .ok d ∧ d.name = FieldDirective.default.name := by
  constructor
  · intro hin
    obtain ⟨_, hname, hhead⟩ := isIn_iff.mp hin
    rw [List.mem_singleton.mp hname] at hhead
    obtain ⟨_, d, hd, _⟩ := hfit (isReserved_of_head hhead)
    exact ⟨d, hd, Directive.parse_name hhead hd⟩
  · rintro ⟨d, hd, hname⟩
    exact (Directive.isIn_iff_of_parse hd).mpr (List.mem_singleton.mpr hname)

/-- **A rule follows the directives** among the annotations of its field. -/
theorem rule_follows (h : f.rule declared canonical = .ok rule) :
    rule.Follows declared canonical f.annotations := by
  have hpassthrough := rule_passthrough h
  have hlisted : ∀ n ∈ rule.listed, n ∈ declared := fun n hn => mem_of_listed h hn
  have hfit := ((succeeds_rule_iff _ _ _).mp ⟨_, h⟩).fit
  obtain ⟨draft, hdraft, htracks, rfl⟩ := exists_tracks h
  constructor
  -- The draft tracks the one inclusion directive, so any that is met is the one that it holds.
  · intro note hnote d hd word kind hname hkind
    have hhead : Directive.head? note = some word.name := hname ▸ Directive.head?_of_parse hd
    have hin : Directive.isIn inclusionWords note = true :=
      (isIn_inclusionWords hhead).mpr (by rw [hkind]; rfl)
    obtain ⟨d', hd', hparse⟩ := htracks.parsed note hnote hin
    obtain rfl : d' = d := Except.ok.inj (hparse.symm.trans hd)
    exact toRule_of_inclusion hd' hname hkind
  · intro hnone
    have hinclusion : draft.inclusion = none := by
      refine htracks.inclusion_eq_none.mpr fun note hnote => ?_
      by_contra hin
      obtain ⟨d, _, hd⟩ := htracks.parsed note hnote (by simpa using hin)
      exact hnone note hnote d hd ((Directive.isIn_iff_of_parse hd).mp (by simpa using hin))
    rw [RuleDraft.toRule, hinclusion]
    exact ⟨rfl, rfl⟩
  · intro name
    rw [toRule_targets]
    exact mem_targetsOf hlisted
  · have hdefault : (draft.toRule declared canonical).default = draft.default := by
      unfold RuleDraft.toRule
      cases draft.inclusion <;> rfl
    rw [hdefault, RuleDraft.foldlM_default hdraft, Bool.false_or, List.any_eq_true]
    exact exists_congr fun note => and_congr_right fun hnote => isIn_default_iff (hfit note hnote)
  · exact hpassthrough

/-! ## The order of the annotations -/

theorem FieldOf.HasRule.of_perm {f' : Field} (h : f.HasRule declared)
    (hperm : f'.annotations ~ f.annotations) : f'.HasRule declared where
  fit note hnote := h.fit note (hperm.mem_iff.mp hnote)
  single := (hperm.countP_eq _).trans_le h.single
  listed note hnote := h.listed note (hperm.mem_iff.mp hnote)

theorem exists_kind_of_mem {name : String} (h : name ∈ inclusionWords) :
    ∃ word kind, name = FieldDirective.name word ∧ word.ruleKind? = some kind := by
  obtain ⟨word, hword, rfl⟩ := List.mem_map.mp h
  obtain ⟨kind, hkind⟩ := Option.isSome_iff_exists.mp (List.mem_filter.mp hword).2
  exact ⟨word, kind, rfl, hkind⟩

/-- **Rules that follow the same directives agree**, wherever the directives stand. -/
theorem FieldRule.Follows.agree (h : rule.Follows declared canonical notes)
    (h' : rule'.Follows declared canonical notes') (hmem : ∀ note, note ∈ notes' ↔ note ∈ notes) :
    rule'.kind = rule.kind ∧ rule'.listed = rule.listed ∧ rule'.default = rule.default ∧
      ∀ name, name ∈ rule'.targets ↔ name ∈ rule.targets := by
  have hkind : rule'.kind = rule.kind ∧ rule'.listed = rule.listed := by
    by_cases hsome : ∃ note ∈ notes, ∃ d, Directive.parse note = .ok d ∧ d.name ∈ inclusionWords
    · obtain ⟨note, hnote, d, hd, hname⟩ := hsome
      obtain ⟨word, kind, hname, hkind⟩ := exists_kind_of_mem hname
      obtain ⟨hk, hl⟩ := h.included note hnote d hd word kind hname hkind
      obtain ⟨hk', hl'⟩ := h'.included note ((hmem note).mpr hnote) d hd word kind hname hkind
      exact ⟨hk'.trans hk.symm, hl'.trans hl.symm⟩
    · have hnone : ∀ note ∈ notes, ∀ d, Directive.parse note = .ok d → d.name ∉ inclusionWords :=
        fun note hnote d hd hname => hsome ⟨note, hnote, d, hd, hname⟩
      obtain ⟨hk, hl⟩ := h.unrestricted hnone
      obtain ⟨hk', hl'⟩ := h'.unrestricted fun note hnote => hnone note ((hmem note).mp hnote)
      exact ⟨hk'.trans hk.symm, hl'.trans hl.symm⟩
  refine ⟨hkind.1, hkind.2, ?_, fun name => ?_⟩
  · rw [Bool.eq_iff_iff, h'.default, h.default]
    exact exists_congr fun note => and_congr_left' (hmem note)
  · rw [h'.owners, h.owners, hkind.1, hkind.2]

end Rules

/-- **The rule of a field is settled by its directives.** A field has a rule exactly when its
annotations form one. The rule follows the directives, and the field has its fallback mark and its
other annotations from it; a field without a rule is left as it was. The same annotations in another
order have a rule as well, of the same kind, for the same owners and with the same mark. -/
theorem readRule_by_directives (f : Field) (declared : List String) (canonical : String) :
    ((∃ rule g, (FieldOf.readRule declared canonical).run f = .ok rule g) ↔ f.HasRule declared) ∧
      (∀ rule g, (FieldOf.readRule declared canonical).run f = .ok rule g →
        rule.Follows declared canonical f.annotations ∧
          g = { f with default := rule.default, passthrough := rule.passthrough }) ∧
      (∀ e g, (FieldOf.readRule declared canonical).run f = .error e g → g = f) ∧
      ∀ f' : Field, f'.annotations ~ f.annotations →
        ((∃ rule g, (FieldOf.readRule declared canonical).run f' = .ok rule g) ↔
          ∃ rule g, (FieldOf.readRule declared canonical).run f = .ok rule g) ∧
        ∀ rule g rule' g', (FieldOf.readRule declared canonical).run f = .ok rule g →
          (FieldOf.readRule declared canonical).run f' = .ok rule' g' →
            rule'.kind = rule.kind ∧ rule'.default = rule.default ∧
              ∀ name, name ∈ rule'.targets ↔ name ∈ rule.targets := by
  have hiff : ∀ f : Field, (∃ rule g, (FieldOf.readRule declared canonical).run f = .ok rule g) ↔
      f.HasRule declared := by
    intro f
    rw [← succeeds_rule_iff f declared canonical]
    constructor
    · rintro ⟨rule, g, h⟩
      exact ⟨rule, (run_readRule_ok.mp h).1⟩
    · rintro ⟨rule, h⟩
      exact ⟨rule, f.ruled rule, run_readRule_ok.mpr ⟨h, rfl⟩⟩
  refine ⟨hiff f, fun rule g h => ?_, fun e g h => run_readRule_error h, fun f' hperm => ⟨?_, ?_⟩⟩
  · obtain ⟨hrule, rfl⟩ := run_readRule_ok.mp h
    exact ⟨rule_follows hrule, rfl⟩
  · rw [hiff f', hiff f]
    exact ⟨fun h => h.of_perm hperm.symm, fun h => h.of_perm hperm⟩
  · intro rule g rule' g' h h'
    have hfollows := rule_follows (run_readRule_ok.mp h).1
    have hfollows' := rule_follows (run_readRule_ok.mp h').1
    obtain ⟨hkind, _, hdefault, howners⟩ := hfollows.agree hfollows' fun _ => hperm.mem_iff
    exact ⟨hkind, hdefault, howners⟩

example :
    (FieldOf.rule ⟨"body", "str", ["'pii'", "default", "not_in('Stub')"], false, []⟩
      ["Page", "Stub"] "Page").toOption = some ⟨.notIn, ["Page"], ["Stub"], true, ["'pii'"]⟩ := by
  decide +kernel

end RecordFamily
