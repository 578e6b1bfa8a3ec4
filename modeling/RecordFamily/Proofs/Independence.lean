import RecordFamily.Proofs.Decoration
import RecordFamily.Proofs.Existence

/-!
# Variants do not depend on each other

What a variant is, and how it is converted to another one, is settled by the record and their names.
It does not matter which other variants are declared, nor in which order.

* `RuleKind.owns`, `contains_targetsOf`: who owns a field, from the name of the variant alone;
* `RuleDraft.toRule`, `rule_ok`: the rule that the annotations of a field come to among any declared
  names;
* `Share.Agrees`, `shares_agree`: the shares of a field among two lists of declared names;
* `Derives.edgesBetween_eq`, `Derives.conversionsBetween_eq`: what a family has for an ordered pair
  of variants;
* `FamilyOf.AgreesWith`, `Derives.variant_agree`: two families that agree on the variants that both
  have, and that a variant of both is the same in both;
* **`variants_independent`**: those of two records that differ in their variants alone do.
-/

namespace RecordFamily

open List

/-! ## Owners of a field -/

/-- The variant of a name owns the fields with a rule of this kind. -/
def RuleKind.owns (kind : RuleKind) (canonical : String) (listed : List String) (name : String) :
    Bool :=
  match kind with
  | .all => true
  | .onlyIn => isListed listed name
  | .notIn => !isListed listed name
  | .onlyInSelf => name == canonical

theorem contains_targetsOf {declared listed : List String} {canonical name : String}
    {kind : RuleKind} (h : name ∈ declared) :
    (targetsOf declared canonical kind listed).contains name = kind.owns canonical listed name := by
  rw [Bool.eq_iff_iff, List.contains_iff_mem]
  cases kind with
  | all => exact iff_of_true h rfl
  | onlyIn => exact List.mem_filter.trans (and_iff_right h)
  | notIn => exact List.mem_filter.trans (and_iff_right h)
  | onlyInSelf => exact List.mem_singleton.trans beq_iff_eq.symm

/-- The rule that a draft comes to where all listed names are declared. -/
def RuleDraft.toRule (draft : RuleDraft String) (declared : List String) (canonical : String) :
    FieldRule String :=
  match draft.inclusion with
  | none => ⟨.all, declared, [], draft.default, draft.passthrough⟩
  | some d =>
    let kind := ((FieldDirective.ofName? d.name).bind FieldDirective.ruleKind?).getD .all
    ⟨kind, targetsOf declared canonical kind d.args, d.args, draft.default, draft.passthrough⟩

section Rules

variable {declared declared' : List String} {canonical name : String} {f : Field}
  {rule rule' : FieldRule String} {draft : RuleDraft String}

theorem toRule_targets : (draft.toRule declared canonical).targets =
    targetsOf declared canonical (draft.toRule declared canonical).kind
      (draft.toRule declared canonical).listed := by
  unfold RuleDraft.toRule
  cases draft.inclusion <;> rfl

theorem toRule_congr (draft : RuleDraft String) (canonical : String)
    (declared declared' : List String) : draft.toRule declared' canonical =
    { draft.toRule declared canonical with
      targets := (draft.toRule declared' canonical).targets } := by
  unfold RuleDraft.toRule
  cases draft.inclusion <;> rfl

theorem rule_ok (h : f.rule declared canonical = .ok rule) : ∃ draft,
    f.annotations.foldlM (RuleDraft.add f.name) {} = .ok draft ∧
      rule = draft.toRule declared canonical := by
  obtain ⟨draft, hdraft, h⟩ := bind_eq_ok.mp h
  refine ⟨draft, hdraft, ?_⟩
  cases hinclusion : draft.inclusion with
  | none =>
    rw [RuleDraft.rule, hinclusion] at h
    rw [RuleDraft.toRule, hinclusion]
    exact (Except.ok.inj h).symm
  | some d =>
    rw [RuleDraft.rule, hinclusion] at h
    obtain ⟨_, _, h⟩ := bind_eq_ok.mp h
    rw [RuleDraft.toRule, hinclusion]
    exact (Except.ok.inj h).symm

/-- **The rules of a field among two lists of declared names** name the same owners among the names
that are in both. -/
theorem rule_agree (h : f.rule declared canonical = .ok rule)
    (h' : f.rule declared' canonical = .ok rule') : f.ruled rule = f.ruled rule' ∧
      ∀ n ∈ declared, n ∈ declared' → rule.targets.contains n = rule'.targets.contains n := by
  obtain ⟨draft, hdraft, rfl⟩ := rule_ok h
  obtain ⟨draft', hdraft', rfl⟩ := rule_ok h'
  -- The draft is read off the annotations before any declared name is looked at.
  obtain rfl : draft = draft' := Except.ok.inj (hdraft.symm.trans hdraft')
  rw [toRule_congr draft canonical declared declared']
  refine ⟨rfl, fun n hn hn' => ?_⟩
  rw [toRule_targets, contains_targetsOf hn, toRule_targets, contains_targetsOf hn',
    toRule_congr draft canonical declared declared']

end Rules

/-! ## Shares of a field -/

section Shares

variable {declared declared' names : List String} {canonical name : String} {fs : List Field}
  {ss ss' : List (Share String)}

/-- The two shares are of one field and name the same owners among the names. -/
def Share.Agrees (names : List String) (s s' : Share String) : Prop :=
  s.field = s'.field ∧ ∀ n ∈ names, s.isFor n = s'.isFor n

/-- **The shares of the fields among two lists of declared names** agree on the names in both. -/
theorem shares_agree (h : Forall₂ (Share.IsOf declared canonical) fs ss)
    (h' : Forall₂ (Share.IsOf declared' canonical) fs ss')
    (hnames : ∀ n ∈ names, n ∈ declared ∧ n ∈ declared') :
    Forall₂ (Share.Agrees names) ss ss' := by
  induction h generalizing ss' with
  | nil =>
    cases h'
    exact .nil
  | cons hs _ ih =>
    obtain ⟨s', rest, hs', hrest, rfl⟩ := List.forall₂_cons_left_iff.mp h'
    obtain ⟨hfield, howners⟩ := rule_agree hs.1 hs'.1
    refine .cons ⟨?_, fun n hn => howners n (hnames n hn).1 (hnames n hn).2⟩ (ih hrest)
    rw [hs.2, hs'.2, hfield]

theorem Share.map_agree {β : Type} (part : Field → β) (h : Forall₂ (Share.Agrees names) ss ss') :
    ss.map (fun s => part s.field) = ss'.map fun s => part s.field := by
  refine (map_eq_of_forall₂ (h.imp fun s s' hs => ?_)).symm
  rw [hs.1]

theorem Share.map_filter_agree {β : Type} (p : Bool → Bool) (part : Field → β)
    (h : Forall₂ (Share.Agrees names) ss ss') (hname : name ∈ names) :
    (ss.filter fun s => p (s.isFor name)).map (fun s => part s.field) =
      (ss'.filter fun s => p (s.isFor name)).map fun s => part s.field := by
  refine Share.map_agree part (List.rel_filter (fun s s' hs => ?_) h)
  change p (s.isFor name) = true ↔ p (s'.isFor name) = true
  rw [hs.2 name hname]

end Shares

/-! ## What a family has for a pair -/

namespace FamilyOf

/-- The names of the variants, in order. -/
def variantNames (F : Family) : List String := F.variants.map VariantOf.name

/-- The edges from one variant to another. -/
def edgesBetween (F : Family) (source target : String) : List Edge :=
  F.edges.filter fun e => e.source == source && e.target == target

/-- The conversions from one variant to another, in order. -/
def conversionsBetween (F : Family) (source target : String) : List Conversion :=
  F.conversions.filter fun c => c.source == source && c.target == target

end FamilyOf

/-- A filter of what is listed for the items is one of the items, where it keeps or drops all that
is listed for an item. -/
theorem filter_flatMap_eq {α β : Type} {as : List α} {list : α → List β} {p : β → Bool}
    {q : α → Bool} (h : ∀ a ∈ as, ∀ b ∈ list a, p b = q a) :
    (as.flatMap list).filter p = (as.filter q).flatMap list := by
  induction as with
  | nil => rfl
  | cons a as ih =>
    rw [List.forall_mem_cons] at h
    rw [List.flatMap_cons, List.filter_append, ih h.2, List.filter_congr h.1, List.filter_cons]
    split_ifs with hq <;> simp [hq]

/-- Two variants of different names make one pair. -/
theorem filter_orderedPairs {variants : List Variant} {S T : Variant}
    (h : (variants.map VariantOf.name).Nodup) (hS : S ∈ variants) (hT : T ∈ variants) :
    (orderedPairs variants).filter (fun p => p.1.name == S.name && p.2.name == T.name) =
      if S.name = T.name then [] else [(S, T)] := by
  split_ifs with hne
  · refine List.filter_eq_nil_iff.mpr fun p hp he => ?_
    obtain ⟨_, _, hp⟩ := mem_orderedPairs.mp hp
    rw [Bool.and_eq_true, beq_iff_eq, beq_iff_eq] at he
    exact hp (he.1.trans (hne.trans he.2.symm))
  · have hkeys := nodup_distinctPairs h
    rw [← orderedPairs_names] at hkeys
    exact filter_key_eq hkeys (mem_orderedPairs.mpr ⟨hS, hT, hne⟩)

namespace Derives

variable {r : Record} {o : Options} {R : Registry String} {ss : List (Share String)} {F : Family}
  {S T : Variant}

theorem edgesBetween_eq (h : Derives r o R ss F) (hS : S ∈ F.variants) (hT : T ∈ F.variants) :
    F.edgesBetween S.name T.name = if S.name = T.name then [] else [.between S T] := by
  have hpairs := filter_orderedPairs h.names_nodup hS hT
  rw [FamilyOf.edgesBetween, h.edges, edgesOf, List.filter_map]
  change ((orderedPairs F.variants).filter fun p => p.1.name == S.name && p.2.name == T.name).map
    _ = _
  rw [hpairs]
  split_ifs <;> rfl

theorem conversionsBetween_eq (h : Derives r o R ss F) (hS : S ∈ F.variants)
    (hT : T ∈ F.variants) :
    F.conversionsBetween S.name T.name = if S.name = T.name then [] else S.conversionsTo T := by
  have hpairs := filter_orderedPairs h.names_nodup hS hT
  have hends : ∀ p ∈ orderedPairs F.variants, ∀ c ∈ p.1.conversionsTo p.2,
      (c.source == S.name && c.target == T.name) =
        (p.1.name == S.name && p.2.name == T.name) := by
    intro p _ c hc
    obtain ⟨_, _, rfl⟩ := mem_conversionsTo.mp hc
    rfl
  rw [FamilyOf.conversionsBetween, h.conversions_eq, filter_flatMap_eq hends, hpairs]
  split_ifs
  · rfl
  · exact List.flatMap_singleton _ _

end Derives

/-! ## Variants do not depend on each other -/

/-- The interface without its owners and the others. -/
def InterfaceOf.unowned (i : Interface) : Interface :=
  { i with implementors := [], nonImplementors := [] }

/-- **The families agree on what both have.** A variant of both is the same in both, and so are the
edges and the conversions from one such variant to another; the fallbacks are equal, and the
interfaces are but for the variants that they name. -/
structure FamilyOf.AgreesWith (F F' : Family) : Prop where
  variants : ∀ V ∈ F.variants, ∀ V' ∈ F'.variants, V.name = V'.name → V = V'
  edges : ∀ s ∈ F.variantNames, s ∈ F'.variantNames → ∀ t ∈ F.variantNames, t ∈ F'.variantNames →
    F.edgesBetween s t = F'.edgesBetween s t
  conversions : ∀ s ∈ F.variantNames, s ∈ F'.variantNames →
    ∀ t ∈ F.variantNames, t ∈ F'.variantNames → F.conversionsBetween s t = F'.conversionsBetween s t
  fallbacks : F.fallbacks = F'.fallbacks
  interfaces : F.interfaces.map InterfaceOf.unowned = F'.interfaces.map InterfaceOf.unowned

section Independence

variable {r : Record} {o : Options} {variants : List String} {R R' : Registry String}
  {ss ss' : List (Share String)} {F F' : Family}

theorem Derives.variant_agree (h : Derives r o R ss F)
    (h' : Derives { r with variants := variants } o R' ss' F') {names : List String}
    (hss : Forall₂ (Share.Agrees names) ss ss') {V V' : Variant} (hV : V ∈ F.variants)
    (hV' : V' ∈ F'.variants) (hname : V.name = V'.name) (hn : V.name ∈ names) : V = V' := by
  have hfields : V.fields = V'.fields := by
    rw [h.fields_eq hV, h'.fields_eq hV', ← hname]
    exact Share.map_filter_agree id id hss hn
  have hcapabilities : V.capabilities = V'.capabilities := by
    rw [h.capabilities_eq hV, h'.capabilities_eq hV', ← hname]
    exact Share.map_filter_agree id (fun f => capabilityName f.name) hss hn
  have habsences : V.absences = V'.absences := by
    rw [h.absences_eq hV, h'.absences_eq hV', ← hname]
    exact Share.map_filter_agree Bool.not (fun f => absenceName f.name) hss hn
  have hdecorations : V.decorations = V'.decorations := by
    rw [h.decorations_eq hV, h'.decorations_eq hV', hname]
    rfl
  have hcanonical : V.isCanonical = V'.isCanonical := by
    rw [h.isCanonical_eq hV, h'.isCanonical_eq hV', hname]
  cases V
  cases V'
  simp_all

/-- **What a variant is, and how it is converted to another one, does not depend on the other
variants** that are declared, nor on their order. -/
theorem variants_independent (h : (r.derive o).result = .ok F)
    (h' : (RecordOf.derive { r with variants := variants } o).result = .ok F') :
    F.AgreesWith F' := by
  obtain ⟨R, ss, h⟩ := derive_ok.mp h
  obtain ⟨R', ss', h'⟩ := derive_ok.mp h'
  -- The two registries are compared over the names that are in both.
  let names := R.names.filter fun n => R'.names.contains n
  have hnames : ∀ n, n ∈ names ↔ n ∈ R.names ∧ n ∈ R'.names := by simp [names]
  have hss : Forall₂ (Share.Agrees names) ss ss' :=
    shares_agree h.shares h'.shares fun n hn => (hnames n).mp hn
  have hfields : ss.map Share.field = ss'.map Share.field := Share.map_agree id hss
  have hvariants : ∀ V ∈ F.variants, ∀ V' ∈ F'.variants, V.name = V'.name → V = V' := by
    intro V hV V' hV' hname
    have hmem : V.name ∈ R.names := h.map_name ▸ List.mem_map_of_mem hV
    have hmem' : V'.name ∈ R'.names := h'.map_name ▸ List.mem_map_of_mem hV'
    exact h.variant_agree h' hss hV hV' hname ((hnames _).mpr ⟨hmem, hname ▸ hmem'⟩)
  have hboth : ∀ n ∈ F.variantNames, n ∈ F'.variantNames →
      ∃ V ∈ F.variants, V ∈ F'.variants ∧ V.name = n := by
    intro n hn hn'
    obtain ⟨V, hV, rfl⟩ := List.mem_map.mp hn
    obtain ⟨V', hV', hname⟩ := List.mem_map.mp hn'
    exact ⟨V, hV, hvariants V hV V' hV' hname.symm ▸ hV', rfl⟩
  refine ⟨hvariants, fun s hs hs' t ht ht' => ?_, fun s hs hs' t ht ht' => ?_, ?_, ?_⟩
  · obtain ⟨S, hS, hS', rfl⟩ := hboth s hs hs'
    obtain ⟨T, hT, hT', rfl⟩ := hboth t ht ht'
    rw [h.edgesBetween_eq hS hT, h'.edgesBetween_eq hS' hT']
  · obtain ⟨S, hS, hS', rfl⟩ := hboth s hs hs'
    obtain ⟨T, hT, hT', rfl⟩ := hboth t ht ht'
    rw [h.conversionsBetween_eq hS hT, h'.conversionsBetween_eq hS' hT']
  · rw [h.fallbacks, h'.fallbacks, hfields]
  · rw [h.interfaces, h'.interfaces, List.map_map, List.map_map]
    let unowned : Field → Interface := fun f =>
      InterfaceOf.unowned ((Share.mk f ⟨.all, [], [], false, []⟩).interface [])
    exact Share.map_agree unowned hss

/-- An article with its variants in another order, and one more of them. -/
theorem variants_independent_article : ∃ F F', (sampleArticle.derive {}).result = .ok F ∧
    (RecordOf.derive { sampleArticle with
      variants := ["ArticleCard", "Stub", "Draft"] } {}).result = .ok F' ∧
      F.variantNames = ["Article", "Draft", "ArticleCard"] ∧
        F'.variantNames = ["Article", "ArticleCard", "Stub", "Draft"] ∧ F.AgreesWith F' := by
  have hyields : (sampleArticle.derive {}).yields (fun F =>
      F.variantNames = ["Article", "Draft", "ArticleCard"]) = true := by decide +kernel
  have hyields' : (RecordOf.derive { sampleArticle with
      variants := ["ArticleCard", "Stub", "Draft"] } {}).yields (fun F =>
        F.variantNames = ["Article", "ArticleCard", "Stub", "Draft"]) = true := by decide +kernel
  obtain ⟨F, hF, hnames⟩ := Outcome.yields_iff.mp hyields
  obtain ⟨F', hF', hnames'⟩ := Outcome.yields_iff.mp hyields'
  exact ⟨F, F', hF, hF', of_decide_eq_true hnames, of_decide_eq_true hnames',
    variants_independent hF hF'⟩

end Independence

end RecordFamily
