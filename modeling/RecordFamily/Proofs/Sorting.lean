import RecordFamily.Proofs.Grammar
import RecordFamily.Proofs.Independence

/-!
# Sorting annotations

Annotations are sorted by their heads alone: those that begin with a word of a vocabulary are parsed,
and the others are set aside. Nothing is lost in that way, since a directive has its name for a head.

* `head?_of_spells`, `head?_of_parse`: the head of an annotation that spells a directive;
* `isIn_iff_of_parse`: an annotation is sorted by the name of its directive;
* `RuleDraft.foldlM_passthrough`, `rule_passthrough`: the annotations of a field that are set aside;
* `parsed_of_head`, `name_notMem_of_aside`: what a head tells of the directive behind it;
* `Directive.IsSorted`: an annotation is sorted as it is parsed;
* **`sorted_as_parsed`**: every annotation is.
-/

namespace RecordFamily

open Text

/-! ## The head of a directive -/

namespace Directive

section Head

variable {text : String} {d : Directive} {before name gap rest : List Char}

/-- A word is the head of a text in which nothing or a parenthesis follows it, blanks apart. -/
theorem headChars?_append (hbefore : isAllBlank before = true) (hname : isWord name = true)
    (hgap : isAllBlank gap = true) (hrest : rest = [] ∨ rest.head? = some '(') :
    headChars? (before ++ (name ++ (gap ++ rest))) = some name := by
  have hblank := isBlank_of_isWord hname
  cases name with
  | nil => cases hname
  | cons c w =>
    obtain ⟨hstart, hparts⟩ := Bool.and_eq_true_iff.mp hname
    have hfirst : trimStart (before ++ (c :: w ++ (gap ++ rest))) = c :: (w ++ (gap ++ rest)) := by
      refine dropWhile_append_stop (List.all_eq_true.mp hbefore) ?_
      rintro _ ⟨⟩
      exact hblank c List.mem_cons_self
    have hparen : ∀ d ∈ rest.head?, d = '(' := by
      rcases hrest with rfl | hrest
      · exact nofun
      · intro d hd
        exact Option.some.inj (hd.symm.trans hrest)
    -- Neither a blank nor the parenthesis is part of the word, so that it ends where it is spelled to.
    have hstop : ∀ d ∈ (gap ++ rest).head?, isWordPart d = false := by
      cases gap with
      | nil =>
        intro d hd
        rw [hparen d hd]
        decide
      | cons e gap =>
        rintro _ ⟨⟩
        exact isWordPart_of_isBlank (Bool.and_eq_true_iff.mp hgap).1
    have hlast : trimStart (gap ++ rest) = rest := by
      refine dropWhile_append_stop (List.all_eq_true.mp hgap) fun d hd => ?_
      rw [hparen d hd]
      decide
    rw [headChars?, hfirst]
    simp only [hstart, if_true]
    rw [takeWhile_append_stop (List.all_eq_true.mp hparts) hstop,
      dropWhile_append_stop (List.all_eq_true.mp hparts) hstop, hlast]
    rcases hrest with rfl | hrest
    · rfl
    · obtain ⟨rest, rfl⟩ := List.head?_eq_some_iff.mp hrest
      rfl

/-- **The head of a text that spells a directive is its name.** -/
theorem head?_of_spells (h : Spells text d) : head? text = some d.name := by
  cases h with
  | @bare before name after hbefore hname hafter htext =>
    have hhead := headChars?_append hbefore hname hafter (.inl rfl)
    rw [List.append_nil] at hhead
    rw [head?, htext, hhead]
    rfl
  | @call before name gap inside after args hbefore hname hgap hinside hafter htext =>
    have hrest : ('(' :: (inside ++ ')' :: after)).head? = some '(' := rfl
    have hhead := headChars?_append hbefore hname hgap (.inr hrest)
    have htext' : text.toList = before ++ (name ++ (gap ++ '(' :: (inside ++ ')' :: after))) := by
      simp [htext]
    rw [head?, htext', hhead]
    rfl

theorem head?_of_parse (h : parse text = .ok d) : head? text = some d.name :=
  head?_of_spells (spells_of_parse h)

/-- **An annotation is sorted by the name of its directive.** -/
theorem isIn_iff_of_parse {vocabulary : List String} (h : parse text = .ok d) :
    isIn vocabulary text = true ↔ d.name ∈ vocabulary := by
  rw [isIn_iff, head?_of_parse h]
  simp

end Head

end Directive

/-! ## Annotations that are set aside -/

section Aside

variable {field note : String} {notes : List String} {draft draft' : RuleDraft String}

theorem RuleDraft.addDirective_passthrough {d : Directive}
    (h : draft.addDirective field d = .ok draft') : draft'.passthrough = draft.passthrough := by
  unfold RuleDraft.addDirective at h
  split at h
  · cases h
    rfl
  · obtain ⟨_, _, h⟩ := bind_eq_ok.mp h
    split at h <;> cases h <;> rfl

theorem RuleDraft.add_passthrough (h : draft.add field note = .ok draft') : draft'.passthrough =
    draft.passthrough ++ [note].filter fun n => !Directive.isIn fieldWords n := by
  rw [RuleDraft.add_string] at h
  split_ifs at h with hin
  · obtain ⟨d, _, h⟩ := bind_eq_ok.mp h
    simp [RuleDraft.addDirective_passthrough h, hin]
  · cases h
    simp [RuleDraft.addPassthrough, hin]

/-- **A field keeps the annotations that are no directives**, in order. -/
theorem RuleDraft.foldlM_passthrough (h : notes.foldlM (RuleDraft.add field) draft = .ok draft') :
    draft'.passthrough =
      draft.passthrough ++ notes.filter fun n => !Directive.isIn fieldWords n := by
  induction notes generalizing draft with
  | nil =>
    cases h
    simp
  | cons note notes ih =>
    rw [List.foldlM_cons] at h
    obtain ⟨draft₁, h₁, h⟩ := bind_eq_ok.mp h
    rw [ih h, RuleDraft.add_passthrough h₁, List.append_assoc, ← List.filter_append]
    rfl

theorem rule_passthrough {f : Field} {declared : List String} {canonical : String}
    {rule : FieldRule String} (h : f.rule declared canonical = .ok rule) :
    rule.passthrough = f.annotations.filter fun n => !Directive.isIn fieldWords n := by
  obtain ⟨draft, hdraft, rfl⟩ := rule_ok h
  have hpassthrough : (draft.toRule declared canonical).passthrough = draft.passthrough := by
    unfold RuleDraft.toRule
    cases draft.inclusion <;> rfl
  rw [hpassthrough, RuleDraft.foldlM_passthrough hdraft]
  rfl

end Aside

/-! ## Sorting and parsing -/

/-- **The annotation is sorted as it is parsed.** -/
structure Directive.IsSorted (text : String) : Prop where
  /-- A directive has its name for a head. -/
  head : ∀ d, parse text = .ok d → head? text = some d.name
  /-- What has a head is a directive of that name, or malformed. -/
  parsed : ∀ name, head? text = some name → (∃ d, parse text = .ok d ∧ d.name = name) ∨
    ∃ e, parse text = .error e ∧ e.kind = .malformedDirective
  /-- The directives that are sorted under a vocabulary are those that it names. -/
  named : ∀ vocabulary d, parse text = .ok d → (isIn vocabulary text = true ↔ d.name ∈ vocabulary)
  /-- What is sorted under a vocabulary is a directive that it names, or malformed. -/
  routed : ∀ vocabulary, isIn vocabulary text = true →
    (∃ d, parse text = .ok d ∧ d.name ∈ vocabulary) ∨
      ∃ e, parse text = .error e ∧ e.kind = .malformedDirective
  /-- What the rule of a field passes on is no directive of a field. -/
  passed : ∀ (f : Field) declared canonical rule, f.rule declared canonical = .ok rule →
    text ∈ rule.passthrough → ∀ d, parse text = .ok d → d.name ∉ fieldWords
  /-- What decorates a canonical record as it stands is no directive of a record. -/
  plain : ∀ (R : Registry String) (notes : List String) (routing : Routing String),
    notes.foldlM (Routing.add R) {} = .ok routing → text ∈ routing.plain →
      ∀ d, parse text = .ok d → d.name ∉ recordWords

/-- What has a head is a directive of that name, or malformed. -/
theorem parsed_of_head {text name : String} (h : Directive.head? text = some name) :
    (∃ d, Directive.parse text = .ok d ∧ d.name = name) ∨
      ∃ e, Directive.parse text = .error e ∧ e.kind = .malformedDirective := by
  cases hd : Directive.parse text with
  | ok d => exact .inl ⟨d, rfl, Directive.parse_name h hd⟩
  | error e => exact .inr ⟨e, rfl, Directive.kind_of_parse hd⟩

/-- What is set aside is not in the vocabulary by its head, and so not by its name either. -/
theorem name_notMem_of_aside {vocabulary notes : List String} {text : String}
    (h : text ∈ notes.filter fun n => !Directive.isIn vocabulary n) {d : Directive}
    (hd : Directive.parse text = .ok d) : d.name ∉ vocabulary := by
  intro hname
  have hin := (List.mem_filter.mp h).2
  rw [(Directive.isIn_iff_of_parse hd).mpr hname] at hin
  cases hin

/-- **Every annotation is sorted as it is parsed**, by its head alone. -/
theorem sorted_as_parsed (text : String) : Directive.IsSorted text where
  head _ hd := Directive.head?_of_parse hd
  parsed _ hname := parsed_of_head hname
  named _ _ hd := Directive.isIn_iff_of_parse hd
  routed vocabulary hin := by
    obtain ⟨name, hname, hhead⟩ := isIn_iff.mp hin
    rcases parsed_of_head hhead with ⟨d, hd, rfl⟩ | herror
    · exact .inl ⟨d, hd, hname⟩
    · exact .inr herror
  passed f declared canonical rule hrule hmem d hd := by
    rw [rule_passthrough hrule] at hmem
    exact name_notMem_of_aside hmem hd
  plain R notes routing hrouting hmem d hd := by
    rw [routing_eq hrouting] at hmem
    exact name_notMem_of_aside hmem hd

end RecordFamily
