import RecordFamily.Proofs.Directive
import RecordFamily.Rule

/-!
# The vocabularies at work

The annotations that are sorted as directives are parsed to directives of the same vocabulary, so that
what is looked up by their names is there.

* `isIn_iff`, `exists_word`, `name_decoration`: what begins with a word of a vocabulary, and that the
  directives of a field and of a record are known ones;
* `RuleDraft.Classified`: the inclusion directive of a draft makes a kind of rule;
* **`RuleDraft.foldlM_classified`**: that of the annotations of a field does.
-/

namespace RecordFamily

/-! ## Known names -/

theorem ofName?_name (word : FieldDirective) : FieldDirective.ofName? word.name = some word := by
  cases word <;> decide

theorem isIn_iff {vocabulary : List String} {note : String} :
    Directive.isIn vocabulary note = true ↔
      ∃ name ∈ vocabulary, Directive.head? note = some name := by
  unfold Directive.isIn
  split
  · next name hname => simp [hname]
  · next hname => simp [hname]

theorem exists_word_of_isIn {note : String} (h : Directive.isIn fieldWords note = true) :
    ∃ word, Directive.head? note = some (FieldDirective.name word) := by
  obtain ⟨name, hname, hhead⟩ := isIn_iff.mp h
  obtain ⟨word, _, rfl⟩ := List.mem_map.mp hname
  exact ⟨word, hhead⟩

theorem Directive.exists_word {text : String} {d : Directive} (h : isIn fieldWords text = true)
    (hd : parse text = .ok d) : ∃ word, FieldDirective.ofName? d.name = some word := by
  obtain ⟨word, hhead⟩ := exists_word_of_isIn h
  rw [parse_name hhead hd]
  exact ⟨word, ofName?_name word⟩

theorem Directive.name_decoration {text : String} {d : Directive}
    (h : isIn recordWords text = true) (hd : parse text = .ok d) : d.name = decorationWord :=
  List.mem_singleton.mp (parse_name_mem h hd)

/-! ## Drafts -/

namespace RuleDraft

variable {τ : Type} {draft draft' : RuleDraft τ} {field : String}

/-- **The inclusion directive of the draft makes a kind of rule.** -/
def Classified (draft : RuleDraft τ) : Prop :=
  ∀ d, draft.inclusion = some d → ∃ word kind,
    FieldDirective.ofName? d.name = some word ∧ word.ruleKind? = some kind

theorem Classified.empty : ({} : RuleDraft τ).Classified := fun _ h => nomatch h

theorem Classified.addDirective (h : draft.Classified) {d : Directive}
    (hd : draft.addDirective field d = .ok draft') : draft'.Classified := by
  unfold RuleDraft.addDirective at hd
  split at hd
  · cases hd
    exact h
  · next word hword =>
    obtain ⟨_, _, hd⟩ := bind_eq_ok.mp hd
    -- A fallback directive leaves the inclusion alone; a first inclusion directive becomes it.
    split at hd
    · cases hd
      exact h
    · cases hd
    · next kind hkind _ =>
      cases hd
      rintro _ ⟨⟩
      exact ⟨word, kind, hword, hkind⟩

variable [BEq τ] [Slot τ]

theorem Classified.add (h : draft.Classified) {note : τ}
    (hd : draft.add field note = .ok draft') : draft'.Classified := by
  unfold RuleDraft.add at hd
  split at hd
  · cases hd
    exact h
  · split_ifs at hd
    · obtain ⟨d, _, hd⟩ := bind_eq_ok.mp hd
      exact h.addDirective hd
    · cases hd
      exact h

/-- **The inclusion directive among the annotations of a field makes a kind of rule.** -/
theorem foldlM_classified {notes : List τ}
    (h : notes.foldlM (RuleDraft.add field) {} = .ok draft) : draft.Classified :=
  foldlM_invariant (fun _ _ _ hd he => hd.add he) Classified.empty h

end RuleDraft

end RecordFamily
