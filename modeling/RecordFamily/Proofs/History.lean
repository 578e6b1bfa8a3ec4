import Mathlib.Data.List.DropRight
import RecordFamily.Proofs.Registry
import RecordFamily.RegistryRun

/-!
# Registries and their history

What a registry is after a run of steps can be read off the steps that succeeded.

* `sharesSince`: the fields handed out since a name was declared last;
* `VariantOf.Holds`: a variant that has its part of such shares;
* `Registry.Allows`, `succeeds_perform_iff`, `perform_ok`: which steps succeed, and what they leave;
* `Registry.Reflects`: a registry that is what its history says;
* `Reflects.perform`, **`Reflects.run`**: one step that succeeds, and a whole run, keep it so;
* `Registry.IsKept`: what is to hold of a registry at all times;
* **`run_isKept`**: it holds after every run.
-/

namespace RecordFamily

/-! ## Shares of a history -/

/-- The fields handed out after the last declaration of the name, with their rules. -/
def sharesSince (name : String) (history : List (RegistryStep String)) : List (Share String) :=
  (history.rtakeWhile fun step => step.declared? != some name).flatMap RegistryStep.shares

section History

variable {name : String} {history : List (RegistryStep String)} {step : RegistryStep String}

theorem sharesSince_declared (h : step.declared? = some name) :
    sharesSince name (history ++ [step]) = [] := by
  rw [sharesSince, List.rtakeWhile_concat_neg _ _ _ (by simp [h])]
  rfl

theorem sharesSince_append (h : step.declared? ≠ some name) :
    sharesSince name (history ++ [step]) = sharesSince name history ++ step.shares := by
  rw [sharesSince, List.rtakeWhile_concat_pos _ _ _ (by simpa using h), List.flatMap_append,
    List.flatMap_singleton]
  rfl

end History

/-! ## Variants with shares -/

/-- **The variant has its part of the shares.** -/
structure VariantOf.Holds (v : Variant) (shares : List (Share String)) : Prop where
  fields : v.fields = (shares.filter fun s => s.isFor v.name).map Share.field
  capabilities : v.capabilities = (shares.filter fun s => s.isFor v.name).map Share.capability
  absences : v.absences = (shares.filter fun s => !s.isFor v.name).map Share.absence

namespace VariantOf.Holds

variable {v : Variant} {shares : List (Share String)} {name : String} {strict : Bool}
  {history : List (RegistryStep String)}

theorem empty (name : String) (isCanonical : Bool) :
    (VariantOf.empty name isCanonical : Variant).Holds [] := ⟨rfl, rfl, rfl⟩

theorem receive (h : v.Holds shares) (more : List (Share String)) :
    (v.receive more).Holds (shares ++ more) where
  fields := by simp only [VariantOf.receive, h.fields, List.filter_append, List.map_append]
  capabilities := by
    simp only [VariantOf.receive, h.capabilities, List.filter_append, List.map_append]
  absences := by simp only [VariantOf.receive, h.absences, List.filter_append, List.map_append]

theorem capabilities_eq (h : v.Holds shares) :
    v.capabilities = v.fields.map fun f => capabilityName f.name := by
  rw [h.capabilities, h.fields, List.map_map]
  rfl

/-- **Every share is a field or an absence.** -/
theorem length_add_length (h : v.Holds shares) :
    v.fields.length + v.absences.length = shares.length := by
  rw [h.fields, h.absences, List.length_map, List.length_map]
  exact (List.length_eq_length_filter_add _).symm

theorem declare_other (h : v.Holds (sharesSince v.name history)) (hne : name ≠ v.name) :
    v.Holds (sharesSince v.name (history ++ [.declare name strict])) := by
  have hother : (RegistryStep.declare name strict).declared? ≠ some v.name :=
    fun he => hne (Option.some.inj he)
  rw [sharesSince_append hother, RegistryStep.shares, List.append_nil]
  exact h

end VariantOf.Holds

/-! ## One step -/

namespace Registry

variable {R R' : Registry String} {canonical name decoration : String} {strict : Bool}
  {history steps : List (RegistryStep String)} {step : RegistryStep String}

theorem perform_declare : R.perform (.declare name strict) = R.declare name strict := by
  rw [perform, requireKeys_string]
  rfl

theorem perform_decorate : R.perform (.decorate name decoration) =
    if R.contains name then .pure (R.decorate name decoration) else .fail (.fault .noMember) := by
  rw [perform, requireKeys_string]
  rfl

theorem perform_distribute (fields : List (FieldOf String)) (rules : List (FieldRule String)) :
    R.perform (.distribute fields rules) =
      .pure (R.distribute (RegistryStep.distribute fields rules).shares) := by
  have hletters : ∀ shares : List (Share String),
      (shares.forM fun s => requireLetters s.field.name) = .ok () := by
    intro shares
    induction shares with
    | nil => rfl
    | cons s shares ih => exact ih
  rw [perform, requireKeys_string, hletters]
  rfl

/-- The registry allows the step. -/
def Allows (R : Registry String) : RegistryStep String → Prop
  | .declare name strict => strict = true → name ∉ R.names
  | .decorate name _ => name ∈ R.names
  | .distribute .. => True

/-- **A step succeeds where it is allowed.** -/
theorem succeeds_perform_iff : Succeeds (R.perform step).result ↔ R.Allows step := by
  cases step with
  | declare name strict =>
    rw [perform_declare, Succeeds]
    simp only [declare_ok, Allows]
    constructor
    · rintro ⟨_, ⟨_, hs, _⟩ | ⟨hm, _⟩⟩ h
      · exact absurd (h.symm.trans hs) Bool.noConfusion
      · exact hm
    · intro h
      by_cases hm : name ∈ R.names
      · exact ⟨_, .inl ⟨hm, Bool.eq_false_iff.mpr fun hs => h hs hm, rfl⟩⟩
      · exact ⟨_, .inr ⟨hm, rfl⟩⟩
  | decorate name decoration =>
    rw [perform_decorate, Allows, ← contains_iff]
    split_ifs with hc
    · exact iff_of_true (.ok _) hc
    · exact iff_of_false nofun hc
  | distribute fields rules =>
    rw [perform_distribute]
    exact iff_of_true (.ok _) trivial

/-- **What a step that succeeds leaves.** -/
theorem perform_ok (h : (R.perform step).result = .ok R') :
    (∃ name strict, step = .declare name strict ∧ (R.declare name strict).result = .ok R') ∨
    (∃ name decoration, step = .decorate name decoration ∧ R' = R.decorate name decoration) ∨
      ∃ fields rules, step = .distribute fields rules ∧ R' = R.distribute step.shares := by
  cases step with
  | declare name strict =>
    rw [perform_declare] at h
    exact .inl ⟨name, strict, rfl, h⟩
  | decorate name decoration =>
    rw [perform_decorate] at h
    split_ifs at h <;> cases h
    exact .inr (.inl ⟨name, decoration, rfl, rfl⟩)
  | distribute fields rules =>
    rw [perform_distribute] at h
    cases h
    exact .inr (.inr ⟨fields, rules, rfl, rfl⟩)

theorem after_ok (h : (R.perform step).result = .ok R') : R.after step = R' := by
  rw [after, h]

theorem after_error {e : Failure} (h : (R.perform step).result = .error e) : R.after step = R := by
  rw [after, h]

theorem accepted_ok (h : (R.perform step).result = .ok R') :
    R.accepted (step :: steps) = step :: R'.accepted steps := by
  rw [accepted, h]

theorem accepted_error {e : Failure} (h : (R.perform step).result = .error e) :
    R.accepted (step :: steps) = R.accepted steps := by
  rw [accepted, h]

theorem run_cons : R.run (step :: steps) = (R.after step).run steps := rfl

/-- **A name that is there is not declared again** under `strict`. -/
theorem declare_strict (h : name ∈ R.names) :
    R.declare name true = .refuse (.duplicateVariant name) := by
  rw [declare, if_pos (contains_iff.mpr h)]
  rfl

/-! ## Registries with a history -/

/-- **The registry is what its history says.** -/
structure Reflects (R : Registry String) (canonical : String)
    (history : List (RegistryStep String)) : Prop where
  isOf : R.canonical = canonical
  names : R.names = firstOccurrences [] (canonical :: history.filterMap RegistryStep.declared?)
  marked : ∀ v ∈ R.variants, v.isCanonical = (v.name == canonical)
  holds : ∀ v ∈ R.variants, v.Holds (sharesSince v.name history)

namespace Reflects

theorem ofCanonical (canonical : String) :
    (Registry.ofCanonical canonical).Reflects canonical [] where
  isOf := rfl
  names := rfl
  marked := by simp [Registry.ofCanonical, VariantOf.empty]
  holds := List.forall_mem_singleton.mpr (.empty canonical true)

theorem mem_names (h : R.Reflects canonical history) : name ∈ R.names ↔
    name ∈ canonical :: history.filterMap RegistryStep.declared? := by
  rw [h.names, mem_firstOccurrences]
  simp

theorem names_append (h : R.Reflects canonical history) (step : RegistryStep String) :
    firstOccurrences [] (canonical :: (history ++ [step]).filterMap RegistryStep.declared?) =
      R.names ++ firstOccurrences R.names step.declared?.toList := by
  have hone : [step].filterMap RegistryStep.declared? = step.declared?.toList := by
    cases step <;> rfl
  have hseen : ∀ n,
      n ∈ (canonical :: history.filterMap RegistryStep.declared?) ++ [] ↔ n ∈ R.names := by
    intro n
    rw [List.append_nil, h.mem_names]
  rw [List.filterMap_append, hone, ← List.cons_append, firstOccurrences_append, ← h.names,
    firstOccurrences_congr hseen]

/-- A step that changes each variant for itself, keeps its name and its mark, and declares no new
name. -/
theorem map (h : R.Reflects canonical history) {change : Variant → Variant}
    (hdeclared : ∀ n ∈ step.declared?, n ∈ R.names)
    (hname : ∀ v, (change v).name = v.name) (hmark : ∀ v, (change v).isCanonical = v.isCanonical)
    (hholds : ∀ v ∈ R.variants, (change v).Holds (sharesSince v.name (history ++ [step]))) :
    Registry.Reflects { R with variants := R.variants.map change } canonical (history ++ [step]) where
  isOf := h.isOf
  names := by
    have hold : firstOccurrences R.names step.declared?.toList = [] := by
      cases hs : step.declared? with
      | none => rfl
      | some n => exact firstOccurrences_cons_of_mem (hdeclared n hs)
    rw [h.names_append, hold, List.append_nil, Registry.names, List.map_map]
    exact List.map_congr_left fun v _ => hname v
  marked := List.forall_mem_map.mpr fun v hv => by rw [hmark, hname, h.marked v hv]
  holds := List.forall_mem_map.mpr fun v hv => by
    rw [hname]
    exact hholds v hv

/-- A name that is declared again starts anew in its place. -/
theorem reset (h : R.Reflects canonical history) (hm : name ∈ R.names) :
    (R.reset name).Reflects canonical (history ++ [.declare name strict]) := by
  refine h.map (fun n hn => ?_) (fun v => ?_) (fun v => ?_) fun v hv => ?_
  · obtain rfl : name = n := Option.some.inj hn
    exact hm
  · split_ifs with hv
    · exact (eq_of_beq hv).symm
    · rfl
  · split_ifs <;> rfl
  -- The shares before the declaration count no more for this name, and as before for any other.
  · split_ifs with hn
    · have hd : (RegistryStep.declare name strict).declared? = some v.name :=
        congrArg some (eq_of_beq hn).symm
      rw [sharesSince_declared hd, ← eq_of_beq hn]
      exact .empty _ _
    · exact (h.holds v hv).declare_other fun he => hn (beq_iff_eq.mpr he.symm)

theorem append (h : R.Reflects canonical history) (hm : name ∉ R.names) :
    (R.append name).Reflects canonical (history ++ [.declare name strict]) where
  isOf := h.isOf
  names := by
    have hnew : firstOccurrences R.names (RegistryStep.declare name strict).declared?.toList =
        [name] := firstOccurrences_cons_of_notMem hm
    rw [h.names_append, hnew, Registry.names_append]
  marked := by
    have hne : name ≠ canonical := fun he => hm (h.mem_names.mpr (he ▸ List.mem_cons_self))
    refine List.forall_mem_append.mpr ⟨h.marked, List.forall_mem_singleton.mpr ?_⟩
    exact (beq_eq_false_iff_ne.mpr hne).symm
  holds := by
    refine List.forall_mem_append.mpr ⟨fun v hv => ?_, List.forall_mem_singleton.mpr ?_⟩
    · exact (h.holds v hv).declare_other fun he => hm (he ▸ List.mem_map_of_mem hv)
    · have hfresh : sharesSince name (history ++ [.declare name strict]) = [] :=
        sharesSince_declared rfl
      exact hfresh ▸ .empty name false

/-- **One step that succeeds** adds to the history. -/
theorem perform (h : R.Reflects canonical history) (hp : (R.perform step).result = .ok R') :
    R'.Reflects canonical (history ++ [step]) := by
  rcases perform_ok hp with
    ⟨name, strict, rfl, hd⟩ | ⟨name, decoration, rfl, rfl⟩ | ⟨_, _, rfl, rfl⟩
  · rcases declare_ok.mp hd with ⟨hm, _, rfl⟩ | ⟨hm, rfl⟩
    · exact h.reset hm
    · exact h.append hm
  · refine h.map (by simp [RegistryStep.declared?]) (fun v => ?_) (fun v => ?_) fun v hv => ?_
    · split_ifs <;> rfl
    · split_ifs <;> rfl
    · have hv := h.holds v hv
      rw [sharesSince_append (by simp [RegistryStep.declared?]), RegistryStep.shares, List.append_nil]
      split_ifs
      · exact ⟨hv.fields, hv.capabilities, hv.absences⟩
      · exact hv
  · refine h.map (by simp [RegistryStep.declared?]) (fun v => rfl) (fun v => rfl) fun v hv => ?_
    rw [sharesSince_append (by simp [RegistryStep.declared?])]
    exact (h.holds v hv).receive _

/-- **A whole run** adds the steps that succeed. -/
theorem run (h : R.Reflects canonical history) (steps : List (RegistryStep String)) :
    (R.run steps).Reflects canonical (history ++ R.accepted steps) := by
  -- A step that fails leaves both the registry and the history, so that only the others need `perform`.
  induction steps generalizing R history with
  | nil => simpa [Registry.run, accepted] using h
  | cons step steps ih =>
    rw [run_cons]
    cases hp : (R.perform step).result with
    | error e =>
      rw [after_error hp, accepted_error hp]
      exact ih h
    | ok R' =>
      rw [after_ok hp, accepted_ok hp, List.append_cons]
      exact ih (h.perform hp)

end Reflects

/-! ## What is kept -/

/-- **The registry is in order**, given the steps that succeeded so far. -/
structure IsKept (R : Registry String) (canonical : String)
    (history : List (RegistryStep String)) : Prop where
  isOf : R.canonical = canonical
  nodup : R.names.Nodup
  /-- The canonical name comes first, the others in the order in which they were declared first. -/
  order : R.names =
    canonical :: firstOccurrences [canonical] (history.filterMap RegistryStep.declared?)
  /-- A name finds the variant that has it. -/
  keyed : ∀ name v, R.get? name = some v ↔ v ∈ R.variants ∧ v.name = name
  /-- The canonical variant alone is marked. -/
  marked : ∀ v ∈ R.variants, v.isCanonical = true ↔ v.name = canonical
  /-- The interfaces are those of the fields, in order. -/
  capabilities : ∀ v ∈ R.variants, v.capabilities = v.fields.map fun f => capabilityName f.name
  /-- The fields and the absences are as many as the shares since the last declaration. -/
  counted : ∀ v ∈ R.variants,
    v.fields.length + v.absences.length = (sharesSince v.name history).length

theorem Reflects.isKept (h : R.Reflects canonical history) : R.IsKept canonical history := by
  have hnodup : R.names.Nodup := h.names ▸ nodup_firstOccurrences [] _
  refine ⟨h.isOf, hnodup, h.names, fun name v => ⟨fun hv => ?_, ?_⟩, fun v hv => ?_,
    fun v hv => (h.holds v hv).capabilities_eq, fun v hv => (h.holds v hv).length_add_length⟩
  · have hn := List.find?_some hv
    exact ⟨List.mem_of_find?_eq_some hv, eq_of_beq hn⟩
  · rintro ⟨hv, rfl⟩
    exact find?_key_eq hnodup hv
  · rw [h.marked v hv, beq_iff_eq]

/-- **A registry is in order at all times**: whatever is declared, decorated and handed out, in any
order and with any failures on the way. Of the steps after that, those alone fail that declare a name
again under `strict`, which is refused and changes nothing, or decorate a variant that is not there. -/
theorem run_isKept (canonical : String) (steps : List (RegistryStep String)) :
    let R := (Registry.ofCanonical canonical).run steps
    R.IsKept canonical ((Registry.ofCanonical canonical).accepted steps) ∧
      (∀ step, Succeeds (R.perform step).result ↔ R.Allows step) ∧
        ∀ name ∈ R.names, R.perform (.declare name true) = .refuse (.duplicateVariant name) ∧
          R.after (.declare name true) = R := by
  intro R
  refine ⟨((Reflects.ofCanonical canonical).run steps).isKept, fun step => succeeds_perform_iff,
    fun name hm => ?_⟩
  have hp : R.perform (.declare name true) = .refuse (.duplicateVariant name) :=
    perform_declare.trans (declare_strict hm)
  exact ⟨hp, after_error (congrArg Outcome.result hp)⟩

end Registry

end RecordFamily
