import RecordFamily.Proofs.Validity

/-!
# Decorations

Where the annotations of a record end up. They are sorted before any variant is decorated, so that
the decorations of a variant depend on the annotations alone.

* `decoration?`, `RecordOf.decorations`: the variant and the decoration that an annotation names,
  and all decorations that a record has for a variant;
* `routing_eq`: the routing of annotations that are all accepted;
* `variants_route`: what a routing adds to the variants of a registry;
* **`registry_decorations`**, `Derives.decorations_eq`: a variant of a registry, and one of a derived
  family, has the decorations of its record for it.
-/

namespace RecordFamily

open List

/-- The variant and the decoration that an annotation of a record names, if it is a directive. -/
def decoration? (note : String) : Option (String × String) :=
  if Directive.isIn recordWords note then
    (Directive.parse note).toOption.bind Directive.decoration?
  else none

/-- **The decorations that a record has for the variant of a name**: its annotations that are no
directives, if the name is its own, and then what directives name. -/
def RecordOf.decorations (r : Record) (name : String) : List String :=
  (if name = r.name then r.annotations.filter fun note => !Directive.isIn recordWords note else [])
    ++ ((r.annotations.filterMap decoration?).filter fun d => name == d.1).map Prod.snd

/-! ## Routing -/

section Routing

variable {R : Registry String} {routing routing' : Routing String} {note : String}
  {notes : List String}

theorem routing_add (h : Routing.add R routing note = .ok routing') : routing' =
    ⟨routing.plain ++ [note].filter fun n => !Directive.isIn recordWords n,
      routing.targeted ++ [note].filterMap decoration?⟩ := by
  rw [Routing.add_string] at h
  split_ifs at h with hin
  · obtain ⟨d, hd, h⟩ := bind_eq_ok.mp h
    unfold Routing.addDirective at h
    split at h
    · cases h
    · next variant decoration hdecoration =>
      split_ifs at h
      cases h
      simp [decoration?, hin, hd, Except.toOption, hdecoration]
  · cases h
    simp [decoration?, hin]

/-- **The routing of annotations** does not depend on the registry that accepts them. -/
theorem routing_eq (h : notes.foldlM (Routing.add R) routing = .ok routing') : routing' =
    ⟨routing.plain ++ notes.filter fun n => !Directive.isIn recordWords n,
      routing.targeted ++ notes.filterMap decoration?⟩ := by
  induction notes generalizing routing with
  | nil =>
    cases h
    simp
  | cons note notes ih =>
    rw [List.foldlM_cons] at h
    obtain ⟨routing₁, h₁, h⟩ := bind_eq_ok.mp h
    rw [ih h, routing_add h₁, List.append_assoc, List.append_assoc, ← List.filter_append,
      ← List.filterMap_append]
    rfl

end Routing

/-! ## Decorated registries -/

namespace VariantOf

/-- The variant with more decorations. -/
def decorated (v : Variant) (more : List String) : Variant :=
  { v with decorations := v.decorations ++ more }

@[simp] theorem decorated_name (v : Variant) (more : List String) :
    (v.decorated more).name = v.name := rfl

theorem decorated_nil (v : Variant) : v.decorated [] = v := by
  simp [decorated]

theorem decorated_append (v : Variant) (more rest : List String) :
    v.decorated (more ++ rest) = (v.decorated more).decorated rest := by
  simp [decorated]

end VariantOf

section Registry

variable {R R' : Registry String} {names : List String} {strict : Bool}

theorem variants_decorate (R : Registry String) (name decoration : String) :
    (R.decorate name decoration).variants =
      R.variants.map fun v => v.decorated (if v.name = name then [decoration] else []) := by
  refine List.map_congr_left fun v _ => ?_
  by_cases hv : v.name = name
  · rw [if_pos (beq_iff_eq.mpr hv), if_pos hv]
    rfl
  · rw [if_neg (mt beq_iff_eq.mp hv), if_neg hv, v.decorated_nil]

theorem variants_foldl_decorate {α : Type} (target : String → α → String) (text : α → String)
    (as : List α) (R : Registry String) :
    (as.foldl (fun R a => R.decorate (target R.canonical a) (text a)) R).variants =
      R.variants.map fun v =>
        v.decorated ((as.filter fun a => v.name == target R.canonical a).map text) := by
  induction as generalizing R with
  | nil => simp [VariantOf.decorated_nil]
  | cons a as ih =>
    rw [List.foldl_cons, ih, variants_decorate, List.map_map]
    refine List.map_congr_left fun v _ => ?_
    rw [Function.comp_apply, ← VariantOf.decorated_append]
    refine congrArg v.decorated ?_
    by_cases hv : v.name = target R.canonical a <;> simp [Registry.decorate, Registry.modify, hv]

theorem variants_route (routing : Routing String) : (R.route routing).variants =
    R.variants.map fun v => v.decorated ((if v.name = R.canonical then routing.plain else [])
      ++ (routing.targeted.filter fun d => v.name == d.1).map Prod.snd) := by
  have hplain : ∀ v : Variant, (routing.plain.filter fun _ => v.name == R.canonical).map id =
      if v.name = R.canonical then routing.plain else [] := by
    intro v
    by_cases hv : v.name = R.canonical <;> simp [hv]
  -- Plain annotations go to the canonical variant first, then directives to those that they name.
  have hfirst := variants_foldl_decorate (fun canonical _ => canonical) id routing.plain R
  have hsecond := variants_foldl_decorate (fun _ d => d.1) Prod.snd routing.targeted
    (routing.plain.foldl (fun R d => R.decorate R.canonical (id d)) R)
  refine hsecond.trans ?_
  rw [hfirst, List.map_map]
  refine List.map_congr_left fun v _ => ?_
  rw [Function.comp_apply, hplain, VariantOf.decorated_append]
  rfl

/-- Variants that were only declared have no decorations. -/
theorem undecorated_declareAll (hR : ∀ v ∈ R.variants, v.decorations = [])
    (h : (R.declareAll strict names).result = .ok R') :
    ∀ v ∈ R'.variants, v.decorations = [] := by
  induction names generalizing R with
  | nil =>
    cases h
    exact hR
  | cons name names ih =>
    obtain ⟨_, R₁, h₁, h⟩ := Registry.declareAll_cons.mp h
    refine ih ?_ h
    rcases Registry.declare_ok.mp h₁ with ⟨_, _, rfl⟩ | ⟨_, rfl⟩
    · refine List.forall_mem_map.mpr fun v hv => ?_
      split_ifs
      · rfl
      · exact hR v hv
    · exact List.forall_mem_append.mpr ⟨hR, List.forall_mem_singleton.mpr rfl⟩

end Registry

section Record

variable {r : Record} {o : Options} {R : Registry String} {v : Variant}

/-- **A registered variant has the decorations that its record has for it.** -/
theorem registry_decorations (h : (r.registry o).result = .ok R) (hv : v ∈ R.variants) :
    v.decorations = r.decorations v.name := by
  obtain ⟨_, R₀, routing, h₀, hrouting, rfl⟩ := registry_ok.mp h
  have hcanonical : R₀.canonical = r.name :=
    ((Registry.Undistributed.ofCanonical r.name).declareAll List.mem_cons_self h₀).2
  have hnone := undecorated_declareAll (R := .ofCanonical r.name)
    (List.forall_mem_singleton.mpr rfl) h₀
  rw [variants_route] at hv
  obtain ⟨v₀, hv₀, rfl⟩ := List.mem_map.mp hv
  change v₀.decorations ++ _ = r.decorations v₀.name
  rw [hnone v₀ hv₀, routing_eq hrouting, hcanonical]
  rfl

/-- Fields do not change the decorations of a variant. -/
theorem Derives.decorations_eq {ss : List (Share String)} {F : Family} {V : Variant}
    (h : Derives r o R ss F) (hV : V ∈ F.variants) : V.decorations = r.decorations V.name := by
  obtain ⟨v, hv, rfl⟩ := h.mem_variants.mp hV
  have hdecorations := registry_decorations h.registry hv
  exact hdecorations

end Record

end RecordFamily
