import RecordFamily.Proofs.Decoration

/-!
# Where the annotations of a record go

Each annotation of a record decorates one of its variants: a decoration directive the variant that it
names, and any other annotation the canonical one. None is lost, and a record has no registry only
where a name or a decoration directive is refused.

* `RecordOf.plainNotes`, `decorationFor?`: the annotations that are no decoration directives, and what
  such a directive has for a variant;
* `RecordOf.decorated`, `length_decorations`, `length_flatMap_decorations`: the variants that annotations
  decorate, and how many decorations there are for one variant and for all;
* `RefusesName`, `RefusesNote`, `RecordOf.Refusal`: the errors for a name and for an annotation, and
  that for the first name or annotation which is refused;
* `declareAll_error`, `routing_error`, `registry_error`: the registry fails with that error;
* `RecordOf.RoutesTo`: a registry with the annotations of its record;
* **`annotations_routed`**: every registry of a record is one, and without one there is a refusal.
-/

namespace RecordFamily

open List

/-! ## Decorations of a variant -/

/-- The annotations that decorate the canonical record as they stand. -/
def RecordOf.plainNotes (r : Record) : List String :=
  r.annotations.filter fun note => Directive.head? note ≠ some decorationWord

/-- The decoration that an annotation has for the variant of a name, if it is a directive for it. -/
def decorationFor? (variant note : String) : Option String :=
  (decoration? note).bind fun d => if variant = d.1 then some d.2 else none

/-- The variants that the annotations decorate, as often as they do. -/
def RecordOf.decorated (r : Record) : List String :=
  r.plainNotes.map (fun _ => r.name) ++ (r.annotations.filterMap decoration?).map Prod.fst

section Decorations

variable {r : Record} {note variant decoration : String}

theorem decoration?_iff : decoration? note = some (variant, decoration) ↔
    Directive.head? note = some decorationWord ∧ Decorates note variant decoration := by
  unfold decoration?
  by_cases hin : Directive.isIn recordWords note = true
  · rw [if_pos hin, and_iff_right (isIn_recordWords.mp hin)]
    cases hd : Directive.parse note with
    | ok d =>
      rw [decorates_iff hd]
      rfl
    | error e =>
      refine iff_of_false nofun ?_
      rintro ⟨d, hd', _⟩
      rw [hd] at hd'
      cases hd'
  · rw [if_neg hin]
    exact iff_of_false nofun fun h => hin (isIn_recordWords.mpr h.1)

theorem decorationFor?_iff : decorationFor? variant note = some decoration ↔
    Directive.head? note = some decorationWord ∧ Decorates note variant decoration := by
  rw [← decoration?_iff, decorationFor?, Option.bind_eq_some_iff]
  constructor
  · rintro ⟨⟨target, text⟩, hd, h⟩
    split_ifs at h with htarget
    cases h
    rw [hd, htarget]
  · intro hd
    exact ⟨_, hd, if_pos rfl⟩

theorem plainNotes_eq (r : Record) :
    r.plainNotes = r.annotations.filter fun note => !Directive.isIn recordWords note := by
  refine List.filter_congr fun note _ => ?_
  rw [Bool.eq_iff_iff, Bool.not_eq_true', ← Bool.not_eq_true, isIn_recordWords, decide_eq_true_iff]

/-- **The decorations for a variant**: annotations as they stand, if it is the canonical one, and then
what directives have for it. -/
theorem decorations_eq_routed (r : Record) (name : String) : r.decorations name =
    (if name = r.name then r.plainNotes else []) ++ r.annotations.filterMap (decorationFor? name) := by
  have hnamed : ∀ notes : List String, ((notes.filterMap decoration?).filter fun d =>
      name == d.1).map Prod.snd = notes.filterMap (decorationFor? name) := by
    intro notes
    induction notes with
    | nil => rfl
    | cons note notes ih =>
      cases hd : decoration? note with
      | none => simp [decorationFor?, hd, ih]
      | some d =>
        by_cases hname : name = d.1
        · have hsome : decorationFor? name note = some d.2 := by simp [decorationFor?, hd, hname]
          simp [hd, hsome, ← ih, ← hname]
        · simp [decorationFor?, hd, hname, ih]
  rw [RecordOf.decorations, plainNotes_eq, hnamed]

/-! ## How many decorations there are -/

theorem length_decorations (r : Record) (name : String) :
    (r.decorations name).length = r.decorated.count name := by
  have hplain : (r.plainNotes.map fun _ => r.name).count name =
      (if name = r.name then r.plainNotes else []).length := by
    rw [List.map_const', List.count_replicate]
    by_cases hname : name = r.name
    · simp [hname]
    · simp [hname, Ne.symm hname]
  have htargeted : ((r.annotations.filterMap decoration?).map Prod.fst).count name =
      ((r.annotations.filterMap decoration?).filter fun d => name == d.1).length := by
    rw [List.count, List.countP_map, List.countP_eq_length_filter]
    exact congrArg List.length (List.filter_congr fun d _ => BEq.comm)
  rw [RecordOf.decorations, ← plainNotes_eq, RecordOf.decorated, List.length_append, List.length_map,
    List.count_append, hplain, htargeted]

/-- Each annotation decorates one variant where every directive among them names one. -/
theorem length_decorated (hnotes : ∀ note ∈ r.annotations,
    Directive.head? note = some decorationWord →
      ∃ variant decoration, Decorates note variant decoration) :
    r.decorated.length = r.annotations.length := by
  have hsome : ∀ note ∈ r.annotations, (decoration? note).isSome = true ↔
      ¬ (!Directive.isIn recordWords note) = true := by
    intro note hnote
    rw [Bool.not_eq_true', Bool.not_eq_false, isIn_recordWords, Option.isSome_iff_exists]
    constructor
    · rintro ⟨⟨variant, decoration⟩, hd⟩
      exact (decoration?_iff.mp hd).1
    · intro hhead
      obtain ⟨variant, decoration, h⟩ := hnotes note hnote hhead
      exact ⟨_, decoration?_iff.mpr ⟨hhead, h⟩⟩
  rw [RecordOf.decorated, plainNotes_eq, List.length_append, List.length_map, List.length_map,
    List.length_filterMap_eq_countP, ← List.countP_eq_length_filter,
    List.length_eq_countP_add_countP fun note => !Directive.isIn recordWords note]
  exact congrArg _ (List.countP_congr fun note hnote => (hsome note hnote).trans (by simp))

/-- Items that are all among distinct names are found once each when they are looked for by name. -/
theorem length_flatMap_filter {names items : List String} (hnames : names.Nodup)
    (hitems : ∀ a ∈ items, a ∈ names) :
    (names.flatMap fun n => items.filter fun a => a == n).length = items.length := by
  induction names generalizing items with
  | nil =>
    cases items with
    | nil => rfl
    | cons a items => exact absurd (hitems a List.mem_cons_self) List.not_mem_nil
  | cons n names ih =>
    obtain ⟨hn, hnames⟩ := List.nodup_cons.mp hnames
    have hothers : ∀ a ∈ items.filter (fun a => !(a == n)), a ∈ names := by
      intro a ha
      obtain ⟨ha, hne⟩ := List.mem_filter.mp ha
      exact (List.mem_cons.mp (hitems a ha)).resolve_left (by simpa using hne)
    -- The items of the other names are not of this one.
    have hkept : ∀ m ∈ names, (items.filter fun a => a == m) =
        (items.filter fun a => !(a == n)).filter fun a => a == m := by
      intro m hm
      rw [List.filter_filter]
      refine List.filter_congr fun a _ => ?_
      by_cases ha : a = m
      · have hne : m ≠ n := fun h => hn (h ▸ hm)
        simp [ha, hne]
      · simp [ha]
    rw [List.flatMap_cons, List.length_append, List.flatMap_congr hkept, ih hnames hothers,
      ← List.length_eq_length_filter_add]

end Decorations

/-! ## Refused names and annotations -/

/-- The names are distinct where this is asked for, and all of them are valid. -/
def OptionsOf.AcceptsNames (o : Options) (names : List String) : Prop :=
  (∀ name ∈ names, isValidName name = true) ∧ (o.strictVariants = true → names.Nodup)

/-- The annotation is no decoration directive, or one for a declared variant. -/
def RecordOf.AcceptsNote (r : Record) (note : String) : Prop :=
  Directive.head? note = some decorationWord →
    ∃ variant decoration, Decorates note variant decoration ∧ variant ∈ r.declared

/-- The error for a name after the names in `earlier`. -/
inductive RefusesName (strict : Bool) (earlier : List String) (name : String) :
    DerivationError → Prop where
  | invalid (hname : isValidName name = false) :
    RefusesName strict earlier name (.invalidVariantName name)
  | repeated (hname : isValidName name = true) (hstrict : strict = true) (hmem : name ∈ earlier) :
    RefusesName strict earlier name (.duplicateVariant name)

/-- The error for a decoration directive among the declared names. -/
inductive RefusesNote (declared : List String) (note : String) : DerivationError → Prop where
  | unreadable {e : DerivationError} (hnote : Directive.parse note = .error e) :
    RefusesNote declared note e
  /-- It is no call, or no call with two texts. -/
  | otherShape {d : Directive} (hnote : Directive.parse note = .ok d)
    (hshape : ¬ (d.hasCall = true ∧ d.args.length = 2)) :
    RefusesNote declared note (.badDecoration d.text)
  | undeclared {variant decoration : String} (hnote : Decorates note variant decoration)
    (hvariant : variant ∉ declared) : RefusesNote declared note (.undeclaredVariant variant)

/-- **The error for the first name or annotation that is refused.** All names come before all
annotations. -/
inductive RecordOf.Refusal (r : Record) (o : Options) : DerivationError → Prop where
  | name {before after : List String} {name : String} {e : DerivationError}
    (hdeclared : r.declared = before ++ name :: after) (hbefore : o.AcceptsNames before)
    (hname : RefusesName o.strictVariants before name e) : r.Refusal o e
  | note {before after : List String} {note : String} {e : DerivationError}
    (hnames : o.AcceptsNames r.declared) (hnotes : r.annotations = before ++ note :: after)
    (hbefore : ∀ n ∈ before, r.AcceptsNote n)
    (hhead : Directive.head? note = some decorationWord)
    (hnote : RefusesNote r.declared note e) : r.Refusal o e

section Names

variable {R R' : Registry String} {strict : Bool} {name : String} {names : List String} {f : Failure}

theorem RefusesName.congr {earlier earlier' : List String} (h : ∀ n, n ∈ earlier ↔ n ∈ earlier')
    {e : DerivationError} : RefusesName strict earlier name e ↔ RefusesName strict earlier' name e := by
  constructor
  · rintro (hname | ⟨hname, hstrict, hmem⟩)
    · exact .invalid hname
    · exact .repeated hname hstrict ((h name).mp hmem)
  · rintro (hname | ⟨hname, hstrict, hmem⟩)
    · exact .invalid hname
    · exact .repeated hname hstrict ((h name).mpr hmem)

/-- Checks and declares one name. -/
def Registry.declareNamed (strict : Bool) (R : Registry String) (name : String) :
    Except Failure (Registry String) :=
  (checkVariantName name).result >>= fun _ => (R.declare name strict).result

theorem declareAll_result : (R.declareAll strict names).result =
    names.foldlM (Registry.declareNamed strict) R := by
  induction names generalizing R with
  | nil => rfl
  | cons name names ih =>
    rw [Registry.declareAll, List.foldlM_cons, Registry.declareNamed]
    simp only [Outcome.bind_result, ih, bind_assoc]

theorem checkVariantName_error : (checkVariantName name).result = .error f ↔
    isValidName name = false ∧ f = .derivation (.invalidVariantName name) := by
  have hnamed : isNamed name = isValidName name := rfl
  cases hname : isValidName name with
  | true => simp [checkVariantName, hnamed, hname]
  | false => simp [checkVariantName, hnamed, hname, eq_comm]

theorem declare_error : (R.declare name strict).result = .error f ↔
    strict = true ∧ name ∈ R.names ∧ f = .derivation (.duplicateVariant name) := by
  rw [Registry.declare, ← Registry.contains_iff]
  by_cases hmem : R.contains name = true
  · cases strict with
    | true => simp [hmem, eq_comm]
    | false => simp [hmem, Outcome.bind_error]
  · simp [hmem]

theorem declareNamed_error : R.declareNamed strict name = .error f ↔
    ∃ e, RefusesName strict R.names name e ∧ f = .derivation e := by
  rw [Registry.declareNamed, bind_eq_error, checkVariantName_error]
  constructor
  · rintro (⟨hname, rfl⟩ | ⟨_, hname, h⟩)
    · exact ⟨_, .invalid hname, rfl⟩
    · obtain ⟨hstrict, hmem, rfl⟩ := declare_error.mp h
      exact ⟨_, .repeated (Registry.checkVariantName_ok.mp hname) hstrict hmem, rfl⟩
  · rintro ⟨_, hname | ⟨hname, hstrict, hmem⟩, rfl⟩
    · exact .inl ⟨hname, rfl⟩
    · exact .inr ⟨(), Registry.checkVariantName_ok.mpr hname, declare_error.mpr ⟨hstrict, hmem, rfl⟩⟩

/-- **Declarations fail at the first name that is refused.** -/
theorem declareAll_error : (R.declareAll strict names).result = .error f ↔
    ∃ before name after R', names = before ++ name :: after ∧
      (R.declareAll strict before).result = .ok R' ∧
        ∃ e, RefusesName strict R'.names name e ∧ f = .derivation e := by
  simp only [declareAll_result, foldlM_eq_error, declareNamed_error]

end Names

section Notes

variable {R : Registry String} {r : Record} {routing : Routing String} {note : String}
  {notes : List String} {e : DerivationError}

theorem decoration?_eq_none {d : Directive} :
    d.decoration? = none ↔ ¬ (d.hasCall = true ∧ d.args.length = 2) := by
  unfold Directive.decoration?
  split
  · next hcall hargs => simp [hcall, hargs]
  · next hother =>
    refine iff_of_true rfl fun ⟨hcall, hlength⟩ => ?_
    obtain ⟨variant, decoration, hargs⟩ := List.length_eq_two.mp hlength
    exact hother variant decoration hcall hargs

theorem addDirective_error {d : Directive} : routing.addDirective R d = .error e ↔
    ¬ (d.hasCall = true ∧ d.args.length = 2) ∧ e = .badDecoration d.text ∨
      ∃ variant decoration, d.decoration? = some (variant, decoration) ∧ variant ∉ R.names ∧
        e = .undeclaredVariant variant := by
  rw [← decoration?_eq_none]
  unfold Routing.addDirective
  cases hd : d.decoration? with
  | none => simp [eq_comm]
  | some p =>
    obtain ⟨variant, decoration⟩ := p
    by_cases hmem : variant ∈ R.names
    · simp [Registry.contains_iff.mpr hmem, hmem]
    · have hcontains : ¬ R.contains variant = true := fun h => hmem (Registry.contains_iff.mp h)
      simp [hcontains, hmem, eq_comm]

/-- **An annotation is refused** when it is a decoration directive that names no declared variant. -/
theorem addRouting_error (hR : ∀ n, n ∈ R.names ↔ n ∈ r.declared) :
    Routing.add R routing note = .error e ↔
      Directive.head? note = some decorationWord ∧ RefusesNote r.declared note e := by
  rw [Routing.add_string]
  by_cases hin : Directive.isIn recordWords note = true
  · rw [if_pos hin, and_iff_right (isIn_recordWords.mp hin), bind_eq_error]
    constructor
    · rintro (hd | ⟨d, hd, h⟩)
      · exact .unreadable hd
      · rcases addDirective_error.mp h with ⟨hshape, rfl⟩ | ⟨variant, decoration, hsome, hnot, rfl⟩
        · exact .otherShape hd hshape
        · exact .undeclared ((decorates_iff hd).mpr hsome) fun h => hnot ((hR variant).mpr h)
    · rintro (hd | ⟨hd, hshape⟩ | ⟨h, hvariant⟩)
      · exact .inl hd
      · exact .inr ⟨_, hd, addDirective_error.mpr (.inl ⟨hshape, rfl⟩)⟩
      · obtain ⟨d, hd, hcall⟩ := h
        have hnot := fun h => hvariant ((hR _).mp h)
        have hsome := decoration?_eq_some.mpr hcall
        exact .inr ⟨d, hd, addDirective_error.mpr (.inr ⟨_, _, hsome, hnot, rfl⟩)⟩
  · rw [if_neg hin]
    exact iff_of_false nofun fun h => hin (isIn_recordWords.mpr h.1)

theorem succeeds_routing_iff (hR : ∀ n, n ∈ R.names ↔ n ∈ r.declared) :
    Succeeds (notes.foldlM (Routing.add R) routing) ↔ ∀ note ∈ notes, r.AcceptsNote note := by
  rw [(decides_routing hR).succeeds_iff, List.forall_mem_flatMap]
  exact forall₂_congr fun _ _ => routingChecks_iff

end Notes

/-! ## The registry of a record -/

section Record

variable {r : Record} {o : Options} {R : Registry String} {f : Failure}

theorem succeeds_declareAll_iff {names : List String} (hname : isValidName r.name = true) :
    Succeeds ((Registry.ofCanonical r.name).declareAll o.strictVariants names).result ↔
      o.AcceptsNames (r.name :: names) := by
  have hchecks : Decides (variantChecks o.strictVariants [r.name] names)
      ((Registry.ofCanonical r.name).declareAll o.strictVariants names).result :=
    decides_declareAll fun _ => .rfl
  rw [hchecks.succeeds_iff, variantChecks_iff, OptionsOf.AcceptsNames, List.forall_mem_cons,
    List.nodup_cons]
  simp only [List.mem_singleton]
  constructor
  · rintro ⟨hnames, hstrict⟩
    refine ⟨⟨hname, hnames⟩, fun hs => ?_⟩
    obtain ⟨hnodup, hnew⟩ := hstrict hs
    exact ⟨fun hmem => hnew _ hmem rfl, hnodup⟩
  · rintro ⟨⟨_, hnames⟩, hstrict⟩
    refine ⟨hnames, fun hs => ?_⟩
    obtain ⟨hnew, hnodup⟩ := hstrict hs
    exact ⟨hnodup, fun n hn he => hnew (he ▸ hn)⟩

theorem mem_names_before {before : List String} (h : ((Registry.ofCanonical r.name).declareAll
    o.strictVariants before).result = .ok R) : ∀ n, n ∈ R.names ↔ n ∈ r.name :: before :=
  mem_names_declareAll (r := { r with variants := before }) h

theorem refusal_of_registry (h : (r.registry o).result = .error f) :
    ∃ e, r.Refusal o e ∧ f = .derivation e := by
  rw [RecordOf.registry] at h
  rcases Outcome.bind_error.mp h with h | ⟨_, hname, h⟩
  · -- Its own name is refused.
    obtain ⟨hname, rfl⟩ := checkVariantName_error.mp h
    have hnone : o.AcceptsNames [] := ⟨List.forall_mem_nil _, fun _ => List.nodup_nil⟩
    have hfirst : r.declared = [] ++ r.name :: r.variants := rfl
    exact ⟨_, .name hfirst hnone (.invalid hname), rfl⟩
  have hvalid : isValidName r.name = true := Registry.checkVariantName_ok.mp hname
  rcases Outcome.bind_error.mp h with h | ⟨R, hR, h⟩
  · -- The name of another variant is refused.
    obtain ⟨before, name, after, R', hsplit, hR', e, he, rfl⟩ := declareAll_error.mp h
    have hdeclared : r.declared = (r.name :: before) ++ name :: after := by
      rw [RecordOf.declared, hsplit, List.cons_append]
    exact ⟨e, .name hdeclared ((succeeds_declareAll_iff hvalid).mp ⟨R', hR'⟩)
      ((RefusesName.congr (mem_names_before hR')).mp he), rfl⟩
  rcases Outcome.bind_error.mp h with h | ⟨_, _, h⟩
  · -- An annotation is refused.
    obtain ⟨e, he, rfl⟩ := mapError_eq_error.mp h
    obtain ⟨before, note, after, routing, hsplit, hrouting, he⟩ := foldlM_eq_error.mp he
    have hmem := mem_names_declareAll hR
    obtain ⟨hhead, hnote⟩ := (addRouting_error hmem).mp he
    exact ⟨e, .note ((succeeds_declareAll_iff hvalid).mp ⟨R, hR⟩) hsplit
      ((succeeds_routing_iff hmem).mp ⟨routing, hrouting⟩) hhead hnote, rfl⟩
  · cases h

theorem registry_of_refusal {e : DerivationError} (h : r.Refusal o e) :
    (r.registry o).result = .error (.derivation e) := by
  rw [RecordOf.registry]
  cases h with
  | @name before after name _ hdeclared hbefore hname =>
    cases before with
    | nil =>
      obtain ⟨rfl, _⟩ := List.cons.inj hdeclared
      cases hname with
      | invalid hname => exact Outcome.bind_error.mpr (.inl (checkVariantName_error.mpr ⟨hname, rfl⟩))
      | repeated _ _ hmem => cases hmem
    | cons c before =>
      obtain ⟨rfl, hsplit⟩ := List.cons.inj hdeclared
      have hvalid := hbefore.1 r.name List.mem_cons_self
      obtain ⟨R', hR'⟩ := (succeeds_declareAll_iff hvalid).mpr hbefore
      have herror := declareAll_error.mpr ⟨before, name, after, R', hsplit, hR', e,
        (RefusesName.congr (mem_names_before hR')).mpr hname, rfl⟩
      have hcheck : (checkVariantName r.name).result = .ok () :=
        Registry.checkVariantName_ok.mpr hvalid
      rw [Outcome.result_bind hcheck]
      exact Outcome.bind_error.mpr (.inl herror)
  | @note before after note _ hnames hnotes hbefore hhead hnote =>
    have hvalid := hnames.1 r.name List.mem_cons_self
    obtain ⟨R, hR⟩ := (succeeds_declareAll_iff hvalid).mpr hnames
    have hmem := mem_names_declareAll hR
    have haccepted : Succeeds (before.foldlM (Routing.add R) {}) :=
      (succeeds_routing_iff hmem).mpr hbefore
    obtain ⟨routing, hrouting⟩ := haccepted
    have herror := foldlM_eq_error.mpr ⟨before, note, after, routing, hnotes, hrouting,
      (addRouting_error hmem).mpr ⟨hhead, hnote⟩⟩
    have hcheck : (checkVariantName r.name).result = .ok () :=
      Registry.checkVariantName_ok.mpr hvalid
    rw [Outcome.result_bind hcheck, Outcome.result_bind hR]
    exact Outcome.bind_error.mpr (.inl (mapError_eq_error.mpr ⟨e, herror, rfl⟩))

/-- **A record has no registry exactly where a name or an annotation is refused.** -/
theorem registry_error : (r.registry o).result = .error f ↔
    ∃ e, r.Refusal o e ∧ f = .derivation e := by
  constructor
  · exact refusal_of_registry
  · rintro ⟨e, h, rfl⟩
    exact registry_of_refusal h

theorem registry_accepts (h : (r.registry o).result = .ok R) :
    ∀ note ∈ r.annotations, r.AcceptsNote note := by
  intro note hnote
  refine routingChecks_iff.mp fun c hc => (decides_registry r o).holds R h c ?_
  exact List.mem_append_right _ (List.mem_append_right _ (List.mem_flatMap.mpr ⟨note, hnote, hc⟩))

/-- **There are as many decorations as annotations.** -/
theorem length_flatMap_decorations (h : (r.registry o).result = .ok R) :
    (R.variants.flatMap VariantOf.decorations).length = r.annotations.length := by
  have haccepts := registry_accepts h
  have hcounts : (R.variants.flatMap VariantOf.decorations).length =
      (R.names.flatMap fun n => r.decorated.filter fun m => m == n).length := by
    rw [List.length_flatMap, List.length_flatMap, Registry.names, List.map_map]
    refine congrArg List.sum (List.map_congr_left fun v hv => ?_)
    rw [registry_decorations h hv, length_decorations, List.count_eq_length_filter]
    rfl
  have howners : ∀ n ∈ r.decorated, n ∈ R.names := by
    intro n hn
    rw [mem_names_registry h]
    rcases List.mem_append.mp hn with hn | hn
    · obtain ⟨_, _, rfl⟩ := List.mem_map.mp hn
      exact List.mem_cons_self
    · obtain ⟨⟨variant, decoration⟩, hd, rfl⟩ := List.mem_map.mp hn
      obtain ⟨note, hnote, hd⟩ := List.mem_filterMap.mp hd
      obtain ⟨variant', decoration', h', hdeclared⟩ := haccepts note hnote (decoration?_iff.mp hd).1
      rw [decoration?_iff.mpr ⟨(decoration?_iff.mp hd).1, h'⟩] at hd
      cases hd
      exact hdeclared
  rw [hcounts, length_flatMap_filter (registry_nodup h) howners]
  refine length_decorated fun note hnote hhead => ?_
  obtain ⟨variant, decoration, hnote, _⟩ := haccepts note hnote hhead
  exact ⟨variant, decoration, hnote⟩

/-- **The registry has the annotations of the record, and has all of them.** -/
structure RecordOf.RoutesTo (r : Record) (R : Registry String) : Prop where
  names : R.names = firstOccurrences [] r.declared
  marked : ∀ v ∈ R.variants, v.isCanonical = (v.name == r.name)
  canonical : ∀ v ∈ R.variants, v.name = r.name →
    v.decorations = r.plainNotes ++ r.annotations.filterMap (decorationFor? r.name)
  other : ∀ v ∈ R.variants, v.name ≠ r.name →
    v.decorations = r.annotations.filterMap (decorationFor? v.name)
  /-- A directive has its second text for the variant that its first one names. -/
  directive : ∀ variant note decoration, decorationFor? variant note = some decoration ↔
    Directive.head? note = some decorationWord ∧ Decorates note variant decoration
  total : (R.variants.flatMap VariantOf.decorations).length = r.annotations.length

end Record

/-- **Annotations are routed without loss**: a registry has all of them, each with its variant and in
order, and a record without a registry has a name or an annotation that is refused, the first of which
decides the error. -/
theorem annotations_routed (r : Record) (o : Options) :
    (∀ R, (r.registry o).result = .ok R → r.RoutesTo R) ∧
      ∀ f, (r.registry o).result = .error f ↔ ∃ e, r.Refusal o e ∧ f = .derivation e := by
  refine ⟨fun R h => ?_, fun f => registry_error⟩
  obtain ⟨hundistributed, hcanonical⟩ := registry_undistributed h
  refine ⟨registry_names h, ?_, ?_, ?_, fun _ _ _ => decorationFor?_iff,
    length_flatMap_decorations h⟩
  · rw [← hcanonical]
    exact hundistributed.marked
  · intro v hv hname
    rw [registry_decorations h hv, decorations_eq_routed, if_pos hname, hname]
  · intro v hv hname
    rw [registry_decorations h hv, decorations_eq_routed, if_neg hname, List.nil_append]

/-- An article whose annotations take turns. -/
def annotatedArticle : Record :=
  { sampleArticle with
    annotations := ["attr_for('Draft', 'a(\"b\")')", "attr_for_all", "attr_for (\"Article\", '@c',)",
      "attr_for.x('Draft', 'd')", "attr_for('Draft', 'e')"] }

theorem annotations_routed_article : (∃ R, (annotatedArticle.registry {}).result = .ok R ∧
    R.variants.map (fun v => (v.name, v.decorations)) =
      [("Article", ["attr_for_all", "attr_for.x('Draft', 'd')", "@c"]),
        ("Draft", ["a(\"b\")", "e"]), ("ArticleCard", [])] ∧ annotatedArticle.RoutesTo R) ∧
    ({ annotatedArticle with variants := ["ArticleCard"] } : Record).Refusal {}
      (.undeclaredVariant "Draft") := by
  have hyields : (annotatedArticle.registry {}).yields (fun R =>
      R.variants.map (fun v => (v.name, v.decorations)) =
        [("Article", ["attr_for_all", "attr_for.x('Draft', 'd')", "@c"]),
          ("Draft", ["a(\"b\")", "e"]), ("ArticleCard", [])]) = true := by decide +kernel
  obtain ⟨R, hR, hvariants⟩ := Outcome.yields_iff.mp hyields
  refine ⟨⟨R, hR, of_decide_eq_true hvariants, (annotations_routed annotatedArticle {}).1 R hR⟩, ?_⟩
  have herror : (({ annotatedArticle with variants := ["ArticleCard"] } : Record).registry {}).result =
      .error (.derivation (.undeclaredVariant "Draft")) := by decide +kernel
  obtain ⟨e, hrefusal, he⟩ := ((annotations_routed _ {}).2 _).mp herror
  cases he
  exact hrefusal

end RecordFamily
