import Mathlib.Data.List.Forall2
import RecordFamily.Outcome

/-!
# Results of chained steps

What a chain of steps results in, from what each of its steps results in.

* `map_eq_of_forall₂`, `exists_of_forall₂`: lists whose items correspond one by one;
* `bind_eq_ok`, `bind_eq_error`, `mapError_eq_ok`, `mapM_eq_ok`, `foldlM_eq_error`: chains, changes of
  the failure and walks along a list, where a step has a result or a failure;
* `Succeeds`, `Controlled`: steps that have a result, and steps that fail with derivation errors alone;
* `Outcome.bind_ok`, `Outcome.bind_error`, `Outcome.bind_congr`, `Outcome.controlled_bind`: chains of
  steps that leave notices, too;
* `Outcome.warnings_bind`: the warnings of a chain;
* `Outcome.yields`: a test of the result, for steps that are computed.
-/

namespace RecordFamily

variable {α β ε ε' : Type}

/-! ## Lists whose items correspond -/

section Corresponding

variable {γ : Type} {Rel : α → β → Prop} {as : List α} {bs : List β}

theorem map_eq_of_forall₂ {f : α → γ} {g : β → γ}
    (h : List.Forall₂ (fun a b => g b = f a) as bs) : bs.map g = as.map f := by
  induction h with
  | nil => rfl
  | cons hab _ ih => rw [List.map_cons, List.map_cons, hab, ih]

theorem exists_of_forall₂ (h : List.Forall₂ Rel as bs) {a : α} (ha : a ∈ as) :
    ∃ b ∈ bs, Rel a b := by
  induction h with
  | nil => cases ha
  | @cons a' b _ _ hab _ ih =>
    rcases List.mem_cons.mp ha with rfl | ha
    · exact ⟨b, List.mem_cons_self, hab⟩
    · obtain ⟨b, hb, hab⟩ := ih ha
      exact ⟨b, List.mem_cons_of_mem _ hb, hab⟩

end Corresponding

/-! ## Results and failures -/

theorem bind_eq_ok {x : Except ε α} {f : α → Except ε β} {b : β} :
    (x >>= f) = .ok b ↔ ∃ a, x = .ok a ∧ f a = .ok b := by
  cases x <;> simp [bind, Except.bind]

theorem ok_bind (a : α) (f : α → Except ε β) : (Except.ok a >>= f) = f a := rfl

theorem bind_eq_error {x : Except ε α} {f : α → Except ε β} {e : ε} :
    (x >>= f) = .error e ↔ x = .error e ∨ ∃ a, x = .ok a ∧ f a = .error e := by
  cases x <;> simp [bind, Except.bind]

theorem check_eq_ok {x : Except ε Unit} {y : Except ε β} {b : β} :
    (x >>= fun _ => y) = .ok b ↔ x = .ok () ∧ y = .ok b := by
  rw [bind_eq_ok]
  exact ⟨fun ⟨_, hx, hy⟩ => ⟨hx, hy⟩, fun ⟨hx, hy⟩ => ⟨(), hx, hy⟩⟩

theorem mapError_eq_ok {x : Except ε α} {f : ε → ε'} {a : α} :
    x.mapError f = .ok a ↔ x = .ok a := by
  cases x <;> simp [Except.mapError]

theorem mapError_eq_error {x : Except ε α} {f : ε → ε'} {e' : ε'} :
    x.mapError f = .error e' ↔ ∃ e, x = .error e ∧ f e = e' := by
  cases x <;> simp [Except.mapError]

theorem mapError_bind (x : Except ε α) (f : α → Except ε β) (g : ε → ε') :
    (x >>= f).mapError g = x.mapError g >>= fun a => (f a).mapError g := by
  cases x <;> rfl

theorem map_eq_ok {x : Except ε α} {f : α → β} {b : β} :
    x.map f = .ok b ↔ ∃ a, x = .ok a ∧ f a = b := by
  cases x <;> simp [Except.map]

theorem map_eq_error {x : Except ε α} {f : α → β} {e : ε} :
    x.map f = .error e ↔ x = .error e := by
  cases x <;> simp [Except.map]

theorem mapM_eq_ok {f : α → Except ε β} {as : List α} {bs : List β} :
    as.mapM f = .ok bs ↔ List.Forall₂ (fun a b => f a = .ok b) as bs := by
  induction as generalizing bs with
  | nil =>
    rw [List.mapM_nil, List.forall₂_nil_left_iff]
    exact ⟨fun h => (Except.ok.inj h).symm, fun h => congrArg Except.ok h.symm⟩
  | cons a as ih =>
    rw [List.mapM_cons, bind_eq_ok, List.forall₂_cons_left_iff]
    constructor
    · rintro ⟨b, hb, h⟩
      obtain ⟨bs', hbs, h⟩ := bind_eq_ok.mp h
      exact ⟨b, bs', hb, ih.mp hbs, (Except.ok.inj h).symm⟩
    · rintro ⟨b, bs', hb, hbs, rfl⟩
      exact ⟨b, hb, bind_eq_ok.mpr ⟨bs', ih.mpr hbs, rfl⟩⟩

theorem mapM_ok {f : α → Except ε β} {g : α → β} {as : List α} (h : ∀ a ∈ as, f a = .ok (g a)) :
    as.mapM f = .ok (as.map g) := by
  rw [mapM_eq_ok, List.forall₂_map_right_iff, List.forall₂_same]
  exact h

theorem exists_mem_of_mapM {f : α → Except ε β} {as : List α} {bs : List β}
    (h : as.mapM f = .ok bs) {a : α} (ha : a ∈ as) : ∃ b ∈ bs, f a = .ok b :=
  exists_of_forall₂ (mapM_eq_ok.mp h) ha

/-- What each step tells of its result is told of all results, in order. -/
theorem map_eq_of_mapM {γ : Type} {f : α → Except ε β} {g : β → γ} {k : α → γ} {as : List α}
    {bs : List β} (h : as.mapM f = .ok bs) (hk : ∀ a b, f a = .ok b → g b = k a) :
    bs.map g = as.map k :=
  map_eq_of_forall₂ ((mapM_eq_ok.mp h).imp hk)

/-- What every step keeps, a run along a list keeps. -/
theorem foldlM_invariant {P : β → Prop} {f : β → α → Except ε β}
    (step : ∀ b a b', P b → f b a = .ok b' → P b') {as : List α} {b b' : β} (hb : P b)
    (h : as.foldlM f b = .ok b') : P b' := by
  induction as generalizing b with
  | nil =>
    cases h
    exact hb
  | cons a as ih =>
    rw [List.foldlM_cons] at h
    obtain ⟨c, hc, h⟩ := bind_eq_ok.mp h
    exact ih (step b a c hb hc) h

/-- **A run along a list fails where its first failing step does.** -/
theorem foldlM_eq_error {f : β → α → Except ε β} {as : List α} {b : β} {e : ε} :
    as.foldlM f b = .error e ↔ ∃ before a after c, as = before ++ a :: after ∧
      before.foldlM f b = .ok c ∧ f c a = .error e := by
  induction as generalizing b with
  | nil => simp [pure, Except.pure]
  | cons a as ih =>
    rw [List.foldlM_cons, bind_eq_error]
    constructor
    · rintro (h | ⟨b', hb, h⟩)
      · exact ⟨[], a, as, b, rfl, rfl, h⟩
      · obtain ⟨before, a', after, c, rfl, hc, he⟩ := ih.mp h
        refine ⟨a :: before, a', after, c, rfl, ?_, he⟩
        rw [List.foldlM_cons]
        exact bind_eq_ok.mpr ⟨b', hb, hc⟩
    · rintro ⟨before, a', after, c, hsplit, hc, he⟩
      cases before with
      | nil =>
        obtain ⟨rfl, rfl⟩ := List.cons.inj hsplit
        cases hc
        exact .inl he
      | cons _ before =>
        obtain ⟨rfl, rfl⟩ := List.cons.inj hsplit
        rw [List.foldlM_cons] at hc
        obtain ⟨b', hb, hc⟩ := bind_eq_ok.mp hc
        exact .inr ⟨b', hb, ih.mpr ⟨before, a', after, c, rfl, hc, he⟩⟩

/-! ## Steps that succeed -/

/-- The step has a result. -/
def Succeeds (x : Except ε α) : Prop := ∃ a, x = .ok a

namespace Succeeds

theorem ok (a : α) : Succeeds (.ok a : Except ε α) := ⟨a, rfl⟩

theorem bind {x : Except ε α} {f : α → Except ε β} (hx : Succeeds x)
    (hf : ∀ a, x = .ok a → Succeeds (f a)) : Succeeds (x >>= f) := by
  obtain ⟨a, ha⟩ := hx
  obtain ⟨b, hb⟩ := hf a ha
  exact ⟨b, bind_eq_ok.mpr ⟨a, ha, hb⟩⟩

theorem map {x : Except ε α} (hx : Succeeds x) (f : α → β) : Succeeds (x.map f) := by
  obtain ⟨a, ha⟩ := hx
  exact ⟨f a, map_eq_ok.mpr ⟨a, ha, rfl⟩⟩

theorem mapError {x : Except ε α} (hx : Succeeds x) (f : ε → ε') : Succeeds (x.mapError f) := by
  obtain ⟨a, ha⟩ := hx
  exact ⟨a, mapError_eq_ok.mpr ha⟩

theorem mapM {f : α → Except ε β} {as : List α} (h : ∀ a ∈ as, Succeeds (f a)) :
    Succeeds (as.mapM f) := by
  induction as with
  | nil => exact ok []
  | cons a as ih =>
    rw [List.mapM_cons]
    obtain ⟨ha, has⟩ := List.forall_mem_cons.mp h
    exact ha.bind fun b _ => (ih has).bind fun bs _ => ok (b :: bs)

end Succeeds

/-! ## Steps under control -/

/-- Nothing but a derivation error ends the step. -/
def Controlled (x : Except Failure α) : Prop := ∀ f, x = .error f → ∃ e, f = .derivation e

namespace Controlled

theorem of_succeeds {x : Except Failure α} (h : Succeeds x) : Controlled x := by
  obtain ⟨a, rfl⟩ := h
  exact fun _ hf => nomatch hf

theorem refuse (e : DerivationError) : Controlled (.error (.derivation e) : Except Failure α) := by
  rintro _ ⟨⟩
  exact ⟨e, rfl⟩

theorem bind {x : Except Failure α} {f : α → Except Failure β} (hx : Controlled x)
    (hf : ∀ a, x = .ok a → Controlled (f a)) : Controlled (x >>= f) := by
  intro e he
  rcases bind_eq_error.mp he with he | ⟨a, ha, he⟩
  · exact hx e he
  · exact hf a ha e he

end Controlled

namespace Outcome

/-! ## Results of steps that leave notices -/

@[simp] theorem pure_result (a : α) : (pure a : Outcome α).result = .ok a := rfl

@[simp] theorem ofExcept_result (x : Except Failure α) : (ofExcept x).result = x := rfl

@[simp] theorem warn_result (w : Warning) : (warn w).result = .ok () := rfl

@[simp] theorem trace_result (t : Trace) : (trace t).result = .ok () := rfl

@[simp] theorem refuse_result (e : DerivationError) :
    (refuse e : Outcome α).result = .error (.derivation e) := rfl

theorem bind_result (x : Outcome α) (f : α → Outcome β) :
    (x >>= f).result = x.result >>= fun a => (f a).result := by
  change (Outcome.bind x f).result = _
  unfold Outcome.bind
  cases x.result <;> rfl

theorem bind_ok {x : Outcome α} {f : α → Outcome β} {b : β} :
    (x >>= f).result = .ok b ↔ ∃ a, x.result = .ok a ∧ (f a).result = .ok b := by
  rw [bind_result, bind_eq_ok]

theorem bind_error {x : Outcome α} {f : α → Outcome β} {e : Failure} :
    (x >>= f).result = .error e ↔
      x.result = .error e ∨ ∃ a, x.result = .ok a ∧ (f a).result = .error e := by
  rw [bind_result, bind_eq_error]

/-- The result of what comes after a step that succeeds is that of the chain. -/
theorem result_bind {x : Outcome α} {a : α} (h : x.result = .ok a) (f : α → Outcome β) :
    (x >>= f).result = (f a).result := by
  rw [bind_result, h]
  rfl

theorem bind_congr {x y : Outcome α} {f g : α → Outcome β} (h : x.result = y.result)
    (hfg : ∀ a, x.result = .ok a → (f a).result = (g a).result) :
    (x >>= f).result = (y >>= g).result := by
  rw [bind_result, bind_result, ← h]
  cases hx : x.result with
  | ok a => exact hfg a hx
  | error e => rfl

theorem controlled_bind {x : Outcome α} {f : α → Outcome β} (hx : Controlled x.result)
    (hf : ∀ a, x.result = .ok a → Controlled (f a).result) : Controlled (x >>= f).result := by
  rw [bind_result]
  exact hx.bind hf

/-! ## Warnings -/

@[simp] theorem warnings_pure (a : α) : (pure a : Outcome α).warnings = [] := rfl

@[simp] theorem warnings_ofExcept (x : Except Failure α) : (ofExcept x).warnings = [] := rfl

@[simp] theorem warnings_warn (w : Warning) : (warn w).warnings = [w] := rfl

@[simp] theorem warnings_trace (t : Trace) : (trace t).warnings = [] := rfl

/-- What comes after a step that succeeds adds its warnings to those of the step. -/
theorem warnings_bind {x : Outcome α} {a : α} (h : x.result = .ok a) (f : α → Outcome β) :
    (x >>= f).warnings = x.warnings ++ (f a).warnings := by
  change (Outcome.bind x f).warnings = _
  unfold Outcome.bind
  rw [h]
  exact List.filterMap_append

/-- The step has a result, and the result passes a test. -/
def yields (x : Outcome α) (test : α → Bool) : Bool :=
  match x.result with
  | .ok a => test a
  | .error _ => false

theorem yields_iff {x : Outcome α} {test : α → Bool} :
    x.yields test = true ↔ ∃ a, x.result = .ok a ∧ test a = true := by
  unfold yields
  cases x.result <;> simp

end Outcome

end RecordFamily
