import RecordFamily.Proofs.Outcome

/-!
# Checks in order

A step that may refuse its input goes through conditions in a fixed order, and fails in the class of
the first one that is violated. Chains of such steps have the conditions of their parts, in order.

* `Check`: a condition and the class of its violations;
* `FirstViolated`: the class of the first violated check among several, with `FirstViolated.unique` and
  `FirstViolated.exists_iff`;
* `FirstViolated.cons_iff`, `FirstViolated.append_iff`, `FirstViolated.flatMap_iff`: where among the
  parts of a list the first violated check stands;
* **`Decides`**: a list of checks that decides whether a step succeeds, and how it fails;
* `Decides.pass`, `Decides.refused`, `Decides.guard`: a check in front of a step that holds, is violated,
  or is tested;
* `Decides.bind`, `Decides.mapError`: the checks of a chain of steps, and of a step whose failures are
  wrapped.
-/

namespace RecordFamily

/-- A condition, and the class of the errors that tell of its violation. -/
structure Check where
  holds : Prop
  kind : ErrorKind

/-- **The first violated check** of the list has the class. -/
inductive FirstViolated : List Check → ErrorKind → Prop where
  | here {c : Check} {cs : List Check} (h : ¬ c.holds) : FirstViolated (c :: cs) c.kind
  | later {c : Check} {cs : List Check} {k : ErrorKind} (h : c.holds)
    (hlater : FirstViolated cs k) : FirstViolated (c :: cs) k

namespace FirstViolated

variable {cs cs' : List Check} {k k' : ErrorKind}

/-- No two classes are first. -/
theorem unique (h : FirstViolated cs k) (h' : FirstViolated cs k') : k = k' := by
  induction h with
  | here hc =>
    cases h' with
    | here => rfl
    | later hc' => exact absurd hc' hc
  | later hc _ ih =>
    cases h' with
    | here hc' => exact absurd hc hc'
    | later _ h' => exact ih h'

theorem exists_iff : (∃ k, FirstViolated cs k) ↔ ¬ ∀ c ∈ cs, c.holds := by
  induction cs with
  | nil => exact iff_of_false (fun ⟨_, h⟩ => nomatch h) (fun h => h (List.forall_mem_nil _))
  | cons c cs ih =>
    rw [List.forall_mem_cons]
    by_cases hc : c.holds
    · rw [and_iff_right hc, ← ih]
      constructor
      · rintro ⟨k, h⟩
        cases h with
        | here hn => exact absurd hc hn
        | later _ h => exact ⟨k, h⟩
      · rintro ⟨k, h⟩
        exact ⟨k, .later hc h⟩
    · exact iff_of_true ⟨_, .here hc⟩ fun h => hc h.1

theorem append_right (h : FirstViolated cs k) : FirstViolated (cs ++ cs') k := by
  induction h with
  | here hc => exact .here hc
  | later hc _ ih => exact .later hc ih

theorem append_left (hcs : ∀ c ∈ cs, c.holds) (h : FirstViolated cs' k) :
    FirstViolated (cs ++ cs') k := by
  induction cs with
  | nil => exact h
  | cons c cs ih =>
    obtain ⟨hc, hcs⟩ := List.forall_mem_cons.mp hcs
    exact .later hc (ih hcs)

theorem cons_iff {c : Check} :
    FirstViolated (c :: cs) k ↔ ¬ c.holds ∧ c.kind = k ∨ c.holds ∧ FirstViolated cs k := by
  constructor
  · intro h
    cases h with
    | here hc => exact .inl ⟨hc, rfl⟩
    | later hc h => exact .inr ⟨hc, h⟩
  · rintro (⟨hc, rfl⟩ | ⟨hc, h⟩)
    · exact .here hc
    · exact .later hc h

theorem append_iff : FirstViolated (cs ++ cs') k ↔
    FirstViolated cs k ∨ (∀ c ∈ cs, c.holds) ∧ FirstViolated cs' k := by
  refine ⟨fun h => ?_, fun h => h.elim append_right fun h => append_left h.1 h.2⟩
  by_cases hcs : ∀ c ∈ cs, c.holds
  · induction cs with
    | nil => exact .inr ⟨hcs, h⟩
    | cons c cs ih =>
      obtain ⟨hc, hcs⟩ := List.forall_mem_cons.mp hcs
      rcases cons_iff.mp h with ⟨hn, -⟩ | ⟨-, h⟩
      · exact absurd hc hn
      · exact (ih h hcs).imp (.later hc) fun h => ⟨List.forall_mem_cons.mpr ⟨hc, hcs⟩, h.2⟩
  · obtain ⟨k', hk'⟩ := exists_iff.mpr hcs
    exact .inl (h.unique hk'.append_right ▸ hk')

/-- Of checks on the items of a list, the first violated one is on the first item that is not in
order. -/
theorem flatMap_iff {α : Type} {f : α → List Check} {as : List α} :
    FirstViolated (as.flatMap f) k ↔ ∃ before a after, as = before ++ a :: after ∧
      (∀ b ∈ before, ∀ c ∈ f b, c.holds) ∧ FirstViolated (f a) k := by
  induction as with
  | nil => exact iff_of_false (fun h => nomatch h) fun ⟨_, _, _, h, _⟩ => by simp at h
  | cons a as ih =>
    rw [List.flatMap_cons, append_iff, ih]
    constructor
    · rintro (h | ⟨ha, before, b, after, rfl, hbefore, h⟩)
      · exact ⟨[], a, as, rfl, List.forall_mem_nil _, h⟩
      · exact ⟨a :: before, b, after, rfl, List.forall_mem_cons.mpr ⟨ha, hbefore⟩, h⟩
    · rintro ⟨before, b, after, hsplit, hbefore, h⟩
      cases before with
      | nil =>
        obtain ⟨rfl, rfl⟩ := List.cons.inj hsplit
        exact .inl h
      | cons _ before =>
        obtain ⟨rfl, rfl⟩ := List.cons.inj hsplit
        obtain ⟨ha, hbefore⟩ := List.forall_mem_cons.mp hbefore
        exact .inr ⟨ha, before, b, after, rfl, hbefore, h⟩

theorem exists_kind (h : FirstViolated cs k) : ∃ c ∈ cs, c.kind = k := by
  induction h with
  | here => exact ⟨_, List.mem_cons_self, rfl⟩
  | later _ _ ih =>
    obtain ⟨c, hc, hk⟩ := ih
    exact ⟨c, List.mem_cons_of_mem _ hc, hk⟩

end FirstViolated

/-! ## Steps that are decided by checks -/

/-- Failures that may have the class of a derivation error. -/
class HasKind (ε : Type) where
  kind? : ε → Option ErrorKind

instance : HasKind DerivationError := ⟨fun e => some e.kind⟩

instance : HasKind Failure where
  kind?
    | .derivation e => some e.kind
    | .fault _ | .missingFile _ | .unwritable _ _ => none

theorem Failure.kind?_eq_some {f : Failure} {k : ErrorKind} :
    HasKind.kind? f = some k ↔ ∃ e, f = .derivation e ∧ e.kind = k := by
  cases f <;> simp [HasKind.kind?]

variable {α β ε : Type} [HasKind ε]

/-- **The checks decide the step**: all of them hold where it has a result, and otherwise it fails in
the class of the first violated one. -/
structure Decides (cs : List Check) (x : Except ε α) : Prop where
  holds : ∀ a, x = .ok a → ∀ c ∈ cs, c.holds
  violated : ∀ e, x = .error e → ∃ k, HasKind.kind? e = some k ∧ FirstViolated cs k

namespace Decides

variable {cs cs' : List Check} {x : Except ε α} {e : ε} {k : ErrorKind}

theorem of_succeeds (h : Succeeds x) : Decides [] x := by
  obtain ⟨a, rfl⟩ := h
  exact ⟨fun _ _ => List.forall_mem_nil _, fun _ he => nomatch he⟩

theorem pass {p : Prop} (hp : p) (hx : Decides cs x) : Decides (⟨p, k⟩ :: cs) x where
  holds a ha := List.forall_mem_cons.mpr ⟨hp, hx.holds a ha⟩
  violated e he := by
    obtain ⟨k', hk', h⟩ := hx.violated e he
    exact ⟨k', hk', .later hp h⟩

theorem single {p : Prop} {a : α} (hp : p) : Decides [⟨p, k⟩] (.ok a : Except ε α) :=
  pass hp (of_succeeds (.ok a))

theorem refused {p : Prop} (hk : HasKind.kind? e = some k) (hp : ¬ p) :
    Decides (⟨p, k⟩ :: cs) (.error e : Except ε α) := by
  refine ⟨fun _ ha => (nomatch ha), ?_⟩
  rintro _ ⟨⟩
  exact ⟨k, hk, .here hp⟩

/-- **A step succeeds exactly when all its checks hold.** -/
theorem succeeds_iff (h : Decides cs x) : Succeeds x ↔ ∀ c ∈ cs, c.holds := by
  constructor
  · rintro ⟨a, ha⟩
    exact h.holds a ha
  · intro hcs
    cases hx : x with
    | ok a => exact .ok a
    | error e =>
      obtain ⟨k, _, hk⟩ := h.violated e hx
      exact absurd hcs (FirstViolated.exists_iff.mp ⟨k, hk⟩)

/-- **The checks of a chain are those of its steps, in order.** -/
theorem bind {f : α → Except ε β} (hx : Decides cs x) (hf : ∀ a, x = .ok a → Decides cs' (f a)) :
    Decides (cs ++ cs') (x >>= f) := by
  constructor
  · intro b hb
    obtain ⟨a, ha, hb⟩ := bind_eq_ok.mp hb
    exact List.forall_mem_append.mpr ⟨hx.holds a ha, (hf a ha).holds b hb⟩
  · intro e he
    rcases bind_eq_error.mp he with he | ⟨a, ha, he⟩
    · obtain ⟨k, hk, h⟩ := hx.violated e he
      exact ⟨k, hk, h.append_right⟩
    · obtain ⟨k, hk, h⟩ := (hf a ha).violated e he
      exact ⟨k, hk, h.append_left (hx.holds a ha)⟩

/-- What cannot fail needs no checks after those in front of it. -/
theorem bind_succeeds {f : α → Except ε β} (hx : Decides cs x)
    (hf : ∀ a, x = .ok a → Succeeds (f a)) : Decides cs (x >>= f) := by
  have h := hx.bind fun a ha => of_succeeds (hf a ha)
  rwa [List.append_nil] at h

/-- A condition in front of a step. -/
theorem guard {p q : Prop} [Decidable q] (hq : q ↔ ¬ p) (hk : HasKind.kind? e = some k)
    (hx : Decides cs x) : Decides (⟨p, k⟩ :: cs) (if q then .error e else x) := by
  split_ifs with h
  · exact refused hk (hq.mp h)
  · exact pass (not_not.mp fun hp => h (hq.mpr hp)) hx

theorem mapError {x : Except DerivationError α} (h : Decides cs x) :
    Decides cs (x.mapError Failure.derivation) := by
  constructor
  · intro a ha
    exact h.holds a (mapError_eq_ok.mp ha)
  · intro f hf
    obtain ⟨e, he, rfl⟩ := mapError_eq_error.mp hf
    exact h.violated e he

/-- A step that is decided by checks fails with derivation errors alone. -/
theorem controlled {x : Except Failure α} (h : Decides cs x) : Controlled x := by
  intro f hf
  obtain ⟨_, hk, _⟩ := h.violated f hf
  obtain ⟨e, he, _⟩ := Failure.kind?_eq_some.mp hk
  exact ⟨e, he⟩

end Decides

theorem Outcome.decides_bind {cs cs' : List Check} {x : Outcome α} {f : α → Outcome β}
    (hx : Decides cs x.result) (hf : ∀ a, x.result = .ok a → Decides cs' (f a).result) :
    Decides (cs ++ cs') (x >>= f).result := by
  rw [bind_result]
  exact hx.bind hf

end RecordFamily
