import RecordFamily.Dictionary.Read
import RecordFamily.Proofs.Outcome

/-!
# What has to be put into words

A step that reads a document puts values of it into words. It goes on when all of them have a wording,
and ends with a fault when one of them has none.

* `Value.HasWording`: the values that have a wording;
* `HasWording.item`, `HasWording.entry`: so have their parts;
* **`Asks`**: the values that a step puts into words, with what is certain when they all have one;
* `Asks.bind`, `Asks.mapM`: chains of such steps, and walks along a list.
-/

namespace RecordFamily

open Value

variable {α β : Type}

/-! ## Wordings -/

/-- The value is not too deep, and no whole number in it is too long. -/
def Value.HasWording (v : Value) : Prop := v.height < heightBound ∧ v.isWritable = true

instance (v : Value) : Decidable v.HasWording :=
  inferInstanceAs (Decidable (v.height < heightBound ∧ v.isWritable = true))

theorem checkWording_of_hasWording {v : Value} (h : v.HasWording) : v.checkWording = .ok () := by
  rw [checkWording, if_neg (Nat.not_le.mpr h.1), if_pos h.2]

theorem checkWording_of_not {v : Value} (h : ¬ v.HasWording) :
    v.checkWording = .error .tooDeep ∨ v.checkWording = .error .numberTooLong := by
  unfold checkWording
  split_ifs with hd hw
  · exact .inl rfl
  · exact absurd ⟨Nat.not_le.mp hd, hw⟩ h
  · exact .inr rfl

/-! ## Parts of values -/

namespace Value

variable {xs : List Value} {es : List (Value × Value)}

theorem itemsHeight_le {n : Nat} : itemsHeight xs ≤ n ↔ ∀ x ∈ xs, x.height ≤ n := by
  induction xs with
  | nil => simp [itemsHeight]
  | cons x xs ih => rw [itemsHeight, Nat.max_le, ih, List.forall_mem_cons]

theorem entriesHeight_le {n : Nat} : entriesHeight es ≤ n ↔ ∀ e ∈ es, e.2.height ≤ n := by
  induction es with
  | nil => simp [entriesHeight]
  | cons e es ih => rw [entriesHeight, Nat.max_le, ih, List.forall_mem_cons]

theorem isWritable_list : (list xs).isWritable = true ↔ ∀ x ∈ xs, x.isWritable = true := by
  rw [isWritable]
  induction xs with
  | nil => simp [areWritable]
  | cons x xs ih => simp [areWritable, ih]

theorem isWritable_map :
    (map es).isWritable = true ↔ ∀ e ∈ es, e.1.isWritable = true ∧ e.2.isWritable = true := by
  rw [isWritable]
  induction es with
  | nil => simp [entriesWritable]
  | cons e es ih => simp [entriesWritable, ih]

theorem HasWording.item (h : (list xs).HasWording) {x : Value} (hx : x ∈ xs) : x.HasWording := by
  have hheight : x.height ≤ itemsHeight xs := itemsHeight_le.mp (Nat.le_refl _) x hx
  have hlist : itemsHeight xs + 1 < heightBound := h.1
  exact ⟨by omega, isWritable_list.mp h.2 x hx⟩

theorem HasWording.entry (h : (map es).HasWording) {e : Value × Value} (he : e ∈ es) :
    e.2.HasWording := by
  have hheight : e.2.height ≤ entriesHeight es := entriesHeight_le.mp (Nat.le_refl _) e he
  have hmap : entriesHeight es + 1 < heightBound := h.1
  exact ⟨by omega, (isWritable_map.mp h.2 e he).2⟩

theorem HasWording.find? (h : (map es).HasWording) {key : String} {v : Value}
    (hv : find? es key = some v) : v.HasWording := by
  obtain ⟨e, he, rfl⟩ := Option.map_eq_some_iff.mp hv
  exact h.entry (List.mem_of_find?_eq_some he)

end Value

/-! ## Steps that put values into words -/

/-- **The step puts the values `ws` into words**: it is good when all of them have a wording, and a
fault otherwise. -/
structure Asks (Good : Except Failure α → Prop) (ws : List Value) (x : Except Failure α) : Prop where
  good : (∀ w ∈ ws, w.HasWording) → Good x
  fault : (∃ w ∈ ws, ¬ w.HasWording) →
    x = .error (.fault .tooDeep) ∨ x = .error (.fault .numberTooLong)

namespace Asks

variable {Good : Except Failure β → Prop} {ws ws' : List Value} {x : Except Failure α}
  {f : α → Except Failure β}

theorem none {P : Except Failure α → Prop} (h : P x) : Asks P [] x :=
  ⟨fun _ => h, fun ⟨_, hw, _⟩ => nomatch hw⟩

theorem ok (a : α) : Asks Succeeds [] (.ok a) := none (.ok a)

theorem wordingOf (v : Value) : Asks Succeeds [v] (wordingOf v) where
  good h := by
    rw [RecordFamily.wordingOf, wording, checkWording_of_hasWording (h v List.mem_cons_self)]
    exact .ok v.display
  fault := by
    rintro ⟨w, hw, hn⟩
    obtain rfl := List.mem_singleton.mp hw
    rw [RecordFamily.wordingOf, wording]
    rcases checkWording_of_not hn with he | he
    · rw [he]
      exact .inl rfl
    · rw [he]
      exact .inr rfl

theorem imp {P Q : Except Failure α → Prop} (hx : Asks P ws x) (h : P x → Q x) : Asks Q ws x :=
  ⟨fun hws => h (hx.good hws), hx.fault⟩

theorem bind (hx : Asks Succeeds ws x) (hf : ∀ a, x = .ok a → Asks Good ws' (f a)) :
    Asks Good (ws ++ ws') (x >>= f) where
  good h := by
    obtain ⟨hws, hws'⟩ := List.forall_mem_append.mp h
    obtain ⟨a, rfl⟩ := hx.good hws
    exact (hf a rfl).good hws'
  fault := by
    rintro ⟨w, hw, hn⟩
    -- The first step may have a result all the same, and then the fault is one of `f`.
    by_cases hws : ∀ w ∈ ws, w.HasWording
    · obtain ⟨a, rfl⟩ := hx.good hws
      refine (hf a rfl).fault ⟨w, ?_, hn⟩
      exact (List.mem_append.mp hw).resolve_left fun hmem => hn (hws w hmem)
    · rcases hx.fault (by simpa using hws) with rfl | rfl
      · exact .inl rfl
      · exact .inr rfl

theorem after (hx : Succeeds x) (hf : ∀ a, x = .ok a → Asks Good ws (f a)) :
    Asks Good ws (x >>= f) :=
  (none hx).bind hf

theorem before {P : Except Failure α → Prop} (hx : Asks P ws x) (hf : P x → Good (x >>= f)) :
    Asks Good ws (x >>= f) where
  good h := hf (hx.good h)
  fault h := by
    rcases hx.fault h with rfl | rfl
    · exact .inl rfl
    · exact .inr rfl

theorem mapM {g : α → List Value} {as : List α} (h : ∀ a ∈ as, Asks Succeeds (g a) (f a)) :
    Asks Succeeds (as.flatMap g) (as.mapM f) := by
  induction as with
  | nil => exact ok []
  | cons a as ih =>
    obtain ⟨ha, has⟩ := List.forall_mem_cons.mp h
    rw [List.mapM_cons, List.flatMap_cons]
    exact ha.bind fun b _ => (ih has).before fun hbs => hbs.bind fun bs _ => .ok (b :: bs)

/-- **Only an unworded value ends the step out of control.** -/
theorem controlled_iff (h : Asks Controlled ws x) : Controlled x ↔ ∀ w ∈ ws, w.HasWording := by
  refine ⟨fun hx w hw => ?_, h.good⟩
  by_contra hn
  rcases h.fault ⟨w, hw, hn⟩ with rfl | rfl
  · obtain ⟨_, he⟩ := hx _ rfl
    cases he
  · obtain ⟨_, he⟩ := hx _ rfl
    cases he

end Asks

end RecordFamily
