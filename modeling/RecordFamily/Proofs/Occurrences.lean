import Mathlib.Data.List.Nodup
import RecordFamily.Naming

/-!
# First occurrences and distinct keys

`firstOccurrences seen items` keeps each item that is not among `seen` where it stands first. Where
all keys are distinct, a look-up finds the item that has the key.

* `mem_firstOccurrences`, `nodup_firstOccurrences`: what is kept, and that it is kept once;
* `firstOccurrences_congr`, `firstOccurrences_append`: only the members of `seen` count, and two lists
  one after the other;
* `mem_repeated`, `nodup_repeated`, `repeated_eq_nil`: the items that occur more than once;
* `find?_key_eq`, `filter_key_eq`, `lookup_iff_mem`, `exists_lookup`: look-ups by a distinct key,
  and by a key that is there;
* `lookup_perm`: the order of entries with distinct keys does not matter.
-/

namespace RecordFamily

variable {α : Type} [BEq α] [LawfulBEq α]

theorem firstOccurrences_cons_of_mem {seen items : List α} {a : α} (h : a ∈ seen) :
    firstOccurrences seen (a :: items) = firstOccurrences seen items := by
  rw [firstOccurrences, if_pos (List.contains_iff_mem.mpr h)]

theorem firstOccurrences_cons_of_notMem {seen items : List α} {a : α} (h : a ∉ seen) :
    firstOccurrences seen (a :: items) = a :: firstOccurrences (a :: seen) items := by
  rw [firstOccurrences, if_neg (fun hc => h (List.contains_iff_mem.mp hc))]

/-- The order and the repetitions of what was seen do not matter. -/
theorem firstOccurrences_congr {seen seen' : List α} (h : ∀ a, a ∈ seen ↔ a ∈ seen')
    (items : List α) : firstOccurrences seen items = firstOccurrences seen' items := by
  induction items generalizing seen seen' with
  | nil => rfl
  | cons a items ih =>
    by_cases ha : a ∈ seen
    · rw [firstOccurrences_cons_of_mem ha, firstOccurrences_cons_of_mem ((h a).mp ha), ih h]
    · rw [firstOccurrences_cons_of_notMem ha,
        firstOccurrences_cons_of_notMem (fun hc => ha ((h a).mpr hc))]
      congr 1
      exact ih fun b => by rw [List.mem_cons, List.mem_cons, h b]

theorem mem_firstOccurrences {seen items : List α} {a : α} :
    a ∈ firstOccurrences seen items ↔ a ∈ items ∧ a ∉ seen := by
  induction items generalizing seen with
  | nil => simp [firstOccurrences]
  | cons b items ih =>
    by_cases hb : b ∈ seen
    · rw [firstOccurrences_cons_of_mem hb, ih, List.mem_cons]
      constructor
      · rintro ⟨h, hs⟩
        exact ⟨Or.inr h, hs⟩
      · rintro ⟨rfl | h, hs⟩
        · exact absurd hb hs
        · exact ⟨h, hs⟩
    · rw [firstOccurrences_cons_of_notMem hb, List.mem_cons, List.mem_cons, ih, List.mem_cons]
      by_cases hab : a = b
      · subst hab
        simp [hb]
      · simp [hab]

theorem nodup_firstOccurrences (seen items : List α) : (firstOccurrences seen items).Nodup := by
  induction items generalizing seen with
  | nil => exact List.nodup_nil
  | cons a items ih =>
    by_cases ha : a ∈ seen
    · rw [firstOccurrences_cons_of_mem ha]
      exact ih seen
    · rw [firstOccurrences_cons_of_notMem ha, List.nodup_cons, mem_firstOccurrences]
      exact ⟨fun h => h.2 List.mem_cons_self, ih (a :: seen)⟩

/-- What stands before has been seen by what comes after it. -/
theorem firstOccurrences_append (seen items more : List α) :
    firstOccurrences seen (items ++ more) =
      firstOccurrences seen items ++ firstOccurrences (items ++ seen) more := by
  induction items generalizing seen with
  | nil => rfl
  | cons b items ih =>
    rw [List.cons_append]
    by_cases hb : b ∈ seen
    · have hseen : ∀ a, a ∈ items ++ seen ↔ a ∈ b :: items ++ seen := by
        intro a
        rw [List.cons_append, List.mem_cons]
        exact ⟨.inr, fun h => h.elim (fun he => he ▸ List.mem_append_right items hb) id⟩
      rw [firstOccurrences_cons_of_mem hb, firstOccurrences_cons_of_mem hb, ih,
        firstOccurrences_congr hseen]
    · have hseen : ∀ a, a ∈ items ++ b :: seen ↔ a ∈ b :: items ++ seen :=
        fun a => List.perm_middle.mem_iff
      rw [firstOccurrences_cons_of_notMem hb, firstOccurrences_cons_of_notMem hb, ih,
        firstOccurrences_congr hseen]
      rfl

/-! ## Repeated items -/

theorem mem_repeated {items : List α} {a : α} : a ∈ repeated items ↔ 2 ≤ items.count a := by
  rw [repeated, mem_firstOccurrences, List.mem_filter, decide_eq_true_iff]
  constructor
  · rintro ⟨⟨_, h⟩, _⟩
    exact h
  · intro h
    have hmem : a ∈ items := List.count_pos_iff.mp (by omega)
    exact ⟨⟨hmem, h⟩, List.not_mem_nil⟩

theorem nodup_repeated (items : List α) : (repeated items).Nodup := nodup_firstOccurrences [] _

theorem repeated_eq_nil {items : List α} : repeated items = [] ↔ items.Nodup := by
  rw [List.eq_nil_iff_forall_not_mem, List.nodup_iff_count_le_one]
  refine forall_congr' fun a => ?_
  rw [mem_repeated]
  omega

/-! ## Distinct keys -/

/-- **An item is found by its key** where keys are distinct. -/
theorem find?_key_eq {β : Type} {key : β → α} {items : List β} (h : (items.map key).Nodup) {b : β}
    (hb : b ∈ items) : items.find? (fun c => key c == key b) = some b := by
  induction items with
  | nil => exact absurd hb List.not_mem_nil
  | cons c items ih =>
    rw [List.map_cons, List.nodup_cons] at h
    rcases List.mem_cons.mp hb with rfl | hb
    · rw [List.find?_cons, beq_self_eq_true]
    · have hne : (key c == key b) = false := beq_eq_false_iff_ne.mpr fun e =>
        h.1 (List.mem_map.mpr ⟨b, hb, e.symm⟩)
      rw [List.find?_cons, hne]
      exact ih h.2 hb

/-- **An item is the only one with its key** where keys are distinct. -/
theorem filter_key_eq {β : Type} {key : β → α} {items : List β} (h : (items.map key).Nodup) {b : β}
    (hb : b ∈ items) : items.filter (fun c => key c == key b) = [b] := by
  induction items with
  | nil => exact absurd hb List.not_mem_nil
  | cons c items ih =>
    rw [List.map_cons, List.nodup_cons, List.mem_map] at h
    rw [List.filter_cons]
    rcases List.mem_cons.mp hb with rfl | hb
    · have hnone : items.filter (fun c => key c == key b) = [] :=
        List.filter_eq_nil_iff.mpr fun c hc he => h.1 ⟨c, hc, beq_iff_eq.mp he⟩
      rw [if_pos (beq_self_eq_true _), hnone]
    · have hne : ¬ (key c == key b) = true := fun he => h.1 ⟨b, hb, (beq_iff_eq.mp he).symm⟩
      rw [if_neg hne, ih h.2 hb]

theorem exists_lookup {β : Type} {entries : List (α × β)} {key : α}
    (h : key ∈ entries.map Prod.fst) : ∃ b, entries.lookup key = some b := by
  induction entries with
  | nil => cases h
  | cons e es ih =>
    rw [List.lookup_cons]
    split
    · exact ⟨_, rfl⟩
    · next hk =>
      rw [List.map_cons, List.mem_cons] at h
      exact ih (h.resolve_left fun he => by simp [he] at hk)

theorem lookup_iff_mem {β : Type} {entries : List (α × β)} (h : (entries.map Prod.fst).Nodup)
    {key : α} {b : β} : entries.lookup key = some b ↔ (key, b) ∈ entries := by
  induction entries with
  | nil => simp
  | cons e es ih =>
    rw [List.map_cons, List.nodup_cons] at h
    rw [List.lookup_cons, List.mem_cons, Prod.ext_iff]
    by_cases hk : key = e.1
    · have hnone : (key, b) ∉ es := fun hmem => h.1 (hk ▸ List.mem_map_of_mem hmem)
      simp [hk, hk ▸ hnone, eq_comm]
    · have hne : (key == e.1) = false := beq_eq_false_iff_ne.mpr hk
      simp [hne, hk, ih h.2]

/-- **The order of entries with distinct keys does not matter** where they are looked up. -/
theorem lookup_perm {β : Type} {entries entries' : List (α × β)} (hperm : entries.Perm entries')
    (h : (entries.map Prod.fst).Nodup) (key : α) : entries.lookup key = entries'.lookup key := by
  have h' : (entries'.map Prod.fst).Nodup := (hperm.map Prod.fst).nodup_iff.mp h
  refine Option.ext fun b => ?_
  rw [lookup_iff_mem h, lookup_iff_mem h', hperm.mem_iff]

end RecordFamily
