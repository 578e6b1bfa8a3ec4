import RecordFamily.Proofs.Json
import RecordFamily.Value.Cell

/-!
# Values with named collections

In a value that was read only collections have names. Such a value is of the same kind without its
name and opened, and what it holds opened is such a value again.

* `Value.isTidy`: only collections have names in the value;
* `Value.isTidy_fill`, `Value.isTidy_opened`: filling and opening keep this;
* `Value.exists_opened_list`, `Value.exists_opened_map`, `Value.eq_text_of_bare`: what a value without
  its name tells of the value opened;
* **`Cells.isTidy_value`**: the values of cells are such values.
-/

namespace RecordFamily

namespace Value

/-! ## Tidy values -/

/-- The value is a collection without a name. -/
def isCollection : Value → Bool
  | list _ | pair _ _ | set _ | map _ => true
  | _ => false

mutual

/-- **Only collections have names in the value.** The members of sets and the keys of mappings do not
count. -/
def isTidy : Value → Bool
  | named _ v => v.isCollection && v.isTidy
  | list xs => areTidy xs
  | pair a b => a.isTidy && b.isTidy
  | map es => entriesAreTidy es
  | _ => true

/-- All values of a list are such values. -/
def areTidy : List Value → Bool
  | [] => true
  | x :: xs => x.isTidy && areTidy xs

/-- All values of a mapping are such values. -/
def entriesAreTidy : List (Value × Value) → Bool
  | [] => true
  | (_, v) :: es => v.isTidy && entriesAreTidy es

end

theorem isTidy_named {name : Nat} {v : Value} :
    (named name v).isTidy = true ↔ v.isCollection = true ∧ v.isTidy = true := by
  rw [isTidy, Bool.and_eq_true_iff]

theorem isTidy_list {xs : List Value} : (list xs).isTidy = true ↔ ∀ x ∈ xs, x.isTidy = true := by
  rw [isTidy]
  induction xs with
  | nil => simp [areTidy]
  | cons x xs ih => simp [areTidy, ih]

theorem isTidy_pair {a b : Value} :
    (pair a b).isTidy = true ↔ a.isTidy = true ∧ b.isTidy = true := by
  rw [isTidy, Bool.and_eq_true_iff]

theorem isTidy_map {es : List (Value × Value)} :
    (map es).isTidy = true ↔ ∀ e ∈ es, e.2.isTidy = true := by
  rw [isTidy]
  induction es with
  | nil => simp [entriesAreTidy]
  | cons e es ih => simp [entriesAreTidy, ih]

theorem isTidy_find? {es : List (Value × Value)} (h : (map es).isTidy = true) {key : String}
    {v : Value} (hv : find? es key = some v) : v.isTidy = true := by
  obtain ⟨e, he, rfl⟩ := Option.map_eq_some_iff.mp hv
  exact isTidy_map.mp h e (List.mem_of_find?_eq_some he)

/-! ## Opened values -/

section Fill

variable {name : Nat} {v : Value}

theorem isCollection_fill {w : Value} (h : w.isCollection = true) :
    (fill name v w).isCollection = true := by
  cases w with
  | list | pair | set | map => rfl
  | null | bool | int | float | text | bytes | date | moment | named | again => cases h

mutual

/-- **Filling keeps a value tidy.** -/
theorem isTidy_fill (hv : v.isTidy = true) :
    (w : Value) → w.isTidy = true → (fill name v w).isTidy = true
  | again n, _ => by
    rw [fill]
    split_ifs
    · exact hv
    · rfl
  | named n body, h => by
    obtain ⟨hc, hb⟩ := isTidy_named.mp h
    rw [fill]
    split_ifs
    · exact h
    · exact isTidy_named.mpr ⟨isCollection_fill hc, isTidy_fill hv body hb⟩
  | list xs, h => areTidy_fillItems hv xs h
  | pair a b, h => by
    obtain ⟨ha, hb⟩ := isTidy_pair.mp h
    exact isTidy_pair.mpr ⟨isTidy_fill hv a ha, isTidy_fill hv b hb⟩
  | map es, h => entriesAreTidy_fillEntries hv es h
  | null, _ | bool _, _ | int _, _ | float _, _ | text _, _ | bytes _, _ | date _, _ | moment _, _
  | set _, _ => rfl

theorem areTidy_fillItems (hv : v.isTidy = true) :
    (xs : List Value) → areTidy xs = true → areTidy (fillItems name v xs) = true
  | [], _ => rfl
  | x :: xs, h => by
    obtain ⟨hx, hxs⟩ := Bool.and_eq_true_iff.mp h
    exact Bool.and_eq_true_iff.mpr ⟨isTidy_fill hv x hx, areTidy_fillItems hv xs hxs⟩

theorem entriesAreTidy_fillEntries (hv : v.isTidy = true) : (es : List (Value × Value)) →
    entriesAreTidy es = true → entriesAreTidy (fillEntries name v es) = true
  | [], _ => rfl
  | (_, x) :: es, h => by
    obtain ⟨hx, hes⟩ := Bool.and_eq_true_iff.mp h
    exact Bool.and_eq_true_iff.mpr ⟨isTidy_fill hv x hx, entriesAreTidy_fillEntries hv es hes⟩

end

end Fill

section Opened

variable {v : Value}

/-- **What an opened value holds is tidy.** -/
theorem isTidy_opened (h : v.isTidy = true) : v.opened.isTidy = true := by
  cases v with
  | named n body => exact isTidy_fill h body (isTidy_named.mp h).2
  | _ => exact h

theorem bare_of_isCollection (h : v.isCollection = true) : v.bare = v := by
  cases v with
  | named => cases h
  | _ => rfl

theorem exists_opened_list {xs : List Value} (h : v.isTidy = true) (hb : v.bare = list xs) :
    ∃ ys, v.opened = list ys := by
  cases v with
  | named n body =>
    rw [bare, bare_of_isCollection (isTidy_named.mp h).1] at hb
    exact ⟨fillItems n (named n body) xs, by rw [hb]; rfl⟩
  | _ => exact ⟨xs, hb⟩

theorem exists_opened_map {es : List (Value × Value)} (h : v.isTidy = true) (hb : v.bare = map es) :
    ∃ fs, v.opened = map fs := by
  cases v with
  | named n body =>
    rw [bare, bare_of_isCollection (isTidy_named.mp h).1] at hb
    exact ⟨fillEntries n (named n body) es, by rw [hb]; rfl⟩
  | _ => exact ⟨es, hb⟩

theorem eq_text_of_bare {s : String} (h : v.isTidy = true) (hb : v.bare = text s) : v = text s := by
  cases v with
  | named n body =>
    obtain ⟨hc, -⟩ := isTidy_named.mp h
    rw [bare, bare_of_isCollection hc] at hb
    rw [hb] at hc
    cases hc
  | _ => exact hb

theorem truthy_opened (h : v.isTidy = true) : v.opened.truthy = v.truthy := by
  cases v with
  | named n body =>
    obtain ⟨hc, -⟩ := isTidy_named.mp h
    cases body with
    | list xs => cases xs <;> rfl
    | map es => rcases es with _ | ⟨⟨k, x⟩, es⟩ <;> rfl
    | pair | set => rfl
    | null | bool | int | float | text | bytes | date | moment | named | again => cases hc
  | _ => rfl

end Opened

/-! ## Values without names -/

theorem opened_of_isJson {v : Value} (h : v.isJson = true) : v.opened = v := by
  cases v with
  | named => cases h
  | _ => rfl

theorem isJson_find? {es : List (Value × Value)} (h : (map es).isJson = true) {key : String}
    {v : Value} (hv : find? es key = some v) : v.isJson = true := by
  obtain ⟨e, he, rfl⟩ := Option.map_eq_some_iff.mp hv
  exact (isJson_map.mp h e (List.mem_of_find?_eq_some he)).2

mutual

theorem isTidy_of_isJson : (v : Value) → v.isJson = true → v.isTidy = true
  | list xs, h => areTidy_of_areJson xs h
  | map es, h => entriesAreTidy_of_entriesAreJson es h
  | null, _ | bool _, _ | int _, _ | float _, _ | text _, _ => rfl

theorem areTidy_of_areJson : (xs : List Value) → areJson xs = true → areTidy xs = true
  | [], _ => rfl
  | x :: xs, h => by
    obtain ⟨hx, hxs⟩ := Bool.and_eq_true_iff.mp h
    exact Bool.and_eq_true_iff.mpr ⟨isTidy_of_isJson x hx, areTidy_of_areJson xs hxs⟩

theorem entriesAreTidy_of_entriesAreJson : (es : List (Value × Value)) →
    entriesAreJson es = true → entriesAreTidy es = true
  | [], _ => rfl
  | (_, v) :: es, h => by
    obtain ⟨hv, hes⟩ := Bool.and_eq_true_iff.mp h
    exact Bool.and_eq_true_iff.mpr ⟨isTidy_of_isJson v (Bool.and_eq_true_iff.mp hv).2,
      entriesAreTidy_of_entriesAreJson es hes⟩

end

end Value

/-! ## Values of cells -/

namespace Cell

theorem isCollection_build {c : Cell} (h : c.isCollection = true) (value : Nat → Value) :
    (c.build value).isCollection = true := by
  cases c with
  | plain => cases h
  | list | pair | set | map => rfl

/-- The value of a cell is tidy when those of its parts are. -/
theorem isTidy_build {c : Cell} (hc : ∀ v, c = .plain v → v.isTidy = true) {value : Nat → Value}
    (hvalue : ∀ n, (value n).isTidy = true) : (c.build value).isTidy = true := by
  cases c with
  | plain v => exact hc v rfl
  | list items => exact Value.isTidy_list.mpr (List.forall_mem_map.mpr fun n _ => hvalue n)
  | pair a b => exact Value.isTidy_pair.mpr ⟨hvalue a, hvalue b⟩
  | set => rfl
  | map entries => exact Value.isTidy_map.mpr (List.forall_mem_map.mpr fun e _ => hvalue e.2)

end Cell

namespace Cells

variable {cells : Cells}

theorem isCollection_of_shared {n : Nat} (h : cells.shared.getD n false = true) :
    (cells.cell n).isCollection = true := by
  rw [shared, Array.getD_eq_getD_getElem?, Array.getElem?_mapIdx] at h
  cases hu : cells.uses[n]? with
  | none =>
    rw [hu] at h
    cases h
  | some count =>
    rw [hu] at h
    exact (Bool.and_eq_true_iff.mp h).2

theorem reached_nil (values : Values) (bound : Nat) (seen : List Nat) :
    cells.reached values bound seen [] = seen := by
  cases bound <;> rfl

/-- Only a collection is inside itself. -/
theorem isCollection_of_isCyclic {values : Values} {n : Nat} (h : cells.isCyclic values n = true) :
    (cells.cell n).isCollection = true := by
  cases hc : cells.cell n with
  | plain v =>
    have hparts : cells.openParts values n = [] := by
      rw [openParts, hc]
      rfl
    rw [isCyclic, hparts, reached_nil] at h
    cases h
  | list | pair | set | map => rfl

theorem isTidy_name {named : Array Bool} {n : Nat} {value : Nat → Value}
    (hnamed : named.getD n false = true → (cells.cell n).isCollection = true)
    (h : ((cells.cell n).build value).isTidy = true) :
    (name named n ((cells.cell n).build value)).isTidy = true := by
  unfold name
  split_ifs with hn
  · exact Value.isTidy_named.mpr ⟨Cell.isCollection_build (hnamed hn) value, h⟩
  · exact h

/-- All known values are tidy. -/
def Values.AreTidy (values : Values) : Prop := ∀ n v, values.get? n = some v → v.isTidy = true

section Tidy

variable (hcells : ∀ n v, cells.cell n = .plain v → v.isTidy = true)

include hcells

theorem areTidy_settle {values : Values} (h : values.AreTidy) (n : Nat) :
    (cells.settle cells.shared values n).AreTidy := by
  unfold settle
  extract_lets c v
  split_ifs
  · have hvalue : ∀ m, ((values.get? m).getD .null).isTidy = true := by
      intro m
      cases hm : values.get? m with
      | none => rfl
      | some w => exact h m w hm
    have hv : v.isTidy = true :=
      isTidy_name isCollection_of_shared (Cell.isTidy_build (hcells n) hvalue)
    intro m w hw
    rw [Values.get?, Array.getElem?_setIfInBounds] at hw
    split_ifs at hw
    · cases hw
      exact hv
    · cases hw
    · exact h m w hw
  · exact h

theorem areTidy_settled : (cells.settled cells.shared).AreTidy := by
  have hbelow : ∀ n (values : Values), values.AreTidy →
      (cells.settleBelow cells.shared n values).AreTidy := by
    intro n
    induction n with
    | zero => exact fun _ h => h
    | succ n ih => exact fun values h => ih _ (areTidy_settle hcells h n)
  have hall : ∀ bound (values : Values), values.AreTidy →
      (cells.settleAll cells.shared bound values).AreTidy := by
    intro bound
    induction bound with
    | zero => exact fun _ h => h
    | succ bound ih =>
      intro values h
      unfold settleAll
      extract_lets after
      split_ifs
      · exact hbelow _ _ h
      · exact ih _ (hbelow _ _ h)
  refine hall _ _ fun n v hv => ?_
  rw [Values.get?, Array.getElem?_replicate] at hv
  split_ifs at hv <;> cases hv

theorem isTidy_valueIn {values : Values} (h : values.AreTidy) {cyclic named : Array Bool}
    (hnamed : ∀ n, named.getD n false = true → (cells.cell n).isCollection = true) (bound : Nat) :
    ∀ around n, (cells.valueIn values cyclic named bound around n).isTidy = true := by
  -- On the bound, for all collections around.
  induction bound with
  | zero => exact fun _ _ => rfl
  | succ bound ih =>
    intro around n
    unfold valueIn
    cases hv : values.get? n with
    | some v => exact h n v hv
    | none =>
      dsimp only
      split_ifs
      · rfl
      · exact isTidy_name (hnamed n) (Cell.isTidy_build (hcells n) fun _ => ih _ _)
      · exact isTidy_name (hnamed n) (Cell.isTidy_build (hcells n) fun _ => ih _ _)

/-- **The values of cells are tidy** when the values that stand in cells are. -/
theorem isTidy_value (n : Nat) : (cells.value n).isTidy = true := by
  have hsettled := areTidy_settled hcells
  unfold value
  extract_lets shared values cyclic named
  cases hv : values.get? n with
  | some v => exact hsettled n v hv
  | none =>
    refine isTidy_valueIn hcells hsettled (fun m hm => ?_) _ _ _
    -- A named cell is inside itself or shared.
    have hor : cyclic.getD m false = true ∨ shared.getD m false = true := by
      simp only [named, Array.getD_eq_getD_getElem?, Array.getElem?_zipWith] at hm ⊢
      cases hc : cyclic[m]? <;> cases hs : shared[m]? <;> simp_all
    rcases hor with hc | hs
    · simp only [cyclic, Array.getD_eq_getD_getElem?, Array.getElem?_map, Array.getElem?_range] at hc
      split_ifs at hc
      · exact isCollection_of_isCyclic (Bool.and_eq_true_iff.mp hc).2
      · cases hc
    · exact isCollection_of_shared hs

end Tidy

end Cells

end RecordFamily
