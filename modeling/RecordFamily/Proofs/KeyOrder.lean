import RecordFamily.Proofs.Occurrences
import RecordFamily.Value.Basic

/-!
# The order of keys

Mappings of distinct texts, and what becomes of them when their keys are put in order.

* `byKey`: entries in the order of their keys;
* `Value.inOrder`: a value in which all keys are in order;
* `Value.IsPlain`: values of null, truth values, texts, lists and mappings of distinct texts;
* `Value.ofPairs_record`, `Value.find?_record`: a mapping of distinct texts is what its entries come
  to, and each of them is found.
-/

namespace RecordFamily

open List

/-- The entries in the order of their keys. -/
def byKey {α : Type} (entries : List (String × α)) : List (String × α) :=
  entries.mergeSort fun a b => decide (a.1 ≤ b.1)

theorem mem_byKey {α : Type} {entries : List (String × α)} {e : String × α} :
    e ∈ byKey entries ↔ e ∈ entries := List.mem_mergeSort

theorem byKey_perm {α : Type} (entries : List (String × α)) : byKey entries ~ entries :=
  List.mergeSort_perm entries _

theorem byKey_byKey {α : Type} (entries : List (String × α)) :
    byKey (byKey entries) = byKey entries := by
  refine List.mergeSort_of_pairwise
    (List.pairwise_mergeSort (fun a b c hab hbc => ?_) (fun a b => ?_) _)
  · rw [decide_eq_true_iff] at hab hbc ⊢
    exact String.le_trans hab hbc
  · rw [Bool.or_eq_true, decide_eq_true_iff, decide_eq_true_iff]
    exact String.le_total a.1 b.1

theorem map_byKey {α β : Type} {f : String × α → β} {le : β → β → Bool}
    (h : ∀ a b, le (f a) (f b) = decide (a.1 ≤ b.1)) (entries : List (String × α)) :
    (entries.map f).mergeSort le = (byKey entries).map f :=
  (List.map_mergeSort fun a _ b _ => (h a b).symm).symm

namespace Value

/-- The text that a key is sorted by. -/
def keyText : Value → String
  | text s => s
  | _ => ""

mutual

/-- The value with the keys of its mappings in order. -/
def inOrder : Value → Value
  | list xs => list (itemsInOrder xs)
  | map es =>
    map ((entriesInOrder es).mergeSort fun a b => decide (a.1.keyText ≤ b.1.keyText))
  | v => v

/-- The items, each with its keys in order. -/
def itemsInOrder : List Value → List Value
  | [] => []
  | x :: xs => x.inOrder :: itemsInOrder xs

/-- The entries, each with the keys of its value in order. -/
def entriesInOrder : List (Value × Value) → List (Value × Value)
  | [] => []
  | (k, v) :: es => (k, v.inOrder) :: entriesInOrder es

end

@[simp] theorem inOrder_null : null.inOrder = null := rfl

@[simp] theorem inOrder_bool (b : Bool) : (bool b).inOrder = bool b := rfl

@[simp] theorem inOrder_text (s : String) : (text s).inOrder = text s := rfl

@[simp] theorem inOrder_list (xs : List Value) : (list xs).inOrder = list (xs.map inOrder) := by
  rw [inOrder]
  induction xs with
  | nil => rfl
  | cons x xs ih => simpa [itemsInOrder] using ih

theorem inOrder_record (es : List (String × Value)) :
    (record es).inOrder = record ((byKey es).map fun e => (e.1, e.2.inOrder)) := by
  have hentries : entriesInOrder (es.map fun e => (text e.1, e.2)) =
      es.map fun e => (text e.1, e.2.inOrder) := by
    induction es with
    | nil => rfl
    | cons e es ih => simp [entriesInOrder, ih]
  rw [record, inOrder, hentries, map_byKey fun _ _ => rfl, record, List.map_map]
  rfl

/-- **The value is plain**, with at most so many collections inside each other: it consists of null,
truth values, texts, lists, and mappings of distinct texts. -/
inductive IsPlain : Nat → Value → Prop where
  | null {n : Nat} : IsPlain n null
  | bool {n : Nat} (b : Bool) : IsPlain n (bool b)
  | text {n : Nat} (s : String) : IsPlain n (text s)
  | list {n : Nat} {xs : List Value} (h : ∀ x ∈ xs, IsPlain n x) : IsPlain (n + 1) (list xs)
  | record {n : Nat} {es : List (String × Value)} (hkeys : (es.map Prod.fst).Nodup)
      (h : ∀ e ∈ es, IsPlain n e.2) : IsPlain (n + 1) (record es)

/-! ## Mappings of distinct texts -/

theorem insert_text {key : String} {v : Value} {es : List (String × Value)}
    (h : key ∉ es.map Prod.fst) : insert (text key) v (es.map fun e => (text e.1, e.2)) =
      (es ++ [(key, v)]).map fun e => (text e.1, e.2) := by
  induction es with
  | nil => rfl
  | cons e es ih =>
    rw [List.map_cons, List.mem_cons, not_or] at h
    have hne : ¬ same (text e.1) (text key) = true := by
      simpa [same] using fun he : e.1 = key => h.1 he.symm
    rw [List.map_cons, insert, if_neg hne, ih h.2]
    rfl

/-- **Entries with distinct text keys are a mapping** as they stand. -/
theorem ofPairs_record {es : List (String × Value)} (h : (es.map Prod.fst).Nodup) :
    ofPairs (es.map fun e => (text e.1, e.2)) = record es := by
  -- Entries are put in one after the other, and none of their keys is there already.
  have hfold : ∀ fs gs : List (String × Value), ((fs ++ gs).map Prod.fst).Nodup →
      (gs.map fun e => (text e.1, e.2)).foldl (fun es e => insert e.1 e.2 es)
        (fs.map fun e => (text e.1, e.2)) = (fs ++ gs).map fun e => (text e.1, e.2) := by
    intro fs gs hnodup
    induction gs generalizing fs with
    | nil => simp
    | cons g gs ih =>
      have hnew : g.1 ∉ fs.map Prod.fst := by
        rw [List.map_append, List.nodup_append] at hnodup
        exact fun hg => hnodup.2.2 g.1 hg g.1 (by simp) rfl
      rw [List.append_cons] at hnodup ⊢
      rw [List.map_cons, List.foldl_cons, insert_text hnew, ih _ hnodup]
  rw [ofPairs, record]
  exact congrArg map (hfold [] es h)

/-- **An entry is found by its key** in a mapping of distinct texts. -/
theorem find?_record {es : List (String × Value)} (h : (es.map Prod.fst).Nodup) {e : String × Value}
    (he : e ∈ es) : find? (es.map fun e => (text e.1, e.2)) e.1 = some e.2 := by
  rw [find?, List.find?_map]
  change ((es.find? fun e' => e'.1 == e.1).map _).map _ = _
  rw [find?_key_eq h he]
  rfl

end Value

end RecordFamily
