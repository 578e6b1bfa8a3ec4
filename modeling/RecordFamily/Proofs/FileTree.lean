import Mathlib.Data.List.Infix
import RecordFamily.FileTree
import RecordFamily.Proofs.Outcome

/-!
# Written files

Writing a file sets what stands at one place and leaves everything else alone. The directories on the
way to that place were there before, so the path leads to it afterwards, too.

* `lookup_setEntry`, `entry?_setEntry`: what stands at the places of a tree in which an entry was set;
* `FileTree.LeadsTo`, `walk_ok`: how the parts of a path lead to a place, step by step;
* `LeadsTo.above`: something stands at the places above;
* `LeadsTo.after`: the parts lead to the same place when something is changed there alone;
* **`FileTree.IsWritten`**: the tree after a file was written, as it is seen from outside;
* **`isWritten_of_write`**: writing a file leaves such a tree.
-/

namespace RecordFamily

namespace FileTree

open Text

/-! ## Entries that are set -/

section Entries

variable {t : FileTree} {place q : List String} {e : Entry} {es : List (List String × Entry)}

theorem lookup_setEntry :
    (setEntry place e es).lookup q = if q = place then some e else es.lookup q := by
  induction es with
  | nil =>
    rw [setEntry, List.lookup_cons, List.lookup_nil]
    by_cases hq : q = place
    · simp [hq]
    · simp [hq, beq_eq_false_iff_ne.mpr hq]
  | cons x xs ih =>
    obtain ⟨p, y⟩ := x
    rw [setEntry]
    by_cases hp : p = place
    · rw [if_pos (by simpa using hp), List.lookup_cons, List.lookup_cons, hp]
      by_cases hq : q = place
      · simp [hq]
      · simp [hq, beq_eq_false_iff_ne.mpr hq]
    · rw [if_neg (by simpa using hp), List.lookup_cons, List.lookup_cons, ih]
      by_cases hq : q = place
      · simp [hq, beq_eq_false_iff_ne.mpr (Ne.symm hp)]
      · simp [hq]

theorem any_setEntry (p : List String → Bool) :
    ((setEntry place e es).any fun x => p x.1) = ((es.any fun x => p x.1) || p place) := by
  induction es with
  | nil => simp [setEntry]
  | cons x xs ih =>
    rw [setEntry]
    by_cases hx : x.1 = place
    · rw [if_pos (by simpa using hx), List.any_cons, List.any_cons, hx]
      cases p place <;> simp
    · rw [if_neg (by simpa using hx), List.any_cons, List.any_cons, ih, Bool.or_assoc]

/-- What stands at a place after an entry was set: a new entry has directories above it. -/
theorem entry?_setEntry : entry? ⟨setEntry place e t.entries⟩ q = if q = place then some e
    else if t.entry? q = none ∧ q <+: place then some .directory else t.entry? q := by
  unfold entry?
  rw [lookup_setEntry, any_setEntry fun p => q.isPrefixOf p]
  by_cases hq : q = place
  · simp only [hq, if_true]
  · simp only [hq, if_false]
    cases hlookup : t.entries.lookup q with
    | some y => simp
    | none => cases h : t.entries.any fun x => q.isPrefixOf x.1 <;> simp

end Entries

/-! ## Where paths lead to -/

/-- The part of a path names something in a directory. -/
def IsName (name : String) : Prop :=
  ¬ (name = "" ∨ name = ".") ∧ name ≠ ".." ∧ name.utf8ByteSize ≤ nameBound

/-- **The parts of a path lead from a directory to a place**, at which `e` stands. -/
inductive LeadsTo (t : FileTree) : List String → List String → List String → Option Entry → Prop where
  | here (start : List String) : LeadsTo t start [] start (some .directory)
  | skip {start rest place : List String} {name : String} {e : Option Entry}
    (hname : name = "" ∨ name = ".") (h : LeadsTo t start rest place e) :
    LeadsTo t start (name :: rest) place e
  | up {start rest place : List String} {e : Option Entry}
    (h : LeadsTo t start.dropLast rest place e) : LeadsTo t start (".." :: rest) place e
  | down {start rest place : List String} {name : String} {e : Option Entry} (hname : IsName name)
    (hentry : t.entry? (start ++ [name]) = some .directory)
    (h : LeadsTo t (start ++ [name]) rest place e) : LeadsTo t start (name :: rest) place e
  | last {start : List String} {name : String} {e : Option Entry} (hname : IsName name)
    (hentry : t.entry? (start ++ [name]) = e) (he : e ≠ some .directory) :
    LeadsTo t start [name] (start ++ [name]) e

section Paths

variable {t t' : FileTree} {start rest place : List String} {e : Option Entry} {bytes : List UInt8}

theorem walk_ok : t.walk start rest = .ok (place, e) ↔ t.LeadsTo start rest place e := by
  constructor
  · intro h
    induction rest generalizing start with
    | nil =>
      cases h
      exact .here _
    | cons name rest ih =>
      rw [walk] at h
      split at h
      · next hskip => exact .skip (by simpa using hskip) (ih h)
      · next hskip =>
        split at h
        · next hup =>
          obtain rfl : name = ".." := by simpa using hup
          exact .up (ih h)
        · next hup =>
          split at h
          · cases h
          · next hlong =>
            have hname : IsName name :=
              ⟨by simpa using hskip, by simpa using hup, Nat.le_of_not_lt hlong⟩
            dsimp only at h
            split at h
            · next hentry => exact .down hname hentry (ih h)
            · next hentry =>
              split_ifs at h with hrest
              cases h
              rw [List.isEmpty_iff.mp hrest]
              exact .last hname hentry nofun
            · next hentry =>
              split_ifs at h with hrest
              cases h
              rw [List.isEmpty_iff.mp hrest]
              exact .last hname hentry nofun
  · intro h
    induction h with
    | here => rfl
    | skip hname _ ih =>
      rw [walk, if_pos (by simpa using hname)]
      exact ih
    | up _ ih => exact ih
    | down hname hentry _ ih =>
      obtain ⟨hskip, hup, hlong⟩ := hname
      rw [walk, if_neg (by simpa using hskip), if_neg (by simpa using hup),
        if_neg (Nat.not_lt.mpr hlong)]
      simp only [hentry]
      exact ih
    | @last _ _ e hname hentry he =>
      obtain ⟨hskip, hup, hlong⟩ := hname
      rw [walk, if_neg (by simpa using hskip), if_neg (by simpa using hup),
        if_neg (Nat.not_lt.mpr hlong)]
      simp only [hentry]
      rcases e with _ | _ | _
      · rfl
      · rfl
      · exact absurd rfl he

/-- What is found at the end of a path stands there, unless it is a directory. -/
theorem LeadsTo.entry (h : t.LeadsTo start rest place e) (he : e ≠ some .directory) :
    t.entry? place = e := by
  induction h with
  | here => exact absurd rfl he
  | skip _ _ ih | up _ ih | down _ _ _ ih => exact ih he
  | last _ hentry => exact hentry

theorem LeadsTo.above (h : t.LeadsTo start rest place e)
    (hstart : ∀ q, q ≠ [] → q <+: start → t.entry? q ≠ none) :
    ∀ q, q ≠ [] → q ≠ place → q <+: place → t.entry? q ≠ none := by
  induction h with
  | here => exact fun q hq _ => hstart q hq
  | skip _ _ ih => exact ih hstart
  | @up start _ _ _ _ ih =>
    have hdrop := List.dropLast_prefix start
    exact ih fun q hq hq' => hstart q hq (hq'.trans hdrop)
  | down _ hentry _ ih =>
    refine ih fun q hq hq' => ?_
    rcases List.prefix_concat_iff.mp hq' with rfl | hq'
    · rw [hentry]
      exact Option.some_ne_none _
    · exact hstart q hq hq'
  | last =>
    exact fun q hq hne hq' => hstart q hq ((List.prefix_concat_iff.mp hq').resolve_left hne)

/-- **A path leads to the same place** when something is changed there alone. -/
theorem LeadsTo.after (h : t.LeadsTo start rest place e) (he : e ≠ some .directory)
    (hplace : t'.entry? place = some (.file bytes))
    (hothers : ∀ q, q ≠ [] → q ≠ place → t'.entry? q = t.entry? q) :
    t'.LeadsTo start rest place (some (.file bytes)) := by
  induction h with
  | here => exact absurd rfl he
  | skip hname _ ih => exact .skip hname (ih he hplace hothers)
  | up _ ih => exact .up (ih he hplace hothers)
  | @down start _ place name _ hname hentry h ih =>
    have hne : start ++ [name] ≠ place := by
      intro hsame
      rw [hsame, h.entry he] at hentry
      exact he hentry
    have hentry' : t'.entry? (start ++ [name]) = some .directory := by
      rw [hothers _ (by simp) hne, hentry]
    exact .down hname hentry' (ih he hplace hothers)
  | last hname => exact .last hname hplace nofun

end Paths

/-! ## Trees after a file was written -/

/-- **The second tree is the first after a file was written at the path**: its bytes can be read there,
and at every other place stands what stood there before. -/
def IsWritten (t t' : FileTree) (path : String) (bytes : List UInt8) : Prop :=
  t'.read path = .ok bytes ∧ ∃ place e, t.locate path = .ok (place, e) ∧
    ∀ q, q ≠ [] → q ≠ place → t'.entry? q = t.entry? q

section Write

variable {t t' : FileTree} {path : String} {place : List String} {e : Option Entry}
  {bytes : List UInt8}

theorem locate_ok : t.locate path = .ok (place, e) ↔
    (path ≠ "" ∧ path.utf8ByteSize < pathBound) ∧ t.LeadsTo [] (partsOf '/' path) place e := by
  rw [← walk_ok, locate]
  split_ifs with hempty hlong
  · exact iff_of_false nofun fun h => h.1.1 (by simpa using hempty)
  · exact iff_of_false nofun fun h => Nat.not_lt.mpr hlong h.1.2
  · exact (and_iff_right ⟨by simpa using hempty, Nat.lt_of_not_le hlong⟩).symm

/-- A file is written at the place that its path leads to, unless that is a directory. -/
theorem exists_place (h : t.write path bytes = .ok t') : ∃ place e,
    t.locate path = .ok (place, e) ∧ e ≠ some .directory ∧
      t' = ⟨setEntry place (.file bytes) t.entries⟩ := by
  unfold write at h
  split at h
  · -- Nothing is written at a path that ends in a slash.
    obtain ⟨⟨_, e⟩, _, h⟩ := bind_eq_ok.mp h
    dsimp only at h
    split at h <;> cases h
  · obtain ⟨⟨place, e⟩, hlocate, h⟩ := bind_eq_ok.mp h
    split at h
    · cases h
    · next hne heq =>
      cases heq
      cases h
      exact ⟨place, e, hlocate, hne, rfl⟩

/-- **Writing a file sets it and leaves everything else alone.** -/
theorem isWritten_of_write (h : t.write path bytes = .ok t') : t.IsWritten t' path bytes := by
  obtain ⟨place, e, hlocate, he, rfl⟩ := exists_place h
  obtain ⟨hpath, hleads⟩ := locate_ok.mp hlocate
  have habove := hleads.above fun q hq hq' => absurd (List.prefix_nil.mp hq') hq
  have hplace : entry? ⟨setEntry place (.file bytes) t.entries⟩ place = some (.file bytes) := by
    rw [entry?_setEntry, if_pos rfl]
  have hothers : ∀ q, q ≠ [] → q ≠ place →
      entry? ⟨setEntry place (.file bytes) t.entries⟩ q = t.entry? q := by
    intro q hq hne
    rw [entry?_setEntry, if_neg hne, if_neg fun hnew => habove q hq hne hnew.2 hnew.1]
  refine ⟨?_, place, e, hlocate, hothers⟩
  rw [read, locate_ok.mpr ⟨hpath, hleads.after he hplace hothers⟩]
  rfl

end Write

end FileTree

end RecordFamily
