import Mathlib.Tactic.SplitIfs
import RecordFamily.Naming

/-!
# Marks in names

The report on names that are generated twice parts a variant from its member by a point, and in the text
of a class a parenthesis follows the name of a method. No such mark stands in a valid name, nor in the
names that are made from valid ones.

* `isMark`: the marks of ASCII in front of the digits;
* `ascii_forall`: properties of ASCII characters, which can be tried on all of them;
* `notMem_toUpper`, `notMem_toLower`: no change of case makes a mark;
* `notMem_of_isValidName`: valid names have no characters but those of identifiers;
* **`notMem_pascalOfSnake`**, **`notMem_snakeOfPascal`**: no mark comes into a name when its words are
  written otherwise.
-/

namespace RecordFamily

open Text Naming

/-- What holds of the first 128 characters holds of an ASCII character. -/
theorem ascii_forall {p : Char → Prop} (h : ∀ n < 128, p (Char.ofNat n)) {c : Char}
    (hc : c.toNat < 128) : p c := by
  have hp := h c.toNat hc
  rwa [Char.ofNat_toNat] at hp

/-! ## Changes of case -/

/-- The character is a mark of ASCII in front of the digits. -/
def isMark (c : Char) : Bool := 32 < c.toNat && c.toNat < 48

section Case

variable {c d : Char}

theorem ofNat_ne {n : Nat} (hd : isMark d = true) (h : 47 < n) : Char.ofNat n ≠ d := by
  rw [isMark, Bool.and_eq_true, decide_eq_true_eq, decide_eq_true_eq] at hd
  intro he
  by_cases hv : n.isValidChar
  · have hnat : d.toNat = n := by
      rw [← he, Char.ofNat, dif_pos hv]
      rfl
    omega
  · rw [Char.ofNat, dif_neg hv] at he
    subst he
    exact absurd hd.1 (by decide)

theorem shiftIn_ne {table : List Shift} (hd : isMark d = true) (hc : c ≠ d)
    (h : ∀ s ∈ table, 47 < (s.span.first : Int) + s.distance) : shiftIn table c ≠ d := by
  unfold shiftIn
  split
  · next s hs =>
    have hmem := List.find?_some hs
    have hfirst : s.span.first ≤ c.toNat := by
      simp only [Span.mem, Bool.and_eq_true, decide_eq_true_eq] at hmem
      exact hmem.1.1
    have hmoved := h s (List.mem_of_find?_eq_some hs)
    exact ofNat_ne hd (by omega)
  · exact hc

theorem notMem_listedOr {table : List (Nat × List Nat)} {one : Char} (hd : isMark d = true)
    (hone : one ≠ d) (h : ∀ e ∈ table, ∀ n ∈ e.2, 47 < n) : d ∉ listedOr table c one := by
  unfold listedOr
  split
  · next e he =>
    intro hm
    obtain ⟨n, hn, hnd⟩ := List.mem_map.mp hm
    exact ofNat_ne hd (h e (List.mem_of_find?_eq_some he) n hn) hnd
  · exact fun hm => hone (List.mem_singleton.mp hm).symm

/-- A letter of ASCII stays one when its case is changed, and other characters do not change. -/
theorem ascii_ne {f : Char → Char} (hf : ∀ n < 128, isMark (f (Char.ofNat n)) = true →
    f (Char.ofNat n) = Char.ofNat n) (hd : isMark d = true) (h : c ≠ d) (hc : c.toNat < 128) :
    f c ≠ d := by
  have hsame := ascii_forall (p := fun c => isMark (f c) = true → f c = c) hf hc
  rintro rfl
  exact h (hsame hd).symm

/-- **No change to upper case makes a mark.** -/
theorem notMem_toUpper (hd : isMark d = true) (h : c ≠ d) : d ∉ toUpper c := by
  unfold toUpper
  split_ifs with hc
  · exact fun hm => ascii_ne (f := Char.toUpper) (by decide) hd h hc (List.mem_singleton.mp hm).symm
  · exact notMem_listedOr hd (shiftIn_ne hd h (by decide +kernel)) (by decide +kernel)

/-- **No change to lower case makes a mark.** -/
theorem notMem_toLower (hd : isMark d = true) (h : c ≠ d) : d ∉ toLower c := by
  unfold toLower
  split_ifs with hc
  · exact fun hm => ascii_ne (f := Char.toLower) (by decide) hd h hc (List.mem_singleton.mp hm).symm
  · exact notMem_listedOr hd (shiftIn_ne hd h (by decide +kernel)) (by decide +kernel)

end Case

/-! ## Names -/

theorem isIdentifierPart_of_start {c : Char} (h : isIdentifierStart c = true) :
    isIdentifierPart c = true := by
  unfold isIdentifierStart at h
  unfold isIdentifierPart
  split_ifs at h ⊢
  · rcases Bool.or_eq_true_iff.mp h with h | h
    · simp [Char.isAlphanum, h]
    · simp [h]
  · simp [h]

theorem notMem_of_isValidName {name : String} (h : isValidName name = true) {c : Char}
    (hc : isIdentifierPart c = false) : c ∉ name.toList := by
  rw [isValidName, Bool.and_eq_true] at h
  have hid := h.1
  intro hm
  cases hcs : name.toList with
  | nil =>
    rw [hcs] at hm
    cases hm
  | cons d cs =>
    rw [hcs, isIdentifier, Bool.and_eq_true] at hid
    have hall : ∀ x ∈ d :: cs, isIdentifierPart x = true :=
      List.forall_mem_cons.mpr ⟨isIdentifierPart_of_start hid.1, List.all_eq_true.mp hid.2⟩
    rw [hcs] at hm
    rw [hall c hm] at hc
    cases hc

section Words

variable {name : String} {d : Char}

theorem notMem_pascalChars {start : Bool} {cs : List Char} (hd : isMark d = true) (h : d ∉ cs) :
    d ∉ pascalChars start cs := by
  induction cs generalizing start with
  | nil => exact List.not_mem_nil
  | cons c cs ih =>
    rw [List.mem_cons, not_or] at h
    have hc : c ≠ d := fun e => h.1 e.symm
    rw [pascalChars]
    split_ifs
    · exact ih h.2
    · rw [List.mem_append, not_or]
      exact ⟨notMem_toUpper hd hc, ih h.2⟩
    · rw [List.mem_append, not_or]
      exact ⟨fun hm => h.1 (List.mem_singleton.mp hm), ih h.2⟩

theorem notMem_pascalOfSnake (hd : isMark d = true) (h : d ∉ name.toList) :
    d ∉ (pascalOfSnake name).toList := by
  rw [pascalOfSnake, String.toList_ofList]
  exact notMem_pascalChars hd h

theorem notMem_snakeChar {c : Char} (hd : isMark d = true) (h : c ≠ d) : d ∉ snakeChar c := by
  have hlower : d ∉ toLower c := notMem_toLower hd h
  unfold snakeChar
  split_ifs
  · rw [List.mem_cons, not_or]
    refine ⟨?_, hlower⟩
    rintro rfl
    exact absurd hd (by decide)
  · exact hlower

theorem notMem_snakeOfPascal (hd : isMark d = true) (h : d ∉ name.toList) :
    d ∉ (snakeOfPascal name).toList := by
  rw [snakeOfPascal, String.toList_ofList]
  cases hname : name.toList with
  | nil => exact List.not_mem_nil
  | cons c cs =>
    rw [hname, List.mem_cons, not_or] at h
    rw [snakeChars, List.mem_append, not_or]
    refine ⟨notMem_toLower hd (Ne.symm h.1), fun hm => ?_⟩
    obtain ⟨x, hx, hdx⟩ := List.mem_flatMap.mp hm
    exact notMem_snakeChar hd (fun he => h.2 (he ▸ hx)) hdx

theorem capabilityName_eq (field : String) : capabilityName field = "Has" ++ pascalOfSnake field :=
  rfl

theorem point_notMem_capabilityName {field : String} (h : '.' ∉ field.toList) :
    '.' ∉ (capabilityName field).toList := by
  rw [capabilityName_eq, String.toList_append, List.mem_append, not_or]
  exact ⟨by decide, notMem_pascalOfSnake (by decide) h⟩

theorem point_notMem_absenceName {field : String} (h : '.' ∉ field.toList) :
    '.' ∉ (absenceName field).toList := by
  have he : absenceName field = "HasNo" ++ pascalOfSnake field := rfl
  rw [he, String.toList_append, List.mem_append, not_or]
  exact ⟨by decide, notMem_pascalOfSnake (by decide) h⟩

end Words

end RecordFamily
