import Mathlib.Data.List.Basic
import RecordFamily.Proofs.Naming

/-!
# Names made of words

The two changes between `WordWord` and `word_word` lose nothing on names of the common forms, and then
each undoes the other. Other names may come to the same: `a_b` and `aB` do, and so do `a_1` and `a1`.

* `isPascal`, `isSnakeWord`, `IsSnake`: the letters of a variant name, of a word, and of words between
  underscores;
* `snakeChar_of_isUpper`, `snakeChar_of_isSmall`: what becomes of a capital and of another character;
* `pascalChars_join`: the words of a name are changed one by one;
* **`pascalChars_snakeChars`**, **`snakeChars_pascalChars`**: each change undoes the other;
* `isPascal_pascalChars`, `isSnake_snakeChars`: and leads to a name of the other form;
* `snakeOfPascal_inj`, `pascalOfSnake_inj`: so that names which come to the same are the same;
* **`case_changes_inverse`**: there and back, for names of both forms.
-/

namespace RecordFamily

open Text Naming

/-! ## Forms of names -/

/-- A lower-case ASCII letter or a digit. -/
def isSmall (c : Char) : Bool := c.isLower || c.isDigit

/-- An ASCII capital, and after it ASCII letters and digits. -/
def isPascal : List Char → Bool
  | [] => false
  | c :: cs => c.isUpper && cs.all Char.isAlphanum

/-- A lower-case ASCII letter, and after it more of them and digits. -/
def isSnakeWord : List Char → Bool
  | [] => false
  | c :: cs => c.isLower && cs.all isSmall

/-- **Words with an underscore between any two of them.** -/
inductive IsSnake : List Char → Prop where
  | word {w : List Char} (hw : isSnakeWord w = true) : IsSnake w
  | join {w cs : List Char} (hw : isSnakeWord w = true) (hcs : IsSnake cs) : IsSnake (w ++ '_' :: cs)

/-- A name as variants mostly have it. -/
def isPascalName (name : String) : Bool := isPascal name.toList

/-- A name as fields mostly have it. -/
def IsSnakeName (name : String) : Prop := IsSnake name.toList

/-! ## Single characters -/

section Characters

variable {c : Char}

theorem ascii_of_le {d : Char} (h : c.val ≤ d.val) (hd : d.toNat < 128) : c.toNat < 128 :=
  Nat.lt_of_le_of_lt (UInt32.le_iff_toNat_le.mp h) hd

theorem ascii_of_isUpper (h : c.isUpper = true) : c.toNat < 128 :=
  ascii_of_le (d := 'Z') (of_decide_eq_true h).2 (by decide)

theorem isSmall_iff : isSmall c = true ↔ c.isLower = true ∨ c.isDigit = true := Bool.or_eq_true_iff

theorem isSmall_of_isLower (h : c.isLower = true) : isSmall c = true := isSmall_iff.mpr (.inl h)

theorem ascii_of_isSmall (h : isSmall c = true) : c.toNat < 128 := by
  rcases isSmall_iff.mp h with h | h
  · exact ascii_of_le (d := 'z') (of_decide_eq_true (Bool.and_eq_true_iff.mp h).2) (by decide)
  · exact ascii_of_le (d := '9') (of_decide_eq_true (Bool.and_eq_true_iff.mp h).2) (by decide)

theorem isAlphanum_iff : c.isAlphanum = true ↔ c.isUpper = true ∨ isSmall c = true := by
  have hsplit : c.isAlphanum = (c.isUpper || c.isLower || c.isDigit) := rfl
  rw [hsplit, Bool.or_eq_true, Bool.or_eq_true, isSmall_iff, or_assoc]

/-- A capital has a lower-case letter, which has it back. -/
theorem toLower_of_isUpper (h : c.isUpper = true) :
    toLower c = [c.toLower] ∧ c.toLower.isLower = true ∧ c.toLower.toUpper = c := by
  have hc := ascii_of_isUpper h
  have hback : c.toLower.isLower = true ∧ c.toLower.toUpper = c :=
    ascii_forall (p := fun d => d.isUpper = true → d.toLower.isLower = true ∧ d.toLower.toUpper = d)
      (by decide) hc h
  exact ⟨if_pos hc, hback⟩

/-- A lower-case letter has a capital, which has it back. -/
theorem toUpper_of_isLower (h : c.isLower = true) :
    toUpper c = [c.toUpper] ∧ c.toUpper.isUpper = true ∧ c.toUpper.toLower = c := by
  have hc := ascii_of_isSmall (isSmall_of_isLower h)
  have hback : c.toUpper.isUpper = true ∧ c.toUpper.toLower = c :=
    ascii_forall (p := fun d => d.isLower = true → d.toUpper.isUpper = true ∧ d.toUpper.toLower = d)
      (by decide) hc h
  exact ⟨if_pos hc, hback⟩

theorem snakeChar_of_isUpper (h : c.isUpper = true) : snakeChar c = ['_', c.toLower] := by
  have hupper : isUpper c = true := by rw [isUpper, if_pos (ascii_of_isUpper h), h]
  rw [snakeChar, if_pos hupper, (toLower_of_isUpper h).1]

theorem snakeChar_of_isSmall (h : isSmall c = true) : snakeChar c = [c] := by
  have hc := ascii_of_isSmall h
  have hkept : c.isUpper = false ∧ c.toLower = c :=
    ascii_forall (p := fun d => isSmall d = true → d.isUpper = false ∧ d.toLower = d)
      (by decide) hc h
  have hupper : ¬ isUpper c = true := by
    rw [isUpper, if_pos hc, hkept.1]
    exact Bool.false_ne_true
  rw [snakeChar, if_neg hupper, toLower, if_pos hc, hkept.2]

theorem ne_underscore_of_isSmall (h : isSmall c = true) : c ≠ '_' := by
  rintro rfl
  exact absurd h (by decide)

end Characters

/-! ## Names as they are put together -/

section Forms

variable {c : Char} {cs ds : List Char}

theorem isPascal_cons : isPascal (c :: cs) = true ↔
    c.isUpper = true ∧ ∀ d ∈ cs, d.isAlphanum = true := by
  rw [isPascal, Bool.and_eq_true, List.all_eq_true]

theorem isSnakeWord_cons : isSnakeWord (c :: cs) = true ↔
    c.isLower = true ∧ ∀ d ∈ cs, isSmall d = true := by
  rw [isSnakeWord, Bool.and_eq_true, List.all_eq_true]

theorem isPascal_append (hcs : isPascal cs = true) (hds : isPascal ds = true) :
    isPascal (cs ++ ds) = true := by
  cases cs with
  | nil => exact hds
  | cons c cs =>
    cases ds with
    | nil => rwa [List.append_nil]
    | cons d ds =>
      obtain ⟨hc, hcs⟩ := isPascal_cons.mp hcs
      obtain ⟨hd, hds⟩ := isPascal_cons.mp hds
      have hd' : d.isAlphanum = true := isAlphanum_iff.mpr (.inl hd)
      rw [List.cons_append, isPascal_cons]
      exact ⟨hc, List.forall_mem_append.mpr ⟨hcs, List.forall_mem_cons.mpr ⟨hd', hds⟩⟩⟩

/-- All that follows the first character is changed character by character. -/
theorem snakeChars_append (h : cs ≠ []) :
    snakeChars (cs ++ ds) = snakeChars cs ++ ds.flatMap snakeChar := by
  cases cs with
  | nil => exact absurd rfl h
  | cons c cs => rw [List.cons_append, snakeChars, snakeChars, List.flatMap_append, List.append_assoc]

/-- In front of the words of a variant name goes one more underscore than between them. -/
theorem flatMap_snakeChar (h : isPascal cs = true) :
    cs.flatMap snakeChar = '_' :: snakeChars cs := by
  cases cs with
  | nil => cases h
  | cons c cs =>
    obtain ⟨hc, _⟩ := isPascal_cons.mp h
    rw [List.flatMap_cons, snakeChar_of_isUpper hc, snakeChars, (toLower_of_isUpper hc).1]
    rfl

theorem pascalChars_kept (hc : c ≠ '_') :
    pascalChars false (c :: cs) = c :: pascalChars false cs := by
  have hkept : ¬ (c == '_') = true := fun h => hc (eq_of_beq h)
  rw [pascalChars, if_neg hkept]
  rfl

theorem pascalChars_begun (hc : c.isLower = true) :
    pascalChars true (c :: cs) = c.toUpper :: pascalChars false cs := by
  have hkept : ¬ (c == '_') = true := fun h =>
    ne_underscore_of_isSmall (isSmall_of_isLower hc) (eq_of_beq h)
  rw [pascalChars, if_neg hkept, if_pos rfl, (toUpper_of_isLower hc).1]
  rfl

theorem pascalChars_small (h : ∀ c ∈ cs, isSmall c = true) : pascalChars false cs = cs := by
  induction cs with
  | nil => rfl
  | cons c cs ih =>
    obtain ⟨hc, hcs⟩ := List.forall_mem_cons.mp h
    rw [pascalChars_kept (ne_underscore_of_isSmall hc), ih hcs]

theorem pascalChars_word (h : isSnakeWord (c :: cs) = true) :
    pascalChars true (c :: cs) = c.toUpper :: cs := by
  obtain ⟨hc, hcs⟩ := isSnakeWord_cons.mp h
  rw [pascalChars_begun hc, pascalChars_small hcs]

/-- **Words are changed one by one.** -/
theorem pascalChars_join (start : Bool) (cs ds : List Char) :
    pascalChars start (cs ++ '_' :: ds) = pascalChars start cs ++ pascalChars true ds := by
  induction cs generalizing start with
  | nil => rfl
  | cons c cs ih =>
    rw [List.cons_append, pascalChars, pascalChars]
    by_cases hc : (c == '_') = true
    · rw [if_pos hc, if_pos hc, ih]
    · rw [if_neg hc, if_neg hc, ih, List.append_assoc]

/-! ## There and back -/

theorem isSnakeWord_append (hw : isSnakeWord cs = true) (hc : isSmall c = true) :
    isSnakeWord (cs ++ [c]) = true := by
  cases cs with
  | nil => cases hw
  | cons d cs =>
    obtain ⟨hd, hcs⟩ := isSnakeWord_cons.mp hw
    rw [List.cons_append, isSnakeWord_cons]
    exact ⟨hd, List.forall_mem_append.mpr ⟨hcs, List.forall_mem_singleton.mpr hc⟩⟩

/-- A word that is begun goes on to the next capital, where another one begins. -/
theorem isSnake_append_flatMap (hw : isSnakeWord ds = true) (h : ∀ c ∈ cs, c.isAlphanum = true) :
    IsSnake (ds ++ cs.flatMap snakeChar) := by
  induction cs generalizing ds with
  | nil =>
    rw [List.flatMap_nil, List.append_nil]
    exact .word hw
  | cons c cs ih =>
    obtain ⟨hc, hcs⟩ := List.forall_mem_cons.mp h
    rw [List.flatMap_cons]
    rcases isAlphanum_iff.mp hc with hc | hc
    · have hnext : isSnakeWord [c.toLower] = true :=
        isSnakeWord_cons.mpr ⟨(toLower_of_isUpper hc).2.1, List.forall_mem_nil _⟩
      rw [snakeChar_of_isUpper hc]
      exact .join hw (ih hnext hcs)
    · rw [snakeChar_of_isSmall hc, ← List.append_assoc]
      exact ih (isSnakeWord_append hw hc) hcs

theorem isSnake_snakeChars (h : isPascal cs = true) : IsSnake (snakeChars cs) := by
  cases cs with
  | nil => cases h
  | cons c cs =>
    obtain ⟨hc, hcs⟩ := isPascal_cons.mp h
    obtain ⟨heq, hlower, _⟩ := toLower_of_isUpper hc
    have hfirst : isSnakeWord [c.toLower] = true :=
      isSnakeWord_cons.mpr ⟨hlower, List.forall_mem_nil _⟩
    rw [snakeChars, heq]
    exact isSnake_append_flatMap hfirst hcs

theorem pascalChars_flatMap (h : ∀ c ∈ cs, c.isAlphanum = true) :
    pascalChars false (cs.flatMap snakeChar) = cs := by
  induction cs with
  | nil => rfl
  | cons c cs ih =>
    obtain ⟨hc, hcs⟩ := List.forall_mem_cons.mp h
    rw [List.flatMap_cons]
    rcases isAlphanum_iff.mp hc with hc | hc
    · -- The underscore in front of a capital begins a word.
      obtain ⟨_, hlower, hback⟩ := toLower_of_isUpper hc
      have hjoin := pascalChars_join false [] (c.toLower :: cs.flatMap snakeChar)
      rw [snakeChar_of_isUpper hc]
      exact hjoin.trans (by rw [pascalChars_begun hlower, hback, ih hcs]; rfl)
    · rw [snakeChar_of_isSmall hc, List.singleton_append,
        pascalChars_kept (ne_underscore_of_isSmall hc), ih hcs]

/-- **A variant name comes back** from its words. -/
theorem pascalChars_snakeChars (h : isPascal cs = true) : pascalChars true (snakeChars cs) = cs := by
  cases cs with
  | nil => cases h
  | cons c cs =>
    obtain ⟨hc, hcs⟩ := isPascal_cons.mp h
    obtain ⟨heq, hlower, hback⟩ := toLower_of_isUpper hc
    rw [snakeChars, heq, List.singleton_append, pascalChars_begun hlower, hback,
      pascalChars_flatMap hcs]

theorem isPascal_pascalChars (h : IsSnake cs) : isPascal (pascalChars true cs) = true := by
  have hword : ∀ {w : List Char}, isSnakeWord w = true → isPascal (pascalChars true w) = true := by
    intro w hw
    cases w with
    | nil => cases hw
    | cons c w =>
      obtain ⟨hc, hsmall⟩ := isSnakeWord_cons.mp hw
      rw [pascalChars_word hw, isPascal_cons]
      exact ⟨(toUpper_of_isLower hc).2.1, fun d hd => isAlphanum_iff.mpr (.inr (hsmall d hd))⟩
  induction h with
  | word hw => exact hword hw
  | join hw _ ih =>
    rw [pascalChars_join]
    exact isPascal_append (hword hw) ih

/-- Each word comes back with an underscore in front. -/
theorem flatMap_pascalChars (h : IsSnake cs) :
    (pascalChars true cs).flatMap snakeChar = '_' :: cs := by
  have hword : ∀ {w : List Char}, isSnakeWord w = true →
      (pascalChars true w).flatMap snakeChar = '_' :: w := by
    intro w hw
    cases w with
    | nil => cases hw
    | cons c w =>
      obtain ⟨hc, hsmall⟩ := isSnakeWord_cons.mp hw
      obtain ⟨_, hupper, hback⟩ := toUpper_of_isLower hc
      have hkept : w.flatMap snakeChar = w := by
        rw [List.flatMap_congr fun d hd => snakeChar_of_isSmall (hsmall d hd)]
        exact List.flatMap_singleton' w
      rw [pascalChars_word hw, List.flatMap_cons, snakeChar_of_isUpper hupper, hback, hkept]
      rfl
  induction h with
  | word hw => exact hword hw
  | join hw _ ih => rw [pascalChars_join, List.flatMap_append, hword hw, ih, List.cons_append]

/-- **Words come back** from the name that they make. -/
theorem snakeChars_pascalChars (h : IsSnake cs) : snakeChars (pascalChars true cs) = cs := by
  have hback := flatMap_snakeChar (isPascal_pascalChars h)
  rw [flatMap_pascalChars h] at hback
  exact (List.cons_injective hback).symm

end Forms

/-! ## Names -/

section Names

variable {p q : String}

theorem toList_snakeOfPascal (name : String) :
    (snakeOfPascal name).toList = snakeChars name.toList := String.toList_ofList

theorem toList_pascalOfSnake (name : String) :
    (pascalOfSnake name).toList = pascalChars true name.toList := String.toList_ofList

theorem pascalOfSnake_snakeOfPascal (hp : isPascalName p = true) :
    pascalOfSnake (snakeOfPascal p) = p := by
  rw [← String.toList_inj, toList_pascalOfSnake, toList_snakeOfPascal, pascalChars_snakeChars hp]

theorem snakeOfPascal_pascalOfSnake (hp : IsSnakeName p) : snakeOfPascal (pascalOfSnake p) = p := by
  rw [← String.toList_inj, toList_snakeOfPascal, toList_pascalOfSnake, snakeChars_pascalChars hp]

theorem snakeOfPascal_inj (hp : isPascalName p = true) (hq : isPascalName q = true) :
    snakeOfPascal p = snakeOfPascal q ↔ p = q := by
  refine ⟨fun h => ?_, congrArg snakeOfPascal⟩
  calc p = pascalOfSnake (snakeOfPascal p) := (pascalOfSnake_snakeOfPascal hp).symm
    _ = pascalOfSnake (snakeOfPascal q) := by rw [h]
    _ = q := pascalOfSnake_snakeOfPascal hq

theorem pascalOfSnake_inj (hp : IsSnakeName p) (hq : IsSnakeName q) :
    pascalOfSnake p = pascalOfSnake q ↔ p = q := by
  refine ⟨fun h => ?_, congrArg pascalOfSnake⟩
  calc p = snakeOfPascal (pascalOfSnake p) := (snakeOfPascal_pascalOfSnake hp).symm
    _ = snakeOfPascal (pascalOfSnake q) := by rw [h]
    _ = q := snakeOfPascal_pascalOfSnake hq

example : pascalOfSnake "a_b" = pascalOfSnake "aB" ∧ pascalOfSnake "a_1" = pascalOfSnake "a1" := by
  decide

end Names

/-- **The two changes are inverse to each other**: each leads from names of one form to names of the
other, and back to where it began. -/
theorem case_changes_inverse (name : String) :
    (isPascalName name = true →
      IsSnakeName (snakeOfPascal name) ∧ pascalOfSnake (snakeOfPascal name) = name) ∧
    (IsSnakeName name →
      isPascalName (pascalOfSnake name) = true ∧ snakeOfPascal (pascalOfSnake name) = name) := by
  constructor
  · intro h
    refine ⟨?_, pascalOfSnake_snakeOfPascal h⟩
    rw [IsSnakeName, toList_snakeOfPascal]
    exact isSnake_snakeChars h
  · intro h
    refine ⟨?_, snakeOfPascal_pascalOfSnake h⟩
    rw [isPascalName, toList_pascalOfSnake]
    exact isPascal_pascalChars h

/-- Capitals in a row and digits: each capital is a word of its own. -/
theorem case_changes_inverse_request :
    (isPascalName "HTTPRequest2" = true ∧ snakeOfPascal "HTTPRequest2" = "h_t_t_p_request2" ∧
      pascalOfSnake (snakeOfPascal "HTTPRequest2") = "HTTPRequest2") ∧
    (IsSnakeName "h_t2_request" ∧ pascalOfSnake "h_t2_request" = "HT2Request" ∧
      snakeOfPascal (pascalOfSnake "h_t2_request") = "h_t2_request") := by
  have hpascal : isPascalName "HTTPRequest2" = true := by decide
  have hrequest : IsSnakeName "t2_request" :=
    .join (w := "t2".toList) (by decide) (.word (w := "request".toList) (by decide))
  have hsnake : IsSnakeName "h_t2_request" := .join (w := "h".toList) (by decide) hrequest
  exact ⟨⟨hpascal, by decide, ((case_changes_inverse _).1 hpascal).2⟩,
    ⟨hsnake, by decide, ((case_changes_inverse _).2 hsnake).2⟩⟩

end RecordFamily
