import Mathlib.Data.Nat.Digits.Defs
import RecordFamily.Naming
import RecordFamily.Proofs.Escaping
import RecordFamily.Proofs.Json
import RecordFamily.Proofs.Naming
import RecordFamily.Text.Lines
import RecordFamily.Value.Display

/-!
# Single lines

A text is one line when no character in it ends a line. Numbers, quoted texts and whatever a value
without names is described by are lines, and no change of case makes a line break.

* `lineBreaks`, `isLineBreak_iff`: the characters that end a line;
* `IsLine`: texts of one line, with `isLine_append`, `isLine_ofList`, `isLine_intercalate`;
* `isLine_nat`, `isLine_int`, `isLine_double`: numbers;
* **`isLine_quoted`**, `Value.isLine_describedIn`, `Value.isLine_display`: quoted texts, and what values
  without names are described by and read as;
* `unbroken_toUpper`, `unbroken_toLower`: changes of case;
* `isLine_pascalOfSnake`, `isLine_snakeOfPascal`: names made from lines.
-/

namespace RecordFamily

open Text

/-! ## Line breaks -/

/-- The characters that end a line. -/
def lineBreaks : List Char :=
  ['\n', '\x0b', '\x0c', '\r', '\x1c', '\x1d', '\x1e', '\u0085', '\u2028', '\u2029']

theorem isLineBreak_iff {c : Char} : isLineBreak c = true ↔ c ∈ lineBreaks := by
  constructor
  · intro h
    have hnat : c.toNat ∈ lineBreaks.map Char.toNat := by
      simp only [isLineBreak, Bool.or_eq_true, Bool.and_eq_true, decide_eq_true_eq, beq_iff_eq] at h
      change c.toNat ∈ [10, 11, 12, 13, 28, 29, 30, 133, 8232, 8233]
      simp only [List.mem_cons, List.not_mem_nil, or_false]
      omega
    obtain ⟨b, hb, hsame⟩ := List.mem_map.mp hnat
    exact Char.toNat_inj.mp hsame ▸ hb
  · exact List.all_eq_true.mp (by decide : lineBreaks.all isLineBreak = true) c

theorem isLineBreak_eq_false {c : Char} : isLineBreak c = false ↔ c ∉ lineBreaks := by
  rw [← isLineBreak_iff, Bool.not_eq_true]

/-- No character among these ends a line. -/
def Unbroken (cs : List Char) : Prop := ∀ c ∈ cs, isLineBreak c = false

/-- **The text is one line**: no character in it ends a line. -/
def IsLine (s : String) : Prop := Unbroken s.toList

instance (cs : List Char) : Decidable (Unbroken cs) := List.decidableBAll _ cs

instance (s : String) : Decidable (IsLine s) := inferInstanceAs (Decidable (Unbroken s.toList))

section Lines

variable {cs ds : List Char} {c : Char} {s t : String}

@[simp] theorem unbroken_nil : Unbroken [] := List.forall_mem_nil _

@[simp] theorem unbroken_cons : Unbroken (c :: cs) ↔ isLineBreak c = false ∧ Unbroken cs :=
  List.forall_mem_cons

@[simp] theorem unbroken_append : Unbroken (cs ++ ds) ↔ Unbroken cs ∧ Unbroken ds :=
  List.forall_mem_append

theorem Unbroken.of_subset (h : Unbroken cs) (hsub : ds ⊆ cs) : Unbroken ds :=
  fun c hc => h c (hsub hc)

theorem unbroken_flatMap {α : Type} {f : α → List Char} {as : List α} :
    Unbroken (as.flatMap f) ↔ ∀ a ∈ as, Unbroken (f a) :=
  List.forall_mem_flatMap

@[simp] theorem isLine_ofList : IsLine (String.ofList cs) ↔ Unbroken cs := by
  rw [IsLine, String.toList_ofList]

@[simp] theorem isLine_append : IsLine (s ++ t) ↔ IsLine s ∧ IsLine t := by
  rw [IsLine, String.toList_append, unbroken_append]
  rfl

@[simp] theorem isLine_singleton : IsLine (String.singleton c) ↔ isLineBreak c = false := by
  rw [IsLine, String.toList_singleton, unbroken_cons, and_iff_left unbroken_nil]

theorem isLine_intercalate {sep : String} (hsep : IsLine sep) {ss : List String} :
    IsLine (sep.intercalate ss) ↔ ∀ s ∈ ss, IsLine s := by
  rw [IsLine, String.toList_intercalate]
  cases ss with
  | nil => simp
  | cons s ss =>
    rw [List.map_cons, intercalate_cons, unbroken_append, unbroken_flatMap, List.forall_mem_cons,
      List.forall_mem_map]
    refine and_congr_right fun _ => forall₂_congr fun t _ => ?_
    rw [unbroken_append]
    exact and_iff_right hsep

end Lines

/-! ## Numbers -/

section Numbers

variable {cs : List Char}

theorem isLineBreak_of_isDigit {c : Char} (h : c.isDigit = true) : isLineBreak c = false := by
  obtain ⟨hlow, hhigh⟩ := Char.isDigit_iff_toNat.mp h
  have hzero : ('0' : Char).toNat = 48 := rfl
  have hnine : ('9' : Char).toNat = 57 := rfl
  simp only [isLineBreak, Bool.or_eq_false_iff, Bool.and_eq_false_iff, decide_eq_false_iff_not,
    beq_eq_false_iff_ne]
  omega

theorem unbroken_digits (n : Nat) : Unbroken (Nat.toDigits 10 n) := fun _ hc =>
  isLineBreak_of_isDigit (Nat.isDigit_of_mem_toDigits (by decide) (by decide) hc)

theorem isLine_nat (n : Nat) : IsLine (toString n) := isLine_ofList.mpr (unbroken_digits n)

theorem isLine_int (n : Int) : IsLine (toString n) := by
  cases n with
  | ofNat n => exact isLine_nat n
  | negSucc n => exact isLine_append.mpr ⟨by decide, isLine_nat n.succ⟩

theorem unbroken_positional (h : Unbroken cs) (point : Int) :
    Unbroken (Decimal.positional cs point) := by
  have hzeros (n : Nat) : Unbroken (List.replicate n '0') := fun c hc => by
    rw [List.eq_of_mem_replicate hc]
    rfl
  unfold Decimal.positional
  dsimp only
  split_ifs
  · simp only [unbroken_cons, unbroken_append]
    exact ⟨rfl, rfl, hzeros _, h⟩
  · simp only [unbroken_append]
    exact ⟨⟨h, hzeros _⟩, by decide⟩
  · rw [unbroken_append, unbroken_cons]
    exact ⟨h.of_subset (List.take_subset _ _), rfl, h.of_subset (List.drop_subset _ _)⟩

theorem unbroken_scientific (h : Unbroken cs) (exponent : Int) :
    Unbroken (Decimal.scientific cs exponent) := by
  have hsize := unbroken_digits exponent.natAbs
  have hrest := h.of_subset (List.drop_subset 1 cs)
  unfold Decimal.scientific
  simp only [unbroken_append, unbroken_cons]
  refine ⟨⟨h.of_subset (List.take_subset _ _), ?_⟩, rfl, ?_, ?_⟩
  · split
    · exact unbroken_nil
    · exact unbroken_cons.mpr ⟨rfl, hrest⟩
  · split_ifs <;> rfl
  · split_ifs
    · exact unbroken_cons.mpr ⟨rfl, hsize⟩
    · exact hsize

theorem isLine_double (x : Double) : IsLine x.text := by
  cases x with
  | notANumber => decide
  | infinite negative => cases negative <;> decide
  | finite negative m q =>
    have hbody (d : Nat) : Unbroken (Decimal.dropZeros (Decimal.digits d)) := by
      refine (unbroken_digits d).of_subset fun c hc => ?_
      have hmem := (List.dropWhile_sublist _).subset (List.mem_reverse.mp hc)
      exact List.mem_reverse.mp hmem
    rw [Double.text]
    dsimp only
    rw [isLine_ofList]
    have hsigned {cs : List Char} (h : Unbroken cs) :
        Unbroken (if negative then '-' :: cs else cs) := by
      split_ifs
      · exact unbroken_cons.mpr ⟨rfl, h⟩
      · exact h
    apply hsigned
    split_ifs
    · decide
    · exact unbroken_positional (hbody _) _
    · exact unbroken_scientific (hbody _) _

end Numbers

/-! ## Quoted texts and descriptions -/

theorem isLineBreak_of_isPrintable {c : Char} (h : isPrintable c = true) : isLineBreak c = false := by
  have hbreaks : lineBreaks.all (fun b => !isPrintable b) = true := by decide +kernel
  refine isLineBreak_eq_false.mpr fun hc => ?_
  have hnot := List.all_eq_true.mp hbreaks c hc
  rw [h] at hnot
  cases hnot

theorem unbroken_hexDigits (width n : Nat) : Unbroken (hexDigits width n) := by
  have hdigit : ∀ d < 16, isLineBreak (Nat.digitChar d) = false := by decide
  induction width generalizing n with
  | zero => exact unbroken_nil
  | succ width ih =>
    rw [hexDigits, unbroken_append]
    exact ⟨ih _, unbroken_cons.mpr ⟨hdigit _ (Nat.mod_lt _ (by decide)), unbroken_nil⟩⟩

theorem unbroken_codeEscape (c : Char) : Unbroken (codeEscape c) := by
  unfold codeEscape
  dsimp only
  split_ifs <;> exact unbroken_cons.mpr ⟨rfl, unbroken_cons.mpr ⟨rfl, unbroken_hexDigits _ _⟩⟩

theorem unbroken_quotedChar {mark : Char} (hmark : isLineBreak mark = false) (c : Char) :
    Unbroken (quotedChar mark c) := by
  unfold quotedChar
  split_ifs with hescaped _ _ _ hprintable
  · have hc : isLineBreak c = false := by
      rcases Bool.or_eq_true_iff.mp hescaped with h | h
      · rw [eq_of_beq h, hmark]
      · rw [eq_of_beq h]
        rfl
    exact unbroken_cons.mpr ⟨rfl, unbroken_cons.mpr ⟨hc, unbroken_nil⟩⟩
  · decide
  · decide
  · decide
  · exact unbroken_cons.mpr ⟨isLineBreak_of_isPrintable hprintable, unbroken_nil⟩
  · exact unbroken_codeEscape c

/-- **A quoted text is a line**, whatever text it is. -/
theorem isLine_quoted (s : String) : IsLine (quoted s) := by
  have hmark : isLineBreak (quotedMark s.toList) = false := by
    unfold quotedMark
    split_ifs <;> rfl
  simp only [quoted, quotedChars, isLine_ofList, unbroken_append, unbroken_cons, unbroken_flatMap]
  exact ⟨⟨hmark, fun c _ => unbroken_quotedChar hmark c⟩, hmark, unbroken_nil⟩

namespace Value

mutual

/-- **The description of a value without names is a line.** -/
theorem isLine_describedIn : (v : Value) → v.isJson = true → IsLine (v.describedIn [])
  | null, _ => by decide
  | bool b, _ => by cases b <;> decide
  | int n, _ => isLine_int n
  | float x, _ => isLine_double x
  | text s, _ => isLine_quoted s
  | list xs, h => by
    rw [describedIn]
    simp only [isLine_append, isLine_intercalate (by decide : IsLine ", ")]
    exact ⟨⟨by decide, isLine_describedItems xs h⟩, by decide⟩
  | map es, h => by
    rw [describedIn]
    simp only [isLine_append, isLine_intercalate (by decide : IsLine ", ")]
    exact ⟨⟨by decide, isLine_describedEntries es h⟩, by decide⟩

theorem isLine_describedItems : (xs : List Value) → areJson xs = true →
    ∀ s ∈ describedItems [] xs, IsLine s
  | [], _ => List.forall_mem_nil _
  | x :: xs, h => by
    obtain ⟨hx, hxs⟩ := Bool.and_eq_true_iff.mp h
    exact List.forall_mem_cons.mpr ⟨isLine_describedIn x hx, isLine_describedItems xs hxs⟩

theorem isLine_describedEntries : (es : List (Value × Value)) → entriesAreJson es = true →
    ∀ s ∈ describedEntries [] es, IsLine s
  | [], _ => List.forall_mem_nil _
  | (k, v) :: es, h => by
    obtain ⟨he, hes⟩ := Bool.and_eq_true_iff.mp h
    obtain ⟨hk, hv⟩ := Bool.and_eq_true_iff.mp he
    obtain ⟨s, rfl⟩ := eq_text hk
    refine List.forall_mem_cons.mpr ⟨?_, isLine_describedEntries es hes⟩
    simp only [isLine_append]
    exact ⟨⟨isLine_quoted s, by decide⟩, isLine_describedIn v hv⟩

end

/-- The value is a text that is a line, or it is no text. -/
def IsLined : Value → Prop
  | text s => IsLine s
  | _ => True

instance : DecidablePred IsLined
  | text s => inferInstanceAs (Decidable (IsLine s))
  | null | bool _ | int _ | float _ | bytes _ | date _ | moment _ | list _ | pair .. | set _ | map _
  | named .. | again _ => .isTrue trivial

/-- **What a value without names reads as is a line**, unless it is a text that is none. -/
theorem isLine_display {v : Value} (hv : v.isJson = true) (h : v.IsLined) : IsLine v.display := by
  cases v with
  | text s => exact h
  | null | bool | int | float | list | map => exact isLine_describedIn _ hv
  | bytes | date | moment | pair | set | named | again => cases hv

end Value

/-! ## Changes of case -/

section Case

variable {c : Char} {cs : List Char}

/-- The character of a code point ends a line only if that is the code point of a line break. -/
theorem exists_lineBreak_of_ofNat {n : Nat} (h : isLineBreak (Char.ofNat n) = true) :
    ∃ b ∈ lineBreaks, b.toNat = n := by
  by_cases hn : n.isValidChar
  · refine ⟨Char.ofNat n, isLineBreak_iff.mp h, ?_⟩
    rw [Char.ofNat, dif_pos hn]
    rfl
  · rw [Char.ofNat, dif_neg hn] at h
    exact absurd h (by decide)

/-- No line break lies where a run of a table is moved to. -/
def Text.Shift.AvoidsBreaks (s : Shift) : Prop :=
  ∀ b ∈ lineBreaks, (b.toNat : Int) < s.span.first + s.distance ∨
    s.span.last + s.distance < (b.toNat : Int)

instance (s : Shift) : Decidable s.AvoidsBreaks := List.decidableBAll _ lineBreaks

/-- A table of shifts that avoid the line breaks makes none. -/
theorem unbroken_shiftIn {table : List Shift} (htable : ∀ s ∈ table, s.AvoidsBreaks)
    (hc : isLineBreak c = false) : isLineBreak (shiftIn table c) = false := by
  unfold shiftIn
  split
  · next s hs =>
    have hmem := List.find?_some hs
    have hspan : s.span.first ≤ c.toNat ∧ c.toNat ≤ s.span.last := by
      simp only [Span.mem, Bool.and_eq_true, decide_eq_true_eq] at hmem
      exact hmem.1
    rw [← Bool.not_eq_true]
    intro hbreak
    obtain ⟨b, hb, hnat⟩ := exists_lineBreak_of_ofNat hbreak
    have hpos : 0 < b.toNat := of_decide_eq_true
      (List.all_eq_true.mp (by decide : lineBreaks.all (fun b => 0 < b.toNat) = true) b hb)
    have havoids := htable s (List.mem_of_find?_eq_some hs) b hb
    omega
  · exact hc

/-- No change of case by tables makes a line break where none of their entries is one. -/
theorem unbroken_listedOr {lists : List (Nat × List Nat)} {shifts : List Shift}
    (hlists : ∀ e ∈ lists, Unbroken (e.2.map Char.ofNat)) (hshifts : ∀ s ∈ shifts, s.AvoidsBreaks)
    (hc : isLineBreak c = false) : Unbroken (listedOr lists c (shiftIn shifts c)) := by
  unfold listedOr
  split
  · next e he => exact hlists e (List.mem_of_find?_eq_some he)
  · exact unbroken_cons.mpr ⟨unbroken_shiftIn hshifts hc, unbroken_nil⟩

theorem unbroken_changed {one : Char → Char} {lists : List (Nat × List Nat)} {shifts : List Shift}
    (hone : ∀ n < 128, isLineBreak (Char.ofNat n) = false → isLineBreak (one (Char.ofNat n)) = false)
    (hlists : ∀ e ∈ lists, Unbroken (e.2.map Char.ofNat)) (hshifts : ∀ s ∈ shifts, s.AvoidsBreaks)
    (hc : isLineBreak c = false) :
    Unbroken (if c.toNat < 128 then [one c] else listedOr lists c (shiftIn shifts c)) := by
  split_ifs with hascii
  · have hkept : isLineBreak (one c) = false :=
      ascii_forall (p := fun d => isLineBreak d = false → isLineBreak (one d) = false) hone hascii hc
    exact unbroken_cons.mpr ⟨hkept, unbroken_nil⟩
  · exact unbroken_listedOr hlists hshifts hc

/-- **No change to upper case makes a line break.** -/
theorem unbroken_toUpper (hc : isLineBreak c = false) : Unbroken (toUpper c) :=
  unbroken_changed (by decide) (by decide +kernel) (by decide +kernel) hc

/-- **No change to lower case makes a line break.** -/
theorem unbroken_toLower (hc : isLineBreak c = false) : Unbroken (toLower c) :=
  unbroken_changed (by decide) (by decide +kernel) (by decide +kernel) hc

end Case

/-! ## Generated names -/

section Names

open Naming

variable {cs : List Char} {name : String}

theorem unbroken_snakeChar {c : Char} (hc : isLineBreak c = false) : Unbroken (snakeChar c) := by
  unfold snakeChar
  split_ifs
  · exact unbroken_cons.mpr ⟨rfl, unbroken_toLower hc⟩
  · exact unbroken_toLower hc

theorem isLine_snakeOfPascal (h : IsLine name) : IsLine (snakeOfPascal name) := by
  unfold IsLine at h
  rw [snakeOfPascal, isLine_ofList]
  cases hcs : name.toList with
  | nil => exact unbroken_nil
  | cons c cs =>
    obtain ⟨hc, hcs⟩ := unbroken_cons.mp (hcs ▸ h)
    rw [snakeChars, unbroken_append, unbroken_flatMap]
    exact ⟨unbroken_toLower hc, fun d hd => unbroken_snakeChar (hcs d hd)⟩

theorem unbroken_pascalChars {start : Bool} (h : Unbroken cs) : Unbroken (pascalChars start cs) := by
  induction cs generalizing start with
  | nil => exact unbroken_nil
  | cons c cs ih =>
    obtain ⟨hc, hcs⟩ := unbroken_cons.mp h
    rw [pascalChars]
    split_ifs
    · exact ih hcs
    · exact unbroken_append.mpr ⟨unbroken_toUpper hc, ih hcs⟩
    · exact unbroken_append.mpr ⟨unbroken_cons.mpr ⟨hc, unbroken_nil⟩, ih hcs⟩

theorem isLine_pascalOfSnake (h : IsLine name) : IsLine (pascalOfSnake name) := by
  rw [pascalOfSnake, isLine_ofList]
  exact unbroken_pascalChars h

theorem isLine_prefixed {front : String} (hfront : IsLine front) (h : IsLine name) :
    IsLine (front ++ name) :=
  isLine_append.mpr ⟨hfront, h⟩

/-- The names of the accessors of a field, of its interface and of its marker are lines when its own
name is one. -/
theorem isLine_fieldNames (h : IsLine name) : IsLine (getterName name) ∧ IsLine (setterName name) ∧
    IsLine (capabilityName name) ∧ IsLine (absenceName name) :=
  ⟨isLine_prefixed (by decide) h, isLine_prefixed (by decide) h,
    isLine_prefixed (by decide) (isLine_pascalOfSnake h),
    isLine_prefixed (by decide) (isLine_pascalOfSnake h)⟩

end Names

end RecordFamily
