import Mathlib.Algebra.Group.Nat.Defs
import RecordFamily.Json.Reader
import RecordFamily.Json.Writer
import RecordFamily.Proofs.Outcome

/-!
# Strings in JSON

A string that was written is read back as it was, whatever characters it holds.

* `hexValue?_hexDigits`: hexadecimal digits denote the number that they were made from;
* `escape_codeText`: a code escape is read back, be it one unit or a pair of halves;
* `stringFrom_charText`: one written character is read as one character;
* **`string_quotedText`**: a written string is read back.
-/

namespace RecordFamily

namespace Json

open Text

/-! ## Code escapes -/

theorem length_hexDigits (width n : Nat) : (hexDigits width n).length = width := by
  induction width generalizing n with
  | zero => rfl
  | succ width ih => rw [hexDigits, List.length_append, ih, List.length_singleton]

theorem hexDigit?_digitChar : ∀ n < 16, hexDigit? (Nat.digitChar n) = some n := by decide

/-- **Hexadecimal digits denote the number that they were made from**, as far as they hold it. -/
theorem hexValue?_hexDigits (width n : Nat) :
    hexValue? (hexDigits width n) = some (n % 16 ^ width) := by
  induction width generalizing n with
  | zero => simp [hexDigits, hexValue?, Nat.mod_one]
  | succ width ih =>
    have hlast : n % 16 < 16 := Nat.mod_lt _ (by decide)
    simp only [hexValue?] at ih ⊢
    rw [hexDigits, List.foldl_append, ih]
    simp only [List.foldl_cons, List.foldl_nil, hexDigit?_digitChar _ hlast]
    have hvalue : 16 * (n / 16 % 16 ^ width) + n % 16 = n % 16 ^ (width + 1) := by
      rw [pow_succ', Nat.mod_mul]
      omega
    rw [← hvalue]
    rfl

section Escapes

variable {opening rest : List Char} {n : Nat} {c : Char}

theorem codeUnit_hexDigits (hn : n < 0x10000) (hrest : rest ≠ []) :
    codeUnit ('u' :: (hexDigits 4 n ++ rest)) = .ok (n, rest) := by
  have htake : (hexDigits 4 n ++ rest).take 4 = hexDigits 4 n :=
    List.take_left' (length_hexDigits 4 n)
  have hdrop : (hexDigits 4 n ++ rest).drop 4 = rest := List.drop_left' (length_hexDigits 4 n)
  have hvalue : hexValue? (hexDigits 4 n) = some n := by
    have hmod : n % 16 ^ 4 = n := Nat.mod_eq_of_lt hn
    rw [hexValue?_hexDigits, hmod]
  obtain ⟨d, ds, rfl⟩ := List.exists_cons_of_ne_nil hrest
  simp only [codeUnit, List.drop_succ_cons, List.drop_zero, htake, hdrop, hvalue]

theorem escape_unitEscape (hn : n < 0x10000) (hrest : rest ≠ []) :
    escape opening (unitEscape n ++ rest) =
      if isHighHalf n then lowHalf n rest else .ok (charOf n, rest) := by
  simp only [unitEscape, List.cons_append, escape, List.drop_succ_cons, List.drop_zero,
    codeUnit_hexDigits hn hrest]
  rfl

/-- The code point of a character is none of the halves. -/
theorem toNat_valid (c : Char) : c.toNat < 0xd800 ∨ 0xe000 ≤ c.toNat ∧ c.toNat < 0x110000 := by
  have hvalid := c.valid
  simp only [UInt32.isValidChar, Nat.isValidChar] at hvalid
  have hval : c.val.toNat = c.toNat := rfl
  omega

/-- **A code escape is read back.** -/
theorem escape_codeText (hrest : rest ≠ []) :
    escape opening (codeText c ++ rest) = .ok (c, rest) := by
  have hvalid := toNat_valid c
  simp only [codeText]
  split_ifs with hsmall
  · -- The code point of a character is no half, so that it stands for itself.
    have hnone : isHighHalf c.toNat = false ∧ isLowHalf c.toNat = false := by
      simp only [isHighHalf, isLowHalf, Bool.and_eq_false_iff, decide_eq_false_iff_not]
      omega
    rw [escape_unitEscape hsmall hrest, hnone.1, charOf, hnone.1, hnone.2]
    simp [Char.ofNat_toNat]
  · -- The halves keep the upper and the lower ten bits of what is above the first plane.
    obtain ⟨high, hhigh⟩ : ∃ high, high = (c.toNat - 0x10000) / 0x400 := ⟨_, rfl⟩
    obtain ⟨low, hlow⟩ : ∃ low, low = (c.toNat - 0x10000) % 0x400 := ⟨_, rfl⟩
    have hparts : high < 0x400 ∧ low < 0x400 ∧ 0x10000 + high * 0x400 + low = c.toNat := by omega
    rw [← hhigh, ← hlow, List.append_assoc, escape_unitEscape (by omega) (by simp [unitEscape])]
    have hhalves : isHighHalf (0xd800 + high) = true ∧ isLowHalf (0xdc00 + low) = true := by
      simp only [isHighHalf, isLowHalf, Bool.and_eq_true, decide_eq_true_iff]
      omega
    have hlong : ¬ (hexDigits 4 (0xdc00 + low) ++ rest).length ≤ 4 := by
      have := List.length_pos_of_ne_nil hrest
      rw [List.length_append, length_hexDigits]
      omega
    have hchar : 0x10000 + (0xd800 + high - 0xd800) * 0x400 + (0xdc00 + low - 0xdc00) =
        c.toNat := by omega
    rw [hhalves.1, if_pos rfl, unitEscape, List.cons_append, List.cons_append]
    change lowHalf _ ('\\' :: 'u' :: (hexDigits 4 (0xdc00 + low) ++ rest)) = _
    rw [lowHalf, if_neg hlong, codeUnit_hexDigits (by omega) hrest]
    change (if isLowHalf (0xdc00 + low) then _ else _) = _
    rw [hhalves.2, if_pos rfl, hchar, Char.ofNat_toNat]
    rfl

end Escapes

/-! ## Strings -/

section Strings

variable {opening done rest tail : List Char} {fuel : Nat} {c : Char}

theorem stringFrom_escape (h : escape opening (backslash :: tail) = .ok (c, rest)) :
    stringFrom opening (fuel + 1) done (backslash :: tail) =
      stringFrom opening fuel (c :: done) rest := by
  have hmark : ¬ (backslash == quotationMark) = true := by decide
  rw [stringFrom, if_neg hmark, if_pos (beq_self_eq_true _), h]
  rfl

theorem exists_codeText (c : Char) : ∃ tail, codeText c = backslash :: tail := by
  simp only [codeText]
  split_ifs
  · exact ⟨_, rfl⟩
  · exact ⟨_, rfl⟩

/-- **A written character is read as one character.** -/
theorem stringFrom_charText (hrest : rest ≠ []) :
    stringFrom opening (fuel + 1) done (charText c ++ rest) =
      stringFrom opening fuel (c :: done) rest := by
  unfold charText
  split_ifs with hmark hn hr ht hb hf hplain
  · refine stringFrom_escape ?_
    rcases Bool.or_eq_true_iff.mp hmark with h | h
    · rw [beq_iff_eq.mp h]
      rfl
    · rw [beq_iff_eq.mp h]
      rfl
  · rw [beq_iff_eq.mp hn]
    exact stringFrom_escape rfl
  · rw [beq_iff_eq.mp hr]
    exact stringFrom_escape rfl
  · rw [beq_iff_eq.mp ht]
    exact stringFrom_escape rfl
  · rw [beq_iff_eq.mp hb]
    exact stringFrom_escape rfl
  · rw [beq_iff_eq.mp hf]
    exact stringFrom_escape rfl
  · have hmarks : ¬ (c == quotationMark) = true ∧ ¬ (c == backslash) = true := by
      simpa using hmark
    have hlarge : ¬ c.toNat ≤ 0x1f := by
      simp only [Bool.and_eq_true, decide_eq_true_iff] at hplain
      omega
    rw [List.singleton_append, stringFrom, if_neg hmarks.1, if_neg hmarks.2, if_neg hlarge]
  · obtain ⟨tail, htail⟩ := exists_codeText c
    have hescape : escape opening (codeText c ++ rest) = .ok (c, rest) := escape_codeText hrest
    rw [htail, List.cons_append] at hescape ⊢
    exact stringFrom_escape hescape

theorem stringFrom_flatMap (cs : List Char) (hfuel : cs.length < fuel) :
    stringFrom opening fuel done (cs.flatMap charText ++ quotationMark :: rest) =
      .ok (String.ofList (done.reverse ++ cs), rest) := by
  induction cs generalizing fuel done with
  | nil =>
    obtain ⟨fuel, rfl⟩ := Nat.exists_eq_add_of_lt hfuel
    simp [stringFrom]
  | cons c cs ih =>
    obtain ⟨fuel, rfl⟩ : ∃ n, fuel = n + 1 := ⟨fuel - 1, by omega⟩
    rw [List.flatMap_cons, List.append_assoc, stringFrom_charText (by simp),
      ih (by simpa using hfuel)]
    simp

theorem toList_quotedText (s : String) :
    (quotedText s).toList = quotationMark :: (s.toList.flatMap charText ++ [quotationMark]) := by
  rw [quotedText, String.toList_ofList]
  rfl

theorem length_charText (c : Char) : 1 ≤ (charText c).length := by
  unfold charText
  split_ifs
  case neg =>
    obtain ⟨tail, htail⟩ := exists_codeText c
    rw [htail]
    simp
  all_goals simp

theorem length_quotedText (s : String) : s.toList.length + 2 ≤ (quotedText s).toList.length := by
  have hlength : ∀ cs : List Char, cs.length ≤ (cs.flatMap charText).length := by
    intro cs
    induction cs with
    | nil => simp
    | cons c cs ih =>
      have := length_charText c
      rw [List.flatMap_cons, List.length_append, List.length_cons]
      omega
  have := hlength s.toList
  rw [toList_quotedText, List.length_cons, List.length_append, List.length_singleton]
  omega

/-- **A written string is read back.** -/
theorem string_quotedText {s : String} {bound : Nat} (h : s.toList.length < bound) :
    string bound ((quotedText s).toList ++ rest) = .ok (s, rest) := by
  rw [toList_quotedText, List.cons_append, List.append_assoc, string]
  change stringFrom _ bound [] (s.toList.flatMap charText ++ quotationMark :: rest) = _
  rw [stringFrom_flatMap _ h, List.reverse_nil, List.nil_append, String.ofList_toList]

end Strings

end Json

end RecordFamily
