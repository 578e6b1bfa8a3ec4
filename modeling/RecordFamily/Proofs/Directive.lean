import Mathlib.Data.List.DropRight
import RecordFamily.Directive.Basic
import RecordFamily.Proofs.Outcome

/-!
# The head of a directive

An annotation is sorted by the word at its front before it is parsed. The two readings of that word
agree, and an annotation that holds more than blanks has a first token.

* `takeWhile_append_stop`, `dropWhile_append_stop`, `takeWhile_before`: where the beginning of a text
  ends;
* `takeWhile_trimEnd`: what a text begins with is not touched by trimming its end;
* `scan_trim_eq_nil`: only blanks have no tokens;
* `scan_trim_of_head`: the word at the front of an annotation is its first token;
* **`parse_name`**: a directive has the name that its annotation begins with;
* `parse_emptyDirective`: only blanks are an empty annotation;
* `kind_of_parse`: an annotation that is no directive is malformed.
-/

namespace RecordFamily

open Text

/-! ## Beginnings of texts -/

section Beginnings

variable {p : Char → Bool} {cs rest : List Char}

theorem takeWhile_append_stop (hcs : ∀ c ∈ cs, p c = true) (hrest : ∀ c ∈ rest.head?, p c = false) :
    (cs ++ rest).takeWhile p = cs := by
  rw [List.takeWhile_append_of_pos hcs]
  cases rest with
  | nil => exact List.append_nil cs
  | cons c rest => rw [List.takeWhile_cons_of_neg (by simp [hrest c rfl]), List.append_nil]

theorem dropWhile_append_stop (hcs : ∀ c ∈ cs, p c = true) (hrest : ∀ c ∈ rest.head?, p c = false) :
    (cs ++ rest).dropWhile p = rest := by
  rw [List.dropWhile_append_of_pos hcs]
  cases rest with
  | nil => rfl
  | cons c rest => exact List.dropWhile_cons_of_neg (by simp [hrest c rfl])

theorem takeWhile_before {mark : Char} (h : mark ∉ cs) (rest : List Char) :
    (cs ++ mark :: rest).takeWhile (· != mark) = cs := by
  refine takeWhile_append_stop (fun c hc => bne_iff_ne.mpr fun he => h (he ▸ hc)) ?_
  rintro c ⟨⟩
  exact bne_self_eq_false mark

end Beginnings

/-! ## Blanks and words -/

theorem isWordPart_iff {c : Char} : isWordPart c = true ↔
    48 ≤ c.toNat ∧ c.toNat ≤ 57 ∨ 65 ≤ c.toNat ∧ c.toNat ≤ 90 ∨ c.toNat = 95 ∨
      97 ≤ c.toNat ∧ c.toNat ≤ 122 := by
  have hunder : c = '_' ↔ c.toNat = 95 :=
    ⟨fun h => h ▸ rfl, fun h => by rw [← Char.ofNat_toNat c, h]⟩
  have hupper : c.isUpper = true ↔ 65 ≤ c.toNat ∧ c.toNat ≤ 90 :=
    decide_eq_true_iff (p := c.val ≥ 65 ∧ c.val ≤ 90)
  have hlower : c.isLower = true ↔ 97 ≤ c.toNat ∧ c.toNat ≤ 122 := by
    change (decide (c.val ≥ 97) && decide (c.val ≤ 122)) = true ↔ _
    rw [Bool.and_eq_true, decide_eq_true_eq, decide_eq_true_eq]
    rfl
  have hdigit : c.isDigit = true ↔ 48 ≤ c.toNat ∧ c.toNat ≤ 57 := Char.isDigit_iff_toNat
  change (((c.isUpper || c.isLower) || c.isDigit) || c == '_') = true ↔ _
  simp only [Bool.or_eq_true, beq_iff_eq, hupper, hlower, hdigit, hunder]
  omega

theorem isWordPart_of_isBlank {c : Char} (h : isBlank c = true) : isWordPart c = false := by
  rw [← Bool.not_eq_true, isWordPart_iff]
  simp only [isBlank, inSpans, blanks, Span.mem, List.any_cons, List.any_nil, Bool.or_false,
    Bool.or_eq_true, Bool.and_eq_true, decide_eq_true_eq, beq_iff_eq] at h
  omega

theorem isLiteralMark_of_isWordStart {c : Char} (h : isWordStart c = true) :
    isLiteralMark c = false := by
  by_contra hm
  simp only [isLiteralMark, Bool.not_eq_false, Bool.or_eq_true, beq_iff_eq] at hm
  rcases hm with rfl | rfl
  · exact absurd h (by decide)
  · exact absurd h (by decide)

/-! ## Trimming -/

theorem trimEnd_eq (cs : List Char) : trimEnd cs = cs.rdropWhile isBlank := rfl

/-- What the characters of a text have in common with its beginning is not touched by trimming its
end. -/
theorem takeWhile_trimEnd {p : Char → Bool} (h : ∀ c, isBlank c = true → p c = false)
    (cs : List Char) : (trimEnd cs).takeWhile p = cs.takeWhile p := by
  induction cs using List.reverseRecOn with
  | nil => rfl
  | append_singleton cs c ih =>
    rw [trimEnd_eq, List.rdropWhile_concat]
    split_ifs with hc
    · rw [← trimEnd_eq, ih, List.takeWhile_append]
      split_ifs with hl
      · rw [(List.takeWhile_prefix p).eq_of_length hl, List.takeWhile_cons_of_neg (by simp [h c hc]),
          List.append_nil]
      · rfl
    · rfl

theorem trimEnd_cons {c : Char} (h : isBlank c = false) (cs : List Char) :
    trimEnd (c :: cs) = c :: trimEnd cs := by
  induction cs using List.reverseRecOn with
  | nil => simp [trimEnd, h]
  | append_singleton cs d ih =>
    rw [trimEnd_eq, trimEnd_eq, ← List.cons_append, List.rdropWhile_concat,
      List.rdropWhile_concat]
    split_ifs
    · exact ih
    · rfl

/-- What is left of a text is nothing, or begins with its first character that is not blank. -/
theorem trim_cases (cs : List Char) : isAllBlank cs = true ∧ trim cs = [] ∨
    ∃ c rest, isBlank c = false ∧ trimStart cs = c :: rest ∧ trim cs = c :: trimEnd rest := by
  cases hs : trimStart cs with
  | nil =>
    rw [trimStart, List.dropWhile_eq_nil_iff] at hs
    refine .inl ⟨List.all_eq_true.mpr hs, ?_⟩
    rw [trim, trimStart, List.dropWhile_eq_nil_iff.mpr hs]
    rfl
  | cons c rest =>
    have hc : isBlank c = false := by
      have hhead := List.head?_dropWhile_not isBlank cs
      rwa [show cs.dropWhile isBlank = c :: rest from hs] at hhead
    exact .inr ⟨c, rest, hc, rfl, by rw [trim, hs, trimEnd_cons hc]⟩

/-! ## The first token -/

theorem scan_of_isWordStart {c : Char} (h : isWordStart c = true) (cs : List Char) :
    Token.scan (c :: cs) =
      .word (c :: cs.takeWhile isWordPart) :: Token.scan (cs.dropWhile isWordPart) := by
  rw [Token.scan, if_neg (by rw [isLiteralMark_of_isWordStart h]; decide), if_pos h]

theorem scan_ne_nil {c : Char} (h : isBlank c = false) (cs : List Char) :
    Token.scan (c :: cs) ≠ [] := by
  have hsign : ∃ t, signToken? c = some t := by
    simp only [signToken?, h, Bool.false_eq_true, if_false]
    split_ifs <;> exact ⟨_, rfl⟩
  obtain ⟨t, ht⟩ := hsign
  rw [Token.scan]
  split_ifs
  · split <;> exact List.cons_ne_nil _ _
  · exact List.cons_ne_nil _ _
  · rw [ht]
    exact List.cons_ne_nil _ _

theorem scan_trim_eq_nil {cs : List Char} : Token.scan (trim cs) = [] ↔ isAllBlank cs = true := by
  rcases trim_cases cs with ⟨hb, ht⟩ | ⟨c, rest, hc, hs, ht⟩
  · rw [ht, Token.scan]
    exact iff_of_true rfl hb
  · refine iff_of_false (ht ▸ scan_ne_nil hc _) fun hb => ?_
    rw [trimStart, List.dropWhile_eq_nil_iff.mpr (List.all_eq_true.mp hb)] at hs
    cases hs

/-- The word at the front of an annotation is its first token. -/
theorem scan_trim_of_head {text n : String} (h : Directive.head? text = some n) :
    ∃ ts, Token.scan (trim text.toList) = .word n.toList :: ts := by
  obtain ⟨w, hw, rfl⟩ := Option.map_eq_some_iff.mp h
  rw [String.toList_ofList]
  unfold Directive.headChars? at hw
  rcases trim_cases text.toList with ⟨hb, ht⟩ | ⟨c, rest, hc, hs, ht⟩
  · rw [trimStart, List.dropWhile_eq_nil_iff.mpr (List.all_eq_true.mp hb)] at hw
    cases hw
  · simp only [hs] at hw
    by_cases hstart : isWordStart c = true
    · -- The two readings stop at the same place: no blank that is trimmed away continues a word.
      have hword : w = c :: rest.takeWhile isWordPart := by
        rw [if_pos hstart] at hw
        split at hw <;> simp_all
      rw [ht, scan_of_isWordStart hstart, takeWhile_trimEnd fun _ => isWordPart_of_isBlank, hword]
      exact ⟨_, rfl⟩
    · rw [if_neg hstart] at hw
      cases hw

/-! ## Parsing -/

namespace Directive

/-- A directive has the name that its tokens begin with. -/
theorem ofTokens_name {text : String} {w : List Char} {ts : List Token} {d : Directive}
    (h : ofTokens text (.word w :: ts) = .ok d) : d.name = String.ofList w := by
  match ts with
  | [] =>
    cases h
    rfl
  | .opening :: rest =>
    simp only [ofTokens] at h
    split at h
    · obtain ⟨args, _, rfl⟩ := map_eq_ok.mp h
      rfl
    · cases h
  | .literal .. :: _ | .word _ :: _ | .closing :: _ | .comma :: _ | .other _ :: _ => cases h

/-- **A directive has the name that its annotation begins with.** -/
theorem parse_name {text n : String} {d : Directive} (hn : head? text = some n)
    (hd : parse text = .ok d) : d.name = n := by
  obtain ⟨ts, hts⟩ := scan_trim_of_head hn
  rw [parse, hts] at hd
  rw [ofTokens_name hd, String.ofList_toList]

theorem parse_name_mem {vocabulary : List String} {text : String} {d : Directive}
    (h : isIn vocabulary text = true) (hd : parse text = .ok d) : d.name ∈ vocabulary := by
  unfold isIn at h
  split at h
  · next n hn =>
    rw [parse_name hn hd]
    exact List.contains_iff_mem.mp h
  · cases h

theorem arguments_ne_empty {text : String} {ts : List Token} :
    arguments text ts ≠ .error .emptyDirective := by
  fun_induction arguments text ts with
  | case3 mark body rest ih => exact fun h => ih (map_eq_error.mp h)
  | _ => simp

theorem ofTokens_ne_empty {text : String} {t : Token} {ts : List Token} :
    ofTokens text (t :: ts) ≠ .error .emptyDirective := by
  unfold ofTokens
  split
  · simp_all
  · simp
  · split
    · exact fun h => arguments_ne_empty (map_eq_error.mp h)
    · simp
  · simp
  · simp

theorem parse_emptyDirective {text : String} :
    parse text = .error .emptyDirective ↔ isAllBlank text.toList = true := by
  rw [← scan_trim_eq_nil, parse]
  cases Token.scan (trim text.toList) with
  | nil => exact iff_of_true rfl rfl
  | cons t ts => exact iff_of_false ofTokens_ne_empty (List.cons_ne_nil t ts)

theorem kind_of_arguments {text : String} {ts : List Token} {e : DerivationError}
    (h : arguments text ts = .error e) : e.kind = .malformedDirective := by
  fun_induction arguments text ts with
  | case1 | case2 => cases h
  | case3 mark body rest ih => exact ih (map_eq_error.mp h)
  | case4 | case5 =>
    cases h
    rfl

theorem kind_of_ofTokens {text : String} {ts : List Token} {e : DerivationError}
    (h : ofTokens text ts = .error e) : e.kind = .malformedDirective := by
  unfold ofTokens at h
  split at h
  · cases h
    rfl
  · cases h
  · split at h
    · exact kind_of_arguments (map_eq_error.mp h)
    · cases h
      rfl
  · cases h
    rfl
  · cases h
    rfl

/-- **An annotation that cannot be parsed is malformed.** -/
theorem kind_of_parse {text : String} {e : DerivationError} (h : parse text = .error e) :
    e.kind = .malformedDirective :=
  kind_of_ofTokens h

/-- A directive with arguments was written with parentheses. -/
theorem hasCall_of_parse {text : String} {d : Directive} (h : parse text = .ok d)
    (hargs : d.args ≠ []) : d.hasCall = true := by
  rw [parse] at h
  unfold ofTokens at h
  split at h
  · cases h
  · cases h
    exact absurd rfl hargs
  · split at h
    · obtain ⟨_, _, rfl⟩ := map_eq_ok.mp h
      rfl
    · cases h
  · cases h
  · cases h

end Directive

end RecordFamily
