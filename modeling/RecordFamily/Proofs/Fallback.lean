import Mathlib.Data.List.DropRight
import RecordFamily.Fallback
import RecordFamily.Proofs.Grammar

/-!
# Fallbacks of unions

A union is written as its members with bars between them. Brackets may hold bars, too, so the bars
between the members are those outside all brackets. Of the members only the first and the last one are
looked at: `None` between other members is missed.

* `IsUnionMember`: texts with balanced brackets and no bar outside them;
* `IsUnion`: how the members of a union are written;
* `BarAfter`: texts that begin with a word and a bar, blanks aside, with `startsWithNone_iff` and
  `endsWithNone_iff`;
* `isUnionWithNone_union`, `isOptionalType_union`, `bareTypeName_union`: what the reading of a union
  sees of its members;
* **`union_fallback`**: when a union falls back to `None`.
-/

namespace RecordFamily

open Text Directive

/-! ## Unions -/

/-- The bracket that closes what a bracket opens. -/
def closing? (c : Char) : Option Char :=
  if c == '(' then some ')' else if c == '[' then some ']' else if c == '\x7b' then some '\x7d'
  else none

/-- The character closes what some bracket opens. -/
def isClosing (c : Char) : Bool := c == ')' || c == ']' || c == '\x7d'

/-- The rest of a text closes the brackets that are open, innermost first, and those it opens itself, and
holds no bar outside brackets. -/
def closesAll (awaited : List Char) : List Char → Bool
  | [] => awaited.isEmpty
  | c :: cs =>
    match closing? c with
    | some d => closesAll (d :: awaited) cs
    | none =>
      if isClosing c then awaited.head? == some c && closesAll awaited.tail cs
      else !(c == '|' && awaited.isEmpty) && closesAll awaited cs

/-- **The text may be a member of a union**: its brackets are balanced, and no bar stands outside
them. -/
def IsUnionMember (cs : List Char) : Prop := closesAll [] cs = true

instance (cs : List Char) : Decidable (IsUnionMember cs) := inferInstanceAs (Decidable (_ = true))

/-- **The text is the union of the members**: they are written one after the other, with a bar between
two of them and any blanks around it. -/
inductive IsUnion : List (List Char) → List Char → Prop where
  | single (m : List Char) : IsUnion [m] m
  | bar (m : List Char) {members : List (List Char)} {before after text : List Char}
      (hbefore : isAllBlank before = true) (hafter : isAllBlank after = true)
      (h : IsUnion members text) : IsUnion (m :: members) (m ++ (before ++ '|' :: (after ++ text)))

/-- The character is no bracket. -/
def isPlain (c : Char) : Bool := (closing? c).isNone && !isClosing c

section Member

variable {cs before after : List Char}

theorem closesAll_cons_of_isPlain {awaited : List Char} {c : Char} (h : isPlain c = true) :
    closesAll awaited (c :: cs) = (!(c == '|' && awaited.isEmpty) && closesAll awaited cs) := by
  obtain ⟨hopen, hclose⟩ := Bool.and_eq_true_iff.mp h
  rw [closesAll, Option.isNone_iff_eq_none.mp hopen]
  simp only [Bool.not_eq_true'] at hclose
  simp [hclose]

/-- Where brackets are open, characters that are none do not close them. -/
theorem closesAll_of_isPlain {awaited : List Char} (h : ∀ c ∈ cs, isPlain c = true)
    (hopen : awaited ≠ []) : closesAll awaited cs = false := by
  induction cs with
  | nil => simpa [closesAll] using hopen
  | cons c cs ih =>
    obtain ⟨hc, hcs⟩ := List.forall_mem_cons.mp h
    rw [closesAll_cons_of_isPlain hc, ih hcs, Bool.and_false]

theorem not_isUnionMember_of_before (h : ∀ c ∈ before, isPlain c = true) :
    ¬ IsUnionMember (before ++ '|' :: after) := by
  unfold IsUnionMember
  induction before with
  | nil =>
    rw [List.nil_append, closesAll_cons_of_isPlain rfl]
    exact Bool.false_ne_true
  | cons c before ih =>
    obtain ⟨hc, hbefore⟩ := List.forall_mem_cons.mp h
    rw [List.cons_append, closesAll_cons_of_isPlain hc, Bool.and_eq_true_iff]
    exact fun hmember => ih hbefore hmember.2

theorem not_isUnionMember_of_after (h : ∀ c ∈ after, isPlain c = true) :
    ¬ IsUnionMember (before ++ '|' :: after) := by
  -- For all brackets that are open at the front.
  have hall : ∀ awaited, closesAll awaited (before ++ '|' :: after) = false := by
    induction before with
    | nil =>
      intro awaited
      rw [List.nil_append, closesAll_cons_of_isPlain rfl]
      cases awaited with
      | nil => rfl
      | cons d awaited => rw [closesAll_of_isPlain h (List.cons_ne_nil _ _), Bool.and_false]
    | cons c before ih =>
      intro awaited
      rw [List.cons_append, closesAll]
      split
      · exact ih _
      · simp only [ih, Bool.and_false, ite_self]
  exact fun hmember => Bool.false_ne_true ((hall []).symm.trans hmember)

end Member

/-! ## Blanks around a text -/

section Trim

variable {cs x y : List Char}

theorem head?_trim : ∀ c ∈ (trim cs).head?, isBlank c = false := by
  rcases trim_cases cs with ⟨-, h⟩ | ⟨c, rest, hc, -, h⟩
  · rw [h]
    exact nofun
  · rw [h]
    rintro _ ⟨⟩
    exact hc

theorem getLast?_trim : ∀ c ∈ (trim cs).getLast?, isBlank c = false := by
  intro c hc
  obtain ⟨hne, rfl⟩ := List.mem_getLast?_eq_getLast hc
  exact Bool.eq_false_iff.mpr (List.rdropWhile_last_not isBlank (trimStart cs) hne)

theorem trim_reverse (cs : List Char) : trim cs.reverse = (trim cs).reverse := by
  obtain ⟨before, after, hbefore, hafter, h⟩ := exists_trim cs
  have hreverse : cs.reverse = after.reverse ++ ((trim cs).reverse ++ before.reverse) := by
    conv_lhs => rw [h]
    simp
  rw [hreverse]
  refine trim_append ?_ ?_ (fun c hc => ?_) fun c hc => ?_
  · simpa [isAllBlank] using hafter
  · simpa [isAllBlank] using hbefore
  · exact getLast?_trim c (by simpa using hc)
  · exact head?_trim c (by simpa using hc)

theorem mem_trim {c : Char} (hc : isBlank c = false) : c ∈ trim cs ↔ c ∈ cs := by
  obtain ⟨before, after, hbefore, hafter, h⟩ := exists_trim cs
  have hgap : ∀ {gap : List Char}, isAllBlank gap = true → c ∉ gap := fun hgap hmem =>
    Bool.false_ne_true (hc.symm.trans (List.all_eq_true.mp hgap c hmem))
  conv_rhs => rw [h]
  rw [List.mem_append, List.mem_append, or_iff_right (hgap hbefore), or_iff_left (hgap hafter)]

theorem trim_blank_append {gap : List Char} (hgap : isAllBlank gap = true) (cs : List Char) :
    trim (gap ++ cs) = trim cs := by
  rw [trim, trimStart, List.dropWhile_append_of_pos (List.all_eq_true.mp hgap)]
  rfl

theorem trim_append_blank {gap : List Char} (hgap : isAllBlank gap = true) (cs : List Char) :
    trim (cs ++ gap) = trim cs := by
  obtain ⟨before, after, hbefore, hafter, h⟩ := exists_trim cs
  have hsplit : cs ++ gap = before ++ (trim cs ++ (after ++ gap)) := by
    conv_lhs => rw [h]
    simp
  rw [hsplit]
  exact trim_append hbefore (isAllBlank_append.mpr ⟨hafter, hgap⟩) head?_trim getLast?_trim

/-- The end of a text is trimmed behind what does not end with a blank. -/
theorem trimEnd_append (h : ∀ c ∈ x.getLast?, isBlank c = false) (y : List Char) :
    trimEnd (x ++ y) = x ++ trimEnd y := by
  induction y using List.reverseRecOn with
  | nil =>
    rw [List.append_nil, trimEnd_eq, trimEnd_eq, List.rdropWhile_nil, List.append_nil,
      List.rdropWhile_eq_self_iff]
    intro hx
    simp [h _ (List.getLast_mem_getLast? hx)]
  | append_singleton y d ih =>
    rw [← List.append_assoc, trimEnd_eq, trimEnd_eq, List.rdropWhile_concat, List.rdropWhile_concat]
    split_ifs
    · exact ih
    · rw [List.append_assoc]

/-- What may not go on as the second text does begins the first one alone. -/
theorem prefix_append_iff {word : List Char} (h : ∀ c ∈ y.head?, c ∉ word) :
    word <+: x ++ y ↔ word <+: x := by
  refine ⟨fun hword => ?_, fun hword => hword.trans (List.prefix_append x y)⟩
  rcases List.prefix_or_prefix_of_prefix hword (List.prefix_append x y) with hx | ⟨rest, rfl⟩
  · exact hx
  · cases rest with
    | nil =>
      exact (List.append_nil x).symm ▸ List.prefix_rfl
    | cons c rest =>
      obtain ⟨z, rfl⟩ := (List.prefix_append_right_inj x).mp hword
      exact absurd (List.mem_append_right x List.mem_cons_self) (h c rfl)

/-- Trimming its end does not touch a word without blanks at the front of a text. -/
theorem prefix_trim_iff {word : List Char} (h : ∀ c ∈ word, isBlank c = false) :
    word <+: trim cs ↔ word <+: trimStart cs := by
  have hsplit : trim cs ++ (trimStart cs).rtakeWhile isBlank = trimStart cs :=
    List.rdropWhile_append_rtakeWhile
  conv_rhs => rw [← hsplit]
  refine (prefix_append_iff fun c hc hmem => ?_).symm
  have hblank : isBlank c = true := List.mem_rtakeWhile_imp (List.mem_of_mem_head? hc)
  exact Bool.false_ne_true ((h c hmem).symm.trans hblank)

end Trim

/-! ## Words before bars -/

theorem after?_eq_some {word cs rest : List Char} : after? word cs = some rest ↔ cs = word ++ rest := by
  unfold after?
  split_ifs with h
  · obtain ⟨tail, rfl⟩ := List.isPrefixOf_iff_prefix.mp h
    simp [eq_comm]
  · refine iff_of_false nofun ?_
    rintro rfl
    exact h (List.isPrefixOf_iff_prefix.mpr (List.prefix_append word rest))

theorem isSome_after? {word cs : List Char} : (after? word cs).isSome = true ↔ word <+: cs := by
  simp only [Option.isSome_iff_exists, after?_eq_some]
  exact ⟨fun ⟨rest, h⟩ => ⟨rest, h.symm⟩, fun ⟨rest, h⟩ => ⟨rest, h.symm⟩⟩

/-- **The text begins with the word and a bar**, with any blanks before each of them. -/
def BarAfter (word cs : List Char) : Prop :=
  ∃ before after rest, isAllBlank before = true ∧ isAllBlank after = true ∧
    cs = before ++ (word ++ (after ++ '|' :: rest))

/-- The word can stand at the front of a member of a union: it has neither blanks nor brackets nor
bars. -/
def IsMark (word : List Char) : Prop :=
  word ≠ [] ∧ ∀ c ∈ word, isBlank c = false ∧ isPlain c = true ∧ c ≠ '|'

instance (word : List Char) : Decidable (IsMark word) :=
  @instDecidableAnd _ _ inferInstance (List.decidableBAll _ word)

section BarAfter

variable {word cs : List Char}

theorem trimStart_append_mark (hword : IsMark word) {before : List Char}
    (hbefore : isAllBlank before = true) (rest : List Char) :
    trimStart (before ++ (word ++ rest)) = word ++ rest := by
  rw [trimStart, List.dropWhile_append_of_pos (List.all_eq_true.mp hbefore)]
  obtain ⟨hne, hchars⟩ := hword
  cases word with
  | nil => exact absurd rfl hne
  | cons c word => exact List.dropWhile_cons_of_neg (by simp [hchars c List.mem_cons_self])

theorem trimStart_append_bar {gap : List Char} (hgap : isAllBlank gap = true) (rest : List Char) :
    trimStart (gap ++ '|' :: rest) = '|' :: rest := by
  rw [trimStart, List.dropWhile_append_of_pos (List.all_eq_true.mp hgap)]
  rfl

theorem barAfter_iff (hword : IsMark word) : (match after? word (trimStart cs) with
    | some rest => (trimStart rest).head? == some '|'
    | none => false) = true ↔ BarAfter word cs := by
  constructor
  · intro h
    split at h
    · next rest hrest =>
      obtain ⟨tail, htail⟩ := List.head?_eq_some_iff.mp (eq_of_beq h)
      refine ⟨cs.takeWhile isBlank, rest.takeWhile isBlank, tail, ?_, ?_, ?_⟩
      · exact List.all_eq_true.mpr fun _ hc => List.mem_takeWhile_imp hc
      · exact List.all_eq_true.mpr fun _ hc => List.mem_takeWhile_imp hc
      · rw [← htail, trimStart, List.takeWhile_append_dropWhile, ← after?_eq_some.mp hrest, trimStart,
          List.takeWhile_append_dropWhile]
    · cases h
  · rintro ⟨before, after, rest, hbefore, hafter, rfl⟩
    rw [trimStart_append_mark hword hbefore, after?_eq_some.mpr rfl]
    dsimp only
    rw [trimStart_append_bar hafter]
    rfl

theorem startsWithNone_iff : startsWithNone cs = true ↔ BarAfter noneWord cs :=
  barAfter_iff (by decide)

theorem endsWithNone_iff : endsWithNone cs = true ↔ BarAfter noneWord.reverse cs.reverse :=
  barAfter_iff (by decide)

theorem barAfter_trim (hword : IsMark word) : BarAfter word (trim cs) ↔ BarAfter word cs := by
  constructor
  · rintro ⟨before, after, rest, hbefore, hafter, h⟩
    obtain ⟨before', after', hbefore', -, hsplit⟩ := exists_trim cs
    refine ⟨before' ++ before, after, rest ++ after', isAllBlank_append.mpr ⟨hbefore', hbefore⟩, hafter,
      ?_⟩
    rw [hsplit, h]
    simp
  · rintro ⟨before, after, rest, hbefore, hafter, rfl⟩
    refine ⟨[], after, trimEnd rest, rfl, hafter, ?_⟩
    have hlast : ∀ c ∈ (word ++ (after ++ ['|'])).getLast?, isBlank c = false := by
      rw [← List.append_assoc, List.getLast?_concat]
      rintro _ ⟨⟩
      rfl
    have hend := trimEnd_append hlast rest
    rw [trim, trimStart_append_mark hword hbefore]
    simpa using hend

theorem plain_of_isBlank {c : Char} (h : isBlank c = true) : isPlain c = true ∧ c ≠ '|' := by
  have hne : ∀ d, isBlank d = false → c ≠ d := by
    rintro d hd rfl
    exact Bool.false_ne_true (hd.symm.trans h)
  refine ⟨?_, hne '|' rfl⟩
  simp [isPlain, closing?, isClosing, hne '(' rfl, hne ')' rfl, hne '[' rfl, hne ']' rfl,
    hne '\x7b' rfl, hne '\x7d' rfl]

/-- Up to the bar after a word there are plain characters alone. -/
theorem plain_of_mem_front (hword : IsMark word) {before after : List Char}
    (hbefore : isAllBlank before = true) (hafter : isAllBlank after = true) :
    ∀ c ∈ before ++ (word ++ after), isPlain c = true ∧ c ≠ '|' := by
  simp only [List.forall_mem_append]
  exact ⟨fun c hc => plain_of_isBlank (List.all_eq_true.mp hbefore c hc), fun c hc => (hword.2 c hc).2,
    fun c hc => plain_of_isBlank (List.all_eq_true.mp hafter c hc)⟩

/-- **A member begins a union with a bar after the word exactly when it is the word**, blanks aside. No
bar may stand in the member after plain characters alone. -/
theorem barAfter_member (hword : IsMark word) {m gap : List Char}
    (hm : ∀ before after, (∀ c ∈ before, isPlain c = true) → m ≠ before ++ '|' :: after)
    (hgap : isAllBlank gap = true) (rest : List Char) :
    BarAfter word (m ++ (gap ++ '|' :: rest)) ↔ trim m = word := by
  constructor
  · rintro ⟨before, after, rest', hbefore, hafter, h⟩
    have hfront := plain_of_mem_front hword hbefore hafter
    have hbarless : '|' ∉ before ++ (word ++ after) := fun hmem => (hfront _ hmem).2 rfl
    by_cases hbar : '|' ∈ m
    · -- Then the first bar stands in the member, after plain characters alone.
      obtain ⟨m₁, m₂, rfl, hm₁⟩ := List.eq_append_cons_of_mem hbar
      have hsame : m₁ = before ++ (word ++ after) := by
        rw [← takeWhile_before hm₁ (m₂ ++ (gap ++ '|' :: rest)), ← takeWhile_before hbarless rest']
        exact congrArg (List.takeWhile (· != '|')) (by simpa using h)
      exact absurd rfl (hm m₁ m₂ fun c hc => (hfront c (hsame ▸ hc)).1)
    · have hmember : '|' ∉ m ++ gap := by
        rw [List.mem_append]
        rintro (hmem | hmem)
        · exact hbar hmem
        · exact (plain_of_isBlank (List.all_eq_true.mp hgap _ hmem)).2 rfl
      have hsame : m ++ gap = before ++ (word ++ after) := by
        rw [← takeWhile_before hmember rest, ← takeWhile_before hbarless rest']
        exact congrArg (List.takeWhile (· != '|')) (by simpa using h)
      rw [← trim_append_blank hgap, hsame]
      refine trim_append hbefore hafter (fun c hc => ?_) fun c hc => ?_
      · exact (hword.2 c (List.mem_of_mem_head? hc)).1
      · exact (hword.2 c (List.mem_of_mem_getLast? hc)).1
  · rintro rfl
    obtain ⟨before, after, hbefore, hafter, hsplit⟩ := exists_trim m
    refine ⟨before, after ++ gap, rest, hbefore, isAllBlank_append.mpr ⟨hafter, hgap⟩, ?_⟩
    conv_lhs => rw [hsplit]
    simp

/-- A text in which no bar stands after plain characters alone has no bar after the word. -/
theorem not_barAfter (hword : IsMark word)
    (hcs : ∀ before after, (∀ c ∈ before, isPlain c = true) → cs ≠ before ++ '|' :: after) :
    ¬ BarAfter word cs := by
  rintro ⟨before, after, rest, hbefore, hafter, h⟩
  refine hcs (before ++ (word ++ after)) rest (fun c hc => ?_) (by simpa using h)
  exact (plain_of_mem_front hword hbefore hafter c hc).1

end BarAfter

/-! ## What is seen of a type -/

theorem isOptionalType_iff {cs : List Char} : isOptionalType cs = true ↔
    "Optional[".toList <+: cs ∨ "typing.Optional[".toList <+: cs := by
  rw [isOptionalType, isSome_after?, withoutModule]
  cases hmodule : after? "typing.".toList cs with
  | none =>
    rw [Option.getD_none, or_iff_left]
    intro h
    have hprefix : "typing.".toList <+: cs := List.IsPrefix.trans (by decide) h
    rw [← isSome_after?, hmodule] at hprefix
    cases hprefix
  | some rest =>
    rw [Option.getD_some, after?_eq_some.mp hmodule, or_iff_right]
    · exact (List.prefix_append_right_inj "typing.".toList).symm
    · rintro ⟨tail, h⟩
      cases h

theorem ne_bracket_of_isAllBlank {gap : List Char} (h : isAllBlank gap = true) :
    ∀ c ∈ gap, (c != '[') = true := by
  intro c hc
  have hblank : isBlank c = true := List.all_eq_true.mp h c hc
  refine bne_iff_ne.mpr fun he => ?_
  rw [he] at hblank
  cases hblank

theorem bareTypeName_trim (cs : List Char) : bareTypeName (trim cs) = bareTypeName cs := by
  obtain ⟨before, after, hbefore, hafter, hsplit⟩ := exists_trim cs
  have hbare : trim (cs.takeWhile (· != '[')) = trim ((trim cs).takeWhile (· != '[')) := by
    conv_lhs => rw [hsplit]
    rw [List.takeWhile_append_of_pos (ne_bracket_of_isAllBlank hbefore), trim_blank_append hbefore,
      List.takeWhile_append]
    split_ifs with hlength
    · rw [(List.takeWhile_prefix _).eq_of_length hlength,
        List.takeWhile_eq_self_iff.mpr (ne_bracket_of_isAllBlank hafter), trim_append_blank hafter]
    · rfl
  rw [bareTypeName, ← hbare, bareTypeName]

section Union

variable {first last gap rest text : List Char} {inner : List (List Char)}

theorem IsUnion.exists_first (h : IsUnion (first :: (inner ++ [last])) text) :
    ∃ gap rest, isAllBlank gap = true ∧ text = first ++ (gap ++ '|' :: rest) := by
  generalize hmembers : inner ++ [last] = members at h
  cases h with
  | single => simp at hmembers
  | bar _ hbefore _ _ => exact ⟨_, _, hbefore, rfl⟩

theorem IsUnion.exists_last (h : IsUnion (first :: (inner ++ [last])) text) :
    ∃ gap rest, isAllBlank gap = true ∧ text = rest ++ '|' :: (gap ++ last) := by
  induction inner generalizing first text with
  | nil =>
    cases h with
    | @bar _ _ before after _ _ hafter h =>
      cases h with
      | single => exact ⟨after, first ++ before, hafter, (List.append_assoc ..).symm⟩
      | bar _ _ _ h => cases h
  | cons m inner ih =>
    cases h with
    | @bar _ _ before after _ _ _ h =>
      obtain ⟨gap, rest, hgap, rfl⟩ := ih h
      exact ⟨gap, first ++ (before ++ '|' :: (after ++ rest)), hgap, by simp⟩

theorem prefix_union {word : List Char} (hne : word ≠ [])
    (hword : word.all (fun c => !isBlank c && c != '|') = true) (hgap : isAllBlank gap = true) :
    word <+: trim (first ++ (gap ++ '|' :: rest)) ↔ word <+: trim first := by
  have hchars : ∀ c ∈ word, isBlank c = false ∧ c ≠ '|' := by simpa using hword
  rw [prefix_trim_iff fun c hc => (hchars c hc).1, prefix_trim_iff fun c hc => (hchars c hc).1,
    trimStart, List.dropWhile_append]
  split_ifs with hempty
  · -- Only blanks stand before the bar, and with neither the word begins.
    rw [← trimStart, trimStart_append_bar hgap, trimStart, List.isEmpty_iff.mp hempty,
      List.prefix_nil]
    refine iff_of_false (fun h => ?_) hne
    obtain ⟨c, word, rfl⟩ := List.exists_cons_of_ne_nil hne
    exact (hchars c List.mem_cons_self).2 (List.cons_prefix_cons.mp h).1
  · refine prefix_append_iff fun c hc hmem => ?_
    cases gap with
    | nil => exact (hchars c hmem).2 (Option.some.inj hc).symm
    | cons d gap =>
      cases hc
      have hblank : isBlank c = true := (Bool.and_eq_true_iff.mp hgap).1
      exact Bool.false_ne_true ((hchars c hmem).1.symm.trans hblank)

theorem isOptionalType_union (hgap : isAllBlank gap = true) :
    isOptionalType (trim (first ++ (gap ++ '|' :: rest))) = isOptionalType (trim first) := by
  rw [Bool.eq_iff_iff, isOptionalType_iff, isOptionalType_iff,
    prefix_union (by decide) (by decide) hgap, prefix_union (by decide) (by decide) hgap]

/-- The first member of a union gives its name, if it has parameters. -/
theorem bareTypeName_union (hfirst : '[' ∈ first) :
    bareTypeName (first ++ (gap ++ '|' :: rest)) = bareTypeName first := by
  obtain ⟨name, parameters, rfl, hname⟩ := List.eq_append_cons_of_mem hfirst
  rw [bareTypeName, bareTypeName, List.append_assoc, List.cons_append, takeWhile_before hname,
    takeWhile_before hname]

/-- A first member without parameters brings the bar after it into the name. -/
theorem bar_mem_name (hfirst : '[' ∉ first) (hgap : isAllBlank gap = true) :
    '|' ∈ (first ++ (gap ++ '|' :: rest)).takeWhile (· != '[') := by
  have hkept : ∀ c ∈ first, (c != '[') = true := fun c hc => bne_iff_ne.mpr fun he => hfirst (he ▸ hc)
  rw [List.takeWhile_append_of_pos hkept,
    List.takeWhile_append_of_pos (ne_bracket_of_isAllBlank hgap), List.takeWhile_cons_of_pos (by decide)]
  simp

theorem lookup_bareTypeName {cs : List Char} (h : '|' ∈ cs.takeWhile (· != '[')) :
    builtinFallbacks.lookup (bareTypeName cs) = none := by
  have htrim : '|' ∈ trim (cs.takeWhile (· != '[')) := (mem_trim rfl).mpr h
  have hbar : '|' ∈ withoutModule (trim (cs.takeWhile (· != '['))) := by
    unfold withoutModule
    cases hmodule : after? "typing.".toList (trim (cs.takeWhile (· != '['))) with
    | none => exact htrim
    | some rest =>
      rw [after?_eq_some.mp hmodule, List.mem_append] at htrim
      exact htrim.resolve_left (by decide)
  have hnames : ∀ e ∈ builtinFallbacks, '|' ∉ e.1.toList := by decide +kernel
  rw [List.lookup_eq_none_iff]
  intro e he
  refine bne_iff_ne.mpr fun hname => hnames e he ?_
  rw [← hname, bareTypeName, String.toList_ofList]
  exact hbar

end Union

/-! ## Fallbacks -/

theorem call_ne_none (cs : List Char) : s!"{String.ofList cs}()" ≠ "None" := by
  intro h
  have hchars : cs ++ "()".toList = "None".toList := by
    simpa only [ToString.toString, String.toList_append, String.toList_ofList] using
      congrArg String.toList h
  have hlast := congrArg List.getLast? hchars
  rw [List.getLast?_append_of_ne_nil _ (by decide)] at hlast
  exact absurd hlast (by decide)

theorem plainFallback_eq_none {cs : List Char} : plainFallback cs = "None" ↔
    isOptionalType cs = true ∨ isUnionWithNone cs = true ∨
      builtinFallbacks.lookup (bareTypeName cs) = some "None" := by
  rw [plainFallback, ← or_assoc, ← Bool.or_eq_true]
  split_ifs with h
  · exact iff_of_true rfl (.inl h)
  · rw [or_iff_right h]
    cases builtinFallbacks.lookup (bareTypeName cs) with
    | none => exact iff_of_false (call_ne_none cs) nofun
    | some e => exact Option.some_inj.symm

section Union

variable {first last text : List Char} {inner : List (List Char)}

theorem IsUnionMember.ne_before {m : List Char} (h : IsUnionMember m) (before after : List Char)
    (hplain : ∀ c ∈ before, isPlain c = true) : m ≠ before ++ '|' :: after := by
  rintro rfl
  exact not_isUnionMember_of_before hplain h

theorem IsUnionMember.reverse_ne_before {m : List Char} (h : IsUnionMember m) (before after : List Char)
    (hplain : ∀ c ∈ before, isPlain c = true) : m.reverse ≠ before ++ '|' :: after := by
  intro he
  have hsplit : m = after.reverse ++ '|' :: before.reverse := by
    simpa using congrArg List.reverse he
  rw [hsplit] at h
  exact not_isUnionMember_of_after (by simpa using hplain) h

/-- **A text falls back to `None` as a union when it begins or ends with `None` and a bar.** -/
theorem isUnionWithNone_trim : isUnionWithNone (trim text) = true ↔
    BarAfter noneWord text ∨ BarAfter noneWord.reverse text.reverse := by
  rw [isUnionWithNone, Bool.or_eq_true, startsWithNone_iff, endsWithNone_iff, ← trim_reverse,
    barAfter_trim (by decide), barAfter_trim (by decide)]

theorem isUnionWithNone_member (h : IsUnionMember first) : isUnionWithNone (trim first) = false := by
  rw [Bool.eq_false_iff, Ne, isUnionWithNone_trim, not_or]
  exact ⟨not_barAfter (by decide) h.ne_before, not_barAfter (by decide) h.reverse_ne_before⟩

/-- Of a union the first and the last member are looked at. -/
theorem isUnionWithNone_union (h : IsUnion (first :: (inner ++ [last])) text)
    (hfirst : IsUnionMember first) (hlast : IsUnionMember last) :
    isUnionWithNone (trim text) = true ↔ trim first = noneWord ∨ trim last = noneWord := by
  rw [isUnionWithNone_trim]
  refine or_congr ?_ ?_
  · obtain ⟨gap, rest, hgap, rfl⟩ := h.exists_first
    exact barAfter_member (by decide) hfirst.ne_before hgap rest
  · obtain ⟨gap, rest, hgap, rfl⟩ := h.exists_last
    have hgap' : isAllBlank gap.reverse = true := by
      simpa [isAllBlank] using hgap
    have hreverse : (rest ++ '|' :: (gap ++ last)).reverse =
        last.reverse ++ (gap.reverse ++ '|' :: rest.reverse) := by simp
    rw [hreverse, barAfter_member (by decide) hlast.reverse_ne_before hgap', trim_reverse,
      List.reverse_inj]

end Union

/-- **A union falls back to `None` exactly when its first or its last member is `None`**, blanks aside,
or its first member has parameters and falls back to `None` by itself. -/
theorem union_fallback {first last : List Char} {inner : List (List Char)} {type : String}
    {overrides : List (String × String)}
    (hunion : IsUnion (first :: (inner ++ [last])) type.toList)
    (hmembers : ∀ m ∈ first :: (inner ++ [last]), IsUnionMember m)
    (htype : overrides.lookup (trimmed type) = none) :
    fallbackExpression overrides type = "None" ↔ trim first = noneWord ∨ trim last = noneWord ∨
      '[' ∈ first ∧ plainFallback (trim first) = "None" := by
  have hfirst : IsUnionMember first := hmembers first List.mem_cons_self
  have hlast : IsUnionMember last := hmembers last (by simp)
  have hplain : fallbackExpression overrides type = plainFallback (trim type.toList) := by
    unfold fallbackExpression
    change (overrides.lookup (trimmed type)).getD _ = _
    rw [htype]
    rfl
  rw [hplain, plainFallback_eq_none, plainFallback_eq_none, isUnionWithNone_union hunion hfirst hlast,
    isUnionWithNone_member hfirst, bareTypeName_trim, bareTypeName_trim]
  obtain ⟨gap, rest, hgap, htext⟩ := hunion.exists_first
  rw [htext, isOptionalType_union hgap]
  by_cases hname : '[' ∈ first
  · rw [bareTypeName_union hname]
    simp only [Bool.false_eq_true, false_or, hname, true_and]
    tauto
  · have hoptional : isOptionalType (trim first) = false := by
      rw [Bool.eq_false_iff, Ne, isOptionalType_iff]
      rintro (h | h) <;> exact hname ((mem_trim rfl).mp (h.subset (by decide)))
    rw [lookup_bareTypeName (bar_mem_name hname hgap)]
    simp [hoptional, hname]

/-- A union with bars in brackets and uneven blanks, which ends with `None`. -/
def nestedUnion : String := "Dict[str, int | None]\t|None|  str |None"

theorem nestedUnion_isUnion : IsUnion
    ("Dict[str, int | None]".toList :: ([noneWord, "str".toList] ++ [noneWord])) nestedUnion.toList :=
  @IsUnion.bar _ _ ['\t'] [] _ rfl rfl
    (@IsUnion.bar _ _ [] [' ', ' '] _ rfl rfl
      (@IsUnion.bar _ _ [' '] [] _ rfl rfl (.single _)))

theorem union_fallback_nested :
    (∀ m ∈ "Dict[str, int | None]".toList :: ([noneWord, "str".toList] ++ [noneWord]), IsUnionMember m) ∧
      fallbackExpression [("str", "\"-\"")] nestedUnion = "None" := by
  have hmembers : ∀ m ∈ "Dict[str, int | None]".toList :: ([noneWord, "str".toList] ++ [noneWord]),
      IsUnionMember m := by
    decide +kernel
  have htype : [("str", "\"-\"")].lookup (trimmed nestedUnion) = none := by decide +kernel
  exact ⟨hmembers, (union_fallback nestedUnion_isUnion hmembers htype).mpr (.inr (.inl (by decide)))⟩

/-- **`None` between two other members of a union is missed.** -/
theorem inner_none_missed :
    IsUnion ("int".toList :: ([noneWord] ++ ["str".toList])) "int | None | str".toList ∧
      (∀ m ∈ "int".toList :: ([noneWord] ++ ["str".toList]), IsUnionMember m) ∧
      fallbackExpression ([] : List (String × String)) "int | None | str" = "int | None | str()" :=
  ⟨@IsUnion.bar _ _ [' '] [' '] _ rfl rfl
    (@IsUnion.bar _ _ [' '] [' '] _ rfl rfl (.single _)), by decide +kernel,
    by decide +kernel⟩

end RecordFamily
