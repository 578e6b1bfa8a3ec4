import RecordFamily.Proofs.Directive

/-!
# The grammar of directives

A directive is a word, perhaps followed by string literals between parentheses, with commas between
them and blanks anywhere between the parts.

* `IsInside`, `isWord`: the inside of a literal, and words;
* `Token.IsAt`, `scan_of_isAt`, `exists_of_scan`: a token at the front of a text;
* `SpellsArguments`, **`Directive.Spells`**: the texts of arguments and of directives;
* **`parse_spelled`**: parsing accepts exactly the texts of the grammar, and any other text is
  malformed.
-/

namespace RecordFamily

open Text

/-! ## Literals and words -/

/-- **The inside of a literal** between two marks: characters other than the mark and the backslash,
and pairs of a backslash and any character. -/
inductive IsInside (mark : Char) : List Char → Prop where
  | nil : IsInside mark []
  | plain {c : Char} {cs : List Char} (hmark : c ≠ mark) (hbackslash : c ≠ backslash)
      (h : IsInside mark cs) : IsInside mark (c :: cs)
  | escaped (c : Char) {cs : List Char} (h : IsInside mark cs) : IsInside mark (backslash :: c :: cs)

/-- The text is a word: a letter or an underscore, and then letters, digits and underscores. -/
def isWord : List Char → Bool
  | [] => false
  | c :: cs => isWordStart c && cs.all isWordPart

theorem ne_backslash_of_isLiteralMark {mark : Char} (h : isLiteralMark mark = true) :
    mark ≠ backslash := by
  rintro rfl
  exact absurd h (by decide)

section Literals

variable {mark : Char} {cs body rest : List Char}

theorem literalBody_mark (h : mark ≠ backslash) (rest : List Char) :
    literalBody mark (mark :: rest) = some ([], rest) := by
  cases rest <;> simp [literalBody, h]

theorem literalBody_plain {c : Char} (hmark : c ≠ mark) (hbackslash : c ≠ backslash) (cs : List Char) :
    literalBody mark (c :: cs) = (literalBody mark cs).map fun r => (c :: r.1, r.2) := by
  cases cs <;> simp [literalBody, hmark, hbackslash]

theorem literalBody_escaped (c : Char) (cs : List Char) :
    literalBody mark (backslash :: c :: cs) =
      (literalBody mark cs).map fun r => (backslash :: c :: r.1, r.2) := by
  simp [literalBody]

/-- **The inside of a literal** is what stands before its closing mark. -/
theorem literalBody_eq_some (hmark : mark ≠ backslash) : literalBody mark cs = some (body, rest) ↔
    IsInside mark body ∧ cs = body ++ mark :: rest := by
  constructor
  · intro h
    fun_induction literalBody mark cs generalizing body rest with
    | case1 | case3 => cases h
    | case2 c hc =>
      cases h
      simp_all [IsInside.nil]
    | case4 c d cs hc ih =>
      obtain ⟨⟨b, r⟩, hr, he⟩ := Option.map_eq_some_iff.mp h
      cases he
      obtain ⟨hb, rfl⟩ := ih hr
      rw [beq_iff_eq.mp hc]
      exact ⟨.escaped d hb, rfl⟩
    | case5 c d cs hc hm =>
      cases h
      exact ⟨.nil, by rw [beq_iff_eq.mp hm]; rfl⟩
    | case6 c d cs hc hm ih =>
      obtain ⟨⟨b, r⟩, hr, he⟩ := Option.map_eq_some_iff.mp h
      cases he
      obtain ⟨hb, hcs⟩ := ih hr
      rw [hcs]
      exact ⟨.plain (by simpa using hm) (by simpa using hc) hb, rfl⟩
  · rintro ⟨h, rfl⟩
    induction h with
    | nil => exact literalBody_mark hmark rest
    | plain hm hb _ ih => rw [List.cons_append, literalBody_plain hm hb, ih, Option.map_some]
    | escaped c _ ih =>
      rw [List.cons_append, List.cons_append, literalBody_escaped, ih, Option.map_some]

end Literals

/-! ## Tokens at the front of a text -/

/-- **The token stands at the front of a text**, with the rest of the text after it. -/
inductive Token.IsAt : Token → List Char → List Char → Prop where
  | literal {mark : Char} {body : List Char} (hmark : isLiteralMark mark = true)
      (h : IsInside mark body) (rest : List Char) :
      IsAt (.literal mark body) (mark :: body ++ mark :: rest) rest
  | word {w rest : List Char} (h : isWord w = true) (hrest : ∀ c ∈ rest.head?, isWordPart c = false) :
      IsAt (.word w) (w ++ rest) rest
  | opening (rest : List Char) : IsAt .opening ('(' :: rest) rest
  | closing (rest : List Char) : IsAt .closing (')' :: rest) rest
  | comma (rest : List Char) : IsAt .comma (',' :: rest) rest

theorem scan_sign {c : Char} (hmark : isLiteralMark c = false) (hstart : isWordStart c = false)
    (cs : List Char) : Token.scan (c :: cs) = (signToken? c).toList ++ Token.scan cs := by
  rw [Token.scan, if_neg (by simp [hmark]), if_neg (by simp [hstart])]

theorem scan_literal {mark : Char} (hmark : isLiteralMark mark = true) {cs body rest : List Char}
    (h : literalBody mark cs = some (body, rest)) :
    Token.scan (mark :: cs) = .literal mark body :: Token.scan rest := by
  rw [Token.scan, if_pos hmark]
  split
  · next b r hr =>
    rw [hr] at h
    cases h
    rfl
  · next hn =>
    rw [hn] at h
    cases h

theorem isWordPart_of_isWordStart {c : Char} (h : isWordStart c = true) : isWordPart c = true := by
  rcases Bool.or_eq_true_iff.mp h with h | h
  · exact Bool.or_eq_true_iff.mpr (.inl (Bool.or_eq_true_iff.mpr (.inl h)))
  · exact Bool.or_eq_true_iff.mpr (.inr h)

/-- **The token at the front of a text is the first one.** -/
theorem scan_of_isAt {t : Token} {cs rest : List Char} (h : t.IsAt cs rest) :
    Token.scan cs = t :: Token.scan rest := by
  cases h with
  | literal hmark h =>
    exact scan_literal hmark ((literalBody_eq_some (ne_backslash_of_isLiteralMark hmark)).mpr ⟨h, rfl⟩)
  | @word w rest h hrest =>
    cases w with
    | nil => cases h
    | cons c w =>
      obtain ⟨hstart, hparts⟩ := Bool.and_eq_true_iff.mp h
      have hstop : rest.takeWhile isWordPart = [] ∧ rest.dropWhile isWordPart = rest := by
        cases rest with
        | nil => exact ⟨rfl, rfl⟩
        | cons d rest =>
          have hd : isWordPart d = false := hrest d rfl
          simp [hd]
      rw [List.cons_append, scan_of_isWordStart hstart,
        List.takeWhile_append_of_pos (List.all_eq_true.mp hparts),
        List.dropWhile_append_of_pos (List.all_eq_true.mp hparts), hstop.1, hstop.2, List.append_nil]
  | opening => rw [scan_sign (by decide) (by decide)]; rfl
  | closing => rw [scan_sign (by decide) (by decide)]; rfl
  | comma => rw [scan_sign (by decide) (by decide)]; rfl

theorem scan_blank {c : Char} (h : isBlank c = true) (cs : List Char) :
    Token.scan (c :: cs) = Token.scan cs := by
  have hne : ∀ d, isBlank d = false → (c == d) = false := by
    intro d hd
    rw [beq_eq_false_iff_ne]
    rintro rfl
    rw [h] at hd
    cases hd
  have hmark : isLiteralMark c = false := by
    rw [isLiteralMark, hne quotationMark (by decide), hne apostrophe (by decide), Bool.or_false]
  have hstart : isWordStart c = false := by
    by_contra hc
    have hpart := isWordPart_of_isWordStart (by simpa using hc)
    rw [isWordPart_of_isBlank h] at hpart
    cases hpart
  have hsign : signToken? c = none := by
    simp [signToken?, hne '(' (by decide), hne ')' (by decide), hne ',' (by decide), h]
  rw [scan_sign hmark hstart, hsign]
  rfl

theorem scan_blanks {blanks : List Char} (h : isAllBlank blanks = true) (cs : List Char) :
    Token.scan (blanks ++ cs) = Token.scan cs := by
  induction blanks with
  | nil => rfl
  | cons c blanks ih =>
    obtain ⟨hc, hblanks⟩ := Bool.and_eq_true_iff.mp h
    rw [List.cons_append, scan_blank hc, ih hblanks]

/-- **The first token of a text stands at its front**, after blanks. -/
theorem exists_of_scan {cs : List Char} {t : Token} {ts : List Token} (h : Token.scan cs = t :: ts)
    (ht : ∀ c, t ≠ .other c) : ∃ blanks here rest, isAllBlank blanks = true ∧ cs = blanks ++ here ∧
      t.IsAt here rest ∧ Token.scan rest = ts := by
  induction cs with
  | nil =>
    rw [Token.scan] at h
    cases h
  | cons c cs ih =>
    by_cases hblank : isBlank c = true
    · rw [scan_blank hblank] at h
      obtain ⟨blanks, here, rest, hblanks, rfl, hat, hrest⟩ := ih h
      exact ⟨c :: blanks, here, rest, Bool.and_eq_true_iff.mpr ⟨hblank, hblanks⟩, rfl, hat, hrest⟩
    suffices hat : ∃ rest, t.IsAt (c :: cs) rest ∧ Token.scan rest = ts by
      obtain ⟨rest, hat, hrest⟩ := hat
      exact ⟨[], c :: cs, rest, rfl, rfl, hat, hrest⟩
    by_cases hmark : isLiteralMark c = true
    · cases hbody : literalBody c cs with
      | some r =>
        obtain ⟨body, rest⟩ := r
        rw [scan_literal hmark hbody] at h
        cases h
        obtain ⟨hinside, rfl⟩ :=
          (literalBody_eq_some (ne_backslash_of_isLiteralMark hmark)).mp hbody
        exact ⟨rest, .literal hmark hinside rest, rfl⟩
      | none =>
        -- An opening mark without a closing one is a token of its own.
        rw [Token.scan, if_pos hmark] at h
        split at h
        · next hsome =>
          rw [hbody] at hsome
          cases hsome
        · cases h
          exact absurd rfl (ht c)
    by_cases hstart : isWordStart c = true
    · rw [scan_of_isWordStart hstart] at h
      cases h
      have hword : Token.IsAt (.word (c :: cs.takeWhile isWordPart))
          (c :: cs.takeWhile isWordPart ++ cs.dropWhile isWordPart) (cs.dropWhile isWordPart) := by
        refine .word (Bool.and_eq_true_iff.mpr ⟨hstart, ?_⟩) ?_
        · exact List.all_eq_true.mpr fun d hd => List.mem_takeWhile_imp hd
        · intro d hd
          have hhead := List.head?_dropWhile_not isWordPart cs
          rw [Option.mem_def.mp hd] at hhead
          simpa using hhead
      rw [List.cons_append, List.takeWhile_append_dropWhile] at hword
      exact ⟨_, hword, rfl⟩
    · rw [scan_sign (by simpa using hmark) (by simpa using hstart), signToken?] at h
      split_ifs at h with h1 h2 h3
      · cases h
        rw [beq_iff_eq.mp h1]
        exact ⟨cs, .opening cs, rfl⟩
      · cases h
        rw [beq_iff_eq.mp h2]
        exact ⟨cs, .closing cs, rfl⟩
      · cases h
        rw [beq_iff_eq.mp h3]
        exact ⟨cs, .comma cs, rfl⟩
      · cases h
        exact absurd rfl (ht c)

theorem isAllBlank_of_scan {cs : List Char} (h : Token.scan cs = []) : isAllBlank cs = true := by
  induction cs with
  | nil => rfl
  | cons c cs ih =>
    have hc : isBlank c = true := by
      by_contra hc
      exact scan_ne_nil (by simpa using hc) cs h
    rw [scan_blank hc] at h
    exact Bool.and_eq_true_iff.mpr ⟨hc, ih h⟩

/-! ## Arguments -/

/-- The text of a literal with the blanks around it. -/
structure SpellsLiteral (cs : List Char) (mark : Char) (body : List Char) : Prop where
  isMark : isLiteralMark mark = true
  inside : IsInside mark body
  blanks : ∃ before after, isAllBlank before = true ∧ isAllBlank after = true ∧
    cs = before ++ (mark :: body ++ mark :: after)

/-- **The text between the parentheses** of a directive spells its arguments: nothing, or literals
with commas between them, and perhaps one more comma after the last one. -/
inductive SpellsArguments : List Char → List String → Prop where
  | none {cs : List Char} (h : isAllBlank cs = true) : SpellsArguments cs []
  | last {cs : List Char} {mark : Char} {body : List Char} (h : SpellsLiteral cs mark body) :
      SpellsArguments cs [String.ofList (unquote body)]
  | more {cs : List Char} {mark : Char} {body rest : List Char} {args : List String}
      (h : SpellsLiteral cs mark body) (hrest : SpellsArguments rest args) :
      SpellsArguments (cs ++ ',' :: rest) (String.ofList (unquote body) :: args)

theorem SpellsLiteral.scan {cs : List Char} {mark : Char} {body : List Char}
    (h : SpellsLiteral cs mark body) (rest : List Char) :
    Token.scan (cs ++ rest) = .literal mark body :: Token.scan rest := by
  obtain ⟨before, after, hbefore, hafter, rfl⟩ := h.blanks
  have hat : Token.IsAt (.literal mark body) (mark :: body ++ mark :: (after ++ rest)) (after ++ rest) :=
    .literal h.isMark h.inside _
  rw [List.append_assoc, scan_blanks hbefore, ← scan_blanks hafter rest, ← scan_of_isAt hat]
  simp

theorem SpellsLiteral.append {cs blanks : List Char} {mark : Char} {body : List Char}
    (h : SpellsLiteral cs mark body) (hblanks : isAllBlank blanks = true) :
    SpellsLiteral (cs ++ blanks) mark body := by
  obtain ⟨before, after, hbefore, hafter, rfl⟩ := h.blanks
  refine ⟨h.isMark, h.inside, before, after ++ blanks, hbefore, ?_, by simp⟩
  rw [isAllBlank, List.all_append]
  exact Bool.and_eq_true_iff.mpr ⟨hafter, hblanks⟩

theorem exists_spellsLiteral {cs : List Char} {mark : Char} {body : List Char} {ts : List Token}
    (h : Token.scan cs = .literal mark body :: ts) :
    ∃ here rest, cs = here ++ rest ∧ SpellsLiteral here mark body ∧ Token.scan rest = ts := by
  obtain ⟨blanks, _, rest, hblanks, rfl, hat, hrest⟩ := exists_of_scan h nofun
  cases hat with
  | literal hmark hinside =>
    refine ⟨blanks ++ (mark :: body ++ [mark]), rest, by simp, ⟨hmark, hinside, ?_⟩, hrest⟩
    exact ⟨blanks, [], hblanks, rfl, rfl⟩

namespace Directive

variable {text : String}

theorem arguments_of_spells (text : String) {cs : List Char} {args : List String}
    (h : SpellsArguments cs args) (rest : List Char) : ∃ inner, Token.scan (cs ++ ')' :: rest) = inner ++ .closing :: Token.scan rest ∧
      arguments text inner = .ok args := by
  induction h with
  | none h => exact ⟨[], by rw [scan_blanks h, scan_of_isAt (.closing rest)]; rfl, rfl⟩
  | @last cs mark body h =>
    refine ⟨[.literal mark body], ?_, rfl⟩
    rw [h.scan, scan_of_isAt (.closing rest)]
    rfl
  | @more cs mark body rest' args h _ ih =>
    obtain ⟨inner, hscan, hargs⟩ := ih
    refine ⟨.literal mark body :: .comma :: inner, ?_, ?_⟩
    · rw [List.append_assoc, h.scan, List.cons_append, scan_of_isAt (.comma _), hscan]
      rfl
    · rw [arguments, hargs]
      rfl

/-- A text whose tokens are arguments in front of a closing parenthesis spells them. -/
theorem spells_of_arguments {cs : List Char} {inner : List Token} {args : List String}
    (hscan : Token.scan cs = inner ++ [.closing]) (h : arguments text inner = .ok args) :
    ∃ inside after, cs = inside ++ ')' :: after ∧ isAllBlank after = true ∧
      SpellsArguments inside args := by
  have hclosing : ∀ c, Token.closing ≠ .other c := by simp
  have hcomma : ∀ c, Token.comma ≠ .other c := by simp
  fun_induction arguments text inner generalizing cs args with
  | case1 =>
    cases h
    obtain ⟨blanks, _, after, hblanks, rfl, hat, hafter⟩ := exists_of_scan hscan hclosing
    cases hat
    exact ⟨blanks, after, rfl, isAllBlank_of_scan hafter, .none hblanks⟩
  | case2 mark body =>
    cases h
    obtain ⟨here, _, rfl, hhere, hscan⟩ := exists_spellsLiteral hscan
    obtain ⟨blanks, _, after, hblanks, rfl, hat, hafter⟩ := exists_of_scan hscan hclosing
    cases hat
    refine ⟨here ++ blanks, after, by simp, isAllBlank_of_scan hafter, .last (hhere.append hblanks)⟩
  | case3 mark body rest ih =>
    obtain ⟨args, hargs, rfl⟩ := map_eq_ok.mp h
    obtain ⟨here, _, rfl, hhere, hscan⟩ := exists_spellsLiteral hscan
    obtain ⟨blanks, _, after, hblanks, rfl, hat, hafter⟩ := exists_of_scan hscan hcomma
    cases hat
    obtain ⟨inside, after, rfl, hafter, hinside⟩ := ih hafter hargs
    exact ⟨here ++ blanks ++ ',' :: inside, after, by simp, hafter, .more (hhere.append hblanks) hinside⟩
  | case4 | case5 => cases h

/-! ## Directives -/

/-- **The text spells the directive**: a word, or a word with arguments between parentheses, with
blanks around all parts. The directive keeps the text without the blanks at its ends. -/
inductive Spells (text : String) : Directive → Prop where
  | bare {before name after : List Char} (hbefore : isAllBlank before = true)
      (hname : isWord name = true) (hafter : isAllBlank after = true)
      (htext : text.toList = before ++ (name ++ after)) :
      Spells text ⟨String.ofList name, [], false, trimmed text⟩
  | call {before name gap inside after : List Char} {args : List String}
      (hbefore : isAllBlank before = true) (hname : isWord name = true) (hgap : isAllBlank gap = true)
      (hinside : SpellsArguments inside args) (hafter : isAllBlank after = true)
      (htext : text.toList = before ++ (name ++ gap ++ '(' :: inside ++ ')' :: after)) :
      Spells text ⟨String.ofList name, args, true, trimmed text⟩

theorem isAllBlank_append {cs ds : List Char} :
    isAllBlank (cs ++ ds) = true ↔ isAllBlank cs = true ∧ isAllBlank ds = true := by
  rw [isAllBlank, List.all_append, Bool.and_eq_true_iff]
  rfl

theorem trim_append {before core after : List Char} (hbefore : isAllBlank before = true)
    (hafter : isAllBlank after = true) (hhead : ∀ c ∈ core.head?, isBlank c = false)
    (hlast : ∀ c ∈ core.getLast?, isBlank c = false) : trim (before ++ (core ++ after)) = core := by
  have hstop : ∀ c cs, isBlank c = false → (c :: cs).dropWhile isBlank = c :: cs :=
    fun c cs hc => List.dropWhile_cons_of_neg (by simp [hc])
  rw [trim, trimStart, List.dropWhile_append_of_pos (List.all_eq_true.mp hbefore)]
  induction core using List.reverseRecOn with
  | nil =>
    rw [List.nil_append, List.dropWhile_eq_nil_iff.mpr (List.all_eq_true.mp hafter)]
    rfl
  | append_singleton core d _ =>
    have hd : isBlank d = false := hlast d (by simp)
    have hstart : (core ++ [d] ++ after).dropWhile isBlank = core ++ [d] ++ after := by
      cases core with
      | nil => exact hstop d after hd
      | cons c core => exact hstop c _ (hhead c rfl)
    have hreverse : ∀ c ∈ after.reverse, isBlank c = true := fun c hc =>
      List.all_eq_true.mp hafter c (List.mem_reverse.mp hc)
    rw [hstart, trimEnd, List.reverse_append, List.dropWhile_append_of_pos hreverse,
      List.reverse_append, List.reverse_singleton, List.singleton_append, hstop d _ hd]
    simp

theorem exists_trim (cs : List Char) : ∃ before after, isAllBlank before = true ∧
    isAllBlank after = true ∧ cs = before ++ (trim cs ++ after) := by
  refine ⟨cs.takeWhile isBlank, (trimStart cs).rtakeWhile isBlank, ?_, ?_, ?_⟩
  · exact List.all_eq_true.mpr fun _ hc => List.mem_takeWhile_imp hc
  · exact List.all_eq_true.mpr fun _ hc => List.mem_rtakeWhile_imp hc
  · rw [trim, trimEnd_eq, List.rdropWhile_append_rtakeWhile, trimStart,
      List.takeWhile_append_dropWhile]

theorem isBlank_of_isWord {w : List Char} (h : isWord w = true) : ∀ c ∈ w, isBlank c = false := by
  cases w with
  | nil => cases h
  | cons c w =>
    obtain ⟨hstart, hparts⟩ := Bool.and_eq_true_iff.mp h
    intro d hd
    have hpart : isWordPart d = true := by
      rcases List.mem_cons.mp hd with rfl | hd
      · exact isWordPart_of_isWordStart hstart
      · exact List.all_eq_true.mp hparts d hd
    by_contra hblank
    rw [isWordPart_of_isBlank (by simpa using hblank)] at hpart
    cases hpart

theorem parse_eq (text : String) :
    parse text = ofTokens (trimmed text) (Token.scan (trim text.toList)) := rfl

theorem parse_of_spells {text : String} {d : Directive} (h : Spells text d) : parse text = .ok d := by
  cases h with
  | @bare before name after hbefore hname hafter htext =>
    have hblank := isBlank_of_isWord hname
    have htrim : trim text.toList = name := by
      rw [htext]
      exact trim_append hbefore hafter (fun c hc => hblank c (List.mem_of_mem_head? hc))
        fun c hc => hblank c (List.mem_of_mem_getLast? hc)
    have hscan : Token.scan name = [.word name] := by
      have hat : Token.IsAt (.word name) (name ++ []) [] := .word hname nofun
      rw [List.append_nil] at hat
      rw [scan_of_isAt hat, Token.scan]
    rw [parse_eq, htrim, hscan]
    rfl
  | @call before name gap inside after args hbefore hname hgap hinside hafter htext =>
    have htrim : trim text.toList = name ++ (gap ++ '(' :: (inside ++ [')'])) := by
      have hblank := isBlank_of_isWord hname
      have hhead : ∀ c ∈ (name ++ (gap ++ '(' :: (inside ++ [')']))).head?, isBlank c = false := by
        cases name with
        | nil => cases hname
        | cons d name =>
          rintro c ⟨⟩
          exact hblank d List.mem_cons_self
      have hlast : ∀ c ∈ (name ++ (gap ++ '(' :: (inside ++ [')']))).getLast?,
          isBlank c = false := by
        have hclosing : (name ++ (gap ++ '(' :: (inside ++ [')']))).getLast? = some ')' := by
          simp [List.getLast?_cons]
        rw [hclosing]
        rintro c ⟨⟩
        decide
      rw [htext, ← trim_append hbefore hafter hhead hlast]
      simp
    -- The word ends at the gap or at the parenthesis.
    have hgap' : ∀ c ∈ (gap ++ '(' :: (inside ++ [')'])).head?, isWordPart c = false := by
      cases gap with
      | nil =>
        rintro c ⟨⟩
        decide
      | cons d gap =>
        rintro c ⟨⟩
        exact isWordPart_of_isBlank (Bool.and_eq_true_iff.mp hgap).1
    obtain ⟨inner, hscan, hargs⟩ := arguments_of_spells (trimmed text) hinside []
    rw [parse_eq, htrim, scan_of_isAt (.word hname hgap'), scan_blanks hgap,
      scan_of_isAt (.opening _), hscan, Token.scan]
    simp [ofTokens, hargs, Except.map]

theorem spells_of_parse {text : String} {d : Directive} (h : parse text = .ok d) : Spells text d := by
  obtain ⟨before, after, hbefore, hafter, htext⟩ := exists_trim text.toList
  rw [parse_eq] at h
  generalize trim text.toList = cs at h htext
  unfold ofTokens at h
  split at h
  · cases h
  · next name hscan =>
    cases h
    obtain ⟨blanks, _, rest, hblanks, rfl, hat, hrest⟩ := exists_of_scan hscan nofun
    cases hat with
    | word hname =>
      refine .bare (isAllBlank_append.mpr ⟨hbefore, hblanks⟩) hname
        (isAllBlank_append.mpr ⟨isAllBlank_of_scan hrest, hafter⟩) ?_
      simp [htext]
  · next name rest hscan =>
    split at h
    · next hlast =>
      obtain ⟨args, hargs, rfl⟩ := map_eq_ok.mp h
      obtain ⟨blanks, _, _, hblanks, rfl, hat, hopening⟩ := exists_of_scan hscan nofun
      cases hat with
      | word hname =>
        obtain ⟨gap, _, _, hgap, rfl, hat, hrest⟩ := exists_of_scan hopening nofun
        cases hat
        rw [← List.dropLast_append_getLast? _ hlast] at hrest
        obtain ⟨inside, after', rfl, hafter', hinside⟩ := spells_of_arguments hrest hargs
        refine .call (isAllBlank_append.mpr ⟨hbefore, hblanks⟩) hname hgap hinside
          (isAllBlank_append.mpr ⟨hafter', hafter⟩) ?_
        simp [htext]
    · cases h
  · cases h
  · cases h

/-- **Parsing accepts exactly the texts of the grammar**, and gives the directive that the text spells.
Any other text is malformed. -/
theorem parse_spelled (text : String) : (∀ d, parse text = .ok d ↔ Spells text d) ∧
    ∀ e, parse text = .error e → e.kind = .malformedDirective :=
  ⟨fun _ => ⟨spells_of_parse, parse_of_spells⟩, fun _ => kind_of_parse⟩

end Directive

end RecordFamily
