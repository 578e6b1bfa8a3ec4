import RecordFamily.Proofs.Quotation

/-!
# Escapes

The inside of a literal is read from left to right in **pieces**: a character as it stands, or a
backslash with the character after it, whatever that is. Unquoting takes the same pieces and puts the
character of each in its place, but it leaves the backslash in front of a line feed.

* `Piece`, `IsReading`: pieces, and the pieces that the inside of a literal is read in;
* `isInside_iff_reading`, `IsReading.unique`: every inside of a literal is read in one way;
* `isInside_of_mem_scan`, `scan_reading`: the literals among the tokens of a text are those that can
  be read so;
* `unquote_reading`, `flatMap_unquoted_eq`: what unquoting makes of the pieces;
* **`unquote_literal`**: unquoting gives the characters of the pieces exactly where no line feed is
  escaped.
-/

namespace RecordFamily

open Text

/-! ## Pieces -/

/-- A piece of the inside of a literal. -/
inductive Piece where
  /-- A character as it stands. -/
  | plain (c : Char)
  /-- A backslash with the character after it. -/
  | escaped (c : Char)
  deriving DecidableEq, Repr

namespace Piece

/-- The piece as it is written. -/
def written : Piece → List Char
  | plain c => [c]
  | escaped c => [backslash, c]

/-- The character that the piece stands for. -/
def char : Piece → Char
  | plain c => c
  | escaped c => c

/-- The piece may stand between two marks: any character may be escaped. -/
def Fits (mark : Char) : Piece → Prop
  | plain c => c ≠ mark ∧ c ≠ backslash
  | escaped _ => True

/-- What unquoting makes of the piece: its character, but an escaped line feed stays as it is
written. -/
def unquoted (p : Piece) : List Char := if p = escaped '\n' then p.written else [p.char]

end Piece

instance (mark : Char) : DecidablePred (Piece.Fits mark)
  | .plain c => inferInstanceAs (Decidable (c ≠ mark ∧ c ≠ backslash))
  | .escaped _ => .isTrue trivial

/-- **The inside of a literal is read in the pieces.** -/
structure IsReading (mark : Char) (body : List Char) (pieces : List Piece) : Prop where
  fits : ∀ p ∈ pieces, p.Fits mark
  written : pieces.flatMap Piece.written = body

instance (mark : Char) (body : List Char) (pieces : List Piece) :
    Decidable (IsReading mark body pieces) :=
  decidable_of_iff ((∀ p ∈ pieces, p.Fits mark) ∧ pieces.flatMap Piece.written = body)
    ⟨fun h => ⟨h.1, h.2⟩, fun h => ⟨h.fits, h.written⟩⟩

section Reading

variable {mark : Char} {body : List Char} {p : Piece} {pieces pieces' : List Piece}

theorem IsReading.nil : IsReading mark [] [] := ⟨List.forall_mem_nil _, rfl⟩

theorem isReading_cons : IsReading mark body (p :: pieces) ↔
    p.Fits mark ∧ ∃ rest, IsReading mark rest pieces ∧ body = p.written ++ rest := by
  constructor
  · rintro ⟨hfits, rfl⟩
    obtain ⟨hp, hpieces⟩ := List.forall_mem_cons.mp hfits
    exact ⟨hp, _, ⟨hpieces, rfl⟩, List.flatMap_cons⟩
  · rintro ⟨hp, rest, ⟨hpieces, rfl⟩, rfl⟩
    exact ⟨List.forall_mem_cons.mpr ⟨hp, hpieces⟩, List.flatMap_cons⟩

/-- Any character may be escaped at the end. -/
theorem IsReading.append_escaped (h : IsReading mark body pieces) (c : Char) :
    IsReading mark (body ++ [backslash, c]) (pieces ++ [.escaped c]) where
  fits := List.forall_mem_append.mpr ⟨h.fits, List.forall_mem_singleton.mpr trivial⟩
  written := by
    rw [List.flatMap_append, h.written]
    rfl

/-- **The insides of literals** are what can be read in pieces. -/
theorem isInside_iff_reading : IsInside mark body ↔ ∃ pieces, IsReading mark body pieces := by
  constructor
  · intro h
    induction h with
    | nil => exact ⟨[], .nil⟩
    | @plain c _ hmark hbackslash _ ih =>
      obtain ⟨pieces, hpieces⟩ := ih
      exact ⟨.plain c :: pieces, isReading_cons.mpr ⟨⟨hmark, hbackslash⟩, _, hpieces, rfl⟩⟩
    | escaped c _ ih =>
      obtain ⟨pieces, hpieces⟩ := ih
      exact ⟨.escaped c :: pieces, isReading_cons.mpr ⟨trivial, _, hpieces, rfl⟩⟩
  · rintro ⟨pieces, h⟩
    induction pieces generalizing body with
    | nil =>
      obtain rfl := h.written
      exact .nil
    | cons p pieces ih =>
      obtain ⟨hp, rest, hrest, rfl⟩ := isReading_cons.mp h
      cases p with
      | plain c => exact .plain hp.1 hp.2 (ih hrest)
      | escaped c => exact .escaped c (ih hrest)

theorem IsReading.unique (h : IsReading mark body pieces) (h' : IsReading mark body pieces') :
    pieces = pieces' := by
  -- A piece is told by its first character: no plain piece is a backslash.
  induction pieces generalizing body pieces' with
  | nil =>
    obtain rfl := h.written
    cases pieces' with
    | nil => rfl
    | cons p' _ =>
      obtain ⟨_, _, _, hbody⟩ := isReading_cons.mp h'
      cases p' <;> cases hbody
  | cons p pieces ih =>
    obtain ⟨hp, rest, hrest, rfl⟩ := isReading_cons.mp h
    cases pieces' with
    | nil =>
      have hbody := h'.written
      cases p <;> cases hbody
    | cons p' pieces' =>
      obtain ⟨hp', rest', hrest', hbody⟩ := isReading_cons.mp h'
      cases p with
      | plain c =>
        cases p' with
        | plain c' =>
          cases hbody
          rw [ih hrest hrest']
        | escaped c' =>
          cases hbody
          exact absurd rfl hp.2
      | escaped c =>
        cases p' with
        | plain c' =>
          cases hbody
          exact absurd rfl hp'.2
        | escaped c' =>
          cases hbody
          rw [ih hrest hrest']

end Reading

/-! ## Literals among the tokens -/

section Literals

variable {mark : Char} {cs body : List Char} {pieces : List Piece}

theorem literal_notMem_signToken? (c : Char) : .literal mark body ∉ (signToken? c).toList := by
  unfold signToken?
  split_ifs <;> simp

/-- **A literal among the tokens of a text** stands between two marks there. -/
theorem isInside_of_mem_scan (h : .literal mark body ∈ Token.scan cs) :
    isLiteralMark mark = true ∧ IsInside mark body := by
  fun_induction Token.scan cs with
  | case1 => cases h
  | case2 c cs hmark body' rest hbody ih =>
    rcases List.mem_cons.mp h with he | h
    · cases he
      exact ⟨hmark, ((literalBody_eq_some (ne_backslash_of_isLiteralMark hmark)).mp hbody).1⟩
    · exact ih h
  | case3 | case4 =>
    next ih => exact ih ((List.mem_cons.mp h).resolve_left nofun)
  | case5 c cs _ _ ih =>
    exact ih ((List.mem_append.mp h).resolve_left (literal_notMem_signToken? c))

/-- **Pieces between two marks are one literal**, whatever characters they escape. -/
theorem scan_reading (hmark : isLiteralMark mark = true) (h : IsReading mark body pieces) :
    Token.scan (mark :: body ++ [mark]) = [.literal mark body] := by
  have hinside : IsInside mark body := isInside_iff_reading.mpr ⟨pieces, h⟩
  rw [scan_of_isAt (.literal hmark hinside []), Token.scan]

end Literals

/-! ## Unquoting -/

section Unquoting

variable {mark : Char} {body : List Char} {pieces : List Piece}

theorem unquote_line_feed (cs : List Char) :
    unquote (backslash :: '\n' :: cs) = backslash :: '\n' :: unquote cs := by
  simp [unquote]

theorem unquote_written {p : Piece} (h : p.Fits mark) (cs : List Char) :
    unquote (p.written ++ cs) = p.unquoted ++ unquote cs := by
  cases p with
  | plain c => exact unquote_plain h.2 cs
  | escaped c =>
    by_cases hc : c = '\n'
    · subst hc
      exact unquote_line_feed cs
    · have hne : Piece.escaped c ≠ .escaped '\n' := fun he => hc (Piece.escaped.inj he)
      rw [Piece.unquoted, if_neg hne]
      exact unquote_escaped hc cs

/-- **Unquoting goes piece by piece.** -/
theorem unquote_reading (h : IsReading mark body pieces) :
    unquote body = pieces.flatMap Piece.unquoted := by
  induction pieces generalizing body with
  | nil =>
    obtain rfl := h.written
    rfl
  | cons p pieces ih =>
    obtain ⟨hp, rest, hrest, rfl⟩ := isReading_cons.mp h
    rw [unquote_written hp, ih hrest, List.flatMap_cons]

theorem length_flatMap_unquoted (pieces : List Piece) :
    (pieces.flatMap Piece.unquoted).length = pieces.length + pieces.count (.escaped '\n') := by
  induction pieces with
  | nil => rfl
  | cons p pieces ih =>
    rw [List.flatMap_cons, List.length_append, ih, List.length_cons, List.count_cons, Piece.unquoted]
    by_cases hp : p = .escaped '\n'
    · subst hp
      simp only [if_true, Piece.written, List.length_cons, List.length_nil, beq_self_eq_true]
      omega
    · simp only [if_neg hp, List.length_singleton, beq_eq_false_iff_ne.mpr hp, Bool.false_eq_true,
        if_false]
      omega

/-- **Unquoting gives the characters of the pieces** exactly where no line feed is escaped. -/
theorem flatMap_unquoted_eq : pieces.flatMap Piece.unquoted = pieces.map Piece.char ↔
    .escaped '\n' ∉ pieces := by
  constructor
  -- An escaped line feed leaves two characters and every other piece one, so lengths tell them apart.
  · intro h
    have hlength := length_flatMap_unquoted pieces
    rw [h, List.length_map] at hlength
    exact List.count_eq_zero.mp (by omega)
  · intro h
    rw [List.map_eq_flatMap]
    refine List.flatMap_congr fun p hp => ?_
    have hne : p ≠ .escaped '\n' := fun he => h (he ▸ hp)
    rw [Piece.unquoted, if_neg hne]

end Unquoting

/-- **Unquoting and the tokens agree on escapes, a line feed apart.** The inside of a literal is read
in one way, and any character may be escaped at its end. It is unquoted piece by piece, which gives
the character of each piece exactly where no piece is an escaped line feed. -/
theorem unquote_literal {cs : List Char} {mark : Char} {body : List Char}
    (h : .literal mark body ∈ Token.scan cs) : ∃ pieces, IsReading mark body pieces ∧
      (∀ pieces', IsReading mark body pieces' → pieces' = pieces) ∧
      (∀ c, Token.scan (mark :: (body ++ [backslash, c]) ++ [mark]) =
        [.literal mark (body ++ [backslash, c])]) ∧
      unquote body = pieces.flatMap Piece.unquoted ∧
      (unquote body = pieces.map Piece.char ↔ .escaped '\n' ∉ pieces) := by
  obtain ⟨hmark, hinside⟩ := isInside_of_mem_scan h
  obtain ⟨pieces, hpieces⟩ := isInside_iff_reading.mp hinside
  have hunquote : unquote body = pieces.flatMap Piece.unquoted := unquote_reading hpieces
  refine ⟨pieces, hpieces, fun _ h' => h'.unique hpieces,
    fun c => scan_reading hmark (hpieces.append_escaped c), hunquote, ?_⟩
  rw [hunquote]
  exact flatMap_unquoted_eq

/-- An escaped mark, and an escaped backslash in front of the closing mark. -/
theorem unquote_literal_marks :
    .literal apostrophe ['a', backslash, apostrophe, backslash, backslash] ∈
        Token.scan "not_in('a\\'\\\\', \"b\")".toList ∧
      unquote ['a', backslash, apostrophe, backslash, backslash] = ['a', apostrophe, backslash] := by
  have hmem : .literal apostrophe ['a', backslash, apostrophe, backslash, backslash] ∈
      Token.scan "not_in('a\\'\\\\', \"b\")".toList := by decide +kernel
  obtain ⟨pieces, _, honly, _, _, hiff⟩ := unquote_literal hmem
  have hpieces : [.plain 'a', .escaped apostrophe, .escaped backslash] = pieces :=
    honly _ (by decide)
  exact ⟨hmem, (hiff.mpr (hpieces ▸ by decide)).trans (hpieces ▸ rfl)⟩

/-- **An escaped line feed keeps its backslash**, although it is one piece of the literal. -/
theorem escaped_line_feed_kept :
    Token.scan "\"a\\\nb\"".toList = [.literal quotationMark ['a', backslash, '\n', 'b']] ∧
      IsReading quotationMark ['a', backslash, '\n', 'b'] [.plain 'a', .escaped '\n', .plain 'b'] ∧
      unquote ['a', backslash, '\n', 'b'] ≠
        [.plain 'a', .escaped '\n', .plain 'b'].map Piece.char ∧
      Directive.parse "only_in(\"a\\\nb\")" =
        .ok ⟨"only_in", ["a\\\nb"], true, "only_in(\"a\\\nb\")"⟩ := by
  decide +kernel

end RecordFamily
