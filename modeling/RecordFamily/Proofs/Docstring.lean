import Mathlib.Data.List.DropRight
import RecordFamily.Proofs.Escaping

/-!
# What a documentation string shows

A text is escaped before it is cut into lines and before the blanks at the ends of its lines are cut
off. Neither cut falls into an escape, because no escape holds a line break or ends with a blank: the
lines are those of the text, each with its escapes.

* `lines_write`, `trimEnd_write`: the lines of a text with its escapes, and cutting off blanks there;
* `ShowsText`: lines that are a documentation string and show a text;
* **`docstringLines_shows`**: the lines of the documentation string of every text are such.
-/

namespace RecordFamily

open Text

/-! ## Characters of escapes -/

section Characters

variable {c d : Char} {cs : List Char}

/-- The escape of a character ends with it, and has nothing but a backslash in front of it. -/
theorem docstringChar_cases (c : Char) : docstringChar c = [c] ∨
    docstringChar c = [backslash, c] ∧ isLineBreak c = false ∧ isBlank c = false := by
  unfold docstringChar
  split_ifs with hc
  · refine .inr ⟨rfl, ?_⟩
    rcases Bool.or_eq_true_iff.mp hc with hc | hc
    · rw [beq_iff_eq.mp hc]
      decide
    · rw [beq_iff_eq.mp hc]
      decide
  · exact .inl rfl

theorem docstringChar_of_isLineBreak (h : isLineBreak c = true) : docstringChar c = [c] := by
  refine (docstringChar_cases c).resolve_right ?_
  rintro ⟨_, hbreak, _⟩
  rw [h] at hbreak
  cases hbreak

theorem docstringChar_of_isBlank (h : isBlank c = true) : docstringChar c = [c] := by
  refine (docstringChar_cases c).resolve_right ?_
  rintro ⟨_, _, hblank⟩
  rw [h] at hblank
  cases hblank

theorem isLineBreak_of_mem_docstringChar (h : isLineBreak c = false) (hd : d ∈ docstringChar c) :
    isLineBreak d = false := by
  rcases docstringChar_cases c with hc | ⟨hc, _⟩
  · rw [hc, List.mem_singleton] at hd
    rwa [hd]
  · rw [hc, List.mem_pair] at hd
    rcases hd with rfl | rfl
    · decide
    · exact h

theorem write_docstring (cs : List Char) :
    docstringEscaping.write cs = cs.flatMap docstringChar := by
  rw [Escaping.write, writtenChar_docstring]

theorem write_docstring_cons (c : Char) (cs : List Char) :
    docstringEscaping.write (c :: cs) = docstringChar c ++ docstringEscaping.write cs := by
  rw [write_docstring, write_docstring, List.flatMap_cons]

theorem write_docstring_singleton (c : Char) : docstringEscaping.write [c] = docstringChar c := by
  rw [write_docstring_cons, Escaping.write_nil, List.append_nil]

/-- The escapes bring no line feed and take none away. -/
theorem lineFeed_mem_write : '\n' ∈ docstringEscaping.write cs ↔ '\n' ∈ cs := by
  have hchar : ∀ c, '\n' ∈ docstringChar c ↔ '\n' = c := by
    intro c
    rcases docstringChar_cases c with hc | ⟨hc, _⟩
    · rw [hc, List.mem_singleton]
    · have hne : ('\n' : Char) ≠ backslash := by decide
      rw [hc, List.mem_pair, or_iff_right hne]
  rw [write_docstring, List.mem_flatMap]
  simp only [hchar, exists_eq_right']

theorem head_eq_lineFeed (h : (docstringEscaping.write cs).head? = some '\n') :
    cs.head? = some '\n' := by
  cases cs with
  | nil => cases h
  | cons c cs =>
    rw [write_docstring_cons] at h
    rcases docstringChar_cases c with hc | ⟨hc, _⟩
    · rw [hc] at h
      exact h
    · rw [hc] at h
      exact absurd h (by simp; decide)

end Characters

/-! ## Lines -/

section Lines

variable {c : Char} {current cs ds : List Char}

/-- A character is read alone, unless it is a carriage return in front of a line feed. -/
theorem linesFrom_cons (h : c = '\r' → cs.head? ≠ some '\n') : linesFrom current (c :: cs) =
    if isLineBreak c then current.reverse :: linesFrom [] cs else linesFrom (c :: current) cs := by
  rw [linesFrom]
  rintro rest rfl rfl
  exact h rfl rfl

theorem linesFrom_append (h : ∀ d ∈ ds, isLineBreak d = false) :
    linesFrom current (ds ++ cs) = linesFrom (ds.reverse ++ current) cs := by
  induction ds generalizing current with
  | nil => rfl
  | cons d ds ih =>
    obtain ⟨hd, hds⟩ := List.forall_mem_cons.mp h
    have hreturn : d ≠ '\r' := by
      rintro rfl
      exact absurd hd (by decide)
    rw [List.cons_append, linesFrom_cons (absurd · hreturn), if_neg (by simp [hd]), ih hds,
      List.reverse_cons, List.append_assoc]
    rfl

theorem linesFrom_ne_nil (h : current ≠ [] ∨ cs ≠ []) : linesFrom current cs ≠ [] := by
  fun_induction linesFrom current cs with
  | case1 current hcurrent =>
    rw [List.isEmpty_iff] at hcurrent
    exact absurd hcurrent (h.resolve_right (absurd rfl ·))
  | case2 | case3 | case4 => exact List.cons_ne_nil _ _
  | case5 current c cs _ _ ih => exact ih (.inl (List.cons_ne_nil _ _))

/-- **The lines of a text with its escapes** are its lines with their escapes. -/
theorem linesFrom_write (current cs : List Char) :
    linesFrom (docstringEscaping.write current.reverse).reverse (docstringEscaping.write cs) =
      (linesFrom current cs).map docstringEscaping.write := by
  fun_induction linesFrom current cs with
  | case1 current hcurrent =>
    rw [List.isEmpty_iff] at hcurrent
    subst hcurrent
    rfl
  | case2 current hcurrent =>
    rw [List.isEmpty_iff] at hcurrent
    have hwritten : (docstringEscaping.write current.reverse).reverse ≠ [] := by
      rwa [ne_eq, List.reverse_eq_nil_iff, Escaping.write_eq_nil, List.reverse_eq_nil_iff]
    change linesFrom _ [] = _
    rw [linesFrom, if_neg (by rwa [List.isEmpty_iff]), List.reverse_reverse]
    rfl
  | case3 current cs ih =>
    change linesFrom _ ('\r' :: '\n' :: docstringEscaping.write cs) = _
    rw [linesFrom, List.reverse_reverse, List.map_cons]
    exact congrArg _ ih
  | case4 current c cs hhalf hc ih =>
    have hwhole : c = '\r' → (docstringEscaping.write cs).head? ≠ some '\n' := by
      intro hreturn hfeed
      obtain ⟨rest, rfl⟩ := List.head?_eq_some_iff.mp (head_eq_lineFeed hfeed)
      exact hhalf rest hreturn rfl
    rw [write_docstring_cons, docstringChar_of_isLineBreak hc, List.singleton_append,
      linesFrom_cons hwhole, if_pos hc, List.reverse_reverse, List.map_cons]
    exact congrArg _ ih
  | case5 current c cs hhalf hc ih =>
    have hescape : ∀ d ∈ docstringChar c, isLineBreak d = false := fun d =>
      isLineBreak_of_mem_docstringChar (Bool.eq_false_iff.mpr hc)
    rw [write_docstring_cons, linesFrom_append hescape, ← List.reverse_append]
    rwa [List.reverse_cons, Escaping.write_append, write_docstring_singleton] at ih

theorem lines_write (cs : List Char) :
    lines (docstringEscaping.write cs) = (lines cs).map docstringEscaping.write :=
  linesFrom_write [] cs

/-- **Cutting off the blanks at the end of a text** leaves its escapes whole. -/
theorem trimEnd_write (cs : List Char) :
    trimEnd (docstringEscaping.write cs) = docstringEscaping.write (trimEnd cs) := by
  induction cs using List.reverseRecOn with
  | nil => rfl
  | append_singleton cs c ih =>
    rw [Escaping.write_append, write_docstring_singleton]
    by_cases hc : isBlank c = true
    · rw [docstringChar_of_isBlank hc, trimEnd_eq, trimEnd_eq, List.rdropWhile_concat_pos _ _ _ hc,
        List.rdropWhile_concat_pos _ _ _ hc]
      exact ih
    · -- The escape of any other character ends with that character.
      obtain ⟨front, hfront⟩ : ∃ front, docstringChar c = front ++ [c] := by
        rcases docstringChar_cases c with h | ⟨h, _⟩
        · exact ⟨[], h⟩
        · exact ⟨[backslash], h⟩
      rw [hfront, ← List.append_assoc, trimEnd_eq, trimEnd_eq, List.rdropWhile_concat_neg _ _ _ hc,
        List.rdropWhile_concat_neg _ _ _ hc, Escaping.write_append, write_docstring_singleton, hfront,
        List.append_assoc]

end Lines

/-! ## Documentation strings -/

/-- What stands in front of the first item and after the last one stands around them all. -/
theorem intercalate_around {α : Type} (sep before x y after : List α) (xs : List (List α)) :
    sep.intercalate ((before ++ x) :: xs ++ [y ++ after]) =
      before ++ sep.intercalate (x :: xs ++ [y]) ++ after := by
  simp only [List.cons_append, intercalate_cons, List.flatMap_append, List.flatMap_singleton,
    List.append_assoc]

theorem write_intercalate {e : Escaping} {sep : List Char} (h : e.write sep = sep)
    (ls : List (List Char)) :
    e.write (sep.intercalate ls) = sep.intercalate (ls.map e.write) := by
  cases ls with
  | nil => rfl
  | cons l ls =>
    have hlater : e.write (ls.flatMap (sep ++ ·)) = (ls.map e.write).flatMap (sep ++ ·) := by
      induction ls with
      | nil => rfl
      | cons m ms ih =>
        rw [List.flatMap_cons, Escaping.write_append, Escaping.write_append, h, ih, List.map_cons,
          List.flatMap_cons]
    rw [List.map_cons, intercalate_cons, intercalate_cons, Escaping.write_append, hlater]

/-- **The lines are a documentation string that shows the text** after an indent: between its two marks
stands an inside from which the text can be read, and which neither mark ends early. -/
structure ShowsText (indent shown inside : List Char) (written : List String) : Prop where
  joined : ("\n".intercalate written).toList = indent ++ docstringMark ++ inside ++ docstringMark
  isInside : IsInside quotationMark inside
  /-- A text without a line feed stands on one line. -/
  single : '\n' ∉ shown → written.length = 1 ∧ docstringEscaping.read inside = some shown
  /-- Of any other text the first line follows the marks. The lines after it are indented, without the
  blanks at their ends, and the closing marks stand on a line of their own. -/
  several : '\n' ∈ shown → ∃ first rest, lines shown = first :: rest ∧
    docstringEscaping.read inside = some (['\n'].intercalate
      (first :: rest.map (fun l => trimEnd (indent ++ l)) ++ [indent])) ∧
    ∃ opening middle, written.map String.toList =
        (indent ++ docstringMark ++ opening) :: middle ++ [indent ++ docstringMark] ∧
      docstringEscaping.read opening = some first ∧
      List.Forall₂ (fun l m => docstringEscaping.read m = some (trimEnd (indent ++ l))) rest middle

section Docstring

variable {indent text first : List Char} {rest : List (List Char)}

theorem docstringLineChars_single (h : '\n' ∉ trim text) : docstringLineChars indent text =
    [indent ++ docstringMark ++ docstringEscaping.write (trim text) ++ docstringMark] := by
  rw [← lineFeed_mem_write, write_docstring] at h
  rw [docstringLineChars, if_neg (by simpa using h), write_docstring]

theorem docstringLineChars_several (h : '\n' ∈ trim text) (hlines : lines (trim text) = first :: rest)
    (hindent : docstringEscaping.write indent = indent) : docstringLineChars indent text =
      (indent ++ docstringMark ++ docstringEscaping.write first) ::
        rest.map (fun l => docstringEscaping.write (trimEnd (indent ++ l))) ++
        [indent ++ docstringMark] := by
  have hwritten : lines ((trim text).flatMap docstringChar) =
      docstringEscaping.write first :: rest.map docstringEscaping.write := by
    rw [← write_docstring, lines_write, hlines, List.map_cons]
  have hmiddle : ∀ l, trimEnd (indent ++ docstringEscaping.write l) =
      docstringEscaping.write (trimEnd (indent ++ l)) := by
    intro l
    rw [← trimEnd_write, Escaping.write_append, hindent]
  rw [← lineFeed_mem_write, write_docstring] at h
  rw [docstringLineChars, if_pos (by simpa using h), hwritten]
  simp only [List.map_map, Function.comp_def, hmiddle]

theorem toList_docstringLines (text : String) (indent : List Char) :
    (docstringLines text (String.ofList indent)).map String.toList =
      docstringLineChars indent text.toList := by
  simp [docstringLines, Function.comp_def]

theorem joined_docstringLines (text : String) (indent : List Char) :
    ("\n".intercalate (docstringLines text (String.ofList indent))).toList =
      ['\n'].intercalate (docstringLineChars indent text.toList) := by
  rw [String.toList_intercalate, toList_docstringLines]
  rfl

theorem joined_single {text : String} (h : '\n' ∉ trim text.toList) :
    ("\n".intercalate (docstringLines text (String.ofList indent))).toList =
      indent ++ docstringMark ++ docstringEscaping.write (trim text.toList) ++ docstringMark := by
  rw [joined_docstringLines, docstringLineChars_single h, List.intercalate_singleton]

theorem joined_several {text : String} (h : '\n' ∈ trim text.toList)
    (hlines : lines (trim text.toList) = first :: rest)
    (hindent : docstringEscaping.write indent = indent) :
    ("\n".intercalate (docstringLines text (String.ofList indent))).toList =
      indent ++ docstringMark ++ docstringEscaping.write (['\n'].intercalate
        (first :: rest.map (fun l => trimEnd (indent ++ l)) ++ [indent])) ++ docstringMark := by
  rw [joined_docstringLines, docstringLineChars_several h hlines hindent, intercalate_around,
    write_intercalate (by decide)]
  simp [Function.comp_def, hindent]

theorem exists_lines_trim {text : List Char} (h : '\n' ∈ trim text) :
    ∃ first rest, lines (trim text) = first :: rest :=
  List.exists_cons_of_ne_nil (linesFrom_ne_nil (.inr (List.ne_nil_of_mem h)))

/-- **Between its two marks** a documentation string holds a text with its escapes. -/
theorem exists_joined (text : String) (hindent : docstringEscaping.write indent = indent) :
    ∃ ds, ("\n".intercalate (docstringLines text (String.ofList indent))).toList =
      indent ++ docstringMark ++ docstringEscaping.write ds ++ docstringMark := by
  by_cases hfeed : '\n' ∈ trim text.toList
  · obtain ⟨first, rest, hlines⟩ := exists_lines_trim hfeed
    exact ⟨_, joined_several hfeed hlines hindent⟩
  · exact ⟨_, joined_single hfeed⟩

end Docstring

/-- **The documentation string of a text shows the text**, trimmed at both ends and indented by any
number of spaces. -/
theorem docstringLines_shows (text : String) (n : Nat) : ∃ inside,
    ShowsText (List.replicate n ' ') (trim text.toList) inside
      (docstringLines text (String.ofList (List.replicate n ' '))) := by
  have hindent : docstringEscaping.write (List.replicate n ' ') = List.replicate n ' ' := by
    refine Escaping.write_plain fun c hc => ?_
    rw [List.eq_of_mem_replicate hc]
    decide
  generalize List.replicate n ' ' = indent at hindent ⊢
  by_cases hfeed : '\n' ∈ trim text.toList
  · obtain ⟨first, rest, hlines⟩ := exists_lines_trim hfeed
    have hchars := docstringLineChars_several hfeed hlines hindent
    refine ⟨docstringEscaping.write (['\n'].intercalate
      (first :: rest.map (fun l => trimEnd (indent ++ l)) ++ [indent])),
      joined_several hfeed hlines hindent, docstringEscaping.isInside_write _, (absurd hfeed ·),
      fun _ => ?_⟩
    refine ⟨first, rest, hlines, docstringEscaping.read_write _, _, _,
      (toList_docstringLines text indent).trans hchars, docstringEscaping.read_write _, ?_⟩
    rw [List.forall₂_map_right_iff, List.forall₂_same]
    exact fun l _ => docstringEscaping.read_write _
  · have hchars : docstringLineChars indent text.toList = _ := docstringLineChars_single hfeed
    refine ⟨docstringEscaping.write (trim text.toList), joined_single hfeed,
      docstringEscaping.isInside_write _, fun _ => ⟨?_, docstringEscaping.read_write _⟩,
      (absurd · hfeed)⟩
    rw [← List.length_map, toList_docstringLines, hchars, List.length_singleton]

end RecordFamily
