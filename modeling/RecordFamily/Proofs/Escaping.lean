import RecordFamily.Emit.Docstring
import RecordFamily.Emit.Graph
import RecordFamily.Proofs.Grammar
import RecordFamily.Proofs.Occurrences

/-!
# Texts between quotation marks

Documentation strings and the labels of graphs stand between quotation marks, and the characters that
may not stand there as they are have an escape: a backslash and a letter. Each of the two has its own
table of escapes, and what makes a table reversible is the same for both: no letter serves two
characters, and the backslash and the quotation mark have escapes.

* `Escaping`: a table of escapes that is reversible;
* `Escaping.write`, `Escaping.read`: a text with its escapes, and the text that they stand for;
* **`Escaping.read_write`**, `isInside_of_read`: what is written is read back, and what can be read
  does not end between the marks;
* `docstringEscaping`, `graphEscaping`: the two tables, with `flatMap_graphChar` for the escapes
  made one character after the other;
* **`graphString_readable`**: labels of graphs are read back.
-/

namespace RecordFamily

open Text

theorem intercalate_cons {α : Type} (sep x : List α) (xs : List (List α)) :
    sep.intercalate (x :: xs) = x ++ xs.flatMap (sep ++ ·) := by
  induction xs generalizing x with
  | nil => simp
  | cons y ys ih => rw [List.intercalate_cons_cons, ih, List.flatMap_cons, List.append_assoc,
      List.append_assoc]

/-! ## Tables of escapes -/

/-- **Escapes of some characters**: the letters that stand for them after a backslash. -/
structure Escaping where
  table : List (Char × Char)
  letters_nodup : (table.map Prod.snd).Nodup
  backslash_mem : backslash ∈ table.map Prod.fst
  mark_mem : quotationMark ∈ table.map Prod.fst

namespace Escaping

/-- One character as it is written. -/
def writtenChar (e : Escaping) (c : Char) : List Char :=
  match e.table.lookup c with
  | some letter => [backslash, letter]
  | none => [c]

/-- A text as it is written. -/
def write (e : Escaping) (cs : List Char) : List Char := cs.flatMap e.writtenChar

/-- The character that a letter stands for after a backslash. -/
def char? (e : Escaping) (letter : Char) : Option Char :=
  (e.table.find? fun p => p.2 == letter).map Prod.fst

/-- The text that is read from left to right between two quotation marks. There is none when a
quotation mark has no backslash, when the text ends in the middle of an escape, or when an escape has
an unknown letter. -/
def read (e : Escaping) : List Char → Option (List Char)
  | [] => some []
  | [c] => if c == backslash || c == quotationMark then none else some [c]
  | c :: d :: cs =>
    if c == backslash then (e.char? d).bind fun x => (read e cs).map (x :: ·)
    else if c == quotationMark then none
    else (read e (d :: cs)).map (c :: ·)

variable {e : Escaping} {c letter : Char} {cs ds : List Char}

@[simp] theorem write_nil (e : Escaping) : e.write [] = [] := rfl

theorem write_append (e : Escaping) (cs ds : List Char) :
    e.write (cs ++ ds) = e.write cs ++ e.write ds := List.flatMap_append

theorem read_escaped (e : Escaping) (letter : Char) (cs : List Char) :
    e.read (backslash :: letter :: cs) =
      (e.char? letter).bind fun x => (e.read cs).map (x :: ·) := by
  simp [read]

theorem read_plain (hbackslash : c ≠ backslash) (hmark : c ≠ quotationMark) (cs : List Char) :
    e.read (c :: cs) = (e.read cs).map (c :: ·) := by
  cases cs <;> simp [read, hbackslash, hmark]

/-- A letter stands for the character that it was written for. -/
theorem char?_of_lookup (h : e.table.lookup c = some letter) : e.char? letter = some c := by
  obtain ⟨before, after, htable, _⟩ := List.lookup_eq_some_iff.mp h
  have hmem : (c, letter) ∈ e.table := by
    rw [htable]
    exact List.mem_append_right _ List.mem_cons_self
  rw [char?, find?_key_eq e.letters_nodup hmem]
  rfl

/-- A character without an escape is neither the backslash nor the quotation mark. -/
theorem plain_of_lookup (h : e.table.lookup c = none) : c ≠ backslash ∧ c ≠ quotationMark := by
  have hnone : ∀ d ∈ e.table.map Prod.fst, c ≠ d := by
    rintro d hd rfl
    obtain ⟨letter, hletter⟩ := exists_lookup hd
    rw [h] at hletter
    cases hletter
  exact ⟨hnone _ e.backslash_mem, hnone _ e.mark_mem⟩

theorem read_writtenChar (e : Escaping) (c : Char) (cs : List Char) :
    e.read (e.writtenChar c ++ cs) = (e.read cs).map (c :: ·) := by
  cases h : e.table.lookup c with
  | some letter =>
    rw [writtenChar, h]
    change e.read (backslash :: letter :: cs) = _
    rw [read_escaped, char?_of_lookup h, Option.bind_some]
  | none =>
    obtain ⟨hbackslash, hmark⟩ := plain_of_lookup h
    rw [writtenChar, h]
    exact read_plain hbackslash hmark cs

/-- **What is written is read back.** -/
theorem read_write (e : Escaping) (cs : List Char) : e.read (e.write cs) = some cs := by
  induction cs with
  | nil => rfl
  | cons c cs ih =>
    have hwrite : e.write (c :: cs) = e.writtenChar c ++ e.write cs := List.flatMap_cons
    rw [hwrite, read_writtenChar, ih, Option.map_some]

theorem write_injective (e : Escaping) : Function.Injective e.write := by
  intro cs ds h
  have hread := congrArg e.read h
  rw [read_write, read_write] at hread
  exact Option.some.inj hread

theorem write_eq_nil : e.write cs = [] ↔ cs = [] :=
  ⟨fun h => e.write_injective h, fun h => by rw [h]; rfl⟩

/-- **What can be read does not end between the marks**: every quotation mark in it has a backslash,
and it ends in no escape. -/
theorem isInside_of_read (h : e.read ds = some cs) : IsInside quotationMark ds := by
  fun_induction read e ds generalizing cs with
  | case1 => exact .nil
  | case2 => cases h
  | case3 c hc =>
    simp only [Bool.or_eq_true, beq_iff_eq, not_or] at hc
    exact .plain hc.2 hc.1 .nil
  | case4 c d ds hc ih =>
    obtain ⟨x, _, hx⟩ := Option.bind_eq_some_iff.mp h
    obtain ⟨rest, hrest, _⟩ := Option.map_eq_some_iff.mp hx
    rw [beq_iff_eq.mp hc]
    exact .escaped d (ih hrest)
  | case5 => cases h
  | case6 c d ds hbackslash hmark ih =>
    obtain ⟨rest, hrest, _⟩ := Option.map_eq_some_iff.mp h
    exact .plain (by simpa using hmark) (by simpa using hbackslash) (ih hrest)

theorem isInside_write (e : Escaping) (cs : List Char) : IsInside quotationMark (e.write cs) :=
  isInside_of_read (e.read_write cs)

theorem writtenChar_plain (h : c ∉ e.table.map Prod.fst) : e.writtenChar c = [c] := by
  have hlookup : e.table.lookup c = none := by
    rw [List.lookup_eq_none_iff]
    exact fun p hp => bne_iff_ne.mpr fun he => h (he ▸ List.mem_map_of_mem hp)
  rw [writtenChar, hlookup]

theorem write_plain (h : ∀ c ∈ cs, c ∉ e.table.map Prod.fst) : e.write cs = cs := by
  rw [write, List.flatMap_congr fun c hc => writtenChar_plain (h c hc), List.flatMap_singleton']

end Escaping

/-! ## Documentation strings and labels -/

/-- The escapes in documentation strings. -/
def docstringEscaping : Escaping where
  table := [(backslash, backslash), (quotationMark, quotationMark)]
  letters_nodup := by decide
  backslash_mem := by decide
  mark_mem := by decide

/-- The escapes in the labels of graphs, where a line feed has one, too. -/
def graphEscaping : Escaping where
  table := [(backslash, backslash), (quotationMark, quotationMark), ('\n', 'n')]
  letters_nodup := by decide
  backslash_mem := by decide
  mark_mem := by decide

theorem writtenChar_docstring : docstringEscaping.writtenChar = docstringChar := by
  funext c
  by_cases hbackslash : c = backslash
  · subst hbackslash
    rfl
  by_cases hmark : c = quotationMark
  · subst hmark
    rfl
  rw [Escaping.writtenChar_plain (by simp [docstringEscaping, hbackslash, hmark])]
  simp [docstringChar, hbackslash, hmark]

theorem writtenChar_graph : graphEscaping.writtenChar = graphChar := by
  funext c
  by_cases hbackslash : c = backslash
  · subst hbackslash
    rfl
  by_cases hmark : c = quotationMark
  · subst hmark
    rfl
  by_cases hfeed : c = '\n'
  · subst hfeed
    rfl
  rw [Escaping.writtenChar_plain (by simp [graphEscaping, hbackslash, hmark, hfeed])]
  simp [graphChar, hbackslash, hmark, hfeed]

/-- The text with one character replaced wherever it stands. -/
def replaced (c : Char) (new cs : List Char) : List Char :=
  cs.flatMap fun d => if d = c then new else [d]

/-- **The escapes can be made one character after the other**, when the backslash comes first: the
backslashes that are written for the other characters stay as they are. -/
theorem flatMap_graphChar (cs : List Char) : cs.flatMap graphChar =
    replaced '\n' [backslash, 'n'] (replaced quotationMark [backslash, quotationMark]
      (replaced backslash [backslash, backslash] cs)) := by
  rw [replaced, replaced, replaced, List.flatMap_assoc, List.flatMap_assoc]
  refine List.flatMap_congr fun c _ => ?_
  by_cases hbackslash : c = backslash
  · subst hbackslash
    decide
  by_cases hmark : c = quotationMark
  · subst hmark
    decide
  simp [graphChar, hbackslash, hmark]

theorem lineFeed_notMem_graphChar (c : Char) : '\n' ∉ graphChar c := by
  unfold graphChar
  split_ifs with hmark hfeed
  · rcases Bool.or_eq_true_iff.mp hmark with h | h
    · rw [beq_iff_eq.mp h]
      decide
    · rw [beq_iff_eq.mp h]
      decide
  · decide
  · exact fun h => hfeed (beq_iff_eq.mpr (List.mem_singleton.mp h).symm)

/-! ## Labels -/

theorem toList_graphString (s : String) : (graphString s).toList =
    quotationMark :: graphEscaping.write s.toList ++ [quotationMark] := by
  rw [graphString, String.toList_ofList, Escaping.write, writtenChar_graph]

theorem lineFeed_notMem_write (cs : List Char) : '\n' ∉ graphEscaping.write cs := by
  rw [Escaping.write, writtenChar_graph, List.mem_flatMap]
  rintro ⟨c, _, hc⟩
  exact lineFeed_notMem_graphChar c hc

theorem graphString_injective : Function.Injective graphString := by
  intro s t h
  have hlists := congrArg String.toList h
  rw [toList_graphString, toList_graphString] at hlists
  have hinside := List.append_cancel_right (List.cons.inj hlists).2
  exact String.toList_inj.mp (graphEscaping.write_injective hinside)

/-- **Labels of graphs are read back as they were.** A label stands between two quotation marks, on one
line, and does not end before the second of them. Different labels are written differently; those with a
backslash and an `n` in the place of a line feed are different labels. -/
theorem graphString_readable : (∀ s, ∃ inside,
      (graphString s).toList = quotationMark :: inside ++ [quotationMark] ∧ '\n' ∉ inside ∧
        IsInside quotationMark inside ∧ graphEscaping.read inside = some s.toList) ∧
    Function.Injective graphString ∧
    ∀ before after : String,
      graphString (before ++ "\\n" ++ after) ≠ graphString (before ++ "\n" ++ after) := by
  refine ⟨fun s => ⟨graphEscaping.write s.toList, toList_graphString s, lineFeed_notMem_write _,
    graphEscaping.isInside_write _, graphEscaping.read_write _⟩, graphString_injective, ?_⟩
  intro before after h
  -- The backslash and the letter are two characters and the line feed is one.
  have hlength := congrArg String.length (graphString_injective h)
  simp only [String.length_append] at hlength
  have htwo : "\\n".length = 2 := by decide
  have hone : "\n".length = 1 := by decide
  omega

example : graphString "\\n\n\"" = "\"\\\\n\\n\\\"\"" := by decide

end RecordFamily
