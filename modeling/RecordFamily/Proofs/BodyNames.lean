import RecordFamily.Proofs.ClassText
import RecordFamily.Proofs.Docstring
import RecordFamily.Proofs.Naming

/-!
# Names in the body of a class

The lines of a class body are read without regard to what they were written from. A field stands in
front of a colon, and a method in front of a parenthesis. A decorator, `pass` and what stands deeper
define nothing, and a class body has no other lines after its documentation.

* `lineNames?`, `bodyNames?`: the names that lines of a body define;
* `IsNote`, `ClassBlock.Defines`: a documentation string as one literal, and classes that define names;
* `lineNames?_field`, `lineNames?_method`, `lineNames?_deeper`: the three kinds of lines;
* `ClassMember.IsLegible`: the part of a body whose lines define what the part defines;
* **`defines_block`**: a class of such parts defines their names.
-/

namespace RecordFamily

open Text List

/-! ## Reading -/

/-- The names that a statement in the body of a class defines. -/
def statementNames? (cs : List Char) : Option (List String) :=
  match cs.takeWhile isIdentifierPart, cs.dropWhile isIdentifierPart with
  | c :: word, ':' :: _ => some [String.ofList (c :: word)]
  | ['d', 'e', 'f'], ' ' :: rest => some [String.ofList (rest.takeWhile (· != '('))]
  | ['p', 'a', 's', 's'], [] => some []
  | [], '@' :: _ => some []
  | [], ' ' :: _ => some []
  | _, _ => none

/-- The names that a line in the body of a class defines, unless it is of another form. -/
def lineNames? (line : String) : Option (List String) :=
  match line.toList with
  | [] => some []
  | ' ' :: ' ' :: ' ' :: ' ' :: cs => statementNames? cs
  | _ => none

/-- The names that the lines define, one after the other. -/
def bodyNames? : List String → Option (List String)
  | [] => some []
  | line :: lines => do return (← lineNames? line) ++ (← bodyNames? lines)

/-- The lines are one indented literal between two documentation marks, and nothing between them ends
it. -/
def IsNote (written : List String) : Prop := ∃ inside,
  ("\n".intercalate written).toList = "    \"\"\"".toList ++ inside ++ "\"\"\"".toList ∧
    IsInside quotationMark inside

/-- **The class defines these names**, in order, and no others: what follows its documentation are lines
that define them, and lines that define nothing. -/
def ClassBlock.Defines (b : ClassBlock) (names : List String) : Prop :=
  ∃ note rest, b.body = note ++ rest ∧ (note = [] ∨ IsNote note) ∧ bodyNames? rest = some names

theorem bodyNames?_cons {line : String} {lines names names' : List String}
    (hline : lineNames? line = some names) (hlines : bodyNames? lines = some names') :
    bodyNames? (line :: lines) = some (names ++ names') := by
  rw [bodyNames?, hline, hlines]
  rfl

theorem bodyNames?_blank {lines names : List String} (h : bodyNames? lines = some names) :
    bodyNames? ("" :: lines) = some names := by
  have hblank : lineNames? "" = some [] := rfl
  exact bodyNames?_cons hblank h

theorem bodyNames?_append {xs ys names names' : List String} (hxs : bodyNames? xs = some names)
    (hys : bodyNames? ys = some names') : bodyNames? (xs ++ ys) = some (names ++ names') := by
  induction xs generalizing names with
  | nil =>
    cases hxs
    exact hys
  | cons x xs ih =>
    rw [bodyNames?] at hxs
    obtain ⟨first, hfirst, hxs⟩ := Option.bind_eq_some_iff.mp hxs
    obtain ⟨later, hlater, hxs⟩ := Option.bind_eq_some_iff.mp hxs
    cases hxs
    rw [List.append_assoc]
    exact bodyNames?_cons hfirst (ih hlater)

/-- Lines that define nothing. -/
theorem bodyNames?_nothing {lines : List String} (h : ∀ line ∈ lines, lineNames? line = some []) :
    bodyNames? lines = some [] := by
  induction lines with
  | nil => rfl
  | cons line lines ih =>
    obtain ⟨hline, hlines⟩ := List.forall_mem_cons.mp h
    exact bodyNames?_cons hline (ih hlines)

/-! ## The lines of a class -/

section Lines

variable {name type rest : String}

/-- **The line of a field** defines it. -/
theorem lineNames?_field (h : isValidName name = true) :
    lineNames? ("    " ++ name ++ ": " ++ type) = some [name] := by
  have hlist : ("    " ++ name ++ ": " ++ type).toList =
      ' ' :: ' ' :: ' ' :: ' ' :: (name.toList ++ ':' :: ' ' :: type.toList) := by
    simp [String.toList_append]
  have hparts : ∀ c ∈ name.toList, isIdentifierPart c = true := by
    intro c hc
    by_contra hpart
    exact notMem_of_isValidName h (Bool.eq_false_iff.mpr hpart) hc
  have hafter : ∀ c ∈ (':' :: ' ' :: type.toList).head?, isIdentifierPart c = false := by
    rintro _ ⟨⟩
    decide
  rw [lineNames?, hlist]
  change statementNames? _ = _
  rw [statementNames?, takeWhile_append_stop hparts hafter, dropWhile_append_stop hparts hafter]
  cases hname : name.toList with
  | nil =>
    rw [isValidName, hname] at h
    cases h
  | cons c word =>
    rw [← String.ofList_toList (s := name), hname]
    rfl

/-- **The line that opens a method** defines it. -/
theorem lineNames?_method {tail : String} (h : '(' ∉ name.toList)
    (htail : tail.toList.head? = some '(') :
    lineNames? ("    def " ++ (name ++ tail)) = some [name] := by
  obtain ⟨rest, hrest⟩ := List.head?_eq_some_iff.mp htail
  have hlist : ("    def " ++ (name ++ tail)).toList = ' ' :: ' ' :: ' ' :: ' ' ::
      (['d', 'e', 'f'] ++ ' ' :: (name.toList ++ '(' :: rest)) := by
    simp [String.toList_append, hrest]
  have hdef : ∀ c ∈ ['d', 'e', 'f'], isIdentifierPart c = true := List.all_eq_true.mp rfl
  have hafter : ∀ c ∈ (' ' :: (name.toList ++ '(' :: rest)).head?, isIdentifierPart c = false := by
    rintro _ ⟨⟩
    decide
  rw [lineNames?, hlist]
  change statementNames? _ = _
  rw [statementNames?, takeWhile_append_stop hdef hafter, dropWhile_append_stop hdef hafter]
  change some [String.ofList _] = _
  rw [takeWhile_before h, String.ofList_toList]

/-- A line that stands deeper defines nothing. -/
theorem lineNames?_deeper (rest : String) : lineNames? ("        " ++ rest) = some [] := by
  have hlist : ("        " ++ rest).toList = ' ' :: ' ' :: ' ' :: ' ' :: ' ' ::
      (' ' :: ' ' :: ' ' :: rest.toList) := by
    rw [String.toList_append]
    rfl
  rw [lineNames?, hlist]
  rfl

/-- The call at the end of a method defines nothing. -/
theorem bodyNames?_callLines (callee : String) (values : List (String × String)) :
    bodyNames? (callLines callee values) = some [] := by
  have hreturn : "        return " = "        " ++ "return " := by decide
  have hvalue : "            " = "        " ++ "    " := by decide
  have hclose : "        )" = "        " ++ ")" := by decide
  refine bodyNames?_nothing fun line hline => ?_
  rw [callLines, hreturn, hvalue, hclose] at hline
  simp only [String.append_assoc] at hline
  split_ifs at hline
  · rw [List.mem_singleton.mp hline]
    exact lineNames?_deeper _
  · rcases List.mem_append.mp hline with hline | hline
    · rcases List.mem_cons.mp hline with rfl | hline
      · exact lineNames?_deeper _
      · obtain ⟨v, _, rfl⟩ := List.mem_map.mp hline
        exact lineNames?_deeper _
    · rw [List.mem_singleton.mp hline]
      exact lineNames?_deeper _

end Lines

/-! ## The parts of a class -/

/-- The names that the part defines can be read off its lines. -/
def ClassMember.IsLegible (m : ClassMember) : Prop := bodyNames? m.lines = some m.defined

section Members

variable {name type : String}

theorem isLegible_fields {entries : List (String × String)}
    (h : ∀ e ∈ entries, isValidName e.1 = true) : (ClassMember.fields entries).IsLegible := by
  rw [ClassMember.IsLegible, lines_fields, ClassMember.defined]
  induction entries with
  | nil => rfl
  | cons e entries ih =>
    obtain ⟨he, hentries⟩ := List.forall_mem_cons.mp h
    exact bodyNames?_cons (lineNames?_field he) (ih hentries)

theorem isLegible_getter (h : '(' ∉ name.toList) : (ClassMember.getter name type).IsLegible := by
  have hname : '(' ∉ (getterName name).toList := by
    change '(' ∉ ("get_" ++ name).toList
    rw [String.toList_append, List.mem_append, not_or]
    exact ⟨by decide, h⟩
  rw [ClassMember.IsLegible, lines_getter]
  simp only [String.append_assoc]
  exact bodyNames?_cons (lineNames?_method hname (by simp))
    (bodyNames?_cons (lineNames?_deeper ("return self." ++ name)) rfl)

theorem isLegible_setter (h : '(' ∉ name.toList) : (ClassMember.setter name type).IsLegible := by
  have hname : '(' ∉ (setterName name).toList := by
    change '(' ∉ ("set_" ++ name).toList
    rw [String.toList_append, List.mem_append, not_or]
    exact ⟨by decide, h⟩
  rw [ClassMember.IsLegible, lines_setter]
  simp only [String.append_assoc]
  exact bodyNames?_cons (lineNames?_method hname (by simp))
    (bodyNames?_cons (lineNames?_deeper ("self." ++ (name ++ " = value"))) rfl)

theorem isLegible_conversion {m : Method} (h : '(' ∉ m.name.toList) :
    (ClassMember.conversion m).IsLegible := by
  have hmark : lineNames? "    @classmethod" = some [] := by decide
  rw [ClassMember.IsLegible]
  change bodyNames? m.lines = some [m.name]
  rw [m.lines_eq]
  simp only [String.append_assoc]
  split_ifs
  · exact bodyNames?_cons hmark
      (bodyNames?_cons (lineNames?_method h (by simp)) (bodyNames?_callLines _ _))
  · exact bodyNames?_cons (lineNames?_method h (by simp)) (bodyNames?_callLines _ _)

theorem isLegible_nothing : ClassMember.nothing.IsLegible := rfl

theorem isNote_docstring (text : String) : IsNote (ClassMember.docstring text).lines := by
  have hindent : docstringEscaping.write "    ".toList = "    ".toList := by decide
  obtain ⟨ds, hds⟩ := exists_joined text hindent
  rw [String.ofList_toList] at hds
  exact ⟨_, hds, docstringEscaping.isInside_write ds⟩

end Members

/-! ## Classes -/

theorem bodyNames?_spaced {ms : List ClassMember} (h : ∀ m ∈ ms, m.IsLegible) :
    bodyNames? (spaced (ms.map ClassMember.lines)) = some (ms.flatMap ClassMember.defined) := by
  induction ms with
  | nil => rfl
  | cons m ms ih =>
    obtain ⟨hm, hms⟩ := List.forall_mem_cons.mp h
    cases ms with
    | nil => exact hm.trans (congrArg some (List.append_nil _).symm)
    | cons m' ms => exact bodyNames?_append hm (bodyNames?_blank (ih hms))

/-- **A class defines the names of its parts**, when each part can be read but the documentation. -/
theorem defines_block {c : RecordClass} {notes ms : List ClassMember} (hbody : c.body = notes ++ ms)
    (hnotes : notes = [] ∨ ∃ text, notes = [.docstring text]) (hms : ∀ m ∈ ms, m.IsLegible) :
    c.block.Defines c.defined := by
  have hlines : c.block.body = spaced ((notes ++ ms).map ClassMember.lines) := by rw [← hbody]; rfl
  have hnames := bodyNames?_spaced hms
  rw [RecordClass.defined, hbody]
  rcases hnotes with rfl | ⟨text, rfl⟩
  · exact ⟨[], _, hlines, .inl rfl, hnames⟩
  · have hnote := isNote_docstring text
    cases ms with
    | nil => exact ⟨_, [], hlines.trans (List.append_nil _).symm, .inr hnote, rfl⟩
    | cons m ms => exact ⟨_, _, hlines, .inr hnote, bodyNames?_blank hnames⟩

end RecordFamily
