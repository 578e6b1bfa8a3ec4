import Mathlib.Data.List.Basic
import RecordFamily.Emit.Render

/-!
# The layout of a class module

What is put out for a family is a text of lines: something in front, the classes of the variants with two
empty lines before each, and the list of exported names. A type, a fallback or a decoration is a part of
one line here, also where it holds line feeds of its own.

* `ClassBlock`, `SourceText`: a class as it is written, and a text of such classes;
* **`ClassModule.text_eq_layout`**: the text of a class module is laid out so;
* `InterfaceOf.abstractLines`, `FamilyOf.WrittenAs`: the lines of an interface, and a family that is put
  out as a text;
* `callLines`, `Method.lines_eq`, `lines_getter`, `lines_setter`: the lines of the parts of a class;
* `infix_body`, `infix_front`: the lines of each part stand in the body of its class, and those of the
  interfaces in front of the classes.
-/

namespace RecordFamily

open List

/-! ## Texts of classes -/

/-- A class as it is written: the decorators, the name and the bases on its first line, and the lines of
its body. -/
structure ClassBlock where
  decorators : List String
  name : String
  bases : List String
  body : List String

/-- The line that opens the class. -/
def ClassBlock.opening (b : ClassBlock) : String :=
  "class " ++ b.name ++ (if b.bases = [] then "" else "(" ++ ", ".intercalate b.bases ++ ")") ++ ":"

def ClassBlock.lines (b : ClassBlock) : List String := b.decorators ++ b.opening :: b.body

/-- A text of classes: the lines in front of them, the classes, and the names that are exported. -/
structure SourceText where
  front : List String
  classes : List ClassBlock
  exported : List String

namespace SourceText

def lines (s : SourceText) : List String :=
  s.front ++ s.classes.flatMap (fun b => "" :: "" :: b.lines) ++
    ["", "", "__all__ = ["] ++ s.exported.map (fun name => "    \"" ++ name ++ "\",") ++ ["]"]

/-- The text, in which a line feed ends each line. -/
def text (s : SourceText) : String := "\n".intercalate s.lines ++ "\n"

end SourceText

/-! ## The layout of a module -/

def RecordClass.block (c : RecordClass) : ClassBlock :=
  ⟨c.decorations, c.name, c.bases, spaced (c.body.map ClassMember.lines)⟩

theorem headLine_eq_opening (c : RecordClass) : c.headLine = c.block.opening := by
  unfold RecordClass.headLine
  simp only [List.isEmpty_iff]
  change _ = "class " ++ c.name ++
    (if c.bases = [] then "" else "(" ++ ", ".intercalate c.bases ++ ")") ++ ":"
  split_ifs
  · rw [String.append_empty]
    rfl
  · have hclose : "):" = ")" ++ ":" := by decide
    change "class " ++ c.name ++ "(" ++ ", ".intercalate c.bases ++ "):" = _
    rw [hclose]
    simp only [String.append_assoc]

theorem lines_recordClass (c : RecordClass) : c.lines = c.block.lines := by
  rw [RecordClass.lines, headLine_eq_opening]
  rfl

namespace ClassModule

/-- The layout of the module. -/
def layout (m : ClassModule) : SourceText where
  front := m.header ++ m.interfaceLines ++ "" :: "" :: banner "RECORDS"
  classes := m.records.map RecordClass.block
  exported := m.exported

theorem exportLines_eq (m : ClassModule) : m.exportLines =
    "__all__ = [" :: m.exported.map (fun name => "    \"" ++ name ++ "\",") ++ ["]"] := by
  have hline : ∀ name, indentOne ++ "\"" ++ name ++ "\"," = "    \"" ++ name ++ "\"," := by
    intro name
    have hopen : indentOne ++ "\"" = "    \"" := by decide
    rw [hopen]
  change "__all__ = [" :: m.exported.map (fun name => indentOne ++ "\"" ++ name ++ "\",") ++ _ = _
  simp only [hline]

/-- **The text of a module is laid out in its lines.** -/
theorem text_eq_layout (m : ClassModule) : m.text = m.layout.text := by
  have hclasses : apart (m.records.map RecordClass.lines) =
      m.layout.classes.flatMap fun b => "" :: "" :: b.lines := by
    simp only [apart, layout, List.flatMap_map, lines_recordClass]
  have hlines : m.lines = m.layout.lines := by
    have hparts : m.lines = m.header ++ m.interfaceLines ++ ("" :: "" :: banner "RECORDS" ++
        apart (m.records.map RecordClass.lines) ++ "" :: "" :: m.exportLines) := by
      simp [lines, apart]
    rw [hparts, hclasses, exportLines_eq, SourceText.lines]
    simp [layout]
  rw [ClassModule.text, hlines, SourceText.text]

end ClassModule

/-- The output format of a mode. -/
def ClassMode.format : ClassMode → OutputFormat
  | full => .classes
  | records => .records

/-- The lines of an interface and of its marker. -/
def InterfaceOf.abstractLines (i : Interface) : List String := [
  "class " ++ i.name ++ "(ABC):",
  "    \"\"\"Has field `" ++ i.fieldName ++ "`.\"\"\"",
  "",
  "    @abstractmethod",
  "    def " ++ i.getter ++ "(self) -> " ++ i.fieldType ++ ":",
  "        ...",
  "",
  "    @abstractmethod",
  "    def " ++ i.setter ++ "(self, value: " ++ i.fieldType ++ ") -> None:",
  "        ...",
  "",
  "",
  "class " ++ i.absenceName ++ "(ABC):",
  "    \"\"\"Lacks field `" ++ i.fieldName ++ "`.\"\"\""]

/-- **The family is put out as the text**: its interfaces stand in front of the classes, one after the
other, there is a class for each variant, and the names of all of them are exported. -/
structure FamilyOf.WrittenAs (F : Family) (mode : ClassMode) (s : SourceText) : Prop where
  rendered : F.render mode.format = .ok s.text
  interfaces : F.interfaces.flatMap (fun i => "" :: "" :: i.abstractLines) <:+: s.front
  classes : s.classes.map ClassBlock.name = F.variants.map VariantOf.name
  exported : s.exported =
    F.interfaces.flatMap (fun i => [i.name, i.absenceName]) ++ F.variants.map VariantOf.name

/-! ## The lines of each part -/

/-- What stands behind the name of a keyword argument. -/
def KeywordArgument.value (receiver : String) (a : KeywordArgument) : String :=
  match a.origin with
  | .copied => receiver ++ "." ++ a.field
  | .fallback expression => expression
  | .argument => a.field

theorem KeywordArgument.text_eq (a : KeywordArgument) (receiver : String) :
    a.text receiver = a.field ++ "=" ++ a.value receiver := by
  obtain ⟨field, origin⟩ := a
  cases origin with
  | copied =>
    change field ++ "=" ++ receiver ++ "." ++ field = field ++ "=" ++ (receiver ++ "." ++ field)
    simp only [String.append_assoc]
  | fallback | argument => rfl

/-- The lines of a call that passes values by their names. -/
def callLines (callee : String) (values : List (String × String)) : List String :=
  if values = [] then ["        return " ++ callee ++ "()"]
  else ("        return " ++ callee ++ "(") ::
    values.map (fun v => "            " ++ v.1 ++ "=" ++ v.2 ++ ",") ++ ["        )"]

theorem constructorCall_eq (callee receiver : String) (arguments : List KeywordArgument) :
    constructorCall callee receiver arguments =
      callLines callee (arguments.map fun a => (a.field, a.value receiver)) := by
  have hreturn : indentTwo ++ "return " = "        return " := by decide
  have hdeeper : indentTwo ++ indentOne = "            " := by decide
  have hclose : indentTwo ++ ")" = "        )" := by decide
  have hline : ∀ a : KeywordArgument, indentTwo ++ indentOne ++ a.text receiver ++ "," =
      "            " ++ a.field ++ "=" ++ a.value receiver ++ "," := by
    intro a
    rw [hdeeper, a.text_eq]
    simp only [String.append_assoc]
  cases arguments with
  | nil =>
    change [indentTwo ++ "return " ++ callee ++ "()"] = ["        return " ++ callee ++ "()"]
    rw [hreturn]
  | cons a as =>
    change (indentTwo ++ "return " ++ callee ++ "(") ::
      (a :: as).map (fun a => indentTwo ++ indentOne ++ a.text receiver ++ ",") ++
        [indentTwo ++ ")"] = _
    rw [hreturn, hclose, List.map_congr_left fun a _ => hline a, callLines,
      if_neg (by simp), List.map_map]
    rfl

theorem Method.lines_eq (m : Method) : m.lines =
    if m.onTarget then
      "    @classmethod" ::
        ("    def " ++ m.name ++ "(cls, other: " ++ m.source ++ ") -> " ++ m.target ++ ":") ::
          callLines "cls" (m.arguments.map fun a => (a.field, a.value "other"))
    else
      ("    def " ++ m.name ++ "(" ++
        ", ".intercalate ("self" :: m.parameters.map fun p => p.1 ++ ": " ++ p.2) ++
        ") -> " ++ m.target ++ ":") ::
          callLines m.target (m.arguments.map fun a => (a.field, a.value "self")) := by
  have hmark : indentOne ++ "@classmethod" = "    @classmethod" := by decide
  have hdef : indentOne ++ "def " = "    def " := by decide
  rw [← constructorCall_eq, ← constructorCall_eq, ← hmark, ← hdef]
  rfl

theorem lines_fields (entries : List (String × String)) : (ClassMember.fields entries).lines =
    entries.map fun e => "    " ++ e.1 ++ ": " ++ e.2 := rfl

theorem lines_getter (field type : String) : (ClassMember.getter field type).lines =
    ["    def " ++ getterName field ++ "(self) -> " ++ type ++ ":",
      "        return self." ++ field] := by
  have hdef : indentOne ++ "def " = "    def " := by decide
  have hreturn : indentTwo ++ "return self." = "        return self." := by decide
  rw [← hdef, ← hreturn]
  rfl

theorem lines_setter (field type : String) : (ClassMember.setter field type).lines =
    ["    def " ++ setterName field ++ "(self, value: " ++ type ++ ") -> None:",
      "        self." ++ field ++ " = value"] := by
  have hdef : indentOne ++ "def " = "    def " := by decide
  have hself : indentTwo ++ "self." = "        self." := by decide
  rw [← hdef, ← hself]
  rfl

theorem lines_classes (i : Interface) : i.classes.lines = i.abstractLines := by
  have hmark : indentOne ++ "@abstractmethod" = "    @abstractmethod" := by decide
  have hdef : indentOne ++ "def " = "    def " := by decide
  have hhas : indentOne ++ "\"\"\"" ++ "Has" ++ " field `" = "    \"\"\"Has field `" := by decide
  have hlacks : indentOne ++ "\"\"\"" ++ "Lacks" ++ " field `" = "    \"\"\"Lacks field `" := by decide
  have hbody : indentTwo ++ "..." = "        ..." := by decide
  rw [InterfaceOf.abstractLines, ← hmark, ← hdef, ← hhas, ← hlacks, ← hbody]
  rfl

/-! ## What stands in a text -/

/-- A part stands among the parts that an empty line keeps apart. -/
theorem infix_spaced {parts : List (List String)} {part : List String} (h : part ∈ parts) :
    part <:+: spaced parts := by
  fun_induction spaced parts with
  | case1 => cases h
  | case2 p => exact (List.mem_singleton.mp h) ▸ List.infix_refl part
  | case3 p parts _ ih =>
    rcases List.mem_cons.mp h with rfl | h
    · exact List.infix_append [] _ _
    · exact (ih h).trans ((List.suffix_cons _ _).trans (List.suffix_append _ _)).isInfix

theorem infix_body {c : RecordClass} {m : ClassMember} (h : m ∈ c.body) : m.lines <:+: c.block.body :=
  infix_spaced (List.mem_map_of_mem h)

theorem infix_front (m : ClassModule) :
    m.interfaces.flatMap (fun i => "" :: "" :: i.lines) <:+: m.layout.front := by
  have hinterfaces : m.interfaces.flatMap (fun i => "" :: "" :: i.lines) <:+ m.interfaceLines := by
    unfold ClassModule.interfaceLines
    split_ifs with hnone
    · rw [List.isEmpty_iff.mp hnone]
      exact List.suffix_refl []
    · rw [apart, List.flatMap_cons, List.flatMap_map]
      exact List.suffix_append _ _
  exact hinterfaces.isInfix.trans (List.infix_append _ _ _)

end RecordFamily
