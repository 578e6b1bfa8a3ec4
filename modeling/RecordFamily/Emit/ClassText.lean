import RecordFamily.Emit.ClassModule
import RecordFamily.Emit.Docstring

/-!
# The text of a class module

A class module is written line by line.

* `Method.lines`, `ClassMember.lines`, `RecordClass.lines`, `InterfaceClass.lines`: the lines of its
  parts;
* `ClassModule.lines`, **`ClassModule.text`**: the lines and the text of the module.
-/

namespace RecordFamily

/-- The indentation of one level. -/
def indentOne : String := "    "

/-- The indentation of two levels. -/
def indentTwo : String := indentOne ++ indentOne

/-- The parts with one empty line between them. -/
def spaced : List (List String) → List String
  | [] => []
  | [part] => part
  | part :: parts => part ++ "" :: spaced parts

/-- A keyword argument, where the converted record is called `receiver`. -/
def KeywordArgument.text (receiver : String) (a : KeywordArgument) : String :=
  match a.origin with
  | .copied => s!"{a.field}={receiver}.{a.field}"
  | .fallback expression => s!"{a.field}={expression}"
  | .argument => s!"{a.field}={a.field}"

/-- The statement that returns what the constructor `callee` makes of the arguments. -/
def constructorCall (callee receiver : String) (arguments : List KeywordArgument) : List String :=
  if arguments.isEmpty then [s!"{indentTwo}return {callee}()"]
  else
    s!"{indentTwo}return {callee}("
      :: arguments.map (fun a => s!"{indentTwo}{indentOne}{a.text receiver},")
      ++ [s!"{indentTwo})"]

/-- The lines of a method. -/
def Method.lines (m : Method) : List String :=
  if m.onTarget then
    s!"{indentOne}@classmethod"
      :: s!"{indentOne}def {m.name}(cls, other: {m.source}) -> {m.target}:"
      :: constructorCall "cls" "other" m.arguments
  else
    let parameters := ", ".intercalate ("self" :: m.parameters.map fun p => s!"{p.1}: {p.2}")
    s!"{indentOne}def {m.name}({parameters}) -> {m.target}:"
      :: constructorCall m.target "self" m.arguments

/-- The lines of a part of a class body. -/
def ClassMember.lines : ClassMember → List String
  | docstring text => docstringLines text indentOne
  | fields entries => entries.map fun e => s!"{indentOne}{e.1}: {e.2}"
  | getter field type =>
    [s!"{indentOne}def {getterName field}(self) -> {type}:",
      s!"{indentTwo}return self.{field}"]
  | setter field type =>
    [s!"{indentOne}def {setterName field}(self, value: {type}) -> None:",
      s!"{indentTwo}self.{field} = value"]
  | conversion method => method.lines
  | nothing => [s!"{indentOne}pass"]

/-- The line that opens a class. -/
def RecordClass.headLine (c : RecordClass) : String :=
  let bases := ", ".intercalate c.bases
  if c.bases.isEmpty then s!"class {c.name}:" else s!"class {c.name}({bases}):"

/-- The lines of the class of a variant. -/
def RecordClass.lines (c : RecordClass) : List String :=
  c.decorations ++ c.headLine :: spaced (c.body.map ClassMember.lines)

/-- The line that documents an interface or a marker. -/
def fieldNote (verb field : String) : String :=
  s!"{indentOne}\"\"\"{verb} field `{field}`.\"\"\""

/-- The lines of an interface and of its marker. -/
def InterfaceClass.lines (i : InterfaceClass) : List String := [
  s!"class {i.name}(ABC):",
  fieldNote "Has" i.field,
  "",
  s!"{indentOne}@abstractmethod",
  s!"{indentOne}def {i.getter}(self) -> {i.type}:",
  s!"{indentTwo}...",
  "",
  s!"{indentOne}@abstractmethod",
  s!"{indentOne}def {i.setter}(self, value: {i.type}) -> None:",
  s!"{indentTwo}...",
  "",
  "",
  s!"class {i.absenceName}(ABC):",
  fieldNote "Lacks" i.field]

/-- A title between two rules. -/
def banner (title : String) : List String :=
  let rule := "# " ++ String.ofList (List.replicate 73 '=')
  [rule, s!"# {title}", rule]

/-- The parts, each after two empty lines. -/
def apart (parts : List (List String)) : List String := parts.flatMap fun part => "" :: "" :: part

namespace ClassModule

/-- The lines in front of the classes. -/
def header (m : ClassModule) : List String :=
  [s!"# Generated from canonical record `{m.canonical}`. Do not edit.",
    "from __future__ import annotations",
    ""]
  ++ (if m.qualifiedDecorations then ["import dataclasses"] else [])
  ++ ["from abc import ABC, abstractmethod", "from dataclasses import dataclass"]
  ++ (if m.annotatedTypes then ["from typing import Annotated"] else [])
  ++ (if m.imports.isEmpty then [] else "" :: m.imports)

/-- The lines of the interfaces. -/
def interfaceLines (m : ClassModule) : List String :=
  if m.interfaces.isEmpty then []
  else apart (banner "CAPABILITY INTERFACES" :: m.interfaces.map InterfaceClass.lines)

/-- The lines of the list of exported names. -/
def exportLines (m : ClassModule) : List String :=
  "__all__ = [" :: m.exported.map (fun name => s!"{indentOne}\"{name}\",") ++ ["]"]

/-- The lines of the module. -/
def lines (m : ClassModule) : List String :=
  m.header ++ m.interfaceLines
    ++ apart (banner "RECORDS" :: m.records.map RecordClass.lines ++ [m.exportLines])

/-- **The text of the module.** -/
def text (m : ClassModule) : String := "\n".intercalate m.lines ++ "\n"

end ClassModule

end RecordFamily
