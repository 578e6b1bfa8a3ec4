import RecordFamily.Demand
import RecordFamily.Family
import RecordFamily.Text.Blank
import RecordFamily.Text.Numeral

/-!
# Class modules

The module of classes that a family is emitted as, before it is written out: a class for each
interface and each marker, and a class for each variant, whose body lists what it defines.

* `Origin`, `KeywordArgument`: where a conversion takes the value of a field of the target from;
* `Method`: an emitted conversion;
* `ClassMember`, `ClassMember.defined`: what stands in the body of a class, and the names that it
  defines;
* `RecordClass`, `ClassModule`: the class of a variant, and the module;
* `ConversionOf.method?`: the method of a conversion;
* `basesOf`: the bases of a variant, in the order of the interfaces;
* **`FamilyOf.classModule`**: the module of a family.
-/

namespace RecordFamily

open Text

/-! ## The parts of a module -/

/-- Where the value of a field comes from. -/
inductive Origin where
  /-- The field of the same name of the record that is converted. -/
  | copied
  /-- An expression. -/
  | fallback (expression : String)
  /-- The parameter of the same name. -/
  | argument
  deriving DecidableEq, Repr

/-- A value passed to the constructor of the target under the name of a field. -/
structure KeywordArgument where
  field : String
  origin : Origin
  deriving DecidableEq, Repr

/-- An emitted conversion. -/
structure Method where
  name : String
  /-- The method belongs to the target class and takes the source as its argument. -/
  onTarget : Bool
  source : String
  target : String
  /-- The parameters after the receiver, with their types. -/
  parameters : List (String × String)
  /-- What is passed to the constructor of the target, in the order of its fields. -/
  arguments : List KeywordArgument
  deriving DecidableEq, Repr

/-- A part of the body of a class. -/
inductive ClassMember where
  | docstring (text : String)
  /-- The fields, with their annotated types. -/
  | fields (entries : List (String × String))
  | getter (field type : String)
  | setter (field type : String)
  | conversion (method : Method)
  /-- The body of a class without members. -/
  | nothing
  deriving DecidableEq, Repr

/-- The names that a part of a class body defines. -/
def ClassMember.defined : ClassMember → List String
  | docstring _ | nothing => []
  | fields entries => entries.map Prod.fst
  | getter field _ => [getterName field]
  | setter field _ => [setterName field]
  | conversion method => [method.name]

/-- The class of a variant. -/
structure RecordClass where
  decorations : List String
  name : String
  bases : List String
  body : List ClassMember
  deriving DecidableEq, Repr

/-- The names that a class defines, in order. -/
def RecordClass.defined (c : RecordClass) : List String := c.body.flatMap ClassMember.defined

/-- The classes of an interface: the interface itself and its marker. -/
structure InterfaceClass where
  name : String
  absenceName : String
  field : String
  type : String
  getter : String
  setter : String
  deriving DecidableEq, Repr

/-- A module of classes. -/
structure ClassModule where
  canonical : String
  /-- A decoration is written with the name of its module. -/
  qualifiedDecorations : Bool
  /-- A field type carries annotations. -/
  annotatedTypes : Bool
  imports : List String
  interfaces : List InterfaceClass
  records : List RecordClass
  deriving DecidableEq, Repr

/-- The names that the module exports. -/
def ClassModule.exported (m : ClassModule) : List String :=
  m.interfaces.flatMap (fun i => [i.name, i.absenceName]) ++ m.records.map RecordClass.name

/-- How much of a family is emitted. -/
inductive ClassMode where
  /-- Interfaces, records and conversions. -/
  | full
  /-- Interfaces and records. -/
  | records
  deriving DecidableEq, Repr

/-! ## From a family to its module -/

variable {τ φ : Type} [BEq τ] [Slot τ] [Mark φ]

/-- A decoration with the sign in front of it that marks it as one. -/
def decorator (text : String) : String :=
  let s := trimmed text
  if s.toList.head? == some '@' then s else "@" ++ s

/-- The decorator of a decoration slot. -/
def decoratorOf (decoration : τ) : Except Fault String :=
  (textOr .noMember decoration).map decorator

/-- The text that `start` begins, without it. -/
def withoutStart? (start : String) (cs : List Char) : Option (List Char) :=
  if start.toList.isPrefixOf cs then some (cs.drop start.length) else none

/-- The character continues the name of a decorator. -/
def isNamePart (c : Char) : Bool := isLetterOrNumeral c || c == '_'

/-- The decorator makes the class a data class. -/
def isDataClassDecorator (text : String) : Bool :=
  match withoutStart? "@" text.toList with
  | none => false
  | some cs =>
    match withoutStart? "dataclass" ((withoutStart? "dataclasses." cs).getD cs) with
    | none => false
    | some rest => !(rest.head?.map isNamePart).getD false

/-- The decorator is written with the name of its module. -/
def isQualified (text : String) : Bool := "@dataclasses.".toList.isPrefixOf text.toList

/-- Some decoration is written with the name of its module; those after it are not looked at. -/
def anyQualified : List τ → Except Fault Bool
  | [] => .ok false
  | d :: ds => do
    let text ← decoratorOf d
    if isQualified text then return true else anyQualified ds

/-- The type of a field, with its annotations when it has any. -/
def annotatedType (f : FieldOf τ) : Except Fault String := do
  let type := Slot.display f.type
  if f.passthrough.isEmpty then return type
  else
    let notes ← f.passthrough.mapM (textOr .wrongShape)
    let list := ", ".intercalate (type :: notes)
    return s!"Annotated[{list}]"

/-- The position of an interface that has the name or whose marker has it, the last such one. -/
def interfacePosition? (interfaces : List (InterfaceOf τ)) (name : τ) : Option Nat :=
  (interfaces.zipIdx.reverse.find? fun i => i.1.name == name || i.1.absenceName == name).map
    Prod.snd

/-- The names of the interfaces and of their markers, each once. -/
def interfaceNames (interfaces : List (InterfaceOf τ)) : List τ :=
  firstOccurrences [] (interfaces.flatMap fun i => [i.name, i.absenceName])

/-- The bases of a variant: its interfaces and markers in the order of the interfaces. A name that
belongs to no interface comes after those in the first places, one for each name of an interface. -/
def basesOf (interfaces : List (InterfaceOf τ)) (v : VariantOf τ φ) : List τ :=
  let last := (interfaceNames interfaces).length
  let keyed := (v.capabilities ++ v.absences).map fun name =>
    ((interfacePosition? interfaces name).getD last, name)
  (keyed.mergeSort fun a b => decide (a.1 ≤ b.1)).map Prod.snd

/-- Where a conversion takes the value of a field of the target from. -/
def ConversionOf.origin (c : ConversionOf τ) (fallbacks : List (τ × τ)) (name : τ) :
    Except Fault Origin :=
  if c.copied.contains name then .ok .copied
  else if c.defaulted.contains name then
    match fallbacks.lookup name with
    | some expression => .ok (.fallback (Slot.display expression))
    | none => .error (.missingKey (Slot.toValue name).described)
  else .ok .argument

/-- What a conversion passes to the constructor of the target. -/
def ConversionOf.keywordArguments (c : ConversionOf τ) (fallbacks : List (τ × τ))
    (target : VariantOf τ φ) : Except Fault (List KeywordArgument) := do
  requireKeys (c.copied ++ c.defaulted)
  target.fields.mapM fun f => return ⟨Slot.display f.name, ← c.origin fallbacks f.name⟩

/-- The method that a conversion of a family is emitted as. -/
def ConversionOf.method (F : FamilyOf τ φ) (c : ConversionOf τ) : Except Fault Method := do
  match F.variant? c.target with
  | none => .error .noMember
  | some target =>
    let arguments ← c.keywordArguments F.fallbacks target
    let onTarget := c.kind == .fromSource
    return {
      name := Slot.display c.name
      onTarget := onTarget
      source := Slot.display c.source
      target := Slot.display c.target
      parameters := if onTarget then []
        else c.arguments.map fun a => (Slot.display a.name, Slot.display a.type)
      arguments := arguments }

/-- The documentation of a variant: that of the family, on a canonical variant. -/
def docstringMembers (F : FamilyOf τ φ) (v : VariantOf τ φ) : Except Fault (List ClassMember) :=
  match F.docstring with
  | some text =>
    if Mark.isSet v.isCanonical && Slot.isGiven text then
      (textOr .noMember text).map fun s => [.docstring s]
    else .ok []
  | none => .ok []

/-- The part of a class body that lists the fields. -/
def fieldMembers (v : VariantOf τ φ) : Except Fault (List ClassMember) := do
  if v.fields.isEmpty then return []
  else
    let entries ← v.fields.mapM fun f => return (Slot.display f.name, ← annotatedType f)
    return [.fields entries]

/-- The accessors of the fields. -/
def accessorMembers (v : VariantOf τ φ) : List ClassMember :=
  v.fields.flatMap fun f =>
    [.getter (Slot.display f.name) (Slot.display f.type),
      .setter (Slot.display f.name) (Slot.display f.type)]

/-- The conversions that are members of a variant. -/
def conversionMembers (F : FamilyOf τ φ) (mode : ClassMode) (v : VariantOf τ φ) :
    Except Fault (List ClassMember) :=
  match mode with
  | .records => .ok []
  | .full => (F.membersOf v.name).mapM fun c => (c.method F).map .conversion

/-- The body of the class of a variant, which is never empty. -/
def classBody (F : FamilyOf τ φ) (mode : ClassMode) (v : VariantOf τ φ) :
    Except Fault (List ClassMember) := do
  let docstring ← docstringMembers F v
  let fields ← fieldMembers v
  let conversions ← conversionMembers F mode v
  let body := docstring ++ fields ++ accessorMembers v ++ conversions
  return if body.isEmpty then [.nothing] else body

/-- The decorators of a class, which is made a data class when none of its decorations does so. -/
def classDecorators (decorators : List String) : List String :=
  if decorators.any isDataClassDecorator then decorators else decorators ++ ["@dataclass"]

/-- The class of a variant. -/
def VariantOf.recordClass (F : FamilyOf τ φ) (mode : ClassMode) (v : VariantOf τ φ) :
    Except Fault RecordClass := do
  let decorators ← v.decorations.mapM decoratorOf
  requireKeys (F.interfaces.flatMap fun i => [i.name, i.absenceName])
  let bases ← (basesOf F.interfaces v).mapM (textOr .wrongShape)
  let body ← classBody F mode v
  return ⟨classDecorators decorators, Slot.display v.name, bases, body⟩

/-- The classes of an interface. -/
def InterfaceOf.classes (i : InterfaceOf τ) : InterfaceClass where
  name := Slot.display i.name
  absenceName := Slot.display i.absenceName
  field := Slot.display i.fieldName
  type := Slot.display i.fieldType
  getter := Slot.display i.getter
  setter := Slot.display i.setter

/-- **The module of a family.** -/
def FamilyOf.classModule (F : FamilyOf τ φ) (mode : ClassMode) : Except Fault ClassModule := do
  let qualified ← anyQualified (F.variants.flatMap VariantOf.decorations)
  let records ← F.variants.mapM (VariantOf.recordClass F mode)
  let imports ← F.imports.mapM (textOr .wrongShape)
  return {
    canonical := Slot.display F.canonical
    qualifiedDecorations := qualified
    annotatedTypes := F.variants.any fun v => v.fields.any fun f => !f.passthrough.isEmpty
    imports := imports
    interfaces := F.interfaces.map InterfaceOf.classes
    records := records }

end RecordFamily
