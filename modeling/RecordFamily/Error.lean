import RecordFamily.FileTree
import RecordFamily.Json.Reader

/-!
# What can go wrong

A derivation fails for a cause that the record or the schema document is to blame for. Beside these
stand **faults**: steps that do not apply to the value at hand, such as looking up a missing key.

* `DerivationError`: the causes, `DerivationError.message` their texts;
* `ErrorKind`, `DerivationError.kind`: the classes that the causes fall into;
* `Fault`, `Fault.message?`: the faults and the texts of those that have one;
* `Failure`: one of the two, or a file that does not exist or cannot be written.
-/

namespace RecordFamily

/-- The classes of derivation errors. -/
inductive ErrorKind where
  | malformedDirective
  | conflictingDirective
  | unknownVariant
  | undeclaredVariant
  | unnamedField
  | duplicateField
  | invalidFieldName
  | duplicateVariantDeclaration
  | nameCollision
  | schemaParseError
  deriving DecidableEq, Repr

/-- Why a derivation, or the reading of a schema, is refused. -/
inductive DerivationError where
  /-- An annotation holds nothing but blanks. -/
  | emptyDirective
  /-- An annotation does not begin with a directive name. -/
  | noDirectiveName (text : String)
  /-- Something other than a parenthesis follows the directive name. -/
  | unexpectedAfterName (found name text : String)
  /-- The arguments of an annotation are not closed. -/
  | missingClosing (text : String)
  /-- An argument is no string literal. -/
  | expectedString (text found : String)
  /-- Two arguments are not parted by a comma. -/
  | expectedSeparator (text found : String)
  /-- A directive that lists variants lists none. -/
  | missingArguments (field directive : String)
  /-- A directive without arguments was written with parentheses. -/
  | unwantedArguments (field directive text : String)
  /-- An annotation has the shape of a directive and names none. -/
  | unknownDirective (field directive text : String)
  /-- A decoration directive has other than two arguments. -/
  | badDecoration (text : String)
  /-- A variant name is no identifier. -/
  | invalidVariantName (name : String)
  /-- A field has two inclusion directives. -/
  | conflictingDirectives (field first second : String)
  /-- A field directive names a variant that is not declared. -/
  | unknownVariant (field directive variant : String)
  /-- A decoration directive names a variant that is not declared. -/
  | undeclaredVariant (variant : String)
  /-- A field of a record has no name; `position` counts from one. -/
  | unnamedField (position : Nat) (record : String)
  /-- A field entry of a schema has no name. -/
  | unnamedEntry (position : Nat)
  /-- A field in dictionary form has no name. -/
  | unnamedMapping (description : String)
  /-- A field name is no identifier. -/
  | invalidFieldName (field record : String)
  /-- A field name is declared twice. -/
  | duplicateField (field record : String)
  /-- A variant is declared twice. -/
  | duplicateVariant (name : String)
  /-- Generated names occur more than once. -/
  | nameCollision (entries : List String)
  /-- The fallbacks are no mapping. -/
  | fallbacksNotMapping
  /-- A schema is no mapping. -/
  | schemaNotMapping
  /-- A schema has no record name. -/
  | schemaUnnamed
  /-- A schema key must hold a list. -/
  | notList (key : String)
  /-- A schema key must hold a text or a list. -/
  | notTextOrList (key : String)
  /-- The options of a schema are no mapping. -/
  | optionsNotMapping
  /-- The docstring of a schema is no text. -/
  | docstringNotText
  /-- A field entry of a schema is no mapping. -/
  | entryNotMapping (position : Nat)
  /-- A field entry of a schema has no type. -/
  | entryUntyped (field : String)
  /-- A schema text is empty. -/
  | schemaEmpty
  /-- A schema text is no JSON. -/
  | invalidJson (error : Json.Error)
  /-- A schema text is no YAML. -/
  | invalidYaml
  /-- A schema format is not known. -/
  | unsupportedFormat (format : String)
  /-- The ending of a file name tells no format. -/
  | unknownExtension (path : String)
  /-- A schema file is no UTF-8. -/
  | notUtf8 (path reason : String)
  /-- A schema file cannot be read. -/
  | unreadable (path reason : String)
  deriving DecidableEq, Repr

namespace DerivationError

/-- The class of the error. -/
def kind : DerivationError → ErrorKind
  | emptyDirective | noDirectiveName .. | unexpectedAfterName .. | missingClosing ..
  | expectedString .. | expectedSeparator .. | missingArguments .. | unwantedArguments ..
  | unknownDirective .. | badDecoration .. | invalidVariantName .. => .malformedDirective
  | conflictingDirectives .. => .conflictingDirective
  | unknownVariant .. => .unknownVariant
  | undeclaredVariant .. => .undeclaredVariant
  | unnamedField .. | unnamedEntry .. | unnamedMapping .. => .unnamedField
  | invalidFieldName .. => .invalidFieldName
  | duplicateField .. => .duplicateField
  | duplicateVariant .. => .duplicateVariantDeclaration
  | nameCollision .. => .nameCollision
  | fallbacksNotMapping | schemaNotMapping | schemaUnnamed | notList .. | notTextOrList ..
  | optionsNotMapping | docstringNotText | entryNotMapping .. | entryUntyped .. | schemaEmpty
  | invalidJson .. | invalidYaml | unsupportedFormat .. | unknownExtension .. | notUtf8 ..
  | unreadable .. => .schemaParseError

/-- The variant that the error is about, when it is about an unknown one. -/
def variant? : DerivationError → Option String
  | unknownVariant _ _ variant | undeclaredVariant variant => some variant
  | _ => none

/-- The text of the error. -/
def message : DerivationError → String
  | emptyDirective => "Empty annotation"
  | noDirectiveName text => s!"Annotation `{text}` must start with a directive name"
  | unexpectedAfterName found name text => s!"Unexpected `{found}` after `{name}` in `{text}`"
  | missingClosing text => s!"Missing closing parenthesis in `{text}`"
  | expectedString text found => s!"Expected a string literal in `{text}`, got `{found}`"
  | expectedSeparator text found => s!"Expected ',' or ')' in `{text}`, got `{found}`"
  | missingArguments field directive =>
    s!"Field `{field}`: `{directive}(...)` must have at least one argument"
  | unwantedArguments field directive text =>
    s!"Field `{field}`: `{directive}` takes no arguments, got `{text}`"
  | unknownDirective field directive text =>
    s!"Field `{field}`: unknown directive `{directive}` in `{text}`"
  | badDecoration text => s!"`attr_for(...)` must have two string literal arguments, got `{text}`"
  | invalidVariantName name => s!"Variant name `{name}` is not a valid identifier"
  | conflictingDirectives field first second =>
    s!"Field `{field}`: `{first}` conflicts with `{second}`"
  | unknownVariant field directive variant =>
    s!"Field `{field}`: `{directive}(...)` has undeclared variant name `{variant}`"
  | undeclaredVariant variant => s!"`attr_for(...)` targets undeclared variant `{variant}`"
  | unnamedField position record =>
    s!"Field #{position} of `{record}` has no name; named fields are required"
  | unnamedEntry position => s!"Field #{position} has no name; named fields are required"
  | unnamedMapping description =>
    s!"Field {description} has no name; named fields are required"
  | invalidFieldName field record =>
    s!"Field `{field}` of `{record}` is not a valid Python identifier"
  | duplicateField field record => s!"Field `{field}` of `{record}` is declared twice"
  | duplicateVariant name => s!"Variant `{name}` is declared more than once"
  | nameCollision entries => "; ".intercalate entries
  | fallbacksNotMapping => "`options.fallbacks` must be a mapping of type to expression"
  | schemaNotMapping => "Schema must be a mapping at the top level"
  | schemaUnnamed => "Schema is missing the canonical record `name`"
  | notList key => s!"`{key}` must be a list"
  | notTextOrList key => s!"`{key}` must be a string or a list"
  | optionsNotMapping => "`options` must be a mapping"
  | docstringNotText => "`docstring` must be a string"
  | entryNotMapping position => s!"Field #{position} must be a mapping"
  | entryUntyped field => s!"Field `{field}` has no type"
  | schemaEmpty => "Schema is empty"
  | invalidJson error => s!"Invalid JSON schema: {error.message}"
  | invalidYaml => "Invalid YAML schema"
  | unsupportedFormat format => s!"Unsupported schema format: {format}"
  | unknownExtension path => s!"Cannot infer schema format from `{path}`"
  | notUtf8 path reason => s!"Schema file `{path}` is not valid UTF-8: {reason}"
  | unreadable path reason => s!"Cannot read schema file `{path}`: {reason}"

end DerivationError

/-- A step that does not apply to the value at hand. -/
inductive Fault where
  /-- A mapping lacks a key; its description is given. -/
  | missingKey (description : String)
  /-- A value of another shape was needed. -/
  | wrongShape
  /-- A member was asked of a value that has none of that name. -/
  | noMember
  /-- A character was asked of an empty text. -/
  | emptyText
  /-- A whole number is beyond the range of an operation. -/
  | outOfRange
  /-- A value does not have the meaning that was asked of it. -/
  | badValue (reason : String)
  /-- A text is no JSON. -/
  | invalidJson (error : Json.Error)
  /-- A text is no YAML. -/
  | invalidYaml
  /-- Values stand in each other too deep. -/
  | tooDeep
  deriving DecidableEq, Repr

/-- The text of a fault that has one. -/
def Fault.message? : Fault → Option String
  | missingKey description => some description
  | badValue reason => some reason
  | invalidJson error => some error.message
  | wrongShape | noMember | emptyText | outOfRange | invalidYaml | tooDeep => none

/-- The fault of a text that could not be read: it is no JSON, or it holds a number that is too
long or values that are too deep. -/
def Json.Error.toFault (e : Json.Error) : Fault :=
  match e.cause with
  | .tooManyDigits _ => .badValue e.cause.wording
  | .tooDeep => .tooDeep
  | _ => .invalidJson e

/-- Why an operation has no result. -/
inductive Failure where
  | derivation (error : DerivationError)
  | fault (fault : Fault)
  /-- The schema file does not exist. -/
  | missingFile (path : String)
  /-- A file cannot be written. -/
  | unwritable (path : String) (error : PathError)
  deriving DecidableEq, Repr

/-- No file has a path with a null character. -/
def checkPath (path : String) : Except Failure Unit :=
  if path.toList.contains '\x00' then .error (.fault (.badValue "embedded null byte")) else .ok ()

end RecordFamily
