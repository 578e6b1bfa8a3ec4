import RecordFamily.Directive.Token
import RecordFamily.Error

/-!
# Directives

An annotation in the shape of a directive is a name, perhaps followed by string literals between
parentheses.

* `Directive`: a name, its arguments, and whether it was written with parentheses;
* **`Directive.parse`**: the directive that an annotation spells;
* `Directive.head?`: the name at the front of an annotation that may be a directive;
* `Directive.isReserved`: the annotations that must be directives;
* `FieldDirective`, `fieldWords`, `recordWords`: the two vocabularies.
-/

namespace RecordFamily

open Text

/-- A parsed annotation. -/
structure Directive where
  name : String
  /-- The string literals between the parentheses. -/
  args : List String
  /-- The annotation was written with parentheses, empty ones included. -/
  hasCall : Bool
  /-- The annotation without the blanks around it. -/
  text : String
  deriving DecidableEq, Repr

namespace Directive

/-- The string literals in a row of tokens that commas part, the last one of which may stand at the
end. -/
def arguments (text : String) : List Token → Except DerivationError (List String)
  | [] => .ok []
  | [.literal _ body] => .ok [String.ofList (unquote body)]
  | .literal _ body :: .comma :: rest =>
    (arguments text rest).map (String.ofList (unquote body) :: ·)
  | .literal _ _ :: t :: _ => .error (.expectedSeparator text t.text)
  | t :: _ => .error (.expectedString text t.text)

/-- The directive that the tokens of `text` spell. -/
def ofTokens (text : String) : List Token → Except DerivationError Directive
  | [] => .error .emptyDirective
  | [.word name] => .ok ⟨String.ofList name, [], false, text⟩
  | .word name :: .opening :: rest =>
    match rest.getLast? with
    | some .closing =>
      (arguments text rest.dropLast).map fun args => ⟨String.ofList name, args, true, text⟩
    | _ => .error (.missingClosing text)
  | .word name :: t :: _ => .error (.unexpectedAfterName t.text (String.ofList name) text)
  | _ => .error (.noDirectiveName text)

/-- **The directive that an annotation spells.** -/
def parse (text : String) : Except DerivationError Directive :=
  let cs := trim text.toList
  ofTokens (String.ofList cs) (Token.scan cs)

/-- The word at the front of a text, when a parenthesis or the end of the text follows it. -/
def headChars? (cs : List Char) : Option (List Char) :=
  match trimStart cs with
  | [] => none
  | c :: rest =>
    if isWordStart c then
      match trimStart (rest.dropWhile isWordPart) with
      | [] | '(' :: _ => some (c :: rest.takeWhile isWordPart)
      | _ => none
    else none

/-- The name of the directive that an annotation may be. -/
def head? (text : String) : Option String := (headChars? text.toList).map String.ofList

/-- The annotation begins with a word of the vocabulary. -/
def isIn (vocabulary : List String) (text : String) : Bool :=
  match head? text with
  | some name => vocabulary.contains name
  | none => false

/-- The annotation begins with a word in lower case, as only a directive may. -/
def isReserved (text : String) : Bool :=
  match head? text with
  | some name => name.toList.all fun c => !c.isUpper
  | none => false

end Directive

/-! ## The vocabularies -/

/-- The directives of a field. -/
inductive FieldDirective where
  | default
  | onlyIn
  | notIn
  | onlyInSelf
  deriving DecidableEq, Repr

/-- The name of a field directive. -/
def FieldDirective.name : FieldDirective → String
  | default => "default"
  | onlyIn => "only_in"
  | notIn => "not_in"
  | onlyInSelf => "only_in_self"

/-- All field directives. -/
def FieldDirective.all : List FieldDirective := [default, onlyIn, notIn, onlyInSelf]

/-- The field directive of a name. -/
def FieldDirective.ofName? (name : String) : Option FieldDirective :=
  all.find? fun d => d.name == name

/-- The names of the field directives. -/
def fieldWords : List String := FieldDirective.all.map FieldDirective.name

/-- The name of the record directive, which attaches a decoration to a variant. -/
def decorationWord : String := "attr_for"

/-- The names of the record directives. -/
def recordWords : List String := [decorationWord]

end RecordFamily
