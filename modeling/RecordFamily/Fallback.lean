import RecordFamily.Slot
import RecordFamily.Text.Blank

/-!
# Fallback expressions

A field that may be left out of a conversion is filled by the expression that its type falls back
to.

* `builtinFallbacks`: the expressions of the built-in types;
* `isOptionalType`, `isUnionWithNone`: the types that admit `None`;
* `bareTypeName`: a type without its parameters;
* **`fallbackExpression`**: the expression of a type, where a table of overrides comes first.
-/

namespace RecordFamily

open Text

/-- The expressions of the built-in types, by bare type name. -/
def builtinFallbacks : List (String × String) := [
  ("int", "0"), ("float", "0.0"), ("complex", "0j"), ("str", "\"\""), ("bytes", "b\"\""),
  ("bool", "False"), ("list", "[]"), ("List", "[]"), ("dict", "\x7b\x7d"), ("Dict", "\x7b\x7d"),
  ("set", "set()"), ("Set", "set()"), ("frozenset", "frozenset()"), ("FrozenSet", "frozenset()"),
  ("tuple", "()"), ("Tuple", "()"), ("Any", "None"), ("None", "None")]

/-- The word for the absent value. -/
def noneWord : List Char := "None".toList

/-- The text that `word` begins, without it. -/
def after? (word cs : List Char) : Option (List Char) :=
  if word.isPrefixOf cs then some (cs.drop word.length) else none

/-- The text without the module name of the generic types at its front. -/
def withoutModule (cs : List Char) : List Char := (after? "typing.".toList cs).getD cs

/-- The type is `Optional[…]`. -/
def isOptionalType (cs : List Char) : Bool := (after? "Optional[".toList (withoutModule cs)).isSome

/-- The text begins with `None` and a bar. -/
def startsWithNone (cs : List Char) : Bool :=
  match after? noneWord (trimStart cs) with
  | some rest => (trimStart rest).head? == some '|'
  | none => false

/-- The text ends with a bar and `None`. -/
def endsWithNone (cs : List Char) : Bool :=
  match after? noneWord.reverse (trimStart cs.reverse) with
  | some rest => (trimStart rest).head? == some '|'
  | none => false

/-- The type is a union whose first or last member is `None`. -/
def isUnionWithNone (cs : List Char) : Bool := startsWithNone cs || endsWithNone cs

/-- The type up to its parameters. -/
def bareTypeName (cs : List Char) : String :=
  String.ofList (withoutModule (trim (cs.takeWhile (· != '['))))

/-- The expression of a type without an override: `None` for a type that admits it, the built-in
expression, or a call of the type without arguments. -/
def plainFallback (cs : List Char) : String :=
  if isOptionalType cs || isUnionWithNone cs then "None"
  else (builtinFallbacks.lookup (bareTypeName cs)).getD s!"{String.ofList cs}()"

/-- **The fallback expression of a type**: its override, or the expression that it has without one. -/
def fallbackExpression {τ : Type} [BEq τ] [Slot τ] (overrides : List (String × τ)) (type : String) :
    τ :=
  let cs := trim type.toList
  (overrides.lookup (String.ofList cs)).getD (Slot.ofText (plainFallback cs))

end RecordFamily
