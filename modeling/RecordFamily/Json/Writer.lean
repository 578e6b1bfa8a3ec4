import RecordFamily.Text.Quoted
import RecordFamily.Value.Basic

/-!
# Writing JSON

A value is written in ASCII, either on one line with its keys in their own order, or indented by two
spaces a level with its keys sorted.

* `Json.quotedText`: a string with its escapes;
* `Json.Layout`: the two layouts;
* **`Json.write`**: the text of a value; there is none for a value that JSON does not know, such as
  a date.
-/

namespace RecordFamily

namespace Json

open Text

/-- The escape of one code unit. -/
def unitEscape (n : Nat) : List Char := backslash :: 'u' :: hexDigits 4 n

/-- The escape of a character by its code point, in two halves when one unit does not hold it. -/
def codeText (c : Char) : List Char :=
  let n := c.toNat
  if n < 0x10000 then unitEscape n
  else unitEscape (0xd800 + (n - 0x10000) / 0x400) ++ unitEscape (0xdc00 + (n - 0x10000) % 0x400)

/-- One character of a written string. -/
def charText (c : Char) : List Char :=
  if c == quotationMark || c == backslash then [backslash, c]
  else if c == '\n' then [backslash, 'n']
  else if c == '\r' then [backslash, 'r']
  else if c == '\t' then [backslash, 't']
  else if c == '\x08' then [backslash, 'b']
  else if c == '\x0c' then [backslash, 'f']
  else if 0x20 ≤ c.toNat && c.toNat < 0x7f then [c]
  else codeText c

/-- A written string. -/
def quotedText (s : String) : String :=
  String.ofList (quotationMark :: s.toList.flatMap charText ++ [quotationMark])

/-- How a text is laid out. -/
inductive Layout where
  /-- All on one line, the keys in their own order. -/
  | line
  /-- One item a line, the keys sorted. -/
  | indented
  deriving DecidableEq

/-- The items of a collection between its brackets, at a depth of nesting. -/
def enclosed (layout : Layout) (depth : Nat) (first last : String) (items : List String) : String :=
  match layout, items with
  | _, [] => first ++ last
  | .line, items => first ++ ", ".intercalate items ++ last
  | .indented, items =>
    let pad (n : Nat) := String.ofList ('\n' :: List.replicate (2 * n) ' ')
    first ++ pad (depth + 1) ++ (("," ++ pad (depth + 1)).intercalate items) ++ pad depth ++ last

/-- The text of a double. -/
def floatText : Double → String
  | .notANumber => "NaN"
  | .infinite negative => if negative then "-Infinity" else "Infinity"
  | x => x.text

/-- The text of a key, which is always a string. -/
def keyText : Value → Option String
  | .text s => some (quotedText s)
  | .int n => some (quotedText (toString n))
  | .bool b => some (quotedText (if b then "true" else "false"))
  | .null => some (quotedText "null")
  | .float x => some (quotedText (floatText x))
  | _ => none

/-- Sorts what stands at text keys or at numbers; other keys have no order among several. -/
def sortedByKey (entries : List (Value × String)) : Option (List (Value × String)) :=
  let textKeys := entries.filterMap fun e => match e.1 with
    | .text s => some (s, e)
    | _ => none
  let numberKeys := entries.filterMap fun e => e.1.number?.map fun n => (n, e)
  if textKeys.length == entries.length then
    some ((textKeys.mergeSort fun a b => decide (a.1 ≤ b.1)).map Prod.snd)
  else if numberKeys.length == entries.length then
    some ((numberKeys.mergeSort fun a b => decide (a.1 ≤ b.1)).map Prod.snd)
  else if entries.length == 1 then some entries
  else none

/-- The members of an object, put in order for the layout. -/
def membersText (layout : Layout) (entries : List (Value × String)) : Option (List String) := do
  let entries ← if layout == .indented then sortedByKey entries else some entries
  entries.mapM fun e => do return (← keyText e.1) ++ ": " ++ e.2

mutual

/-- The text of a value at a depth of nesting. -/
def valueText (layout : Layout) (depth : Nat) : Value → Option String
  | .null => some "null"
  | .bool b => some (if b then "true" else "false")
  | .int n => some (toString n)
  | .float x => some (floatText x)
  | .text s => some (quotedText s)
  | .list xs => return enclosed layout depth "[" "]" (← itemTexts layout (depth + 1) xs)
  | .pair a b => do
    let a ← valueText layout (depth + 1) a
    let b ← valueText layout (depth + 1) b
    return enclosed layout depth "[" "]" [a, b]
  | .map es => do
    let entries ← entryTexts layout (depth + 1) es
    return enclosed layout depth "\x7b" "\x7d" (← membersText layout entries)
  | .named _ v => valueText layout depth v
  | .bytes _ | .date _ | .moment _ | .set _ | .again _ => none

/-- The texts of the values of a list. -/
def itemTexts (layout : Layout) (depth : Nat) : List Value → Option (List String)
  | [] => some []
  | x :: xs => return (← valueText layout depth x) :: (← itemTexts layout depth xs)

/-- The keys of a mapping with the texts of their values. -/
def entryTexts (layout : Layout) (depth : Nat) :
    List (Value × Value) → Option (List (Value × String))
  | [] => some []
  | (k, v) :: es => return (k, ← valueText layout depth v) :: (← entryTexts layout depth es)

end

/-- **The JSON text of a value.** -/
def write (layout : Layout) (v : Value) : Option String := valueText layout 0 v

end Json

end RecordFamily
