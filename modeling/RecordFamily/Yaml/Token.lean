import RecordFamily.Yaml.Properties
import RecordFamily.Yaml.Scalars

/-!
# Tokens of a YAML text

A text is cut into tokens. The structure that is told by indentation shows as tokens too: a block
collection opens where an item or a key stands in a new column, and closes where a later line stands
further left. That a scalar is a key is known only at the colon after it; the token in front of the
key is put in then, at the place that was remembered for it.

* `Token`: the tokens;
* `KeyPlace`, `Scanner`: the place of a possible key, and the state of the scan;
* `Scanner.step`: one more token and what comes with it;
* **`Token.scan`**: the tokens of a text, up to its end or to the first fault.
-/

namespace RecordFamily

namespace Yaml

/-- A token. -/
inductive Token where
  | directive (d : DocumentDirective)
  | documentStart
  | documentEnd
  | blockSequenceStart
  | blockMappingStart
  | blockEnd
  | flowSequenceStart
  | flowSequenceEnd
  | flowMappingStart
  | flowMappingEnd
  | blockEntry
  | flowEntry
  | key
  | value
  | alias (name : String)
  | anchor (name : String)
  | tag (text : TagText)
  | scalar (text : String) (isPlain : Bool)
  | streamEnd
  deriving DecidableEq, Repr

/-- A place where a key may have begun. -/
structure KeyPlace where
  /-- The number of brackets open there. -/
  depth : Nat
  /-- The number of tokens in front of it. -/
  tokens : Nat
  /-- Nothing but a key can stand there. -/
  isRequired : Bool
  index : Nat
  line : Nat
  column : Nat

/-- The state of a scan. -/
structure Scanner where
  cursor : Cursor
  /-- The tokens so far, last one first. -/
  tokens : List Token := []
  /-- The number of tokens so far. -/
  count : Nat := 0
  /-- The number of brackets open. -/
  depth : Nat := 0
  /-- The column of the innermost open block collection. -/
  indent : Int := -1
  /-- The columns of the block collections around it. -/
  outer : List Int := []
  /-- A key may begin here. -/
  allowsKey : Bool := true
  /-- The places where a key may have begun, at most one for each number of open brackets. -/
  places : List KeyPlace := []

namespace Scanner

/-! ## Small steps -/

/-- Adds a token. -/
def push (s : Scanner) (t : Token) : Scanner :=
  { s with tokens := t :: s.tokens, count := s.count + 1 }

/-- Puts a token in after the first `n` tokens. -/
def insertAfter (s : Scanner) (n : Nat) (t : Token) : Scanner :=
  let later := s.count - n
  { s with tokens := s.tokens.take later ++ t :: s.tokens.drop later, count := s.count + 1 }

/-- Goes on to a place. -/
def goTo (s : Scanner) (c : Cursor) : Scanner := { s with cursor := c }

/-- Goes on by so many characters. -/
def skip (s : Scanner) (n : Nat) : Scanner := s.goTo (s.cursor.advance n)

/-- Says whether a key may begin next. -/
def allowKey (s : Scanner) (allows : Bool) : Scanner := { s with allowsKey := allows }

/-- The scan is between brackets. -/
def inFlow (s : Scanner) : Bool := 0 < s.depth

/-- Closes the block collections that stand further right than a column: the columns that are left,
and the number of collections that were closed. -/
def closing (column : Int) : Int → List Int → Int × List Int × Nat
  | indent, [] => (indent, [], 0)
  | indent, o :: outer =>
    if column < indent then
      let (indent, outer, closed) := closing column o outer
      (indent, outer, closed + 1)
    else (indent, o :: outer, 0)

/-- Closes the block collections that stand further right than a column, outside brackets. -/
def unwind (s : Scanner) (column : Int) : Scanner :=
  if s.inFlow then s
  else
    let (indent, outer, closed) := closing column s.indent s.outer
    { s with
      indent := indent, outer := outer, count := s.count + closed,
      tokens := List.replicate closed .blockEnd ++ s.tokens }

/-- Opens a block collection in a column that stands further right than the innermost one. -/
def opens (s : Scanner) (column : Nat) : Bool := s.indent < (column : Int)

/-- Makes a column that of the innermost block collection. -/
def nest (s : Scanner) (column : Nat) : Scanner :=
  { s with indent := (column : Int), outer := s.indent :: s.outer }

/-- Opens a block collection at the place when it stands further right than the innermost one. -/
def openBlock (s : Scanner) (t : Token) : Scanner :=
  if s.opens s.cursor.column then (s.nest s.cursor.column).push t else s

/-! ## Places of keys -/

/-- The place has been left too far behind for a key. -/
def isStale (s : Scanner) (k : KeyPlace) : Bool :=
  k.line != s.cursor.line || 1024 < s.cursor.index - k.index

/-- Forgets the places that were left too far behind; a required one may not be among them. -/
def dropStale (s : Scanner) : Except Fault Scanner :=
  if s.places.any fun k => s.isStale k && k.isRequired then refused
  else .ok { s with places := s.places.filter fun k => !s.isStale k }

/-- The place remembered for the brackets that are open. -/
def place? (s : Scanner) : Option KeyPlace := s.places.find? fun k => k.depth == s.depth

/-- Forgets the place remembered for the brackets that are open. -/
def clearPlace (s : Scanner) : Scanner :=
  { s with places := s.places.filter fun k => k.depth != s.depth }

/-- Forgets the place remembered for the brackets that are open, which may not be required. -/
def dropPlace (s : Scanner) : Except Fault Scanner :=
  if (s.place?.map KeyPlace.isRequired).getD false then refused else .ok s.clearPlace

/-- Remembers the place as one where a key may begin, if a key may. -/
def savePlace (s : Scanner) : Except Fault Scanner :=
  if s.allowsKey then do
    let s ← s.dropPlace
    let c := s.cursor
    let isRequired := !s.inFlow && s.indent == (c.column : Int)
    return { s with
      places := ⟨s.depth, s.count, isRequired, c.index, c.line, c.column⟩ :: s.places }
  else .ok s

/-! ## Tokens -/

/-- The place of the next token: after spaces, comments and line ends. -/
def toNext : (bound : Nat) → Scanner → Scanner
  | 0, s => s
  | bound + 1, s =>
    let c := s.cursor.skipComment
    match c.lineBreak? with
    | some (_, c) => toNext bound { s with cursor := c, allowsKey := s.allowsKey || !s.inFlow }
    | none => s.goTo c

/-- The end of the text. -/
def finish (s : Scanner) : Except Fault Scanner := do
  let s ← (s.unwind (-1)).dropPlace
  return { s with allowsKey := false, places := [] }.push .streamEnd

/-- A directive in front of a document. -/
def directive (s : Scanner) : Except Fault Scanner := do
  let s ← (s.unwind (-1)).dropPlace
  let (d, c) ← documentDirective s.cursor
  return ((s.allowKey false).goTo c).push (.directive d)

/-- The sign between two documents. -/
def separator (s : Scanner) (t : Token) : Except Fault Scanner := do
  let s ← (s.unwind (-1)).dropPlace
  return ((s.allowKey false).skip 3).push t

/-- An opening bracket. -/
def openFlow (s : Scanner) (t : Token) : Except Fault Scanner := do
  let s ← s.savePlace
  return (({ s with depth := s.depth + 1 }.allowKey true).skip 1).push t

/-- A closing bracket. -/
def closeFlow (s : Scanner) (t : Token) : Except Fault Scanner := do
  let s ← s.dropPlace
  return (({ s with depth := s.depth - 1 }.allowKey false).skip 1).push t

/-- A comma between brackets. -/
def flowEntry (s : Scanner) : Except Fault Scanner := do
  let s ← (s.allowKey true).dropPlace
  return (s.skip 1).push .flowEntry

/-- The dash of an item. -/
def blockEntry (s : Scanner) : Except Fault Scanner := do
  if !s.inFlow && !s.allowsKey then refused
  else
    let s := if s.inFlow then s else s.openBlock .blockSequenceStart
    let s ← (s.allowKey true).dropPlace
    return (s.skip 1).push .blockEntry

/-- The sign of a key that is written on its own. -/
def explicitKey (s : Scanner) : Except Fault Scanner := do
  if !s.inFlow && !s.allowsKey then refused
  else
    let s := if s.inFlow then s else s.openBlock .blockMappingStart
    let s ← (s.allowKey !s.inFlow).dropPlace
    return (s.skip 1).push .key

/-- The colon after a key that began at a remembered place. -/
def valueOf (s : Scanner) (k : KeyPlace) : Scanner :=
  let s := s.clearPlace.insertAfter k.tokens .key
  let s := if !s.inFlow && s.opens k.column then
      (s.nest k.column).insertAfter k.tokens .blockMappingStart
    else s
  s.allowKey false

/-- The colon of a value. -/
def value (s : Scanner) : Except Fault Scanner := do
  let s ← match s.place? with
    | some k => pure (s.valueOf k)
    | none =>
      if !s.inFlow && !s.allowsKey then refused
      else
        let s := if s.inFlow then s else s.openBlock .blockMappingStart
        (s.allowKey !s.inFlow).dropPlace
  return (s.skip 1).push .value

/-- A token that may be a key or stand in front of one. -/
def inKey (s : Scanner) (read : Cursor → Except Fault (Token × Cursor)) :
    Except Fault Scanner := do
  let s ← s.savePlace
  let (t, c) ← read s.cursor
  return ((s.allowKey false).goTo c).push t

/-- A block scalar. -/
def block (s : Scanner) (isFolded : Bool) : Except Fault Scanner := do
  let s ← (s.allowKey true).dropPlace
  let (text, c) ← blockScalar isFolded s.indent s.cursor
  return (s.goTo c).push (.scalar (String.ofList text) false)

/-- A plain scalar. -/
def plain (s : Scanner) : Except Fault Scanner := do
  let s ← s.savePlace
  let (text, newLine, c) := plainScalar s.inFlow (s.indent + 1) s.cursor
  return ((s.allowKey newLine).goTo c).push (.scalar (String.ofList text) true)

/-- The characters that begin no plain scalar. -/
def signs : List Char :=
  ['-', '?', ':', ',', '[', ']', '{', '}', '#', '&', '*', '!', '|', '>', Text.apostrophe,
    Text.quotationMark, '%', '@', '\x60']

/-- A plain scalar may begin with `x`, which `after` follows. -/
def beginsPlain (s : Scanner) (x : Char) (after : Option Char) : Bool :=
  !(isBlankSign x || isLineEnd x || signs.contains x)
    || (!endsToken after && (x == '-' || (!s.inFlow && (x == '?' || x == ':'))))

/-- The token that `x` begins, which stands at the place. -/
def token (s : Scanner) (x : Char) : Except Fault Scanner :=
  let c := s.cursor
  let isAlone := endsToken (c.peekAt 1)
  if x == '%' && c.column == 0 then s.directive
  else if c.column == 0 && c.hasTriple '-' then s.separator .documentStart
  else if c.column == 0 && c.hasTriple '.' then s.separator .documentEnd
  else if x == '[' then s.openFlow .flowSequenceStart
  else if x == '{' then s.openFlow .flowMappingStart
  else if x == ']' then s.closeFlow .flowSequenceEnd
  else if x == '}' then s.closeFlow .flowMappingEnd
  else if x == ',' then s.flowEntry
  else if x == '-' && isAlone then s.blockEntry
  else if x == '?' && (s.inFlow || isAlone) then s.explicitKey
  else if x == ':' && (s.inFlow || isAlone) then s.value
  else if x == '*' then s.inKey fun c => (anchorName c).map fun r => (.alias r.1, r.2)
  else if x == '&' then s.inKey fun c => (anchorName c).map fun r => (.anchor r.1, r.2)
  else if x == '!' then s.inKey fun c => (tagText c).map fun r => (.tag r.1, r.2)
  else if x == '|' && !s.inFlow then s.block false
  else if x == '>' && !s.inFlow then s.block true
  else if x == Text.apostrophe || x == Text.quotationMark then
    s.inKey fun c => (quotedScalar x c).map fun r => (.scalar (String.ofList r.1) false, r.2)
  else if s.beginsPlain x (c.peekAt 1) then s.plain
  else refused

/-- The next token, with those that indentation puts in front of it. -/
def step (s : Scanner) : Except Fault Scanner := do
  let s ← (toNext s.cursor.size s).dropStale
  let s := s.unwind s.cursor.column
  match s.cursor.peek with
  | none => s.finish
  | some x => s.token x

/-- The tokens, last one first, in front of the first place where a key may still have begun: the token
there is not known before the scan has gone on. -/
def known (s : Scanner) : List Token :=
  let first := (s.places.filter fun k => !s.isStale k).foldl (fun n k => min n k.tokens) s.count
  s.tokens.drop (s.count - first)

/-- Steps up to the end of the text or to the first fault: the tokens, last one first, and the
fault. -/
def run : (bound : Nat) → Scanner → List Token × Option Fault
  | 0, s => (s.tokens, none)
  | bound + 1, s =>
    match s.step with
    | .error e => (s.known, some e)
    | .ok s => if s.tokens.head? == some .streamEnd then (s.tokens, none) else run bound s

end Scanner

/-- The character may stand in a YAML text. -/
def isAllowed (c : Char) : Bool :=
  let n := c.toNat
  c == '\t' || c == '\n' || c == '\r' || (0x20 ≤ n && n ≤ 0x7e) || n == 0x85
    || (0xa0 ≤ n && n ≤ 0xfffd) || 0x10000 ≤ n

/-- **The tokens of a text**, and the fault at which they end, if they do. -/
def Token.scan (s : String) : List Token × Option Fault :=
  let cs := s.toList
  if !cs.all isAllowed then ([], some .invalidYaml)
  else
    let start : Cursor := { rest := cs }
    let start := if start.peek == some '\ufeff' then start.next else start
    let (tokens, fault) := Scanner.run (cs.length + 2) { cursor := start }
    (tokens.reverse, fault)

end Yaml

end RecordFamily
