import RecordFamily.Json.Reader
import RecordFamily.Yaml.Cursor

/-!
# Reading scalars

The four ways in which a scalar is written: plainly, between quotation marks or apostrophes, and as a
block. Line ends within a scalar are folded: one is a space, and of several the first is dropped.

* `folded`: what a run of line ends comes to;
* `plainScalar`: a plain scalar;
* `quotedScalar`: a scalar between marks, with its escapes;
* `blockScalar`: a literal or folded block.

Loops over a text take the number of its characters as their bound.
-/

namespace RecordFamily

namespace Yaml

open Text

/-- What a line end and the empty lines after it come to. -/
def folded (first : Char) (more : List Char) : List Char :=
  if first != '\n' then first :: more
  else if more.isEmpty then [' ']
  else more

/-! ## Plain scalars -/

/-- The characters that end a plain scalar between brackets. -/
def isFlowSign (c : Char) : Bool := c == ',' || c == '[' || c == ']' || c == '{' || c == '}'

/-- The colon in front of this rest ends a key. -/
def endsKey (inFlow : Bool) : List Char → Bool
  | [] => true
  | c :: _ => isBlankSign c || isLineEnd c || (inFlow && isFlowSign c)

/-- The characters of a plain scalar up to the next space. -/
def plainWord (inFlow : Bool) : List Char → List Char
  | [] => []
  | c :: rest =>
    if isBlankSign c || isLineEnd c || (c == ':' && endsKey inFlow rest)
      || (inFlow && (c == '?' || isFlowSign c)) then []
    else c :: plainWord inFlow rest

/-- Spaces and line ends: the line ends in order, and the place after all of them; none when a
separator of documents stands among them. -/
def plainBreaks : (bound : Nat) → Cursor → Option (List Char × Cursor)
  | 0, c => some ([], c)
  | bound + 1, c =>
    let c := c.skipSpaces
    match c.lineBreak? with
    | none => some ([], c)
    | some (b, c) =>
      if c.atSeparator then none else (plainBreaks bound c).map fun r => (b :: r.1, r.2)

/-- What stands between two words of a plain scalar. -/
inductive Gap where
  /-- Spaces within a line, perhaps none. -/
  | spaces (count : Nat)
  /-- Line ends, as they are folded. -/
  | breaks (chars : List Char)
  /-- A separator of documents. -/
  | separator

/-- The gap after a word of a plain scalar. -/
def plainGap (c : Cursor) : Gap × Cursor :=
  let after := c.skipSpaces
  match after.lineBreak? with
  | none => (.spaces (after.index - c.index), after)
  | some (b, after) =>
    if after.atSeparator then (.separator, after)
    else
      match plainBreaks after.size after with
      | none => (.separator, after)
      | some (bs, after) => (.breaks (folded b bs), after)

/-- What a plain scalar continues with at a place. -/
def plainEnds (inFlow : Bool) (indent : Int) (c : Cursor) : Bool :=
  c.peek == some '#' || (!inFlow && (c.column : Int) < indent)

/-- A plain scalar: its text, whether it ends in a new line, and the place after it. The lines after
the first have at least the given indentation; `gap` stands in front of the next word. -/
def plainFrom (inFlow : Bool) (indent : Int) :
    (bound : Nat) → (gap : List Char) → (newLine : Bool) → Cursor → List Char × Bool × Cursor
  | 0, _, newLine, c => ([], newLine, c)
  | bound + 1, gap, newLine, c =>
    match plainWord inFlow c.rest with
    | [] => ([], newLine, c)
    | word =>
      let (between, after) := plainGap (c.advance word.length)
      match between with
      | .separator => (gap ++ word, true, after)
      | .spaces 0 => (gap ++ word, false, after)
      | .spaces n =>
        if plainEnds inFlow indent after then (gap ++ word, false, after)
        else
          let (text, newLine, c) := plainFrom inFlow indent bound (List.replicate n ' ') false after
          (gap ++ word ++ text, newLine, c)
      | .breaks bs =>
        if plainEnds inFlow indent after then (gap ++ word, true, after)
        else
          let (text, newLine, c) := plainFrom inFlow indent bound bs true after
          (gap ++ word ++ text, newLine, c)

/-- A plain scalar whose first character stands at the place. -/
def plainScalar (inFlow : Bool) (indent : Int) (c : Cursor) : List Char × Bool × Cursor :=
  plainFrom inFlow indent c.size [] false c

/-! ## Scalars between marks -/

/-- The escapes of one letter between quotation marks. -/
def letterMeanings : List (Char × Nat) := [
  ('0', 0x00), ('a', 0x07), ('b', 0x08), ('t', 0x09), ('\t', 0x09), ('n', 0x0a), ('v', 0x0b),
  ('f', 0x0c), ('r', 0x0d), ('e', 0x1b), (' ', 0x20), (quotationMark, 0x22), (backslash, 0x5c),
  ('/', 0x2f), ('N', 0x85), ('_', 0xa0), ('L', 0x2028), ('P', 0x2029)]

/-- The letters of escapes by code point, with the number of their digits. -/
def codeWidths : List (Char × Nat) := [('x', 2), ('u', 4), ('U', 8)]

/-- The character of a code point. -/
def charOfCode (n : Nat) : Except Fault Char :=
  if 0x7fffffff < n then .error .outOfRange
  else if 0x10ffff < n then .error (.badValue "chr() arg not in range(0x110000)")
  else .ok (Json.charOf n)

/-- Empty lines within a scalar between marks: the line ends, and the place of what follows. -/
def quotedBreaks : (bound : Nat) → Cursor → Except Fault (List Char × Cursor)
  | 0, _ => refused
  | bound + 1, c =>
    if c.atSeparator then refused
    else
      let c := c.skipWhile isBlankSign
      match c.lineBreak? with
      | none => .ok ([], c)
      | some (b, c) => do
        let (bs, c) ← quotedBreaks bound c
        return (b :: bs, c)

/-- The escape whose backslash stands at the place. -/
def quotedEscape (bound : Nat) (c : Cursor) : Except Fault (List Char × Cursor) :=
  let c := c.next
  match c.peek with
  | none => refused
  | some x =>
    match letterMeanings.lookup x, codeWidths.lookup x with
    | some n, _ => .ok ([Char.ofNat n], c.next)
    | none, some width =>
      let ds := (c.rest.drop 1).take width
      match Json.hexValue? ds with
      | some n =>
        if ds.length == width then do return ([← charOfCode n], c.advance (width + 1)) else refused
      | none => refused
    | none, none =>
      match c.lineBreak? with
      | some (_, c) => quotedBreaks bound c
      | none => refused

/-- The character stands for itself between marks. -/
def isQuotedBare (c : Char) : Bool :=
  !(c == apostrophe || c == quotationMark || c == backslash || isBlankSign c || isLineEnd c)

/-- Spaces within a scalar between marks, which fold with the line ends after them. -/
def quotedSpaces (bound : Nat) (c : Cursor) : Except Fault (List Char × Cursor) :=
  let spaces := c.takeWhile isBlankSign
  let c := c.advance spaces.length
  match c.peek, c.lineBreak? with
  | none, _ => refused
  | some _, none => .ok (spaces, c)
  | some _, some (b, c) => do
    let (bs, c) ← quotedBreaks bound c
    return (folded b bs, c)

/-- A scalar between two marks, from a place within it; `done` holds what was read, last character
first. -/
def quotedFrom (mark : Char) : (bound : Nat) → (done : List Char) → Cursor → Except Fault (List Char × Cursor)
  | 0, _, _ => refused
  | bound + 1, done, c =>
    match c.peek with
    | none => refused
    | some x =>
      if isQuotedBare x then quotedFrom mark bound (x :: done) c.next
      else if x == mark then
        if mark == apostrophe && c.peekAt 1 == some apostrophe then
          quotedFrom mark bound (x :: done) (c.advance 2)
        else .ok (done.reverse, c.next)
      else if isBlankSign x || isLineEnd x then do
        let (cs, c) ← quotedSpaces bound c
        quotedFrom mark bound (cs.reverse ++ done) c
      else if x == backslash && mark == quotationMark then do
        let (cs, c) ← quotedEscape bound c
        quotedFrom mark bound (cs.reverse ++ done) c
      else quotedFrom mark bound (x :: done) c.next

/-- The scalar whose opening mark stands at the place. -/
def quotedScalar (mark : Char) (c : Cursor) : Except Fault (List Char × Cursor) :=
  quotedFrom mark (c.size + 2) [] c.next

/-! ## Blocks -/

/-- What becomes of the line ends at the end of a block. -/
inductive Chomping where
  /-- All are dropped. -/
  | strip
  /-- The first is kept. -/
  | clip
  /-- All are kept. -/
  | keep
  deriving DecidableEq

/-- The chomping sign at the place, if there is one. -/
def chompingSign (c : Cursor) : Option Chomping × Cursor :=
  match c.peek with
  | some '+' => (some .keep, c.next)
  | some '-' => (some .strip, c.next)
  | _ => (none, c)

/-- The indentation digit at the place, if there is one; it may not be zero. -/
def indentDigit (c : Cursor) : Except Fault (Option Nat × Cursor) :=
  match c.peek with
  | some d =>
    if d == '0' then refused
    else if d.isDigit then .ok (some (d.toNat - 48), c.next)
    else .ok (none, c)
  | none => .ok (none, c)

/-- The signs after the mark of a block, in either order. -/
def blockSigns (c : Cursor) : Except Fault (Chomping × Option Nat × Cursor) := do
  let (before, c) := chompingSign c
  let (digit, c) ← indentDigit c
  let (after, c) := if before.isNone && digit.isSome then chompingSign c else (none, c)
  if endsWord c.peek then return ((before.orElse fun _ => after).getD .clip, digit, c) else refused

/-- The empty lines in front of a block whose indentation is not given: the line ends, the greatest
column reached, and the place after them. -/
def blockStart : (bound : Nat) → (widest : Nat) → Cursor → List Char × Nat × Cursor
  | 0, widest, c => ([], widest, c)
  | bound + 1, widest, c =>
    let c := c.skipSpaces
    let widest := max widest c.column
    match c.lineBreak? with
    | none => ([], widest, c)
    | some (b, c) =>
      let (bs, widest, c) := blockStart bound widest c
      (b :: bs, widest, c)

/-- The place after the spaces up to a column. -/
def toColumn (indent : Nat) (c : Cursor) : Cursor :=
  c.advance (min (indent - c.column) (c.takeWhile isSpace).length)

/-- Empty lines within a block: the line ends, and the place of what follows. -/
def blockBreaks (indent : Nat) : (bound : Nat) → Cursor → List Char × Cursor
  | 0, c => ([], toColumn indent c)
  | bound + 1, c =>
    let c := toColumn indent c
    match c.lineBreak? with
    | none => ([], c)
    | some (b, c) =>
      let (bs, c) := blockBreaks indent bound c
      (b :: bs, c)

/-- The line begins with a space or a tab. -/
def startsBlank (c : Cursor) : Bool := (c.peek.map isBlankSign).getD false

/-- What stands between two lines of a block. -/
def blockJoint (isFolded startedBlank : Bool) (lineEnd breaks : List Char) (c : Cursor) :
    List Char :=
  if isFolded && lineEnd == ['\n'] && !startedBlank && !startsBlank c then
    if breaks.isEmpty then [' '] else breaks
  else lineEnd ++ breaks

/-- The lines of a block from a place on: their text, the last line end, and the empty lines at the
end. -/
def blockLines (isFolded : Bool) (indent : Nat) :
    (bound : Nat) → Cursor → List Char × List Char × List Char × Cursor
  | 0, c => ([], [], [], c)
  | bound + 1, c =>
    let startedBlank := startsBlank c
    let line := c.takeWhile fun x => !isLineEnd x
    let c := c.advance line.length
    let (lineEnd, c) := match c.lineBreak? with
      | some (b, c) => ([b], c)
      | none => ([], c)
    let (breaks, c) := blockBreaks indent c.size c
    if c.column == indent && c.peek.isSome then
      let (text, lastEnd, last, after) := blockLines isFolded indent bound c
      (line ++ blockJoint isFolded startedBlank lineEnd breaks c ++ text, lastEnd, last, after)
    else (line, lineEnd, breaks, c)

/-- The text of a block whose mark stands at the place, within a collection at some indentation. -/
def blockScalar (isFolded : Bool) (parent : Int) (c : Cursor) : Except Fault (List Char × Cursor) := do
  let (chomping, digit, c) ← blockSigns c.next
  let c ← c.restOfLine
  let least := max 1 (parent + 1).toNat
  let (breaks, indent, c) := match digit with
    | none =>
      let (breaks, widest, c) := blockStart (c.size + 1) 0 c
      (breaks, max least widest, c)
    | some n =>
      let indent := least + n - 1
      let (breaks, c) := blockBreaks indent c.size c
      (breaks, indent, c)
  let (text, lineEnd, last, c) :=
    if c.column == indent && c.peek.isSome then
      let (text, lineEnd, last, c) := blockLines isFolded indent c.size c
      (breaks ++ text, lineEnd, last, c)
    else ([], [], breaks, c)
  match chomping with
  | .strip => return (text, c)
  | .clip => return (text ++ lineEnd, c)
  | .keep => return (text ++ lineEnd ++ last, c)

end Yaml

end RecordFamily
