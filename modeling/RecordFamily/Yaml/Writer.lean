import RecordFamily.Value.Display
import RecordFamily.Yaml.Style

/-!
# Writing YAML

A value is written in block style: an entry or an item a line, nested collections indented by two
columns, the items of a list in an entry under its key, and empty collections between brackets.
Scalars are broken at single spaces once a line is longer than eighty columns. A named collection that
is met again is written once, with an anchor, and its other places are aliases.

* `Meetings`: which named collections are met again;
* `Page`: the text written so far and where its writing position is;
* `Page.plain`, `Page.apostrophes`, `Page.quotationMarks`: a scalar in each style;
* `Page.node`: a value at some depth;
* **`Yaml.write`**: the text of a value.
-/

namespace RecordFamily

namespace Yaml

open Text

/-! ## Anchors -/

/-- The named collections that were met, and those of them that were met again, in this order. -/
structure Meetings where
  met : List Nat := []
  again : List Nat := []

/-- The collection of a name is met in one more place. -/
def Meetings.meetAgain (m : Meetings) (name : Nat) : Meetings :=
  if m.again.contains name then m else { m with again := m.again ++ [name] }

mutual

/-- What is met in a value. What is inside a collection is met with its first place. -/
def Meetings.add (m : Meetings) : Value → Meetings
  | .named n v =>
    if m.met.contains n then m.meetAgain n else Meetings.add { m with met := n :: m.met } v
  | .again n => m.meetAgain n
  | .list xs | .set xs => m.addItems xs
  | .pair a b => Meetings.add (Meetings.add m a) b
  | .map es => m.addEntries es
  | _ => m

/-- What is met in the values of a list. -/
def Meetings.addItems (m : Meetings) : List Value → Meetings
  | [] => m
  | x :: xs => Meetings.addItems (Meetings.add m x) xs

/-- What is met in the entries of a mapping. -/
def Meetings.addEntries (m : Meetings) : List (Value × Value) → Meetings
  | [] => m
  | (k, v) :: es => Meetings.addEntries (Meetings.add (Meetings.add m k) v) es

end

/-- The anchors of the named collections that are met again in a value: they are numbered from one
on, with at least three digits. -/
def anchorsOf (v : Value) : List (Nat × List Char) :=
  (({} : Meetings).add v).again.zipIdx.map fun a =>
    let ds := Nat.toDigits 10 (a.2 + 1)
    (a.1, "id".toList ++ List.replicate (3 - ds.length) '0' ++ ds)

/-- A text under way. -/
structure Page where
  /-- What was written, last character first. -/
  done : List Char := []
  column : Nat := 0
  /-- The writing position comes after white space. -/
  atSpace : Bool := true
  /-- Nothing but indentation and signs of items stands in the line. -/
  atIndent : Bool := true
  /-- The anchors of named collections. -/
  anchors : List (Nat × List Char) := []
  /-- The names whose anchors were written. -/
  anchored : List Nat := []

/-- The column after which a line is broken. -/
def bestWidth : Nat := 80

namespace Page

/-! ## Signs and lines -/

/-- Writes characters within a line. -/
def put (p : Page) (cs : List Char) : Page :=
  { p with done := cs.reverse ++ p.done, column := p.column + cs.length }

/-- Ends the line. -/
def newLine (p : Page) : Page :=
  { p with done := '\n' :: p.done, column := 0, atSpace := true, atIndent := true }

/-- Goes to the column of the indentation, in a new line when something stands in the old one. -/
def toIndent (p : Page) (indent : Nat) : Page :=
  let p := if !p.atIndent || indent < p.column || (p.column == indent && !p.atSpace) then p.newLine
    else p
  if p.column < indent then
    { p.put (List.replicate (indent - p.column) ' ') with atSpace := true }
  else p

/-- Writes a sign after a space. -/
def sign (p : Page) (cs : List Char) (keepIndent : Bool) : Page :=
  { p.put (if p.atSpace then cs else ' ' :: cs) with
    atSpace := false, atIndent := p.atIndent && keepIndent }

/-- Writes a sign without a space before it. -/
def tightSign (p : Page) (cs : List Char) : Page :=
  { p.put cs with atSpace := false, atIndent := false }

/-- The writing position no longer comes after white space or indentation. -/
def settled (p : Page) : Page := { p with atSpace := false, atIndent := false }

/-! ## Scalars -/

/-- A run of equal kind within a scalar. -/
inductive Run where
  | spaces (count : Nat)
  | breaks (count : Nat)
  | word (cs : List Char)

/-- The runs of a text. -/
def runs : List Char → List Run
  | [] => []
  | c :: cs =>
    match c, runs cs with
    | ' ', .spaces n :: rest => .spaces (n + 1) :: rest
    | ' ', rest => .spaces 1 :: rest
    | '\n', .breaks n :: rest => .breaks (n + 1) :: rest
    | '\n', rest => .breaks 1 :: rest
    | c, .word w :: rest => .word (c :: w) :: rest
    | c, rest => .word [c] :: rest

/-- The line may be broken instead of writing the `count` spaces. -/
def mayBreak (p : Page) (split : Bool) (count : Nat) : Bool :=
  split && count == 1 && bestWidth < p.column

/-- Writes the runs of a plain scalar. -/
def plainRuns (split : Bool) (indent : Nat) (p : Page) : List Run → Page
  | [] => p
  | .word w :: rest => plainRuns split indent (p.put w) rest
  | .breaks n :: rest => plainRuns split indent (p.put (List.replicate n '\n')) rest
  | .spaces n :: rest =>
    let p := if p.mayBreak split n then (p.toIndent indent).settled
      else p.put (List.replicate n ' ')
    plainRuns split indent p rest

/-- Writes a plain scalar. -/
def plain (p : Page) (split : Bool) (indent : Nat) (cs : List Char) : Page :=
  let p := if p.atSpace then p else p.put [' ']
  plainRuns split indent p.settled (runs cs)

/-- Writes so many line ends. -/
def newLines (p : Page) : Nat → Page
  | 0 => p
  | n + 1 => p.newLine.newLines n

/-- Writes the runs of a scalar between apostrophes; `first` tells that none was written yet. -/
def apostropheRuns (split : Bool) (indent : Nat) (first : Bool) (p : Page) : List Run → Page
  | [] => p
  | .word w :: rest =>
    let doubled := w.flatMap fun c => if c == apostrophe then [c, c] else [c]
    apostropheRuns split indent false (p.put doubled) rest
  | .breaks n :: rest =>
    apostropheRuns split indent false ((p.newLines (n + 1)).toIndent indent) rest
  | .spaces n :: rest =>
    let p := if p.mayBreak split n && !first && !rest.isEmpty then p.toIndent indent
      else p.put (List.replicate n ' ')
    apostropheRuns split indent false p rest

/-- Writes a scalar between apostrophes. -/
def apostrophes (p : Page) (split : Bool) (indent : Nat) (cs : List Char) : Page :=
  (apostropheRuns split indent true (p.sign [apostrophe] false) (runs cs)).tightSign [apostrophe]

/-- The escapes of one letter. -/
def letterEscapes : List (Nat × Char) := [
  (0x00, '0'), (0x07, 'a'), (0x08, 'b'), (0x09, 't'), (0x0a, 'n'), (0x0b, 'v'), (0x0c, 'f'),
  (0x0d, 'r'), (0x1b, 'e'), (0x22, quotationMark), (0x5c, backslash), (0x85, 'N'), (0xa0, '_'),
  (0x2028, 'L'), (0x2029, 'P')]

/-- The character stands for itself between quotation marks. -/
def isBare (c : Char) : Bool :=
  0x20 ≤ c.toNat && c.toNat ≤ 0x7e && c != quotationMark && c != backslash

/-- The escape of a character. -/
def escapeOf (c : Char) : List Char :=
  let n := c.toNat
  let upper (cs : List Char) := cs.map Char.toUpper
  match letterEscapes.lookup n with
  | some letter => [backslash, letter]
  | none =>
    if n ≤ 0xff then backslash :: 'x' :: upper (hexDigits 2 n)
    else if n ≤ 0xffff then backslash :: 'u' :: upper (hexDigits 4 n)
    else backslash :: 'U' :: upper (hexDigits 8 n)

/-- Breaks the line within quotation marks, before the character `next`. -/
def breakQuoted (p : Page) (indent : Nat) (next : Option Char) : Page :=
  let p := ((p.put [backslash]).toIndent indent).settled
  if next == some ' ' then p.put [backslash] else p

/-- Writes the characters of a scalar between quotation marks; `pending` holds those that are not
written yet, last one first. -/
def quotedChars (split : Bool) (indent : Nat) (first : Bool) (pending : List Char) (p : Page) :
    List Char → Page
  | [] => p.put pending.reverse
  | c :: rest =>
    let mayBreak := split && !first && !rest.isEmpty
    if isBare c then
      if mayBreak && (c == ' ' || pending.isEmpty) && bestWidth < p.column + pending.length then
        quotedChars split indent false [c]
          ((p.put pending.reverse).breakQuoted indent (some c)) rest
      else quotedChars split indent false (c :: pending) p rest
    else
      let p := (p.put pending.reverse).put (escapeOf c)
      let p := if mayBreak && bestWidth + 1 < p.column then p.breakQuoted indent rest.head? else p
      quotedChars split indent false [] p rest

/-- Writes a scalar between quotation marks. -/
def quotationMarks (p : Page) (split : Bool) (indent : Nat) (cs : List Char) : Page :=
  (quotedChars split indent true [] (p.sign [quotationMark] false) cs).tightSign [quotationMark]

/-- Writes a scalar in its style; a key is not broken. -/
def scalar (p : Page) (isKey : Bool) (indent : Nat) (s : Scalar) : Page :=
  match s.style with
  | .plain => p.plain (!isKey) indent s.text
  | .apostrophes => p.apostrophes (!isKey) indent s.text
  | .quotationMarks => p.quotationMarks (!isKey) indent s.text

/-! ## Collections -/

/-- The indentation inside a node at some indentation; the document itself has none. -/
def deeper : Option Nat → Nat
  | none => 0
  | some n => n + 2

/-- Writes the anchor of a named collection, or its alias when the anchor was written before; the alias
is all that is written then. -/
def anchor (p : Page) (name : Nat) : Page × Bool :=
  match p.anchors.lookup name with
  | none => (p, false)
  | some id =>
    if p.anchored.contains name then (p.sign ('*' :: id) false, true)
    else ({ p.sign ('&' :: id) false with anchored := name :: p.anchored }, false)

/-- The value may be written in front of a colon. -/
def isSimpleKey (key : Value) : Bool :=
  match key.scalar? with
  | some s => s.isSimpleKey
  | none =>
    match key with
    | .list [] | .map [] | .set [] => true
    | _ => false

mutual

/-- Writes a node inside a collection at some indentation; `inEntry` tells that it is a key or a
value of a mapping, and `isKey` that a colon follows it in the same line. -/
def node (indent : Option Nat) (inEntry isKey : Bool) (v : Value) (p : Page) : Page :=
  match v with
  | .list [] => (p.sign ['['] false).tightSign [']']
  | .list (x :: xs) =>
    items (if inEntry && !p.atIndent then indent.getD 0 else deeper indent) (x :: xs) p
  | .pair a b =>
    let inner := if inEntry && !p.atIndent then indent.getD 0 else deeper indent
    let p := node (some inner) false false a ((p.toIndent inner).sign ['-'] true)
    node (some inner) false false b ((p.toIndent inner).sign ['-'] true)
  | .map [] => (p.sign ['\x7b'] false).tightSign ['\x7d']
  | .map (e :: es) => entries (deeper indent) (e :: es) p
  | .set [] => ((p.sign "!!set".toList false).sign ['\x7b'] false).tightSign ['\x7d']
  | .set (x :: xs) => members (deeper indent) (x :: xs) (p.sign "!!set".toList false)
  | .named n v =>
    match p.anchor n with
    | (p, true) => p
    | (p, false) => node indent inEntry isKey v p
  | .again n => (p.anchor n).1
  | v => p.scalar isKey (indent.getD 0 + 2) (v.scalar?.getD (.ofText v.display))

/-- Writes the items of a list. -/
def items (indent : Nat) : List Value → Page → Page
  | [], p => p
  | x :: xs, p =>
    items indent xs (node (some indent) false false x ((p.toIndent indent).sign ['-'] true))

/-- Writes the members of a set, as keys. -/
def members (indent : Nat) : List Value → Page → Page
  | [], p => p
  | x :: xs, p =>
    let p := node (some indent) true true x (p.toIndent indent)
    members indent xs ((p.tightSign [':']).scalar false (indent + 2) ⟨"null".toList, true, 6⟩)

/-- Writes the entries of a mapping. -/
def entries (indent : Nat) : List (Value × Value) → Page → Page
  | [], p => p
  | (k, v) :: es, p =>
    let p := p.toIndent indent
    let p :=
      if isSimpleKey k then (node (some indent) true true k p).tightSign [':']
      else
        let p := node (some indent) true false k (p.sign ['?'] true)
        (p.toIndent indent).sign [':'] true
    entries indent es (node (some indent) true false v p)

end

end Page

/-- **The YAML text of a value.** -/
def write (v : Value) : String :=
  let start : Page := { anchors := anchorsOf v }
  String.ofList (((Page.node none false false v start).toIndent 0).done.reverse)

end Yaml

end RecordFamily
