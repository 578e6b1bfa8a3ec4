import RecordFamily.Json.Reader
import RecordFamily.Text.Utf8
import RecordFamily.Yaml.Cursor

/-!
# Anchors, tags and directives

* `anchorName`: the name of an anchor or of an alias;
* `TagText`, `tagText`: a tag as it is written;
* `DocumentDirective`, `documentDirective`: a directive in front of a document.
-/

namespace RecordFamily

namespace Yaml

/-- The character may stand in the suffix of a tag. -/
def isTagChar (c : Char) : Bool :=
  c.isAlphanum || "-;/?:@&=+$,_.!~*'()[]%".toList.contains c

/-- The name of the anchor or alias whose sign stands at the place. -/
def anchorName (c : Cursor) : Except Fault (String × Cursor) :=
  let c := c.next
  let name := c.takeWhile isNameChar
  let after := c.advance name.length
  let ends := match after.peek with
    | none => true
    | some x => endsToken (some x) || ['?', ':', ',', ']', '}', '%', '@', '\x60'].contains x
  if name.isEmpty || !ends then refused else .ok (String.ofList name, after)

/-- A tag as it is written: a handle, unless the tag is given in full, and a suffix. -/
structure TagText where
  handle : Option String
  suffix : String
  deriving DecidableEq, Repr

/-- The bytes of the escapes at the place: a percent sign and two hexadecimal digits each. -/
def tagBytes : (bound : Nat) → Cursor → Except Fault (List UInt8 × Cursor)
  | 0, c => .ok ([], c)
  | bound + 1, c =>
    if c.peek == some '%' then
      let ds := (c.rest.drop 1).take 2
      match Json.hexValue? ds with
      | some n =>
        if ds.length == 2 then do
          let (bs, c) ← tagBytes bound (c.advance 3)
          return (n.toUInt8 :: bs, c)
        else refused
      | none => refused
    else .ok ([], c)

/-- The suffix of a tag, with its escapes resolved; it may be empty here. -/
def tagSuffixFrom : (bound : Nat) → Cursor → Except Fault (List Char × Cursor)
  | 0, c => .ok ([], c)
  | bound + 1, c =>
    match c.peek with
    | some '%' => do
      let (bs, c) ← tagBytes (bound + 1) c
      match Text.decodeUtf8 bs with
      | .error _ => refused
      | .ok cs =>
        let (rest, c) ← tagSuffixFrom bound c
        return (cs ++ rest, c)
    | some x =>
      if isTagChar x then do
        let (rest, c) ← tagSuffixFrom bound c.next
        return (x :: rest, c)
      else .ok ([], c)
    | none => .ok ([], c)

/-- The suffix of a tag, which is not empty. -/
def tagSuffix (c : Cursor) : Except Fault (String × Cursor) := do
  let (cs, after) ← tagSuffixFrom c.size c
  if after.index == c.index then refused else return (String.ofList cs, after)

/-- The handle of a tag: one sign, two signs, or a name between two signs. -/
def tagHandle (c : Cursor) : Except Fault (String × Cursor) :=
  if c.peek != some '!' then refused
  else if c.peekAt 1 == some ' ' then .ok ("!", c.next)
  else
    let name := c.next.takeWhile isNameChar
    if c.peekAt (name.length + 1) == some '!' then
      .ok (String.ofList ('!' :: name ++ ['!']), c.advance (name.length + 2))
    else refused

/-- The characters up to the next space hold a second sign. -/
def hasHandle (c : Cursor) : Bool :=
  (c.next.takeWhile fun x => !(x == ' ' || isLineEnd x)).contains '!'

/-- The tag whose sign stands at the place. -/
def tagText (c : Cursor) : Except Fault (TagText × Cursor) := do
  let (text, after) ←
    if c.peekAt 1 == some '<' then do
      let (suffix, c) ← tagSuffix (c.advance 2)
      if c.peek == some '>' then pure (⟨none, suffix⟩, c.next) else refused
    else if endsToken (c.peekAt 1) then pure (⟨none, "!"⟩, c.next)
    else do
      let (handle, c) ← if hasHandle c then tagHandle c else pure ("!", c.next)
      let (suffix, c) ← tagSuffix c
      pure (⟨some handle, suffix⟩, c)
  if endsWord after.peek then return (text, after) else refused

/-- A directive in front of a document. -/
inductive DocumentDirective where
  /-- The version of the format. -/
  | version (major minor : Nat)
  /-- A handle of tags and what it stands for. -/
  | handle (handle meaning : String)
  /-- Any other directive. -/
  | other
  deriving DecidableEq, Repr

/-- A number in decimal digits. -/
def directiveNumber (c : Cursor) : Except Fault (Nat × Cursor) :=
  match c.takeWhile Char.isDigit with
  | [] => refused
  | ds =>
    if Value.digitBound < ds.length then
      .error (.badValue (Json.Cause.tooManyDigits ds.length).wording)
    else .ok (Json.natOf ds, c.advance ds.length)

/-- The version after the name of its directive. -/
def versionDirective (c : Cursor) : Except Fault (DocumentDirective × Cursor) := do
  let (major, c) ← directiveNumber c.skipSpaces
  if c.peek != some '.' then refused
  else
    let (minor, c) ← directiveNumber c.next
    if endsWord c.peek then return (.version major minor, c) else refused

/-- The handle and its meaning after the name of their directive. -/
def handleDirective (c : Cursor) : Except Fault (DocumentDirective × Cursor) := do
  let (handle, c) ← tagHandle c.skipSpaces
  if c.peek != some ' ' then refused
  else
    let (meaning, c) ← tagSuffix c.skipSpaces
    if endsWord c.peek then return (.handle handle meaning, c) else refused

/-- The directive whose sign stands at the place, and the place after its line. -/
def documentDirective (c : Cursor) : Except Fault (DocumentDirective × Cursor) := do
  let c := c.next
  let name := c.takeWhile isNameChar
  let c := c.advance name.length
  if name.isEmpty || !endsWord c.peek then refused
  else
    let (d, c) ←
      if name == "YAML".toList then versionDirective c
      else if name == "TAG".toList then handleDirective c
      else pure (.other, c.skipWhile fun x => !isLineEnd x)
    return (d, ← c.restOfLine)

end Yaml

end RecordFamily
