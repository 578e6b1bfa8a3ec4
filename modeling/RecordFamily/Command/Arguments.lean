import RecordFamily.Emit.Render
import RecordFamily.Text.Numeral
import RecordFamily.Text.Parts
import RecordFamily.Text.Quoted

/-!
# Command-line arguments

A command line names one schema and may hold flags before and after it. Long flags may be cut short
as long as one flag fits, values may be joined to their flag by `=`, and short flags may be written
together. What stands after `--` is no flag.

* `Flag`: the flags; `UsageError`, `UsageError.message`: what may be wrong with a command line;
* `Word`, `Word.ofText`: what a single argument may be;
* `Cluster`: what the flags written together in one argument ask for;
* **`Arguments.parse`**: the arguments of a run, or the reason why there is none.
-/

namespace RecordFamily

namespace Command

open Text

/-! ## Flags -/

/-- The flags. -/
inductive Flag where
  | help
  | output
  | format
  | strict
  | verbose
  deriving DecidableEq, Repr

namespace Flag

/-- All flags. -/
def all : List Flag := [help, output, format, strict, verbose]

/-- The long form of a flag. -/
def long : Flag → String
  | help => "--help"
  | output => "--output"
  | format => "--format"
  | strict => "--strict"
  | verbose => "--verbose"

/-- The letter of the short form. -/
def letter? : Flag → Option Char
  | help => some 'h'
  | output => some 'o'
  | format => some 'f'
  | strict => none
  | verbose => some 'v'

/-- The flag has a value. -/
def takesValue : Flag → Bool
  | output | format => true
  | help | strict | verbose => false

/-- The short form of a flag. -/
def short? (f : Flag) : Option String := f.letter?.map fun c => String.ofList ['-', c]

/-- How a flag is named in errors. -/
def label (f : Flag) : String :=
  match f.short? with
  | some short => s!"{short}/{f.long}"
  | none => f.long

/-- The flag of a letter. -/
def ofLetter? (c : Char) : Option Flag := all.find? fun f => f.letter? == some c

/-- The flag of a short form. -/
def ofShort? (s : String) : Option Flag := all.find? fun f => f.short? == some s

/-- The flag of a long form. -/
def ofLong? (s : String) : Option Flag := all.find? fun f => f.long == s

end Flag

/-! ## Errors -/

/-- What is wrong with a command line. -/
inductive UsageError where
  /-- Several flags begin like the word. -/
  | ambiguous (word : String) (candidates : List Flag)
  | valueMissing (flag : Flag)
  /-- A value was given to a flag that has none. -/
  | valueIgnored (flag : Flag) (value : String)
  | unknownFormat (word : String)
  | schemaMissing
  | unrecognized (words : List String)
  deriving DecidableEq, Repr

/-- The text of the error. -/
def UsageError.message : UsageError → String
  | ambiguous word candidates =>
    let names := ", ".intercalate (candidates.map Flag.long)
    s!"ambiguous option: {word} could match {names}"
  | valueMissing flag => s!"argument {flag.label}: expected one argument"
  | valueIgnored flag value =>
    let shown := quoted value
    s!"argument {flag.label}: ignored explicit argument {shown}"
  | unknownFormat word =>
    let shown := quoted word
    let choices := ", ".intercalate (OutputFormat.all.map fun f => quoted f.word)
    s!"argument {Flag.format.label}: invalid choice: {shown} (choose from {choices})"
  | schemaMissing => "the following arguments are required: schema"
  | unrecognized words =>
    let words := " ".intercalate words
    s!"unrecognized arguments: {words}"

/-- Why there is nothing to run. -/
inductive Halt where
  /-- Help was asked for. -/
  | help
  | misuse (e : UsageError)
  deriving DecidableEq, Repr

/-! ## Words -/

/-- What an argument is, judged by itself. -/
inductive Word where
  /-- What follows is no flag. -/
  | separator
  | plain (text : String)
  /-- A flag with the value that is joined to it, if there is one. -/
  | flag (f : Flag) (joined : Option String)
  /-- A short flag, and the text that is glued to it. -/
  | glued (f : Flag) (text : List Char)
  /-- It looks like a flag and is none. -/
  | unknown (text : String)
  deriving DecidableEq, Repr

/-- The text is a negative number, which is no flag; a line break may follow it. -/
def isNegativeNumber (s : String) : Bool :=
  match s.toList with
  | '-' :: cs =>
    let cs := if cs.getLast? == some '\n' then cs.dropLast else cs
    let ds := cs.map plainDigit
    match parts '.' ds with
    | [whole] => !whole.isEmpty && whole.all Char.isDigit
    | [whole, fraction] =>
      whole.all Char.isDigit && !fraction.isEmpty && fraction.all Char.isDigit
    | _ => false
  | _ => false

/-- The word that begins like no flag. -/
def Word.ofOther (s : String) : Word :=
  if isNegativeNumber s || s.toList.contains ' ' then .plain s else .unknown s

/-- The text before the first `=`, and the text after it if there is one. -/
def splitValue (s : String) : String × Option String :=
  match s.toList.dropWhile (· != '=') with
  | [] => (s, none)
  | _ :: value => (String.ofList (s.toList.takeWhile (· != '=')), some (String.ofList value))

/-- The word of a text that begins with two hyphens: a flag may be cut short. -/
def Word.ofLong (s : String) : Except UsageError Word :=
  let (name, value) := splitValue s
  match Flag.all.filter fun f => name.toList.isPrefixOf f.long.toList with
  | [] => .ok (.ofOther s)
  | [f] => .ok (.flag f value)
  | fs => .error (.ambiguous s fs)

/-- The word of a text that begins with one hyphen. -/
def Word.ofShort (s : String) : Word :=
  match s.toList with
  | _ :: c :: text =>
    match Flag.ofLetter? c with
    | some f => .glued f text
    | none => .ofOther s
  | _ => .plain s

/-- The word of a text. -/
def Word.ofText (s : String) : Except UsageError Word :=
  let (name, value) := splitValue s
  if !s.startsWith "-" || s == "-" then .ok (.plain s)
  else match Flag.ofLong? s <|> Flag.ofShort? s with
    | some f => .ok (.flag f none)
    | none =>
      match Flag.ofLong? name <|> Flag.ofShort? name with
      | some f => .ok (.flag f value)
      | none => if s.startsWith "--" then Word.ofLong s else .ok (.ofShort s)

/-- The words of the arguments: all that follows `--` is plain. -/
def Word.ofTexts : List String → Except UsageError (List Word)
  | [] => .ok []
  | s :: rest =>
    if s == "--" then .ok (.separator :: rest.map .plain)
    else do
      let w ← Word.ofText s
      return w :: (← Word.ofTexts rest)

/-! ## Flags written together -/

/-- What one argument with flags asks for. -/
structure Cluster where
  /-- The flags with their values, in order; a flag without value has the empty one. -/
  flags : List (Flag × String)
  /-- The rest that is no flag. -/
  rest : List String := []
  /-- The value of the last flag is the argument that follows. -/
  takesNext : Bool := false
  deriving DecidableEq, Repr

namespace Cluster

/-- The flag in front of a cluster. -/
def after (f : Flag) (c : Cluster) : Cluster := { c with flags := (f, "") :: c.flags }

/-- A flag by itself, where `next` is the plain argument that follows, if one does. -/
def alone (next : Option String) (f : Flag) : Except UsageError Cluster :=
  if f.takesValue then
    match next with
    | some value => .ok { flags := [(f, value)], takesNext := true }
    | none => .error (.valueMissing f)
  else .ok { flags := [(f, "")] }

/-- A flag with the value that is joined to it. -/
def joined (f : Flag) (value : String) : Except UsageError Cluster :=
  if f.takesValue then .ok { flags := [(f, value)] } else .error (.valueIgnored f value)

/-- A short flag with the text that is glued to it: its value, or more short flags. -/
def glued (next : Option String) (f : Flag) : List Char → Except UsageError Cluster
  | [] => alone next f
  | c :: text =>
    if f.takesValue then .ok { flags := [(f, String.ofList (c :: text))] }
    else if c == '-' then .error (.valueIgnored f (String.ofList (c :: text)))
    else match Flag.ofLetter? c with
      | none => .ok { flags := [(f, "")], rest := [String.ofList ('-' :: c :: text)] }
      | some g =>
        match text with
        | '=' :: value => (joined g (String.ofList value)).map (after f)
        | _ => (glued next g text).map (after f)

/-- The cluster of a word that is a flag. -/
def ofWord? (next : Option String) : Word → Option (Except UsageError Cluster)
  | .flag f none => some (alone next f)
  | .flag f (some value) => some (joined f value)
  | .glued f text => some (glued next f text)
  | .separator | .plain _ | .unknown _ => none

end Cluster

/-! ## Arguments -/

/-- The arguments of a run. -/
structure Arguments where
  /-- The path of the schema. -/
  schema : String
  /-- The path of the output; without one, or with an empty one, the text is printed. -/
  output : Option String
  format : OutputFormat
  /-- Both options of strictness are set. -/
  strict : Bool
  /-- The traces are logged. -/
  verbose : Bool
  deriving DecidableEq, Repr

/-- What was read of a command line. -/
structure Progress where
  schema : Option String := none
  output : Option String := none
  format : OutputFormat := .classes
  strict : Bool := false
  verbose : Bool := false
  /-- The arguments that belong nowhere. -/
  unread : List String := []
  deriving DecidableEq, Repr

namespace Progress

/-- Takes a flag with its value into account. -/
def set (p : Progress) (flag : Flag × String) : Except Halt Progress :=
  match flag with
  | (.help, _) => .error .help
  | (.output, value) => .ok { p with output := some value }
  | (.format, value) =>
    match OutputFormat.ofWord? value with
    | some format => .ok { p with format := format }
    | none => .error (.misuse (.unknownFormat value))
  | (.strict, _) => .ok { p with strict := true }
  | (.verbose, _) => .ok { p with verbose := true }

/-- Notes arguments that belong nowhere. -/
def leave (p : Progress) (words : List String) : Progress := { p with unread := p.unread ++ words }

/-- Takes the flags of a cluster into account. -/
def apply (p : Progress) (c : Cluster) : Except Halt Progress :=
  c.flags.foldlM set (p.leave c.rest)

/-- Takes an argument that is no flag: the first one names the schema. -/
def take (p : Progress) (s : String) : Progress :=
  match p.schema with
  | none => { p with schema := some s }
  | some _ => p.leave [s]

/-- The arguments that were read, if they make a run. -/
def finish (p : Progress) : Except Halt Arguments :=
  match p.schema with
  | none => .error (.misuse .schemaMissing)
  | some schema =>
    if p.unread.isEmpty then .ok ⟨schema, p.output, p.format, p.strict, p.verbose⟩
    else .error (.misuse (.unrecognized p.unread))

end Progress

/-- The argument that a word is, if it is plain. -/
def Word.plain? : Option Word → Option String
  | some (.plain s) => some s
  | _ => none

/-- The words of a command line taken into account one by one. The sign `--` is dropped next to the
argument that names the schema; `isNext` tells that this was the argument before, and `isTaken` that
the word at the front is the value of the flag before it. -/
def readWords (isNext isTaken : Bool) (p : Progress) : List Word → Except Halt Progress
  | [] => .ok p
  | .plain s :: ws =>
    if isTaken then readWords false false p ws
    else readWords p.schema.isNone false (p.take s) ws
  | .separator :: ws =>
    if isNext || (p.schema.isNone && !ws.isEmpty) then readWords false false p ws
    else readWords false false (p.leave ["--"]) ws
  | .unknown s :: ws => readWords false false (p.leave [s]) ws
  | w :: ws =>
    match Cluster.ofWord? (Word.plain? ws.head?) w with
    | none => .ok p
    | some (.error e) => .error (.misuse e)
    | some (.ok c) => do
      let p ← p.apply c
      readWords false c.takesNext p ws

/-- **The arguments of a run.** -/
def Arguments.parse (texts : List String) : Except Halt Arguments := do
  let words ← (Word.ofTexts texts).mapError Halt.misuse
  (← readWords false false {} words).finish

end Command

end RecordFamily
