import RecordFamily.Command.Arguments
import RecordFamily.Derivation
import RecordFamily.FileTree
import RecordFamily.Schema.Source

/-!
# Runs

A run reads a schema, derives its family and puts it out in one format. Either the whole text is
written, or nothing is and one line tells why.

* `Arguments.text`: the text of a run, given the way in which files are read;
* `Failure.diagnosis?`: the line for a failure that ends a run in order;
* `Report`: what a run leaves;
* **`run`**: the run of a command line in a file tree.
-/

namespace RecordFamily

/-- The diagnosis of a failure that is the schema's. -/
def Failure.diagnosis? : Failure → Option String
  | derivation e => some e.message
  | missingFile path => some s!"Schema file not found: {path}"
  | unwritable path e => some (e.report path)
  | fault _ => none

namespace Command

/-! ## Texts -/

/-- How the command is called. -/
def usage : String :=
  "usage: crd [-h] [-o OUTPUT] [-f \x7bpython,records,json,yaml,dot,dot-detailed\x7d]\n"
    ++ "           [--strict] [-v]\n"
    ++ "           schema\n"

/-- The help text. -/
def helpText : String :=
  usage ++ "\n"
    ++ "Derive record variants and conversions from a canonical record schema\n\n"
    ++ "positional arguments:\n"
    ++ "  schema                Path to schema file (.yaml, .yml or .json)\n\n"
    ++ "options:\n"
    ++ "  -h, --help            show this help message and exit\n"
    ++ "  -o OUTPUT, --output OUTPUT\n"
    ++ "                        Output file (defaults to stdout)\n"
    ++ "  -f \x7bpython,records,json,yaml,dot,dot-detailed\x7d, "
    ++ "--format \x7bpython,records,json,yaml,dot,dot-detailed\x7d\n"
    ++ "                        Output format\n"
    ++ "  --strict              Reject duplicate variant declarations and generated\n"
    ++ "                        name collisions\n"
    ++ "  -v, --verbose         Log derivation steps\n"

/-- The line of a diagnosis. -/
def errorLine (diagnosis : String) : String := s!"crd: error: {diagnosis}\n"

/-! ## The text of a run -/

namespace Arguments

/-- The options of a schema, made strict when the arguments ask for it. -/
def options (a : Arguments) (o : Options) : Options :=
  if a.strict then { o with strictVariants := true, strictNames := true } else o

/-- The text of a run, where `read` gives the bytes of the file at a path. -/
def text (a : Arguments) (read : String → Except PathError (List UInt8)) : Outcome String := do
  let schema ← Schema.ofFile read a.schema none
  let family ← schema.record.derive (a.options schema.options)
  Outcome.ofExcept ((family.render a.format).mapError Failure.fault)

/-- The path that the text is written to, unless it is printed. -/
def destination (a : Arguments) : Option String := a.output.filter (· != "")

/-- The log of traces, which is empty unless it is asked for. -/
def log (a : Arguments) (traces : List Trace) : String :=
  if a.verbose then String.join (traces.map fun t => t.line ++ "\n") else ""

end Arguments

/-! ## Runs in a file tree -/

/-- What a run leaves: the exit status, what was printed, and the files. -/
structure Report where
  exit : Nat
  out : String
  err : String
  files : FileTree
  deriving DecidableEq, Repr

/-- Puts out the text of a run, to standard output or to a file; `log` was logged before. -/
def putOut (files : FileTree) (a : Arguments) (log text : String) : Except Failure Report :=
  match a.destination with
  | none => .ok ⟨0, text, log, files⟩
  | some path => do
    checkPath path
    match files.write path text.toUTF8.toList with
    | .ok files => return ⟨0, "", log ++ a.log [.written path], files⟩
    | .error e =>
      return ⟨1, "", log ++ errorLine s!"cannot write `{path}`: {e.message}", files⟩

/-- The end of a run whose text has this outcome. -/
def conclude (files : FileTree) (a : Arguments) (text : Outcome String) : Except Failure Report :=
  let log := a.log text.traces
  match text.result with
  | .ok text => putOut files a log text
  | .error f =>
    match f.diagnosis? with
    | some diagnosis => .ok ⟨1, "", log ++ errorLine diagnosis, files⟩
    | none => .error f

/-- **The run of a command line.** -/
def run (files : FileTree) (arguments : List String) : Outcome Report :=
  match Arguments.parse arguments with
  | .error .help => return ⟨0, helpText, "", files⟩
  | .error (.misuse e) => return ⟨2, "", usage ++ errorLine e.message, files⟩
  | .ok a =>
    let text := a.text files.read
    ⟨conclude files a text, text.notices⟩

end Command

end RecordFamily
