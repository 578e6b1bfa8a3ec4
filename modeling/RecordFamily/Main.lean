import RecordFamily.Command.Run

/-!
# The command

The outer layer: files are read and written here, and nothing is decided.

* `main`: runs the command line.
-/

namespace RecordFamily

open Command

/-- The path error that the system reports. Its number may come with a minus sign. -/
def pathErrorOf : IO.Error → PathError
  | .noFileOrDirectory .. => .missing
  | .inappropriateType _ code _ | .resourceExhausted _ code _ | .invalidArgument _ code _
  | .noSuchThing _ code _ => .ofCode code.toInt32.toInt.natAbs
  | _ => .denied

/-- The bytes of the file at a path, or why it cannot be read. -/
def readFile (path : String) : IO (Except PathError (List UInt8)) := do
  try
    return .ok (← IO.FS.readBinFile path).toList
  catch e => return .error (pathErrorOf e)

/-- Writes a text to a file, and tells why when that is not possible. -/
def writeFile (path text : String) : IO (Option PathError) := do
  try
    IO.FS.writeFile path text
    return none
  catch e => return some (pathErrorOf e)

/-- Prints warnings to standard error. -/
def printWarnings (warnings : List Warning) : IO Unit := do
  for w in warnings do
    IO.eprintln w.message

/-- Puts out the text of a run. -/
def putOutText (a : Arguments) (text : String) : IO UInt32 := do
  match a.destination with
  | none =>
    IO.print text
    return 0
  | some path =>
    match ← writeFile path text with
    | none =>
      IO.eprint (a.log [.written path])
      return 0
    | some e =>
      IO.eprint (errorLine s!"cannot write `{path}`: {e.message}")
      return 1

/-- Runs with arguments that were read. -/
def runArguments (a : Arguments) : IO UInt32 := do
  let content ← readFile a.schema
  let text := a.text fun _ => content
  printWarnings text.warnings
  IO.eprint (a.log text.traces)
  match text.result with
  | .ok text => putOutText a text
  | .error f =>
    match f.diagnosis? with
    | some diagnosis => IO.eprint (errorLine diagnosis)
    | none => IO.eprint (errorLine "the schema has no meaning")
    return 1

end RecordFamily

open RecordFamily Command

/-- Runs the command line. -/
def main (arguments : List String) : IO UInt32 := do
  match Arguments.parse arguments with
  | .error .help =>
    IO.print helpText
    return 0
  | .error (.misuse e) =>
    IO.eprint (usage ++ errorLine e.message)
    return 2
  | .ok a => runArguments a
