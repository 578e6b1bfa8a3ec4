import RecordFamily.FileTree
import RecordFamily.Json.Reader
import RecordFamily.Schema.Basic
import RecordFamily.Text.Blank
import RecordFamily.Text.Case
import RecordFamily.Text.Lines
import RecordFamily.Text.Utf8
import RecordFamily.Yaml.Reader

/-!
# Schema texts and schema files

* `SchemaFormat`: the document formats, and the endings of file names that tell them;
* `extension`: the ending of a file name, from its last point on;
* **`Schema.ofText`**: the schema of a text in the format of a name;
* **`Schema.ofFile`**: the schema of a file, given the way in which files are read.
-/

namespace RecordFamily

open Text

/-- The document formats of schemas. -/
inductive SchemaFormat where
  | yaml
  | json
  deriving DecidableEq, Repr

namespace SchemaFormat

/-- The name of a format. -/
def word : SchemaFormat → String
  | yaml => "yaml"
  | json => "json"

/-- The format of a name. -/
def ofWord? (word : String) : Option SchemaFormat := [yaml, json].find? fun f => f.word == word

/-- The endings that tell a format. -/
def extensions : List (String × SchemaFormat) := [(".yaml", yaml), (".yml", yaml), (".json", json)]

end SchemaFormat

/-- The ending of a file name, from its last point on. Points at the start of the name begin no
ending. -/
def extension (path : String) : String :=
  let name := ((parts '/' path.toList).getLast?.getD []).dropWhile (· == '.')
  match parts '.' name with
  | [] | [_] => ""
  | _ :: rest => String.ofList ('.' :: rest.getLast?.getD [])

/-- The format that the ending of a file name tells, in upper or lower case. -/
def SchemaFormat.ofPath? (path : String) : Option SchemaFormat :=
  extensions.lookup (String.ofList ((extension path).toList.flatMap toLower))

namespace Schema

/-- The failure of a schema text. A text that is no document of its format is refused; a fault in the
value of a scalar stays a fault. -/
def refusal : Fault → Failure
  | .invalidJson e => .derivation (.invalidJson e)
  | .invalidYaml => .derivation .invalidYaml
  | e => .fault e

/-- The value of a text in a document format. -/
def document (format : SchemaFormat) (text : String) : Except Failure Value :=
  match format with
  | .json => (Json.read text).mapError fun e => refusal e.toFault
  | .yaml => (Yaml.read text).mapError refusal

/-- **The schema of a text** in the format of a name. -/
def ofText (text : String) (format : String := "yaml") : Outcome Schema := do
  if isAllBlank text.toList then Outcome.refuse .schemaEmpty
  else match SchemaFormat.ofWord? format with
    | none => Outcome.refuse (.unsupportedFormat format)
    | some f => do
      let v ← Outcome.ofExcept (document f text)
      ofValue v

/-- The text of the bytes of a file, with all line ends as line feeds. -/
def decode (path : String) (bytes : List UInt8) : Except DerivationError String :=
  match decodeUtf8 bytes with
  | .ok cs => .ok (String.ofList (newlines cs))
  | .error e => .error (.notUtf8 path e.message)

/-- The text of a file that was looked for at a path. -/
def content (path : String) : Except PathError (List UInt8) → Except Failure String
  | .ok bytes => (decode path bytes).mapError Failure.derivation
  | .error .missing => .error (.missingFile path)
  | .error e => .error (.derivation (.unreadable path e.message))

/-- The name of the format of a file: the one that is given, or the one that its path tells. -/
def formatOf (path : String) : Option String → Except DerivationError String
  | some format => .ok format
  | none =>
    match SchemaFormat.ofPath? path with
    | some f => .ok f.word
    | none => .error (.unknownExtension path)

/-- **The schema of a file**, where `read` gives the bytes of the file at a path. -/
def ofFile (read : String → Except PathError (List UInt8)) (path : String)
    (format : Option String) : Outcome Schema := do
  let format ← Outcome.ofExcept ((formatOf path format).mapError Failure.derivation)
  Outcome.ofExcept (checkPath path)
  let text ← Outcome.ofExcept (content path (read path))
  ofText text format

end Schema

end RecordFamily
