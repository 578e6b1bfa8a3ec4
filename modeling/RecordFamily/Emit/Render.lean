import RecordFamily.Dictionary.Write
import RecordFamily.Emit.ClassText
import RecordFamily.Emit.Graph
import RecordFamily.Json.Writer
import RecordFamily.Text.Quoted
import RecordFamily.Yaml.Writer

/-!
# Output formats

* `OutputFormat`, `OutputFormat.word`: the formats, and their names;
* `ClassMode.ofWord`, `GraphMode.ofWord`: the modes of two of them by their names;
* `FamilyOf.json`, `FamilyOf.yaml`, `RecordOf.yaml`: the dictionary form in a document format;
* **`FamilyOf.render`**: a family in a format.
-/

namespace RecordFamily

open Text

/-- The formats in which a family is put out. -/
inductive OutputFormat where
  | classes
  | records
  | json
  | yaml
  | graph
  | detailedGraph
  deriving DecidableEq, Repr

/-- The name of a format. -/
def OutputFormat.word : OutputFormat → String
  | classes => "python"
  | records => "records"
  | json => "json"
  | yaml => "yaml"
  | graph => "dot"
  | detailedGraph => "dot-detailed"

/-- All formats. -/
def OutputFormat.all : List OutputFormat := [classes, records, json, yaml, graph, detailedGraph]

/-- The format of a name. -/
def OutputFormat.ofWord? (word : String) : Option OutputFormat := all.find? fun f => f.word == word

/-! ## Modes by their names -/

/-- The name of a mode. -/
def ClassMode.word : ClassMode → String
  | full => "full"
  | records => "records"

/-- The mode of a name. -/
def ClassMode.ofWord (word : String) : Except Fault ClassMode :=
  match [full, records].find? fun m => m.word == word with
  | some mode => .ok mode
  | none =>
    let shown := quoted word
    .error (.badValue s!"{shown} is not a valid PythonMode")

/-- The name of a mode. -/
def GraphMode.word : GraphMode → String
  | simple => "simple"
  | detailed => "detailed"

/-- The mode of a name. -/
def GraphMode.ofWord (word : String) : Except Fault GraphMode :=
  match [simple, detailed].find? fun m => m.word == word with
  | some mode => .ok mode
  | none =>
    let shown := quoted word
    .error (.badValue s!"{shown} is not a valid DotMode")

/-! ## Records and families -/

variable {τ φ : Type} [BEq τ] [Slot τ] [Mark φ]

/-- A record as a YAML document. -/
def RecordOf.yaml (r : RecordOf τ) : String := Yaml.write r.toValue

namespace FamilyOf

/-- A family as a JSON document, which holds no dates. -/
def json (F : FamilyOf τ φ) : Except Fault String :=
  match Json.write .indented F.toValue with
  | some s => .ok s
  | none => .error .wrongShape

/-- A family as a YAML document. -/
def yaml (F : FamilyOf τ φ) : String := Yaml.write F.toValue

/-- A family as the source of a module of classes. -/
def source (F : FamilyOf τ φ) (mode : ClassMode) : Except Fault String :=
  (F.classModule mode).map ClassModule.text

/-- A family as the text of a graph. -/
def graphText (F : FamilyOf τ φ) (mode : GraphMode) : Except Fault String :=
  (F.graph mode).map Graph.text

/-- **A family in an output format.** -/
def render (F : FamilyOf τ φ) : OutputFormat → Except Fault String
  | .classes => F.source .full
  | .records => F.source .records
  | .json => F.json.map (· ++ "\n")
  | .yaml => .ok F.yaml
  | .graph => (F.graphText .simple).map (· ++ "\n")
  | .detailedGraph => (F.graphText .detailed).map (· ++ "\n")

/-- A family in the output format of a name. -/
def renderAs (F : FamilyOf τ φ) (word : String) : Except Fault String :=
  match OutputFormat.ofWord? word with
  | some format => F.render format
  | none => .error (.badValue s!"Unknown output format: {word}")

end FamilyOf

end RecordFamily
