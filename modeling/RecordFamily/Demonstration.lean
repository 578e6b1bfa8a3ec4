import RecordFamily.Derivation
import RecordFamily.Emit.Save
import RecordFamily.Sample

/-!
# A demonstration

The family of the sample article in every form: what is printed about it, and the files that are
written.

* `Demonstration`: a printed text and files;
* **`demonstration`**: the demonstration itself.
-/

namespace RecordFamily

/-- A printed text, and the files that were written. -/
structure Demonstration where
  out : String
  files : FileTree
  deriving DecidableEq, Repr

namespace Demonstration

/-- A line of 80 times the same character. -/
def rule (c : Char) : String := String.ofList (List.replicate 80 c)

/-- The lines in front of the source. -/
def opening (F : Family) : List String := [
  rule '=',
  "RECORD FAMILY DEMO",
  rule '=',
  "",
  s!"Variants: {quotedList (F.variants.map VariantOf.name)}",
  s!"Interfaces: {quotedList (F.interfaces.map InterfaceOf.name)}",
  s!"Conversions: {F.conversions.length}",
  "",
  "GENERATED MODULE:",
  rule '-']

/-- The lines at the end. -/
def closing : List String := [
  "",
  rule '=',
  "To visualize the conversion graph:",
  "  dot -Tpng article_simple.dot -o article_simple.png",
  "  dot -Tpng article_detailed.dot -o article_detailed.png",
  rule '=']

/-- The line that tells of a file. -/
def savedLine (name : String) : String := s!"Saved to: {name}"

/-- The name of the file of a graph. -/
def graphFile (mode : GraphMode) : String := s!"article_{mode.word}.dot"

/-- The name of the file of the source. -/
def sourceFile : String := "article_records.py"

/-- The modes of the graphs. -/
def graphModes : List GraphMode := [.simple, .detailed]

/-- The demonstration of a family. -/
def ofFamily (F : Family) : Except Failure Demonstration := do
  let source ← (F.source .full).mapError Failure.fault
  let files ← F.saveSource .full sourceFile ⟨[]⟩
  let files ← graphModes.foldlM (fun t mode => F.saveGraph mode (graphFile mode) t) files
  let saved := (sourceFile :: graphModes.map graphFile).map savedLine
  return ⟨String.join ((opening F ++ [source] ++ saved ++ closing).map (· ++ "\n")), files⟩

end Demonstration

/-- **The demonstration.** -/
def demonstration : Outcome Demonstration := do
  let F ← sampleArticle.derive {}
  Outcome.ofExcept (Demonstration.ofFamily F)

end RecordFamily
