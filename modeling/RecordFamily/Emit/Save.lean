import RecordFamily.Emit.Render
import RecordFamily.FileTree

/-!
# Saved families

* `FileTree.save`: the tree after a text was written to a file;
* **`FamilyOf.saveSource`**, **`FamilyOf.saveGraph`**: the tree after a family was written as a
  module of classes or as a graph.
-/

namespace RecordFamily

/-- The tree after a text was written to a file. -/
def FileTree.save (t : FileTree) (path text : String) : Except Failure FileTree := do
  checkPath path
  (t.write path text.toUTF8.toList).mapError (Failure.unwritable path)

namespace FamilyOf

variable {τ φ : Type} [BEq τ] [Slot τ] [Mark φ]

/-- The tree after the family was written as a module of classes. -/
def saveSource (F : FamilyOf τ φ) (mode : ClassMode) (path : String) (t : FileTree) :
    Except Failure FileTree := do
  t.save path (← (F.source mode).mapError Failure.fault)

/-- The tree after the family was written as a graph. -/
def saveGraph (F : FamilyOf τ φ) (mode : GraphMode) (path : String) (t : FileTree) :
    Except Failure FileTree := do
  t.save path (← (F.graphText mode).mapError Failure.fault)

end FamilyOf

end RecordFamily
