import RecordFamily.Record

/-!
# Sample records

* `samplePerson`: a person and a summary without the age;
* `sampleArticle`: an article, a draft that lacks what publication adds, and a card with the parts
  that are shown.
-/

namespace RecordFamily

/-- A field with annotations. -/
def sampleField (name type : String) (annotations : List String) : Field :=
  ⟨name, type, annotations, false, []⟩

/-- A person; `ageDefault` tells whether the age has a fallback. -/
def samplePerson (ageDefault : Bool) : Record where
  name := "Person"
  fields := [
    sampleField "name" "str" [],
    sampleField "age" "int" ("only_in_self" :: if ageDefault then ["default"] else [])]
  annotations := []
  variants := ["PersonSummary"]
  docstring := none
  imports := []

/-- An article. -/
def sampleArticle : Record where
  name := "Article"
  fields := [
    sampleField "title" "str" [],
    sampleField "body" "str" ["not_in(\"ArticleCard\")"],
    sampleField "tags" "List[str]" ["default"],
    sampleField "published_at" "datetime" ["not_in(\"Draft\")"],
    sampleField "revision" "int" ["only_in(\"Article\", \"Draft\")", "default"]]
  annotations := ["attr_for(\"ArticleCard\", \"@dataclass(frozen=True)\")"]
  variants := ["Draft", "ArticleCard"]
  docstring := some "A published article."
  imports := ["from datetime import datetime"]

end RecordFamily
