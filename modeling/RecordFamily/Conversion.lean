import RecordFamily.Demand
import RecordFamily.Family
import RecordFamily.Outcome

/-!
# Edges and conversions

For each ordered pair of variants, what the target has and the source lacks, and the conversions
that follow from it.

* `missingFields`, `commonFields`: the fields of one variant that another lacks, or has too;
* `EdgeOf.between`: the difference of a pair;
* `EdgeOf.fromConversion`, `EdgeOf.intoConversion`, `EdgeOf.intoDefaultsConversion`: the three
  conversions of a pair;
* **`EdgeOf.conversions`**: those that the pair has: the first when no missing field lacks a fallback,
  the other two when any field is missing;
* `orderedPairs`, `synthesize`: the edges and the conversions of all pairs.
-/

namespace RecordFamily

variable {τ φ : Type} [BEq τ] [Slot τ]

/-- The fields of `a` that `b` lacks, in the order of `a`. -/
def missingFields (a b : VariantOf τ φ) : List (FieldOf τ) :=
  a.fields.filter fun f => !b.hasField f.name

/-- The fields of `a` that `b` has too, in the order of `a`. -/
def commonFields (a b : VariantOf τ φ) : List (FieldOf τ) :=
  a.fields.filter fun f => b.hasField f.name

namespace EdgeOf

/-- The difference between a source and a target. -/
def between (source target : VariantOf τ φ) : EdgeOf τ :=
  let missing := missingFields target source
  { source := source.name
    target := target.name
    missing := missing.map FieldOf.name
    missingWithDefault := (missing.filter FieldOf.default).map FieldOf.name
    missingWithoutDefault := (missing.filter fun f => !f.default).map FieldOf.name
    common := (commonFields target source).map FieldOf.name }

/-- The conversion without arguments. -/
def fromConversion (e : EdgeOf τ) : ConversionOf τ where
  kind := .fromSource
  source := e.source
  target := e.target
  name := Slot.rename fromName e.source
  owner := e.target
  arguments := []
  copied := e.common
  defaulted := e.missingWithDefault
  assigned := []

/-- The conversion with an argument for each missing field. -/
def intoConversion (e : EdgeOf τ) (arguments : List (FieldOf τ)) : ConversionOf τ where
  kind := .intoTarget
  source := e.source
  target := e.target
  name := Slot.rename intoName e.target
  owner := e.source
  arguments := arguments
  copied := e.common
  defaulted := []
  assigned := e.missing

/-- The conversion with an argument for each missing field that has no fallback. -/
def intoDefaultsConversion (e : EdgeOf τ) (arguments : List (FieldOf τ)) : ConversionOf τ where
  kind := .intoDefaults
  source := e.source
  target := e.target
  name := Slot.rename intoDefaultsName e.target
  owner := e.source
  arguments := arguments
  copied := e.common
  defaulted := e.missingWithDefault
  assigned := e.missingWithoutDefault

/-- The field of a name, the last one where several have it. -/
def argument (fields : List (FieldOf τ)) (name : τ) : Except Fault (FieldOf τ) := do
  requireKeys [name]
  match fields.reverse.find? fun f => f.name == name with
  | some f => return f
  | none => throw (.missingKey (Slot.toValue name).described)

/-- The conversions that take arguments, when any field is missing. -/
def parameterized (e : EdgeOf τ) (fields : List (FieldOf τ)) :
    Except Fault (List (ConversionOf τ)) :=
  if e.missing.isEmpty then .ok []
  else do
    let all ← e.missing.mapM (argument fields)
    let required ← e.missingWithoutDefault.mapM (argument fields)
    return [e.intoConversion all, e.intoDefaultsConversion required]

/-- The conversion without arguments, when there is one. -/
def direct (e : EdgeOf τ) : Except Fault (List (ConversionOf τ)) :=
  if e.isTotal then do
    requireLetters e.source
    return [e.fromConversion]
  else .ok []

/-- **The conversions of an edge** to the target with the given fields. -/
def conversions (e : EdgeOf τ) (fields : List (FieldOf τ)) :
    Except Fault (List (ConversionOf τ)) := do
  requireKeys (fields.map FieldOf.name)
  let direct ← e.direct
  let withArguments ← e.parameterized fields
  return direct ++ withArguments

end EdgeOf

/-- The ordered pairs of variants with different names, the source changing last. -/
def orderedPairs (variants : List (VariantOf τ φ)) : List (VariantOf τ φ × VariantOf τ φ) :=
  variants.flatMap fun source =>
    (variants.filter fun target => !(source.name == target.name)).map fun target =>
      (source, target)

/-- The edges of all pairs. -/
def edgesOf (variants : List (VariantOf τ φ)) : List (EdgeOf τ) :=
  (orderedPairs variants).map fun p => .between p.1 p.2

/-- The conversions from a source to a target. -/
def conversionsBetween (source target : VariantOf τ φ) : Except Fault (List (ConversionOf τ)) := do
  requireKeys source.fieldNames
  (EdgeOf.between source target).conversions target.fields

/-- The conversions of all pairs. -/
def conversionsOf (variants : List (VariantOf τ φ)) : Except Fault (List (ConversionOf τ)) :=
  ((orderedPairs variants).mapM fun p => conversionsBetween p.1 p.2).map List.flatten

/-- **The edges and the conversions of all pairs**, with a trace of their numbers. -/
def synthesize (variants : List (VariantOf τ φ)) :
    Outcome (List (EdgeOf τ) × List (ConversionOf τ)) := do
  let conversions ← Outcome.ofExcept ((conversionsOf variants).mapError Failure.fault)
  let edges := edgesOf variants
  Outcome.trace (.synthesized conversions.length edges.length)
  return (edges, conversions)

end RecordFamily
