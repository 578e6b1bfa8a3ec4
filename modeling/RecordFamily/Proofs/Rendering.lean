import RecordFamily.Emit.Render
import RecordFamily.Proofs.Completeness
import RecordFamily.Proofs.Json

/-!
# Families that can be put out

What the output formats look up in a family is there, when the family is a derived one.

* `FamilyOf.Resolves`: targets and fallbacks of conversions that are there, and names that are not
  empty;
* `Derives.resolves`: a derived family is one such;
* **`FamilyOf.Resolves.succeeds_render`**: such a family has a text in every format.
-/

namespace RecordFamily

/-- **What is looked up in the family is there.** -/
structure FamilyOf.Resolves (F : Family) : Prop where
  target : ∀ c ∈ F.conversions, ∃ T, F.variant? c.target = some T
  fallback : ∀ c ∈ F.conversions, ∀ name ∈ c.defaulted, ∃ e, F.fallbacks.lookup name = some e
  canonical : F.canonical ≠ ""
  names : ∀ v ∈ F.variants, v.name ≠ ""
  ends : ∀ e ∈ F.edges, e.source ≠ "" ∧ e.target ≠ ""

/-! ## Derived families -/

theorem ne_empty_of_isNamed {name : String} (h : isNamed name = true) : name ≠ "" := by
  rintro rfl
  exact absurd h (by decide)

namespace Derives

variable {r : Record} {o : Options} {R : Registry String} {ss : List (Share String)} {F : Family}

theorem name_ne_empty (h : Derives r o R ss F) {V : Variant} (hV : V ∈ F.variants) : V.name ≠ "" :=
  ne_empty_of_isNamed (h.isValidName hV)

/-- **What is looked up in a derived family is there.** -/
theorem resolves (h : Derives r o R ss F) : F.Resolves where
  target := by
    intro c hc
    obtain ⟨_, _, T, hT, _, _, _, rfl⟩ := h.mem_conversions.mp hc
    exact ⟨T, h.variant?_eq hT⟩
  fallback := by
    intro c hc name hn
    obtain ⟨S, _, T, hT, _, k, hk, rfl⟩ := h.mem_conversions.mp hc
    have hcompletes := conversion_completes_of_serves (h.fieldNames_nodup hT) hk
    obtain ⟨f, hf, rfl, hd⟩ := hcompletes.default name hn
    exact exists_lookup (h.mem_fallbacks hT hf hd)
  canonical := by
    rw [h.canonical]
    exact ne_empty_of_isNamed (registry_ok.mp h.registry).1
  names := fun V hV => h.name_ne_empty hV
  ends := by
    intro e he
    obtain ⟨S, hS, T, hT, _, rfl⟩ := h.mem_edges.mp he
    exact ⟨h.name_ne_empty hS, h.name_ne_empty hT⟩

end Derives

/-! ## Class modules -/

section ClassModule

variable {F : Family} {mode : ClassMode}

theorem decoratorOf_string (d : String) : decoratorOf d = .ok (decorator d) := rfl

theorem mapM_textOr (fault : Fault) (xs : List String) : xs.mapM (textOr fault) = .ok xs := by
  rw [mapM_ok (f := textOr fault) (g := id) fun _ _ => rfl, List.map_id]

theorem succeeds_anyQualified (ds : List String) : Succeeds (anyQualified ds) := by
  induction ds with
  | nil => exact .ok false
  | cons d ds ih =>
    rw [anyQualified, decoratorOf_string]
    refine Succeeds.bind (.ok _) fun text _ => ?_
    split_ifs
    · exact .ok true
    · exact ih

theorem succeeds_annotatedType (f : Field) : Succeeds (annotatedType f) := by
  rw [annotatedType, mapM_textOr]
  split_ifs
  · exact .ok _
  · exact .ok _

theorem succeeds_fieldMembers (v : Variant) : Succeeds (fieldMembers v) := by
  unfold fieldMembers
  split_ifs
  · exact .ok _
  · exact (Succeeds.mapM fun f _ => (succeeds_annotatedType f).bind fun _ _ => .ok _).bind
      fun _ _ => .ok _

theorem succeeds_docstringMembers (v : Variant) : Succeeds (docstringMembers F v) := by
  unfold docstringMembers
  split
  · split_ifs
    · exact .ok _
    · exact .ok _
  · exact .ok _

theorem succeeds_origin {c : Conversion} {fallbacks : List (String × String)} {name : String}
    (h : name ∈ c.defaulted → ∃ e, fallbacks.lookup name = some e) :
    Succeeds (c.origin fallbacks name) := by
  unfold ConversionOf.origin
  split_ifs with hc hd
  · exact .ok _
  · obtain ⟨e, he⟩ := h (List.contains_iff_mem.mp hd)
    rw [he]
    exact .ok _
  · exact .ok _

/-- The method of a conversion whose target and fallbacks are there. -/
theorem FamilyOf.Resolves.succeeds_method (h : F.Resolves) {c : Conversion}
    (hc : c ∈ F.conversions) : Succeeds (c.method F) := by
  obtain ⟨T, hT⟩ := h.target c hc
  unfold ConversionOf.method
  rw [hT]
  have harguments : Succeeds (c.keywordArguments F.fallbacks T) := by
    rw [ConversionOf.keywordArguments, requireKeys_string]
    exact .bind (.ok _) fun _ _ => .mapM fun f _ =>
      (succeeds_origin (h.fallback c hc f.name)).bind fun _ _ => .ok _
  exact harguments.bind fun _ _ => .ok _

theorem FamilyOf.Resolves.succeeds_classBody (h : F.Resolves) (v : Variant) :
    Succeeds (classBody F mode v) := by
  have hconversions : Succeeds (conversionMembers F mode v) := by
    cases mode with
    | records => exact .ok _
    | full => exact .mapM fun c hc => (h.succeeds_method (List.mem_of_mem_filter hc)).map _
  have hdocstring : Succeeds (docstringMembers F v) := succeeds_docstringMembers v
  unfold classBody
  exact hdocstring.bind fun _ _ => (succeeds_fieldMembers v).bind fun _ _ =>
    hconversions.bind fun _ _ => .ok _

theorem FamilyOf.Resolves.succeeds_classModule (h : F.Resolves) : Succeeds (F.classModule mode) := by
  have hrecord : ∀ v ∈ F.variants, Succeeds (v.recordClass F mode) := by
    intro v _
    have hdecorators : Succeeds (v.decorations.mapM decoratorOf) :=
      .mapM fun d _ => .ok (decorator d)
    have hbody : Succeeds (classBody F mode v) := h.succeeds_classBody v
    rw [VariantOf.recordClass, requireKeys_string, mapM_textOr]
    refine hdecorators.bind fun _ _ => .bind (.ok ()) fun _ _ => .bind (.ok _) fun _ _ => ?_
    exact hbody.bind fun _ _ => .ok _
  have hrecords : Succeeds (F.variants.mapM (VariantOf.recordClass F mode)) := .mapM hrecord
  rw [FamilyOf.classModule, mapM_textOr]
  refine (succeeds_anyQualified _).bind fun _ _ => hrecords.bind fun _ _ => ?_
  exact .bind (.ok F.imports) fun _ _ => .ok _

end ClassModule

/-! ## Graphs -/

section Graph

variable {F : Family} {mode : GraphMode}

theorem succeeds_slotId {name : String} (h : name ≠ "") : Succeeds (slotId name) := by
  change Succeeds (graphId name)
  unfold graphId
  rw [if_neg (by simpa using h)]
  split_ifs
  · exact .ok _
  · exact .ok _

theorem succeeds_node {v : Variant} (h : v.name ≠ "") : Succeeds (v.node mode) := by
  have hlabel : Succeeds (nodeLabel mode v) := by
    cases mode
    · exact .ok _
    · exact .ok _
  exact (succeeds_slotId h).bind fun _ _ => hlabel.bind fun _ _ => .ok _

theorem succeeds_shownLabel (e : Edge) : Succeeds (e.shownLabel mode) := by
  cases mode with
  | simple => exact .ok _
  | detailed =>
    refine Succeeds.map ?_ _
    rw [EdgeOf.label, mapM_textOr]
    split_ifs
    · exact .ok _
    · exact .ok _

theorem FamilyOf.Resolves.succeeds_graph (h : F.Resolves) : Succeeds (F.graph mode) := by
  have hedge : ∀ e ∈ F.edges, Succeeds (e.graphEdge mode) := by
    intro e he
    obtain ⟨hs, ht⟩ := h.ends e he
    refine (succeeds_slotId hs).bind fun _ _ => (succeeds_slotId ht).bind fun _ _ => ?_
    exact (succeeds_shownLabel e).bind fun _ _ => .ok _
  have hnodes : Succeeds (F.variants.mapM (VariantOf.node mode)) :=
    .mapM fun v hv => succeeds_node (h.names v hv)
  have hedges : Succeeds (F.edges.mapM (EdgeOf.graphEdge mode)) := .mapM hedge
  unfold FamilyOf.graph
  refine (succeeds_slotId h.canonical).bind fun _ _ => hnodes.bind fun _ _ => ?_
  exact hedges.bind fun _ _ => .ok _

end Graph

/-! ## All formats -/

theorem succeeds_json (F : Family) : Succeeds F.json := by
  obtain ⟨s, hs⟩ := Json.exists_write .indented F.isJson_toValue
  rw [FamilyOf.json, hs]
  exact .ok s

/-- **A family in which all is there has a text in every format.** -/
theorem FamilyOf.Resolves.succeeds_render {F : Family} (h : F.Resolves) (format : OutputFormat) :
    Succeeds (F.render format) := by
  cases format with
  | classes => exact h.succeeds_classModule.map _
  | records => exact h.succeeds_classModule.map _
  | json => exact (succeeds_json F).map _
  | yaml => exact .ok _
  | graph => exact (h.succeeds_graph.map _).map _
  | detailedGraph => exact (h.succeeds_graph.map _).map _

end RecordFamily
