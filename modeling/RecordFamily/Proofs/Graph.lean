import RecordFamily.Proofs.Escaping
import RecordFamily.Proofs.Existence
import RecordFamily.Proofs.Naming
import RecordFamily.Proofs.Rendering

/-!
# The graph of a family, line by line

The graph of a family is a text of statements, each of which is one line: a variant, or an ordered pair
of variants. Types may hold any characters, line feeds and quotation marks included, and no statement is
broken by them.

* `writtenId`, `VariantOf.drawn`, `EdgeOf.drawn`: a name as it is written, and the parts of the graph of
  a family;
* **`Derives.graph_eq`**: the graph of a derived family;
* `Graph.splitOn_text`: a graph whose statements hold no line feed has one line for each;
* `GraphNode.IsOf`, `GraphEdge.IsOf`, `Graph.Mirrors`: statements of variants and of pairs, and a graph
  with one for each of them;
* **`graph_mirrors`**: the graph of every derived family is one such.
-/

namespace RecordFamily

open Text List

/-! ## Names -/

/-- A name as it is written in a graph. -/
def writtenId (name : String) : String :=
  if isBareId name.toList then name else "\"" ++ name ++ "\""

theorem graphId_eq {name : String} (h : name ≠ "") : graphId name = .ok (writtenId name) := by
  rw [graphId, if_neg (by simpa using h), writtenId]
  split_ifs
  · rfl
  · rfl

theorem toList_quoted (name : String) : ("\"" ++ name ++ "\"").toList =
    quotationMark :: name.toList ++ [quotationMark] := by
  rw [String.toList_append, String.toList_append]
  rfl

theorem lineFeed_notMem_marked {inside : List Char} (h : '\n' ∉ inside) :
    '\n' ∉ quotationMark :: inside ++ [quotationMark] := by
  have hmark : '\n' ≠ quotationMark := by decide
  rw [List.mem_append, List.mem_cons, List.mem_singleton]
  rintro ((he | hin) | he)
  · exact hmark he
  · exact h hin
  · exact hmark he

theorem lineFeed_notMem_writtenId {name : String} (h : isValidName name = true) :
    '\n' ∉ (writtenId name).toList := by
  have hname : '\n' ∉ name.toList := notMem_of_isValidName h (by decide)
  rw [writtenId]
  split_ifs
  · exact hname
  · rw [toList_quoted]
    exact lineFeed_notMem_marked hname

/-! ## Labels of edges -/

theorem length_shortened (label : String) : (shortened label).length ≤ labelBound := by
  unfold shortened
  have hbound : labelBound = 40 := rfl
  dsimp only
  split_ifs with h
  · rw [String.length_ofList, List.length_append, List.length_take]
    simp only [List.length_cons, List.length_nil]
    omega
  · exact Nat.le_of_not_lt h

theorem shortened_ne_empty {label : String} (h : label ≠ "") : shortened label ≠ "" := by
  unfold shortened
  dsimp only
  split_ifs
  · intro he
    have hlist := congrArg String.toList he
    rw [String.toList_ofList] at hlist
    exact absurd (List.append_eq_nil_iff.mp hlist).2 (List.cons_ne_nil _ _)
  · exact h

/-- What an edge asks for, in words. -/
def EdgeOf.asked (e : Edge) : String :=
  shortened (", ".intercalate
    (e.missingWithoutDefault ++ e.missingWithDefault.map fun name => "[" ++ name ++ "]"))

/-- The label that an edge shows. -/
def EdgeOf.caption (mode : GraphMode) (e : Edge) : Option String :=
  match mode with
  | .simple => none
  | .detailed => if e.missing = [] then none else some e.asked

theorem shownLabel_eq {e : Edge} (h : e.missing ≠ [] → e.asked ≠ "") (mode : GraphMode) :
    e.shownLabel mode = .ok (e.caption mode) := by
  cases mode with
  | simple => rfl
  | detailed =>
    rw [EdgeOf.shownLabel, EdgeOf.label, mapM_textOr, EdgeOf.caption]
    by_cases hmissing : e.missing = []
    · rw [if_pos hmissing, if_pos (List.isEmpty_iff.mpr hmissing)]
      rfl
    · have hlabel : e.asked.isEmpty = false := by simpa using h hmissing
      rw [if_neg hmissing, if_neg (by rwa [List.isEmpty_iff])]
      change Except.ok (if e.asked.isEmpty = true then none else some e.asked) = _
      rw [hlabel]
      rfl

theorem isSome_caption {mode : GraphMode} {e : Edge} :
    (e.caption mode).isSome = true ↔ mode = .detailed ∧ e.missing ≠ [] := by
  cases mode with
  | simple => simp [EdgeOf.caption]
  | detailed => by_cases h : e.missing = [] <;> simp [EdgeOf.caption, h]

theorem length_caption {mode : GraphMode} {e : Edge} : ∀ l ∈ e.caption mode, l.length ≤ labelBound := by
  intro l hl
  cases mode with
  | simple => cases hl
  | detailed =>
    rw [EdgeOf.caption] at hl
    split_ifs at hl
    · cases hl
    · cases hl
      exact length_shortened _

theorem intercalate_ne_empty {sep x : String} {xs : List String} (hx : x ∈ xs) (h : x ≠ "") :
    sep.intercalate xs ≠ "" := by
  intro he
  have hlist := congrArg String.toList he
  rw [String.toList_intercalate] at hlist
  cases xs with
  | nil => cases hx
  | cons y ys =>
    rw [List.map_cons, intercalate_cons] at hlist
    obtain ⟨hhead, htail⟩ := List.append_eq_nil_iff.mp hlist
    rcases List.mem_cons.mp hx with rfl | hx
    · exact h (String.toList_inj.mp hhead)
    · have hpart := List.flatMap_eq_nil_iff.mp htail x.toList (List.mem_map_of_mem hx)
      exact h (String.toList_inj.mp (List.append_eq_nil_iff.mp hpart).2)

section Asked

variable {S T : Variant}

theorem missing_between : (EdgeOf.between S T).missing ≠ [] ↔
    ∃ f ∈ T.fields, f.name ∉ S.fieldNames := by
  change (missingFields T S).map FieldOf.name ≠ [] ↔ _
  rw [ne_eq, List.map_eq_nil_iff, ← List.isEmpty_iff, Bool.not_eq_true,
    List.isEmpty_eq_false_iff_exists_mem]
  simp only [mem_missingFields]

theorem asked_ne_empty (hT : ∀ f ∈ T.fields, f.name ≠ "")
    (h : (EdgeOf.between S T).missing ≠ []) : (EdgeOf.between S T).asked ≠ "" := by
  obtain ⟨f, hf, hmissing⟩ := missing_between.mp h
  have hmem : f ∈ missingFields T S := mem_missingFields.mpr ⟨hf, hmissing⟩
  refine shortened_ne_empty ?_
  cases hdefault : f.default with
  | false =>
    refine intercalate_ne_empty (List.mem_append_left _ ?_) (hT f hf)
    exact List.mem_map_of_mem (List.mem_filter.mpr ⟨hmem, by rw [hdefault]; rfl⟩)
  | true =>
    refine intercalate_ne_empty (List.mem_append_right _ (List.mem_map_of_mem
      (List.mem_map_of_mem (List.mem_filter.mpr ⟨hmem, hdefault⟩)))) ?_
    simp

end Asked

/-! ## Lines -/

theorem notMem_intercalate {sep : List Char} {xs : List (List Char)} {c : Char} (hsep : c ∉ sep)
    (hxs : ∀ x ∈ xs, c ∉ x) : c ∉ sep.intercalate xs := by
  cases xs with
  | nil => exact List.not_mem_nil
  | cons x xs =>
    rw [intercalate_cons, List.mem_append, List.mem_flatMap]
    rintro (hx | ⟨y, hy, hc⟩)
    · exact hxs x List.mem_cons_self hx
    · rcases List.mem_append.mp hc with hc | hc
      · exact hsep hc
      · exact hxs y (List.mem_cons_of_mem _ hy) hc

theorem lineFeed_notMem_graphString (s : String) : '\n' ∉ (graphString s).toList := by
  rw [toList_graphString]
  exact lineFeed_notMem_marked (lineFeed_notMem_write _)

theorem GraphNode.line_eq (n : GraphNode) : n.line = "  " ++ n.id ++ " [label=" ++
    graphString n.label ++ (if n.highlighted then ", fillcolor=lightgreen" else "") ++ "];" := rfl

theorem GraphEdge.line_eq (e : GraphEdge) : e.line = "  " ++ e.source ++ " -> " ++ e.target ++
    (if e.attributes.isEmpty then "" else " [" ++ ", ".intercalate e.attributes ++ "]") ++ ";" := rfl

theorem GraphEdge.mem_attributes {e : GraphEdge} {a : String} : a ∈ e.attributes ↔
    e.dashed = true ∧ a = "style=dashed" ∨ ∃ l, e.label = some l ∧ a = "label=" ++ graphString l := by
  have hlabel : (e.label.map fun l => s!"label={graphString l}") =
      e.label.map fun l => "label=" ++ graphString l := rfl
  rw [GraphEdge.attributes, hlabel, List.mem_append, Option.mem_toList, Option.map_eq_some_iff]
  simp only [eq_comm, List.mem_ite_nil_right, List.mem_singleton]

theorem dashed_ne_label (l : String) : "style=dashed" ≠ "label=" ++ graphString l := by
  intro he
  have hhead := congrArg (fun s : String => s.toList.head?) he
  simp at hhead

theorem dashed_mem_attributes {e : GraphEdge} :
    "style=dashed" ∈ e.attributes ↔ e.dashed = true := by
  rw [GraphEdge.mem_attributes]
  refine ⟨?_, fun h => .inl ⟨h, rfl⟩⟩
  rintro (⟨h, _⟩ | ⟨l, _, he⟩)
  · exact h
  · exact absurd he (dashed_ne_label l)

theorem label_mem_attributes {e : GraphEdge} {l : String} :
    "label=" ++ graphString l ∈ e.attributes ↔ e.label = some l := by
  rw [GraphEdge.mem_attributes]
  refine ⟨?_, fun h => .inr ⟨l, h, rfl⟩⟩
  rintro (⟨_, he⟩ | ⟨l', hl, he⟩)
  · exact absurd he.symm (dashed_ne_label l)
  · have hlists := congrArg String.toList he
    rw [String.toList_append, String.toList_append] at hlists
    rw [hl, graphString_injective (String.toList_inj.mp (List.append_cancel_left hlists))]

theorem GraphNode.lineFeed_notMem_line {n : GraphNode} (h : '\n' ∉ n.id.toList) :
    '\n' ∉ n.line.toList := by
  rw [GraphNode.line_eq]
  simp only [String.toList_append, List.mem_append, not_or]
  refine ⟨⟨⟨⟨⟨by decide, h⟩, by decide⟩, lineFeed_notMem_graphString _⟩, ?_⟩, by decide⟩
  split_ifs
  · decide
  · decide

theorem GraphEdge.lineFeed_notMem_line {e : GraphEdge} (hsource : '\n' ∉ e.source.toList)
    (htarget : '\n' ∉ e.target.toList) : '\n' ∉ e.line.toList := by
  rw [GraphEdge.line_eq]
  simp only [String.toList_append, List.mem_append, not_or]
  refine ⟨⟨⟨⟨⟨by decide, hsource⟩, by decide⟩, htarget⟩, ?_⟩, by decide⟩
  split_ifs
  · decide
  · simp only [String.toList_append, List.mem_append, not_or, String.toList_intercalate]
    refine ⟨⟨by decide, notMem_intercalate (by decide) fun x hx => ?_⟩, by decide⟩
    obtain ⟨a, ha, rfl⟩ := List.mem_map.mp hx
    rcases GraphEdge.mem_attributes.mp ha with ⟨_, rfl⟩ | ⟨l, _, rfl⟩
    · decide
    · rw [String.toList_append, List.mem_append, not_or]
      exact ⟨by decide, lineFeed_notMem_graphString l⟩

theorem Graph.lines_eq (g : Graph) : g.lines = ["digraph " ++ g.id ++ " \x7b", "  rankdir=LR;",
    "  node [shape=box, style=filled, fillcolor=lightblue];"] ++
    g.nodes.map GraphNode.line ++ g.edges.map GraphEdge.line ++ ["\x7d"] := rfl

section Lines

variable {g : Graph}

theorem Graph.lineFeed_notMem_lines (hid : '\n' ∉ g.id.toList)
    (hnodes : ∀ n ∈ g.nodes, '\n' ∉ n.id.toList)
    (hedges : ∀ e ∈ g.edges, '\n' ∉ e.source.toList ∧ '\n' ∉ e.target.toList) :
    ∀ line ∈ g.lines, '\n' ∉ line.toList := by
  intro line hline
  rw [Graph.lines_eq] at hline
  simp only [List.mem_append, List.mem_cons, List.not_mem_nil, or_false] at hline
  obtain (((rfl | rfl | rfl) | hline) | hline) | rfl := hline
  · simp only [String.toList_append, List.mem_append, not_or]
    exact ⟨⟨by decide, hid⟩, by decide⟩
  · decide
  · decide
  · obtain ⟨n, hn, rfl⟩ := List.mem_map.mp hline
    exact GraphNode.lineFeed_notMem_line (hnodes n hn)
  · obtain ⟨e, he, rfl⟩ := List.mem_map.mp hline
    exact GraphEdge.lineFeed_notMem_line (hedges e he).1 (hedges e he).2
  · decide

/-- **A graph whose statements hold no line feed has one line for each.** -/
theorem Graph.splitOn_text (h : ∀ line ∈ g.lines, '\n' ∉ line.toList) :
    (g.text.toList.splitOn '\n').map String.ofList = g.lines := by
  have hsep : "\n".toList = ['\n'] := by decide
  have hchars : ∀ cs ∈ g.lines.map String.toList, '\n' ∉ cs := by
    intro cs hcs
    obtain ⟨line, hline, rfl⟩ := List.mem_map.mp hcs
    exact h line hline
  rw [Graph.text, String.toList_intercalate, hsep, List.splitOn_intercalate '\n' hchars
    (by simp [Graph.lines_eq]), List.map_map]
  exact List.map_id'' (fun line => String.ofList_toList) _

end Lines

/-! ## The parts of a graph -/

/-- The label of a variant: its name, and the fields below it where they are shown. -/
def VariantOf.caption (mode : GraphMode) (V : Variant) : String :=
  match mode with
  | .simple => V.name
  | .detailed => "\n".intercalate (V.name :: V.fields.map fun f => f.name ++ ": " ++ f.type)

/-- The node of a variant. -/
def VariantOf.drawn (mode : GraphMode) (V : Variant) : GraphNode :=
  ⟨writtenId V.name, V.caption mode, V.isCanonical⟩

/-- The edge of an ordered pair. -/
def EdgeOf.drawn (mode : GraphMode) (e : Edge) : GraphEdge :=
  ⟨writtenId e.source, writtenId e.target, !e.isTotal, e.caption mode⟩

/-- The graph of a family. -/
def FamilyOf.drawn (F : Family) (mode : GraphMode) : Graph :=
  ⟨writtenId F.canonical, F.variants.map (·.drawn mode), F.edges.map (·.drawn mode)⟩

theorem nodeLabel_eq (V : Variant) (mode : GraphMode) : nodeLabel mode V = .ok (V.caption mode) := by
  cases mode with
  | simple => rfl
  | detailed => rfl

theorem node_eq {V : Variant} (h : V.name ≠ "") (mode : GraphMode) :
    V.node mode = .ok (V.drawn mode) := by
  change (graphId V.name >>= fun id => nodeLabel mode V >>= fun label =>
    (.ok ⟨id, label, V.isCanonical⟩ : Except Fault GraphNode)) = _
  rw [graphId_eq h, nodeLabel_eq]
  rfl

theorem graphEdge_eq {e : Edge} (hends : e.source ≠ "" ∧ e.target ≠ "")
    (h : e.missing ≠ [] → e.asked ≠ "") (mode : GraphMode) :
    e.graphEdge mode = .ok (e.drawn mode) := by
  change (graphId e.source >>= fun source => graphId e.target >>= fun target =>
    e.shownLabel mode >>= fun label =>
      (.ok ⟨source, target, !e.isTotal, label⟩ : Except Fault GraphEdge)) = _
  rw [graphId_eq hends.1, graphId_eq hends.2, shownLabel_eq h]
  rfl

section Family

variable {r : Record} {o : Options} {R : Registry String} {ss : List (Share String)} {F : Family}

theorem Derives.fieldName_ne_empty (h : Derives r o R ss F) {V : Variant} (hV : V ∈ F.variants)
    {f : Field} (hf : f ∈ V.fields) : f.name ≠ "" := by
  have hname : f.name ∈ r.fields.map FieldOf.name :=
    (h.fieldNames_sublist hV).subset (List.mem_map_of_mem hf)
  obtain ⟨g, hg, he⟩ := List.mem_map.mp hname
  rw [← he]
  exact ((checkFields_ok.mp h.checked).1 g hg).1

/-- **The graph of a derived family.** -/
theorem Derives.graph_eq (h : Derives r o R ss F) (mode : GraphMode) :
    F.graph mode = .ok (F.drawn mode) := by
  have hresolves := h.resolves
  have hnodes : F.variants.mapM (VariantOf.node mode) = .ok (F.variants.map (·.drawn mode)) :=
    mapM_ok fun V hV => node_eq (hresolves.names V hV) mode
  have hedges : F.edges.mapM (EdgeOf.graphEdge mode) = .ok (F.edges.map (·.drawn mode)) := by
    refine mapM_ok fun e he => graphEdge_eq (hresolves.ends e he) ?_ mode
    obtain ⟨S, _, T, hT, _, rfl⟩ := h.mem_edges.mp he
    exact asked_ne_empty fun f hf => h.fieldName_ne_empty hT hf
  rw [FamilyOf.graph, hnodes, hedges]
  change (graphId F.canonical >>= fun id => _) = _
  rw [graphId_eq hresolves.canonical]
  rfl

theorem Derives.graphText_eq (h : Derives r o R ss F) (mode : GraphMode) :
    F.graphText mode = .ok (F.drawn mode).text := by
  rw [FamilyOf.graphText, h.graph_eq]
  rfl

end Family

/-! ## Graphs that mirror a family -/

/-- **The statement of a variant.** -/
structure GraphNode.IsOf (n : GraphNode) (F : Family) (mode : GraphMode) (V : Variant) : Prop where
  id : graphId V.name = .ok n.id
  label : nodeLabel mode V = .ok n.label
  /-- The canonical variant is highlighted, and no other. -/
  line : n.line = "  " ++ n.id ++ " [label=" ++ graphString n.label ++
    (if V.name = F.canonical then ", fillcolor=lightgreen" else "") ++ "];"

/-- **The statement of an ordered pair of variants.** -/
structure GraphEdge.IsOf (e : GraphEdge) (F : Family) (mode : GraphMode) (S T : Variant) : Prop where
  source : graphId S.name = .ok e.source
  target : graphId T.name = .ok e.target
  line : e.line = "  " ++ e.source ++ " -> " ++ e.target ++
    (if e.attributes.isEmpty then "" else " [" ++ ", ".intercalate e.attributes ++ "]") ++ ";"
  known : ∀ a ∈ e.attributes, a = "style=dashed" ∨ ∃ l, a = "label=" ++ graphString l
  /-- The edge is dashed when no conversion without arguments leads from the one to the other. -/
  dashed : "style=dashed" ∈ e.attributes ↔ ¬ ∃ c ∈ F.conversions,
    c.kind = .fromSource ∧ c.source = S.name ∧ c.target = T.name
  labelled : (∃ l, "label=" ++ graphString l ∈ e.attributes) ↔
    mode = .detailed ∧ ∃ f ∈ T.fields, f.name ∉ S.fieldNames
  short : ∀ l, "label=" ++ graphString l ∈ e.attributes → l.length ≤ 40

/-- **The graph has a line for each variant and for each ordered pair of variants.** -/
structure Graph.Mirrors (g : Graph) (r : Record) (F : Family) (mode : GraphMode) : Prop where
  id : graphId F.canonical = .ok g.id
  nodes : Forall₂ (fun n V => n.IsOf F mode V) g.nodes F.variants
  edges : Forall₂ (fun e p => e.IsOf F mode p.1 p.2) g.edges (orderedPairs F.variants)
  lines : (g.text.toList.splitOn '\n').map String.ofList =
    ["digraph " ++ g.id ++ " \x7b", "  rankdir=LR;",
      "  node [shape=box, style=filled, fillcolor=lightblue];"] ++
    g.nodes.map GraphNode.line ++ g.edges.map GraphEdge.line ++ ["\x7d"]
  count : (g.text.toList.splitOn '\n').length =
    F.variants.length + F.variants.length * (F.variants.length - 1) + 4
  /-- The variants stand in the order in which they are registered. -/
  names : F.variants.map VariantOf.name = firstOccurrences [] (r.name :: r.variants)
  /-- The pairs stand in the order of the edges. -/
  pairs : (orderedPairs F.variants).map (fun p => (p.1.name, p.2.name)) =
    F.edges.map fun e => (e.source, e.target)
  canonical : ∃! V, V ∈ F.variants ∧ V.name = F.canonical

namespace Derives

variable {r : Record} {o : Options} {R : Registry String} {ss : List (Share String)} {F : Family}

theorem canonical_mem (h : Derives r o R ss F) : ∃ V ∈ F.variants, V.name = F.canonical := by
  have hmem : F.canonical ∈ F.variants.map VariantOf.name := by
    rw [h.map_name, registry_names h.registry, mem_firstOccurrences, h.canonical]
    exact ⟨List.mem_cons_self, List.not_mem_nil⟩
  exact List.mem_map.mp hmem

theorem drawn_isOf (h : Derives r o R ss F) {V : Variant} (hV : V ∈ F.variants) (mode : GraphMode) :
    (V.drawn mode).IsOf F mode V where
  id := graphId_eq (h.name_ne_empty hV)
  label := nodeLabel_eq V mode
  line := by
    rw [GraphNode.line_eq, VariantOf.drawn, h.isCanonical_eq hV, h.canonical]
    simp only [beq_iff_eq]

theorem isTotal_iff (h : Derives r o R ss F) {S T : Variant} (hS : S ∈ F.variants)
    (hT : T ∈ F.variants) (hne : S.name ≠ T.name) : (EdgeOf.between S T).isTotal = true ↔
      ∃ c ∈ F.conversions, c.kind = .fromSource ∧ c.source = S.name ∧ c.target = T.name := by
  rw [isTotal_between, ← h.exists_isBetween hS hT hne rfl]
  constructor
  · rintro ⟨c, hc, hb⟩
    exact ⟨c, hc, hb.kind, hb.source, hb.target⟩
  · rintro ⟨c, hc, hkind, hsource, htarget⟩
    obtain ⟨_, _, _, _, _, k, _, rfl⟩ := h.mem_conversions.mp hc
    obtain rfl : k = .fromSource := hkind
    exact ⟨_, hc, ⟨rfl, hsource, htarget, htarget⟩⟩

theorem edge_isOf (h : Derives r o R ss F) {S T : Variant} (hS : S ∈ F.variants)
    (hT : T ∈ F.variants) (hne : S.name ≠ T.name) (mode : GraphMode) :
    ((EdgeOf.between S T).drawn mode).IsOf F mode S T where
  source := graphId_eq (h.name_ne_empty hS)
  target := graphId_eq (h.name_ne_empty hT)
  line := GraphEdge.line_eq _
  known := by
    intro a ha
    rcases GraphEdge.mem_attributes.mp ha with ⟨_, ha⟩ | ⟨l, _, ha⟩
    · exact .inl ha
    · exact .inr ⟨l, ha⟩
  dashed := by
    rw [dashed_mem_attributes, ← h.isTotal_iff hS hT hne, EdgeOf.drawn, Bool.not_eq_true',
      Bool.not_eq_true]
  labelled := by
    simp only [label_mem_attributes]
    rw [← Option.isSome_iff_exists, ← missing_between]
    exact isSome_caption
  short := fun l hl => length_caption l (label_mem_attributes.mp hl)

/-- No statement of the graph of a derived family is broken by a name. -/
theorem lineFeed_notMem_lines (h : Derives r o R ss F) (mode : GraphMode) :
    ∀ line ∈ (F.drawn mode).lines, '\n' ∉ line.toList := by
  have hname : ∀ V ∈ F.variants, '\n' ∉ (writtenId V.name).toList := fun V hV =>
    lineFeed_notMem_writtenId (h.isValidName hV)
  refine Graph.lineFeed_notMem_lines ?_ ?_ ?_
  · obtain ⟨V, hV, hcanonical⟩ := h.canonical_mem
    rw [FamilyOf.drawn, ← hcanonical]
    exact hname V hV
  · intro n hn
    obtain ⟨V, hV, rfl⟩ := List.mem_map.mp hn
    exact hname V hV
  · intro e he
    obtain ⟨_, hedge, rfl⟩ := List.mem_map.mp he
    obtain ⟨S, hS, T, hT, _, rfl⟩ := h.mem_edges.mp hedge
    exact ⟨hname S hS, hname T hT⟩

theorem drawn_mirrors (h : Derives r o R ss F) (mode : GraphMode) :
    (F.drawn mode).Mirrors r F mode := by
  have hlines := Graph.splitOn_text (h.lineFeed_notMem_lines mode)
  have hedges : F.edges.length = F.variants.length * (F.variants.length - 1) := by
    have hlength := congrArg List.length h.edges_names
    rwa [List.length_map, length_distinctPairs h.names_nodup, List.length_map] at hlength
  exact
    { id := graphId_eq h.resolves.canonical
      nodes := by
        rw [FamilyOf.drawn, List.forall₂_map_left_iff, List.forall₂_same]
        exact fun V hV => h.drawn_isOf hV mode
      edges := by
        rw [FamilyOf.drawn, h.edges, edgesOf, List.map_map, List.forall₂_map_left_iff,
          List.forall₂_same]
        rintro ⟨S, T⟩ hp
        obtain ⟨hS, hT, hne⟩ := mem_orderedPairs.mp hp
        exact h.edge_isOf hS hT hne mode
      lines := hlines
      count := by
        rw [← List.length_map String.ofList, hlines, Graph.lines_eq]
        simp only [FamilyOf.drawn, List.length_append, List.length_map, List.length_cons,
          List.length_nil, hedges]
        omega
      names := by rw [h.map_name, registry_names h.registry]
      pairs := by rw [orderedPairs_names, h.edges_names]
      canonical := by
        obtain ⟨V, hV, hcanonical⟩ := h.canonical_mem
        exact ⟨V, ⟨hV, hcanonical⟩, fun W hW => h.variant_eq hW.1 hV (hW.2.trans hcanonical.symm)⟩ }

end Derives

/-- **The graph of every derived family mirrors it, line by line**, whatever its types hold. -/
theorem graph_mirrors {r : Record} {o : Options} {F : Family} (h : (r.derive o).result = .ok F)
    (mode : GraphMode) : ∃ g : Graph, F.graphText mode = .ok g.text ∧ g.Mirrors r F mode := by
  obtain ⟨R, ss, h⟩ := derive_ok.mp h
  exact ⟨F.drawn mode, h.graphText_eq mode, h.drawn_mirrors mode⟩

/-- A person whose name has a type of several lines, with quotation marks and a backslash. -/
def linedPerson : Record :=
  { samplePerson true with
    fields := [
      sampleField "name" "Literal[\n\"\\n\"\n]" [],
      sampleField "age" "int" ["only_in_self"]] }

theorem graph_mirrors_linedPerson : ∃ F, (linedPerson.derive {}).result = .ok F ∧
    F.variants.length = 2 ∧ ∃ g : Graph, F.graphText .detailed = .ok g.text ∧
      g.Mirrors linedPerson F .detailed := by
  have hyields : (linedPerson.derive {}).yields (fun F => F.variants.length = 2) = true := by
    decide +kernel
  obtain ⟨F, hF, hlength⟩ := Outcome.yields_iff.mp hyields
  exact ⟨F, hF, of_decide_eq_true hlength, graph_mirrors hF .detailed⟩

end RecordFamily
