import RecordFamily.Proofs.Graph
import RecordFamily.Proofs.WordCase

/-!
# The names in a graph

A name in a graph is bare or quoted. Bare are the names that hold nothing but letters, numerals and
underscores, and that is what a bare name may hold in the language of graphs. But that language also has
words of its own, in upper or lower case, and a variant may be named by one of them: it is written
bare, too, and is read as the word.

* `isBareName`, `isGraphWord`: the form of bare names, and the words;
* `IsLegalId`, `StandsFor`: what may be written for a name, and the name that it is written for;
* `isLegalId_writtenId`: the name of a variant is written legally exactly when it is no word;
* **`graph_names`**: the names in the graph of a derived family, and when all of them are legal.
-/

namespace RecordFamily

open Text List

/-! ## Legal names -/

/-- The words of the language of graphs, which are read without regard to case. -/
def graphWords : List String := ["node", "edge", "graph", "digraph", "subgraph", "strict"]

/-- The name is one of the words, in upper or lower case. -/
def isGraphWord (name : String) : Bool :=
  graphWords.contains (String.ofList (name.toList.map Char.toLower))

/-- The character may begin a bare name. -/
def isBareStart (c : Char) : Bool := c.isAlpha || c == '_' || decide (128 ≤ c.toNat)

/-- The character may stand in a bare name. -/
def isBarePart (c : Char) : Bool := c.isDigit || isBareStart c

/-- The text has the form of a bare name, which the words have, too. -/
def isBareName : List Char → Bool
  | [] => false
  | c :: cs => isBareStart c && cs.all isBarePart

/-- **What may be written for a name**: a text between quotation marks that does not end before the
second of them, or a bare name that is no word. -/
inductive IsLegalId (id : String) : Prop where
  | quoted {inside : List Char} (hid : id.toList = quotationMark :: inside ++ [quotationMark])
      (hinside : IsInside quotationMark inside)
  | bare (hname : isBareName id.toList = true) (hword : isGraphWord id = false)

/-- **What is written for a name**: the name itself, or the name between quotation marks when it holds
neither a quotation mark nor a backslash. -/
inductive StandsFor (name : String) : String → Prop where
  | bare (h : isBareName name.toList = true) : StandsFor name name
  | quoted (h : ∀ c ∈ name.toList, c ≠ quotationMark ∧ c ≠ backslash) :
      StandsFor name ("\"" ++ name ++ "\"")

section Names

variable {name other id : String}

theorem ne_quoted_of_isBareName (h : isBareName id.toList = true) (inside : List Char) :
    id.toList ≠ quotationMark :: inside ++ [quotationMark] := by
  intro he
  rw [he, List.cons_append, isBareName, Bool.and_eq_true] at h
  exact absurd h.1 (by decide)

/-- Nothing is written for two names. -/
theorem StandsFor.unique (h : StandsFor name id) (h' : StandsFor other id) : name = other := by
  cases h with
  | bare hname =>
    cases h' with
    | bare => rfl
    | quoted => exact absurd (toList_quoted other) (ne_quoted_of_isBareName hname _)
  | quoted =>
    generalize he : "\"" ++ name ++ "\"" = id at h'
    have hlist := congrArg String.toList he
    rw [toList_quoted] at hlist
    cases h' with
    | bare hother => exact absurd hlist.symm (ne_quoted_of_isBareName hother _)
    | quoted =>
      rw [toList_quoted] at hlist
      exact String.toList_inj.mp (List.append_cancel_right (List.cons.inj hlist).2)

/-! ## Names as they are written -/

theorem isBarePart_of_isLetterOrNumeral {c : Char} (h : isLetterOrNumeral c = true) :
    isBarePart c = true := by
  unfold isLetterOrNumeral at h
  unfold isBarePart isBareStart
  split_ifs at h with hc
  · rcases Bool.or_eq_true_iff.mp h with h | h
    · simp [h]
    · simp [h]
  · simp [Nat.le_of_not_lt hc]

theorem isBareStart_of_isBarePart {c : Char} (h : isBarePart c = true) (hdigit : isDigit c = false) :
    isBareStart c = true := by
  rcases Bool.or_eq_true_iff.mp h with h | h
  · by_cases hc : c.toNat < 128
    · rw [isDigit, if_pos hc, h] at hdigit
      cases hdigit
    · simp [isBareStart, Nat.le_of_not_lt hc]
  · exact h

theorem isBareName_of_isBareId {cs : List Char} (h : isBareId cs = true) : isBareName cs = true := by
  simp only [isBareId, Bool.and_eq_true, List.all_eq_true, List.mem_filter, bne_iff_ne] at h
  obtain ⟨⟨hhead, hletters⟩, hall⟩ := h
  cases cs with
  | nil => exact absurd hletters (by decide)
  | cons c cs =>
    have hparts : ∀ d ∈ c :: cs, isBarePart d = true := by
      intro d hd
      by_cases hunderscore : d = '_'
      · rw [hunderscore]
        decide
      · exact isBarePart_of_isLetterOrNumeral (hall d ⟨hd, hunderscore⟩)
    obtain ⟨hc, hcs⟩ := List.forall_mem_cons.mp hparts
    rw [isBareName, Bool.and_eq_true, List.all_eq_true]
    exact ⟨isBareStart_of_isBarePart hc (by simpa using hhead), hcs⟩

theorem isInside_plain {cs : List Char} (h : ∀ c ∈ cs, c ≠ quotationMark ∧ c ≠ backslash) :
    IsInside quotationMark cs := by
  induction cs with
  | nil => exact .nil
  | cons c cs ih =>
    obtain ⟨hc, hcs⟩ := List.forall_mem_cons.mp h
    exact .plain hc.1 hc.2 (ih hcs)

theorem marks_notMem_of_isValidName (h : isValidName name = true) :
    ∀ c ∈ name.toList, c ≠ quotationMark ∧ c ≠ backslash := by
  intro c hc
  constructor
  · rintro rfl
    exact notMem_of_isValidName h (by decide) hc
  · rintro rfl
    exact notMem_of_isValidName h (by decide) hc

theorem writtenId_standsFor (h : isValidName name = true) : StandsFor name (writtenId name) := by
  rw [writtenId]
  split_ifs with hbare
  · exact .bare (isBareName_of_isBareId hbare)
  · exact .quoted (marks_notMem_of_isValidName h)

theorem letter_of_toLower {c : Char} (h : c.toLower.isLower = true) :
    isLetterOrNumeral c = true ∧ isDigit c = false ∧ c ≠ '_' := by
  have hc : c.toNat < 128 := by
    by_cases hupper : c.isUpper = true
    · exact ascii_of_isUpper hupper
    · have hself : c.toLower = c := dif_neg fun hc => hupper (decide_eq_true hc)
      rw [hself] at h
      exact ascii_of_isSmall (isSmall_of_isLower h)
  exact ascii_forall (p := fun d => d.toLower.isLower = true →
    isLetterOrNumeral d = true ∧ isDigit d = false ∧ d ≠ '_') (by decide) hc h

theorem isBareId_of_isGraphWord (h : isGraphWord name = true) : isBareId name.toList = true := by
  have hwords : ∀ word ∈ graphWords, word.toList ≠ [] ∧ word.toList.all Char.isLower = true := by
    decide
  obtain ⟨hne, hlower⟩ := hwords _ (List.contains_iff_mem.mp h)
  rw [String.toList_ofList] at hne hlower
  rw [List.all_eq_true, List.forall_mem_map] at hlower
  have hletters : ∀ c ∈ name.toList, isLetterOrNumeral c = true ∧ isDigit c = false ∧ c ≠ '_' :=
    fun c hc => letter_of_toLower (hlower c hc)
  have hfilter : (name.toList.filter fun c => c != '_') = name.toList :=
    List.filter_eq_self.mpr fun c hc => bne_iff_ne.mpr (hletters c hc).2.2
  cases hname : name.toList with
  | nil =>
    rw [hname] at hne
    exact absurd rfl hne
  | cons c cs =>
    rw [hname] at hfilter hletters
    simp only [isBareId, hfilter, Bool.and_eq_true, List.all_eq_true]
    refine ⟨⟨?_, rfl⟩, fun d hd => (hletters d hd).1⟩
    have hdigit := (hletters c List.mem_cons_self).2.1
    simp [hdigit]

/-- **A name is written legally exactly when it is no word.** -/
theorem isLegalId_writtenId (h : isValidName name = true) :
    IsLegalId (writtenId name) ↔ isGraphWord name = false := by
  cases hword : isGraphWord name with
  | true =>
    have hbare := isBareId_of_isGraphWord hword
    rw [writtenId, if_pos hbare]
    refine ⟨?_, fun he => by cases he⟩
    rintro (⟨hid, _⟩ | ⟨_, hno⟩)
    · exact absurd hid (ne_quoted_of_isBareName (isBareName_of_isBareId hbare) _)
    · rw [hword] at hno
      cases hno
  | false =>
    refine ⟨fun _ => rfl, fun _ => ?_⟩
    rw [writtenId]
    split_ifs with hbare
    · exact .bare (isBareName_of_isBareId hbare) hword
    · exact .quoted (toList_quoted name) (isInside_plain (marks_notMem_of_isValidName h))

end Names

/-! ## The names in a graph -/

/-- What is written for names in a graph: its own, those of its nodes and those of the ends of its
edges. -/
def Graph.ids (g : Graph) : List String :=
  g.id :: g.nodes.map GraphNode.id ++ g.edges.flatMap fun e => [e.source, e.target]

/-- **The names in the graph are those of the variants**, and no two variants are written alike. -/
structure Graph.Names (g : Graph) (F : Family) : Prop where
  id : StandsFor F.canonical g.id
  nodes : Forall₂ (fun n V => StandsFor V.name n.id) g.nodes F.variants
  edges : Forall₂ (fun e p => StandsFor p.1.name e.source ∧ StandsFor p.2.name e.target) g.edges
    (orderedPairs F.variants)
  distinct : (g.nodes.map GraphNode.id).Nodup
  unique : ∀ id ∈ g.ids, ∃! V, V ∈ F.variants ∧ StandsFor V.name id

namespace Derives

variable {r : Record} {o : Options} {R : Registry String} {ss : List (Share String)} {F : Family}

theorem standsFor (h : Derives r o R ss F) {V : Variant} (hV : V ∈ F.variants) :
    StandsFor V.name (writtenId V.name) :=
  writtenId_standsFor (h.isValidName hV)

theorem mem_ids (h : Derives r o R ss F) {mode : GraphMode} {id : String} :
    id ∈ (F.drawn mode).ids ↔ ∃ V ∈ F.variants, writtenId V.name = id := by
  simp only [Graph.ids, FamilyOf.drawn, List.mem_append, List.mem_cons, List.mem_flatMap,
    List.mem_map, List.not_mem_nil, or_false]
  constructor
  · rintro ((rfl | ⟨n, ⟨V, hV, rfl⟩, rfl⟩) | ⟨_, ⟨e, he, rfl⟩, hid⟩)
    · obtain ⟨V, hV, hcanonical⟩ := h.canonical_mem
      exact ⟨V, hV, congrArg writtenId hcanonical⟩
    · exact ⟨V, hV, rfl⟩
    · obtain ⟨S, hS, T, hT, _, rfl⟩ := h.mem_edges.mp he
      rcases hid with rfl | rfl
      · exact ⟨S, hS, rfl⟩
      · exact ⟨T, hT, rfl⟩
  · rintro ⟨V, hV, rfl⟩
    exact .inl (.inr ⟨V.drawn mode, ⟨V, hV, rfl⟩, rfl⟩)

theorem drawn_names (h : Derives r o R ss F) (mode : GraphMode) : (F.drawn mode).Names F where
  id := by
    obtain ⟨V, hV, hcanonical⟩ := h.canonical_mem
    rw [FamilyOf.drawn, ← hcanonical]
    exact h.standsFor hV
  nodes := by
    rw [FamilyOf.drawn, List.forall₂_map_left_iff, List.forall₂_same]
    exact fun V hV => h.standsFor hV
  edges := by
    rw [FamilyOf.drawn, h.edges, edgesOf, List.map_map, List.forall₂_map_left_iff, List.forall₂_same]
    rintro ⟨S, T⟩ hp
    obtain ⟨hS, hT, _⟩ := mem_orderedPairs.mp hp
    exact ⟨h.standsFor hS, h.standsFor hT⟩
  distinct := by
    have hids : (F.drawn mode).nodes.map GraphNode.id =
        F.variants.map fun V => writtenId V.name := by
      rw [FamilyOf.drawn, List.map_map]
      rfl
    rw [hids]
    refine List.Nodup.map_on (fun V hV W hW he => h.variant_eq hV hW ?_) (.of_map _ h.names_nodup)
    exact (h.standsFor hV).unique (he ▸ h.standsFor hW)
  unique := by
    intro id hid
    obtain ⟨V, hV, rfl⟩ := h.mem_ids.mp hid
    refine ⟨V, ⟨hV, h.standsFor hV⟩, fun W hW => h.variant_eq hW.1 hV ?_⟩
    exact hW.2.unique (h.standsFor hV)

theorem isLegalId_ids (h : Derives r o R ss F) (mode : GraphMode) :
    (∀ id ∈ (F.drawn mode).ids, IsLegalId id) ↔ ∀ V ∈ F.variants, isGraphWord V.name = false := by
  simp only [h.mem_ids, forall_exists_index, and_imp, forall_apply_eq_imp_iff₂]
  exact forall₂_congr fun V hV => isLegalId_writtenId (h.isValidName hV)

end Derives

/-- **The names in the graph of a derived family** are those of its variants, each written in its own
way. They are legal exactly when no variant is named by a word of the language of graphs. -/
theorem graph_names {r : Record} {o : Options} {F : Family} (h : (r.derive o).result = .ok F)
    (mode : GraphMode) : ∃ g, F.graph mode = .ok g ∧ F.graphText mode = .ok g.text ∧ g.Names F ∧
      ((∀ id ∈ g.ids, IsLegalId id) ↔ ∀ V ∈ F.variants, isGraphWord V.name = false) := by
  obtain ⟨R, ss, h⟩ := derive_ok.mp h
  exact ⟨F.drawn mode, h.graph_eq mode, h.graphText_eq mode, h.drawn_names mode,
    h.isLegalId_ids mode⟩

theorem graph_names_person : ∃ F, ((samplePerson true).derive {}).result = .ok F ∧
    (∀ V ∈ F.variants, isGraphWord V.name = false) ∧
    ∃ g : Graph, F.graphText .detailed = .ok g.text ∧ g.Names F ∧ ∀ id ∈ g.ids, IsLegalId id := by
  have hyields : ((samplePerson true).derive {}).yields
      (fun F => ∀ V ∈ F.variants, isGraphWord V.name = false) = true := by decide +kernel
  obtain ⟨F, hF, hwords⟩ := Outcome.yields_iff.mp hyields
  obtain ⟨g, _, htext, hnames, hlegal⟩ := graph_names hF .detailed
  have hno : ∀ V ∈ F.variants, isGraphWord V.name = false := of_decide_eq_true hwords
  exact ⟨F, hF, hno, g, htext, hnames, hlegal.mpr hno⟩

/-- A record that is named by a word of the language of graphs. -/
def sampleNode : Record :=
  { RecordOf.empty "Node" with fields := [sampleField "value" "int" []], variants := ["Leaf"] }

/-- **A word is written bare**: the first line of this graph names it by a word, which is no name
there. -/
theorem graph_named_by_word : ∃ F, (sampleNode.derive {}).result = .ok F ∧
    ∃ g, F.graph .simple = .ok g ∧ F.graphText .simple = .ok g.text ∧
      g.lines.head? = some "digraph Node \x7b" ∧ "Node" ∈ g.ids ∧ ¬ IsLegalId "Node" := by
  have hyields : (sampleNode.derive {}).yields (fun F => F.canonical = "Node") = true := by
    decide +kernel
  obtain ⟨F, hF, hname⟩ := Outcome.yields_iff.mp hyields
  obtain ⟨R, ss, h⟩ := derive_ok.mp hF
  have hwritten : writtenId "Node" = "Node" := by decide
  have hid : (F.drawn .simple).id = "Node" := by
    rw [FamilyOf.drawn, of_decide_eq_true hname, hwritten]
  have hillegal : ¬ IsLegalId (writtenId "Node") := by
    rw [isLegalId_writtenId (by decide)]
    decide
  refine ⟨F, hF, F.drawn .simple, h.graph_eq _, h.graphText_eq _, ?_, ?_, hwritten ▸ hillegal⟩
  · have hline : "digraph " ++ "Node" ++ " \x7b" = "digraph Node \x7b" := by decide
    rw [Graph.lines_eq, hid, hline]
    rfl
  · rw [Graph.ids, hid]
    exact List.mem_cons_self

end RecordFamily
