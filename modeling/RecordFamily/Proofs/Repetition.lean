import RecordFamily.Proofs.Message
import RecordFamily.Proofs.NameClash
import RecordFamily.Proofs.Routing

/-!
# What the errors of a derivation repeat

The errors of a derivation repeat names and annotations of the record, parts of them, and names that
are made from them. Where the names and the annotations are lines, each message is one, too.

* `unbroken_trim`, `isLine_token`, `unquote_subset`: parts of an annotation;
* `Directive.IsLined`, **`lined_parse`**: directives that are read from lines;
* `lined_add`, `lined_rule`: the rules of fields;
* `RefusesNote.isLine`, `isLine_refusal`: refused names and annotations of a record;
* `isLine_memberName`, `Derives.isLine_diagnostics`: generated names, and reports of those that are
  generated more than once;
* `RecordOf.IsLined`, **`lined_derive`**: a derivation of a record of lines repeats lines alone.
-/

namespace RecordFamily

open Text

/-! ## Parts of an annotation -/

section Parts

variable {cs : List Char}

theorem trimEnd_subset (cs : List Char) : trimEnd cs ⊆ cs := fun c hc => by
  have hkept := (List.dropWhile_sublist isBlank).subset (List.mem_reverse.mp hc)
  exact List.mem_reverse.mp hkept

theorem trimStart_subset (cs : List Char) : trimStart cs ⊆ cs :=
  (List.dropWhile_sublist isBlank).subset

theorem unbroken_trim (h : Unbroken cs) : Unbroken (trim cs) :=
  h.of_subset fun _ hc => trimStart_subset _ (trimEnd_subset _ hc)

/-- **A token of a line is a line.** -/
theorem isLine_token (h : Unbroken cs) : ∀ t ∈ Token.scan cs, IsLine t.text := by
  fun_induction Token.scan cs with
  | case1 => exact List.forall_mem_nil _
  | case2 c cs hmark body rest hbody ih =>
    obtain ⟨hc, hcs⟩ := unbroken_cons.mp h
    obtain ⟨-, rfl⟩ := (literalBody_eq_some (ne_backslash_of_isLiteralMark hmark)).mp hbody
    obtain ⟨hbody, hrest⟩ := unbroken_append.mp hcs
    refine List.forall_mem_cons.mpr ⟨?_, ih (unbroken_cons.mp hrest).2⟩
    rw [Token.text, isLine_ofList, unbroken_append, unbroken_cons]
    exact ⟨⟨hc, hbody⟩, unbroken_cons.mpr ⟨hc, unbroken_nil⟩⟩
  | case3 c cs _ _ ih =>
    obtain ⟨hc, hcs⟩ := unbroken_cons.mp h
    exact List.forall_mem_cons.mpr ⟨isLine_singleton.mpr hc, ih hcs⟩
  | case4 c cs _ _ ih =>
    obtain ⟨hc, hcs⟩ := unbroken_cons.mp h
    have hword := hcs.of_subset (List.takeWhile_sublist isWordPart).subset
    refine List.forall_mem_cons.mpr ⟨isLine_ofList.mpr (unbroken_cons.mpr ⟨hc, hword⟩), ih ?_⟩
    exact hcs.of_subset (List.dropWhile_sublist isWordPart).subset
  | case5 c cs _ _ ih =>
    obtain ⟨hc, hcs⟩ := unbroken_cons.mp h
    refine List.forall_mem_append.mpr ⟨?_, ih hcs⟩
    unfold signToken?
    split_ifs
    · exact List.forall_mem_singleton.mpr (by decide)
    · exact List.forall_mem_singleton.mpr (by decide)
    · exact List.forall_mem_singleton.mpr (by decide)
    · exact List.forall_mem_nil _
    · exact List.forall_mem_singleton.mpr (isLine_singleton.mpr hc)

theorem unquote_subset (cs : List Char) : unquote cs ⊆ cs := by
  fun_induction unquote cs with
  | case1 | case2 => exact List.Subset.refl _
  | case3 c d cs _ _ ih => exact List.cons_subset_cons c (List.cons_subset_cons d ih)
  | case4 c d cs _ _ ih => exact List.subset_cons_of_subset c (List.cons_subset_cons d ih)
  | case5 c d cs _ ih => exact List.cons_subset_cons c ih

theorem isLine_head {note name : String} (h : IsLine note)
    (hname : Directive.head? note = some name) : IsLine name := by
  obtain ⟨word, hword, rfl⟩ := Option.map_eq_some_iff.mp hname
  have hstart : Unbroken (trimStart note.toList) := Unbroken.of_subset h (trimStart_subset _)
  unfold Directive.headChars? at hword
  split at hword
  · cases hword
  · next c rest hrest =>
    obtain ⟨hc, hrest⟩ := unbroken_cons.mp (hrest ▸ hstart)
    have hpart := hrest.of_subset (List.takeWhile_sublist isWordPart).subset
    have hline : IsLine (String.ofList (c :: rest.takeWhile isWordPart)) :=
      isLine_ofList.mpr (unbroken_cons.mpr ⟨hc, hpart⟩)
    split_ifs at hword
    split at hword
    · cases hword
      exact hline
    · cases hword
      exact hline
    · cases hword

end Parts

/-! ## Directives -/

/-- **The directive is made of lines.** -/
structure Directive.IsLined (d : Directive) : Prop where
  name : IsLine d.name
  args : ∀ a ∈ d.args, IsLine a
  text : IsLine d.text

section Directives

variable {text : String} {ts : List Token}

theorem lined_arguments (htext : IsLine text) (hts : ∀ t ∈ ts, IsLine t.text) :
    Lined (fun args => ∀ a ∈ args, IsLine a) (Directive.arguments text ts) := by
  have hbody {mark : Char} {body : List Char} (h : IsLine (Token.literal mark body).text) :
      IsLine (String.ofList (unquote body)) := by
    rw [Token.text, isLine_ofList, unbroken_append, unbroken_cons] at h
    exact isLine_ofList.mpr (h.1.2.of_subset (unquote_subset body))
  fun_induction Directive.arguments text ts with
  | case1 => exact .ok (List.forall_mem_nil _)
  | case2 mark body => exact .ok (List.forall_mem_singleton.mpr (hbody (hts _ List.mem_cons_self)))
  | case3 mark body rest ih =>
    obtain ⟨hliteral, hcomma⟩ := List.forall_mem_cons.mp hts
    obtain ⟨-, hrest⟩ := List.forall_mem_cons.mp hcomma
    exact (ih hrest).map fun args hargs => List.forall_mem_cons.mpr ⟨hbody hliteral, hargs⟩
  | case4 mark body t =>
    exact .error (lines_pair htext (hts t (List.mem_cons_of_mem _ List.mem_cons_self)))
  | case5 t => exact .error (lines_pair htext (hts t List.mem_cons_self))

theorem lined_ofTokens (htext : IsLine text) (hts : ∀ t ∈ ts, IsLine t.text) :
    Lined Directive.IsLined (Directive.ofTokens text ts) := by
  have htexts : ∀ s ∈ [text], IsLine s := List.forall_mem_singleton.mpr htext
  unfold Directive.ofTokens
  split
  · exact .error (List.forall_mem_nil _)
  · exact .ok ⟨hts _ List.mem_cons_self, List.forall_mem_nil _, htext⟩
  · next name rest =>
    obtain ⟨hname, hrest⟩ := List.forall_mem_cons.mp hts
    split
    · have hinner : ∀ t ∈ rest.dropLast, IsLine t.text := fun t ht =>
        hrest t (List.mem_cons_of_mem _ (List.dropLast_subset rest ht))
      exact (lined_arguments htext hinner).map fun args hargs => ⟨hname, hargs, htext⟩
    · exact .error htexts
  · next name t rest _ =>
    obtain ⟨hname, hrest⟩ := List.forall_mem_cons.mp hts
    exact .error (lines_triple (hrest t List.mem_cons_self) hname htext)
  · exact .error htexts

/-- **Reading a directive from a line** repeats lines alone, and the directive is made of lines. -/
theorem lined_parse {note : String} (h : IsLine note) :
    Lined Directive.IsLined (Directive.parse note) :=
  lined_ofTokens (isLine_ofList.mpr (unbroken_trim h)) (isLine_token (unbroken_trim h))

end Directives

/-! ## Rules of fields -/

section Rules

variable {field note : String} {draft : RuleDraft String} {d : Directive} {names : List String}
  {canonical : String}

theorem lined_checkShape (word : FieldDirective) (hfield : IsLine field) (hd : d.IsLined) :
    Lined (fun _ => True) (checkShape field word d) := by
  unfold checkShape
  split_ifs
  · exact .error (lines_pair hfield hd.name)
  · exact .ok trivial
  · exact .error (lines_triple hfield hd.name hd.text)
  · exact .ok trivial

/-- The inclusion directive of the draft is made of lines. -/
def RuleDraft.IsLined (draft : RuleDraft String) : Prop :=
  ∀ d, draft.inclusion = some d → d.IsLined

theorem lined_addDirective (hfield : IsLine field) (hdraft : draft.IsLined) (hd : d.IsLined) :
    Lined RuleDraft.IsLined (draft.addDirective field d) := by
  unfold RuleDraft.addDirective
  split
  · exact .ok hdraft
  · refine (lined_checkShape _ hfield hd).bind fun _ _ _ => ?_
    split
    · exact .ok hdraft
    · next first _ hfirst =>
      exact .error (lines_triple hfield (hdraft first hfirst).text hd.text)
    · refine .ok ?_
      rintro _ ⟨⟩
      exact hd

/-- **One more annotation that is a line** leads to lines alone. -/
theorem lined_add (hfield : IsLine field) (hdraft : draft.IsLined) (hnote : IsLine note) :
    Lined RuleDraft.IsLined (draft.add field note) := by
  rw [RuleDraft.add_string]
  split_ifs
  · exact (lined_parse hnote).bind fun d _ hd => lined_addDirective hfield hdraft hd
  · have hhead : IsLine ((Directive.head? note).getD "") := by
      cases hname : Directive.head? note with
      | none => decide
      | some name => exact isLine_head hnote hname
    exact .error (lines_triple hfield hhead hnote)
  · exact .ok hdraft

theorem lined_checkDeclared (hfield : IsLine field) (hd : d.IsLined) :
    Lined (fun _ => True) (checkDeclared field names d) := by
  unfold checkDeclared
  split
  · next name hname =>
    exact .error (lines_triple hfield hd.name (hd.args name (List.mem_of_find?_eq_some hname)))
  · exact .ok trivial

theorem lined_draftRule (hfield : IsLine field) (hdraft : draft.IsLined) :
    Lined (fun _ => True) (draft.rule field names canonical) := by
  unfold RuleDraft.rule
  split
  · exact .ok trivial
  · next d hd => exact (lined_checkDeclared hfield (hdraft d hd)).bind fun _ _ _ => .ok trivial

/-- The name and the annotations of the field are lines. -/
structure FieldOf.IsLined (f : Field) : Prop where
  name : IsLine f.name
  annotations : ∀ note ∈ f.annotations, IsLine note

/-- **The rule of a field of lines** repeats lines alone. -/
theorem lined_rule {f : Field} (hf : f.IsLined) :
    Lined (fun _ => True) (f.rule names canonical) := by
  have hempty : ({} : RuleDraft String).IsLined := fun _ h => nomatch h
  have hdraft : Lined RuleDraft.IsLined (f.annotations.foldlM (RuleDraft.add f.name) {}) :=
    .foldlM (fun note hnote _ hdraft => lined_add hf.name hdraft (hf.annotations note hnote)) hempty
  exact hdraft.bind fun _ _ hdraft => lined_draftRule hf.name hdraft

theorem lined_shares {fs : List Field} (hfs : ∀ f ∈ fs, f.IsLined) :
    Lined (fun _ => True) (shares names canonical fs).result := by
  induction fs with
  | nil => exact .ok trivial
  | cons f fs ih =>
    obtain ⟨hf, hfs⟩ := List.forall_mem_cons.mp hfs
    rw [shares, Outcome.bind_result, parseRule_result]
    refine (lined_rule hf).mapError.bind fun rule _ _ => ?_
    rw [Outcome.bind_result]
    exact (ih hfs).bind fun _ _ _ => .ok trivial

end Rules

/-! ## Names and annotations of a record -/

/-- **The names and the annotations of the record are lines.** -/
structure RecordOf.IsLined (r : Record) : Prop where
  names : ∀ name ∈ r.declared, IsLine name
  annotations : ∀ note ∈ r.annotations, IsLine note
  fields : ∀ f ∈ r.fields, f.IsLined

section Records

variable {r : Record} {o : Options} {R : Registry String} {ss : List (Share String)} {F : Family}
  {note : String} {e : DerivationError}

theorem lined_checkFieldsFrom {record : String} {position : Nat} {seen : List String}
    {fs : List Field} (hrecord : IsLine record) (hfs : ∀ f ∈ fs, f.IsLined) :
    Lined (fun _ => True) (checkFieldsFrom record position seen fs) := by
  induction fs generalizing position seen with
  | nil => exact .ok trivial
  | cons f fs ih =>
    obtain ⟨hf, hfs⟩ := List.forall_mem_cons.mp hfs
    have hfield : Lined (fun _ => True) (checkField record position seen f) := by
      unfold checkField
      split_ifs
      · exact .error (List.forall_mem_singleton.mpr hrecord)
      · exact .error (lines_pair hf.name hrecord)
      · exact .error (lines_pair hf.name hrecord)
      · exact .ok trivial
    rw [checkFieldsFrom]
    exact hfield.bind fun _ _ _ => ih hfs

theorem RefusesNote.isLine {declared : List String} (h : RefusesNote declared note e)
    (hnote : IsLine note) : ∀ t ∈ e.texts, IsLine t := by
  cases h with
  | unreadable he => exact (lined_parse hnote).failure _ he
  | otherShape hd _ => exact List.forall_mem_singleton.mpr ((lined_parse hnote).result _ hd).text
  | undeclared hdecorates _ =>
    obtain ⟨d, hd, -, hargs⟩ := hdecorates
    refine List.forall_mem_singleton.mpr (((lined_parse hnote).result _ hd).args _ ?_)
    rw [hargs]
    exact List.mem_cons_self

/-- **A refused name or annotation** is repeated with lines alone. -/
theorem isLine_refusal (hr : r.IsLined) (h : r.Refusal o e) : ∀ t ∈ e.texts, IsLine t := by
  cases h with
  | @name before after name _ hdeclared _ hname =>
    have hline : IsLine name := hr.names name (by simp [hdeclared])
    cases hname with
    | invalid | repeated => exact List.forall_mem_singleton.mpr hline
  | @note before after note _ _ hnotes _ _ hnote =>
    exact hnote.isLine (hr.annotations note (by simp [hnotes]))

theorem lined_registry (hr : r.IsLined) : Lined (fun _ => True) (r.registry o).result := by
  refine ⟨fun _ _ => trivial, fun f hf => ?_⟩
  obtain ⟨e, he, rfl⟩ := registry_error.mp hf
  exact isLine_refusal hr he

/-! ## Generated names -/

theorem isLine_memberName {source target : String} (hsource : IsLine source)
    (htarget : IsLine target) (k : ConversionKind) : IsLine (k.memberName source target) := by
  cases k with
  | fromSource => exact isLine_prefixed (by decide) (isLine_snakeOfPascal hsource)
  | intoTarget => exact isLine_snakeOfPascal (isLine_prefixed (by decide) htarget)
  | intoDefaults =>
    refine isLine_snakeOfPascal (isLine_prefixed (by decide) ?_)
    exact isLine_append.mpr ⟨htarget, by decide⟩

namespace Derives

theorem isLine_variant (h : Derives r o R ss F) (hr : r.IsLined) {V : Variant}
    (hV : V ∈ F.variants) : IsLine V.name := by
  refine hr.names V.name ((mem_names_registry h.registry V.name).mp ?_)
  rw [← h.map_name]
  exact List.mem_map_of_mem hV

theorem isLine_memberNames (h : Derives r o R ss F) (hr : r.IsLined) {V : Variant}
    (hV : V ∈ F.variants) : ∀ n ∈ memberNames V F.conversions, IsLine n := by
  have hfields : ∀ n ∈ V.fieldNames, IsLine n := by
    intro n hn
    obtain ⟨f, hf, rfl⟩ := List.mem_map.mp ((h.fieldNames_sublist hV).subset hn)
    exact (hr.fields f hf).name
  simp only [memberNames, List.forall_mem_append, List.forall_mem_flatMap, List.forall_mem_map]
  refine ⟨⟨hfields, fun f hf => ?_⟩, fun c hc => ?_⟩
  · obtain ⟨hgetter, hsetter, -, -⟩ := isLine_fieldNames (hfields _ (List.mem_map_of_mem hf))
    exact lines_pair hgetter hsetter
  · obtain ⟨S, hS, T, hT, -, k, -, rfl⟩ := h.mem_conversions.mp (List.mem_filter.mp hc).1
    rw [name_conversion]
    exact isLine_memberName (h.isLine_variant hr hS) (h.isLine_variant hr hT) k

theorem isLine_topLevelNames (h : Derives r o R ss F) (hr : r.IsLined) :
    ∀ n ∈ topLevelNames F.variants F.interfaces, IsLine n := by
  simp only [topLevelNames, List.forall_mem_append, List.forall_mem_flatMap, List.forall_mem_map]
  refine ⟨fun V hV => h.isLine_variant hr hV, fun i hi => ?_⟩
  rw [h.interfaces] at hi
  obtain ⟨s, hs, rfl⟩ := List.mem_map.mp hi
  have hname : s.field.name ∈ r.fields.map FieldOf.name := by
    rw [← Share.map_name h.shares]
    exact List.mem_map_of_mem hs
  obtain ⟨f, hf, hsame⟩ := List.mem_map.mp hname
  obtain ⟨-, -, hcapability, habsence⟩ := isLine_fieldNames (hsame ▸ (hr.fields f hf).name)
  exact lines_pair hcapability habsence

/-- **The report of names that are generated more than once** has only lines. -/
theorem isLine_diagnostics (h : Derives r o R ss F) (hr : r.IsLined) :
    ∀ e ∈ F.diagnostics, IsLine e := by
  intro e he
  rw [h.diagnostics] at he
  rcases mem_collisions.mp he with ⟨V, hV, n, hn, rfl⟩ | ⟨n, hn, rfl⟩
  · have hname := h.isLine_memberNames hr hV n (List.count_pos_iff.mp (by omega))
    refine (isLine_two ?_ ?_ ?_).mpr ?_
    · exact isLine_literal (by decide)
    · exact isLine_literal (by decide)
    · exact isLine_literal (by decide)
    · exact lines_pair (h.isLine_variant hr hV) hname
  · have hname := h.isLine_topLevelNames hr n (List.count_pos_iff.mp (by omega))
    refine (isLine_one ?_ ?_).mpr (List.forall_mem_singleton.mpr hname)
    · exact isLine_literal (by decide)
    · exact isLine_literal (by decide)

end Derives

/-! ## Derivations -/

theorem lined_reportCollisions {entries : List String} (h : ∀ e ∈ entries, IsLine e) :
    Lined (fun _ => True) (reportCollisions entries o).result := by
  unfold reportCollisions
  split_ifs
  · exact .ok trivial
  · exact .error h
  · rw [warnAll_result]
    exact .ok trivial

/-- **A derivation of a record of lines repeats lines alone.** -/
theorem lined_derive (hr : r.IsLined) : Lined (fun _ => True) (r.derive o).result := by
  have hname : IsLine r.name := hr.names r.name List.mem_cons_self
  refine ⟨fun _ _ => trivial, fun f hf => ?_⟩
  rcases derive_error hf with h | h | ⟨_, _, h⟩ | ⟨_, _, _, hF, h⟩
  · exact (lined_checkFieldsFrom hname hr.fields).mapError.failure f h
  · exact (lined_registry hr).failure f h
  · exact (lined_shares hr.fields).failure f h
  · exact (lined_reportCollisions (hF.isLine_diagnostics hr)).failure f h

end Records

end RecordFamily
