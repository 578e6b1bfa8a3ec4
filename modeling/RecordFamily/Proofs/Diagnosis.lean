import RecordFamily.Proofs.Output
import RecordFamily.Proofs.Repetition

/-!
# Diagnoses of one line

A run that fails tells why after a prefix. What it tells repeats names, annotations and paths as they
stand, so it is one line exactly when these are. Nothing but texts of the schema and the two paths can
break it.

* `lined_wordingOf`, `lined_textsAt`: values that are put into words;
* `lined_field`, `lined_record`, `lined_shape`, **`lined_schema`**: reading a schema whose texts are
  lines;
* `Schema.askedOfFile`, `lined_ofFile`, `Command.lined_text`: the values that the schema of a file puts
  into words, the reading of that file, and the text of a run on it;
* `Arguments.repeated`, `Report.TellsLine`: what the diagnosis of a failed run repeats, and reports of
  one line;
* **`Command.run_single_line`**: when a failed run tells one line.
-/

namespace RecordFamily

open Value Schema

variable {α : Type}

/-! ## Faults -/

theorem lined_fault {Q : α → Prop} {x : Except Fault α} (h : ∀ a, x = .ok a → Q a) :
    Lined Q (x.mapError Failure.fault) := by
  constructor
  · intro a ha
    exact h a (mapError_eq_ok.mp ha)
  · intro e he
    obtain ⟨_, _, rfl⟩ := mapError_eq_error.mp he
    exact List.forall_mem_nil _

/-! ## Values that are put into words -/

section Words

variable {v : Value} {es : List (Value × Value)} {key missing : String}

theorem wording_eq_ok {s : String} (h : v.wording = .ok s) : s = v.display := by
  obtain ⟨_, _, h⟩ := bind_eq_ok.mp h
  exact (Except.ok.inj h).symm

theorem description_eq_ok {s : String} (h : v.description = .ok s) : s = v.describedIn [] := by
  obtain ⟨_, _, h⟩ := bind_eq_ok.mp h
  exact (Except.ok.inj h).symm

theorem lined_wordingOf (hv : v.isJson = true) (h : v.IsLined) : Lined IsLine (wordingOf v) :=
  lined_fault fun _ hs => wording_eq_ok hs ▸ isLine_display hv h

theorem lined_wordingAt (hes : (Value.map es).isJson = true)
    (h : ∀ w ∈ (find? es key).toList, w.IsLined) (hmissing : IsLine missing) :
    Lined IsLine (wordingAt es key missing) := by
  unfold wordingAt
  split
  · exact .ok hmissing
  · next v hv => exact lined_wordingOf (isJson_find? hes hv) (h v (Option.mem_toList.mpr hv))

theorem lined_textsAt (hes : (Value.map es).isJson = true) (h : ∀ w ∈ listed es key, w.IsLined) :
    Lined (fun ts => ∀ t ∈ ts, IsLine t) (textsAt es key : Except Failure (List String)) :=
  .mapM fun v hv => (lined_wordingOf (isJson_listed hes key v hv) (h v hv)).bind fun _ _ hs => .ok hs

end Words

/-! ## Records -/

section Records

variable {v : Value} {es : List (Value × Value)}

/-- **A field whose texts are lines** is made of lines. -/
theorem lined_field (hv : v.isJson = true) (h : ∀ w ∈ askedOfField v, w.IsLined) :
    Lined FieldOf.IsLined (FieldOf.ofValue v : Except Failure Field) := by
  unfold FieldOf.ofValue members
  rw [opened_of_isJson hv]
  cases v with
  | map es =>
    simp only [askedOfField, List.forall_mem_append] at h
    obtain ⟨⟨⟨hname, htype⟩, hannotations⟩, hpassthrough⟩ := h
    rw [ok_bind]
    split
    · have hdescription : Lined IsLine ((Value.map es).description.mapError Failure.fault) :=
        lined_fault fun _ hd => description_eq_ok hd ▸ isLine_describedIn _ hv
      exact hdescription.bind fun _ _ hd => .error (List.forall_mem_singleton.mpr hd)
    · next name hgiven =>
      have hfind := (Option.filter_eq_some_iff.mp hgiven).1
      refine (lined_wordingOf (isJson_find? hv hfind)
        (hname name (Option.mem_toList.mpr hfind))).bind fun _ _ hs => ?_
      refine (lined_wordingAt hv htype (by decide)).bind fun _ _ _ => ?_
      refine (lined_textsAt hv hannotations).bind fun _ _ hts => ?_
      exact (lined_textsAt hv hpassthrough).bind fun _ _ _ => .ok ⟨hs, hts⟩
  | _ => exact .error (List.forall_mem_nil _)

theorem lined_slotAt? (key : String) :
    Lined (fun _ => True) (slotAt? es key : Except Failure (Option String)) := by
  unfold slotAt? slotOf
  split
  · exact .ok trivial
  · exact .ok trivial
  · split
    · exact .ok trivial
    · exact .error (List.forall_mem_nil _)

/-- **A record whose texts are lines** is made of lines. -/
theorem lined_record (hes : (Value.map es).isJson = true) (h : ∀ w ∈ askedOfRecord es, w.IsLined) :
    Lined RecordOf.IsLined (RecordOf.ofValue (.map es) : Except Failure Record) := by
  simp only [askedOfRecord, List.forall_mem_append, List.forall_mem_flatMap] at h
  obtain ⟨⟨⟨⟨hname, hfields⟩, hannotations⟩, hvariants⟩, himports⟩ := h
  unfold RecordOf.ofValue
  change Lined _ (Except.ok es >>= _)
  rw [ok_bind]
  refine (lined_wordingAt hes hname (by decide)).bind fun _ _ hs => ?_
  have hread : Lined (fun fs => ∀ f ∈ fs, f.IsLined)
      ((listed es "fields").mapM fun v => (FieldOf.ofValue v : Except Failure Field)) :=
    .mapM fun v hv => lined_field (isJson_listed hes "fields" v hv) (hfields v hv)
  refine hread.bind fun _ _ hfs => ?_
  refine (lined_textsAt hes hannotations).bind fun _ _ hnotes => ?_
  refine (lined_textsAt hes hvariants).bind fun _ _ hvs => ?_
  refine (lined_slotAt? "docstring").bind fun _ _ _ => ?_
  exact (lined_textsAt hes himports).bind fun _ _ _ =>
    .ok ⟨List.forall_mem_cons.mpr ⟨hs, hvs⟩, hnotes, hfs⟩

end Records

/-! ## Schemas -/

section Schemas

variable {v : Value} {vs : List Value} {es : List (Value × Value)}

theorem lined_checkList {key : String} (hkey : IsLine key) :
    Lined (fun _ => True) (checkList es key) := by
  unfold checkList
  split
  · exact .ok trivial
  · exact .ok trivial
  · exact .error (List.forall_mem_singleton.mpr hkey)

theorem lined_checkTextOrList {key : String} (hkey : IsLine key) :
    Lined (fun _ => True) (checkTextOrList es key) := by
  unfold checkTextOrList
  split
  · exact .ok trivial
  · exact .ok trivial
  · exact .ok trivial
  · exact .error (List.forall_mem_singleton.mpr hkey)

theorem lined_checkOptions : Lined (fun _ => True) (checkOptions es) := by
  unfold checkOptions
  split
  · exact .ok trivial
  · exact .ok trivial
  · exact .error (List.forall_mem_nil _)

theorem lined_checkDocstring : Lined (fun _ => True) (checkDocstring es) := by
  unfold checkDocstring
  split
  · exact .ok trivial
  · exact .ok trivial
  · exact .error (List.forall_mem_nil _)

theorem lined_checkKeys : Lined (fun _ => True) (checkKeys es) := by
  unfold checkKeys
  split_ifs
  · exact .error (List.forall_mem_nil _)
  · refine (lined_checkList (by decide)).bind fun _ _ _ => ?_
    refine (lined_checkList (by decide)).bind fun _ _ _ => ?_
    refine (lined_checkTextOrList (by decide)).bind fun _ _ _ => ?_
    refine (lined_checkTextOrList (by decide)).bind fun _ _ _ => ?_
    exact lined_checkOptions.bind fun _ _ _ => lined_checkDocstring

theorem lined_checkEntry (position : Nat) (hv : v.isJson = true)
    (h : ∀ w ∈ askedOfIncomplete v, w.IsLined) : Lined (fun _ => True) (checkEntry position v) := by
  unfold checkEntry
  rw [opened_of_isJson hv]
  split
  · next es =>
    split
    · exact .error (List.forall_mem_nil _)
    · next name hname =>
      split_ifs
      · exact .ok trivial
      · have hfind := (Option.filter_eq_some_iff.mp hname).1
        have hline : name.IsLined := h name (Option.mem_toList.mpr hname)
        exact (lined_wordingOf (isJson_find? hv hfind) hline).bind fun _ _ hs =>
          .error (List.forall_mem_singleton.mpr hs)
  · exact .error (List.forall_mem_nil _)

/-- Of several field entries only the first incomplete one is reported. -/
theorem lined_checkEntries (position : Nat) (hvs : ∀ v ∈ vs, v.isJson = true)
    (h : ∀ v ∈ vs.find? fun v => !isComplete v, ∀ w ∈ askedOfIncomplete v, w.IsLined) :
    Lined (fun _ => True) (checkEntries position vs) := by
  induction vs generalizing position with
  | nil => exact .ok trivial
  | cons v vs ih =>
    obtain ⟨hv, hvs⟩ := List.forall_mem_cons.mp hvs
    have hopened := opened_of_isJson hv
    rw [checkEntries]
    cases hcomplete : isComplete v with
    | true =>
      rw [checkEntry_ok (by rwa [hopened]), ok_bind]
      rw [List.find?_cons_of_neg (by simp [hcomplete])] at h
      exact ih _ hvs h
    | false =>
      rw [List.find?_cons_of_pos (by simp [hcomplete])] at h
      refine (lined_checkEntry position hv (h v rfl)).bind fun _ hok _ => ?_
      exact absurd hok (checkEntry_incomplete position (by rwa [hopened])).2

theorem lined_optionsAt (v : Value) : Lined (fun _ => True) (optionsAt v) := by
  have hfallbacks (w : Option Value) : Lined (fun _ => True) (Options.fallbacksOf w) := by
    unfold Options.fallbacksOf
    split
    · exact .ok trivial
    · exact lined_fault fun _ _ => trivial
    · exact .error (List.forall_mem_nil _)
  unfold optionsAt Options.ofValue
  split
  · split_ifs
    · exact .ok trivial
    · split
      · exact (hfallbacks _).bind fun _ _ _ => .ok trivial
      · exact .error (List.forall_mem_nil _)
  · exact .ok trivial

theorem lined_shape (hv : v.isJson = true) (h : ∀ w ∈ asked v, w.IsLined) :
    Lined (fun _ => True) (Schema.checkShape v) := by
  unfold Schema.checkShape
  rw [opened_of_isJson hv]
  cases v with
  | map es =>
    refine lined_checkKeys.mapError.bind fun _ hkeys _ => ?_
    refine lined_checkEntries 1 (isJson_itemsAt hv "fields") fun w hw => ?_
    rwa [asked, mapError_eq_ok.mp hkeys, hw] at h
  | _ => exact .error (List.forall_mem_nil _)

/-- A value of the right shape is a mapping whose record and options are put into words. -/
theorem asked_of_shape (hv : v.isJson = true) (h : Schema.checkShape v = .ok ()) :
    ∃ es, v = .map es ∧
      asked v = askedOfRecord es ++ askedOfOptions ((find? es "options").getD .null) := by
  unfold Schema.checkShape at h
  rw [opened_of_isJson hv] at h
  cases v with
  | map es =>
    obtain ⟨_, hkeys, hentries⟩ := bind_eq_ok.mp h
    refine ⟨es, rfl, ?_⟩
    rw [asked, mapError_eq_ok.mp hkeys]
    cases hw : (itemsAt es "fields").find? fun v => !isComplete v with
    | none => rfl
    | some w =>
      rw [← find?_incomplete_of_isJson (isJson_itemsAt hv "fields")] at hw
      exact absurd hentries (checkEntries_incomplete 1 hw).2
  | _ => cases h

/-- **A schema whose texts are lines** has a record of lines, or repeats lines alone. -/
theorem lined_schema (hv : v.isJson = true) (h : ∀ w ∈ asked v, w.IsLined) :
    Lined (fun s => s.record.IsLined) (Schema.ofValue v).result := by
  rw [schema_result]
  refine (lined_shape hv h).bind fun _ hshape _ => ?_
  obtain ⟨es, rfl, hasked⟩ := asked_of_shape hv hshape
  rw [hasked, List.forall_mem_append] at h
  refine (lined_record hv h.1).bind fun _ _ hr => ?_
  exact (lined_optionsAt _).bind fun _ _ _ => .ok hr

end Schemas

/-! ## Texts and files of schemas -/

section Files

variable {text path : String} {read : String → Except PathError (List UInt8)}

theorem lined_document : Lined (fun v => v.isJson = true) (document .json text) := by
  constructor
  · intro v hv
    exact (Json.isReadable_of_read (mapError_eq_ok.mp hv)).isJson
  · intro f hf
    obtain ⟨e, -, rfl⟩ := mapError_eq_error.mp hf
    cases e.toFault with
    | _ => exact List.forall_mem_nil _

theorem lined_ofText (h : ∀ v, document .json text = .ok v → ∀ w ∈ asked v, w.IsLined) :
    Lined (fun s => s.record.IsLined) (ofText text SchemaFormat.json.word).result := by
  cases hblank : Text.isAllBlank text.toList with
  | true =>
    rw [ofText, if_pos hblank]
    exact .error (List.forall_mem_nil _)
  | false =>
    rw [ofText_result .json hblank]
    exact lined_document.bind fun v hv hjson => lined_schema hjson (h v hv)

theorem lined_content (hpath : IsLine path) (r : Except PathError (List UInt8)) :
    Lined (fun _ => True) (content path r) := by
  unfold content
  split
  · refine Lined.mapError ?_
    unfold decode
    split
    · exact .ok trivial
    · next e _ => exact .error (lines_pair hpath (isLine_utf8Message e))
  · exact .error (List.forall_mem_singleton.mpr hpath)
  · next e _ => exact .error (lines_pair hpath (isLine_pathMessage e))

/-- **The values that the schema of a file puts into words**; there are none when it has no document. -/
def Schema.askedOfFile (read : String → Except PathError (List UInt8)) (path : String) : List Value :=
  match content path (read path) >>= document .json with
  | .ok v => asked v
  | .error _ => []

/-- **A schema file whose path and texts are lines** holds a record of lines, or repeats lines
alone. -/
theorem lined_ofFile (hjson : SchemaFormat.ofPath? path = some .json) (hpath : IsLine path)
    (h : ∀ w ∈ askedOfFile read path, w.IsLined) :
    Lined (fun s => s.record.IsLined) (ofFile read path none).result := by
  simp only [ofFile, formatOf_some hjson, Outcome.bind_result, Outcome.ofExcept_result]
  have hcheck : Lined (fun _ => True) (checkPath path) := by
    unfold checkPath
    split_ifs
    · exact .error (List.forall_mem_nil _)
    · exact .ok trivial
  refine hcheck.bind fun _ _ _ => ?_
  refine (lined_content hpath _).bind fun text htext _ => lined_ofText fun v hv => ?_
  rwa [askedOfFile, htext, ok_bind, hv] at h

end Files

/-! ## Runs -/

namespace Command

variable {files : FileTree} {a : Arguments} {report : Report} {words : List String}

/-- **The text of a run whose schema file is made of lines** repeats lines alone. -/
theorem lined_text (hjson : SchemaFormat.ofPath? a.schema = some .json) (hschema : IsLine a.schema)
    (h : ∀ w ∈ Schema.askedOfFile files.read a.schema, w.IsLined) :
    Lined (fun _ => True) (a.text files.read).result := by
  rw [text_result]
  refine (lined_ofFile hjson hschema h).bind fun s _ hs => ?_
  rw [Arguments.textOf, Outcome.bind_result]
  exact (lined_derive hs).bind fun _ _ _ => lined_fault fun _ _ => trivial

/-- The texts that are repeated when there is no text of a run or when it cannot be written: those of
its failure, or the path that it is for. -/
def Arguments.repeatedFor (a : Arguments) : Except Failure String → List String
  | .ok _ => a.destination.toList
  | .error e => e.texts

/-- **The texts that the diagnosis of a failed run repeats.** -/
def Arguments.repeated (a : Arguments) (files : FileTree) : List String :=
  a.repeatedFor (a.text files.read).result

theorem isLine_unwritable (path : String) (e : PathError) :
    IsLine s!"cannot write `{path}`: {e.message}" ↔ ∀ t ∈ [path], IsLine t := by
  refine (isLine_append.trans (and_iff_left (isLine_pathMessage e))).trans (isLine_one ?_ ?_) <;>
    exact isLine_literal (by decide)

theorem errorLine_inj {d d' : String} : errorLine d = errorLine d' ↔ d = d' := by
  unfold errorLine
  rw [String.append_left_inj]
  exact String.append_right_inj _

/-- **The report tells one line**, after the prefix of errors. -/
def Report.TellsLine (report : Report) : Prop := ∃ d, IsLine d ∧ report.err = errorLine d

theorem tellsLine_iff {d : String} (h : report.err = errorLine d) : report.TellsLine ↔ IsLine d := by
  constructor
  · rintro ⟨d', hd', he⟩
    rwa [errorLine_inj.mp (h.symm.trans he)]
  · exact fun hd => ⟨d, hd, h⟩

/-- **A failed run tells one line exactly when the texts that it repeats are lines.** So it does where
the two paths and the texts that the schema puts into words are lines. -/
theorem run_single_line (hwords : Arguments.parse words = .ok a)
    (hjson : SchemaFormat.ofPath? a.schema = some .json) (hverbose : a.verbose = false)
    (hrun : (run files words).result = .ok report) (hexit : report.exit = 1) :
    (∃ d, report.err = errorLine d) ∧
      (report.TellsLine ↔ ∀ t ∈ a.repeated files, IsLine t) ∧
      (IsLine a.schema → (∀ path ∈ a.destination, IsLine path) →
        (∀ w ∈ Schema.askedOfFile files.read a.schema, w.IsLined) → report.TellsLine) := by
  have hlog (traces : List Trace) : a.log traces = "" := by
    rw [Arguments.log, if_neg (by simp [hverbose])]
  have hempty (d : String) : "" ++ errorLine d = errorLine d := String.empty_append
  rw [run_eq hwords] at hrun
  cases htext : (a.text files.read).result with
  | ok text =>
    rw [conclude_ok htext, hlog] at hrun
    rcases putOut_ok hrun with ⟨hzero, -⟩ | ⟨-, -, path, e, hpath, -, herr⟩
    · cases hexit.symm.trans hzero
    · rw [hempty] at herr
      have hrepeated : a.repeated files = [path] := by
        rw [Arguments.repeated, htext, Arguments.repeatedFor, hpath]
        rfl
      have hline := (tellsLine_iff herr).trans (isLine_unwritable path e)
      refine ⟨⟨_, herr⟩, hrepeated ▸ hline, fun _ h _ => ?_⟩
      exact hline.mpr (List.forall_mem_singleton.mpr (h path hpath))
  | error e =>
    cases hd : e.diagnosis? with
    | none =>
      obtain ⟨x, rfl⟩ := Failure.eq_fault hd
      cases (conclude_fault htext).symm.trans hrun
    | some d =>
      rw [conclude_diagnosed htext hd, hlog, hempty] at hrun
      have herr : report.err = errorLine d := by
        cases hrun
        rfl
      have hrepeated : a.repeated files = e.texts := by
        rw [Arguments.repeated, htext, Arguments.repeatedFor]
      have hline := (tellsLine_iff herr).trans (isLine_diagnosis hd)
      refine ⟨⟨d, herr⟩, hrepeated ▸ hline, fun hschema _ h => ?_⟩
      exact hline.mpr ((lined_text hjson hschema h).failure e htext)

/-- The file of a schema whose record has this name. -/
def namedTree (name : String) : FileTree :=
  .ofPaths [("s.json", .file s!"\x7b\"name\": \"{name}\"\x7d".toUTF8.toList)]

/-- The arguments of a run on that file. -/
def namedArguments : Arguments := ⟨"s.json", none, .classes, false, false⟩

theorem run_single_line_misnamed :
    Arguments.parse ["s.json"] = .ok namedArguments ∧
      SchemaFormat.ofPath? namedArguments.schema = some .json ∧ namedArguments.verbose = false ∧
      ∃ report, (run (namedTree "a b") ["s.json"]).result = .ok report ∧ report.exit = 1 ∧
        report.TellsLine := by
  have hwords : Arguments.parse ["s.json"] = .ok namedArguments := by decide +kernel
  have hjson : SchemaFormat.ofPath? namedArguments.schema = some .json := by decide +kernel
  have hrun : (run (namedTree "a b") ["s.json"]).yields (fun report => report.exit == 1) = true := by
    decide +kernel
  obtain ⟨report, hreport, hexit⟩ := Outcome.yields_iff.mp hrun
  have hone : report.exit = 1 := eq_of_beq hexit
  obtain ⟨-, -, htells⟩ := run_single_line hwords hjson rfl hreport hone
  exact ⟨hwords, hjson, rfl, report, hreport, hone,
    htells (by decide) nofun (by decide +kernel)⟩

/-- **A line feed in the name of the record breaks the line**, since the name is repeated as it is. -/
theorem name_breaks_line :
    Arguments.parse ["s.json"] = .ok namedArguments ∧
      SchemaFormat.ofPath? namedArguments.schema = some .json ∧ namedArguments.verbose = false ∧
      ∃ report, (run (namedTree "a\\nb") ["s.json"]).result = .ok report ∧ report.exit = 1 ∧
        ¬ report.TellsLine := by
  have hrun : (run (namedTree "a\\nb") ["s.json"]).result = .ok ⟨1, "",
      errorLine "Variant name `a\nb` is not a valid identifier", namedTree "a\\nb"⟩ := by
    decide +kernel
  refine ⟨by decide +kernel, by decide +kernel, rfl, _, hrun, rfl, fun h => ?_⟩
  exact absurd ((tellsLine_iff rfl).mp h) (by decide)

end Command

end RecordFamily
