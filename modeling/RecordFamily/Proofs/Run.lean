import RecordFamily.Command.Run
import RecordFamily.Proofs.Document
import RecordFamily.Proofs.Pipeline

/-!
# Runs in order

A run ends in order when it leaves a report with the exit status 0 or 1: the text was put out, or one
line tells why not. Whatever bytes a schema file holds, only two things can keep a run from that: a
document that cannot be read for a fault, such as a day that is not in the calendar, and a value that
has no wording.

* `Diagnosed`: steps that fail only with a failure that a line tells of;
* `Schema.IsOrderly`, `SchemaFormat.IsOrderly`, `Schema.IsOrderlyFile`: documents, texts and files
  without these two things;
* `diagnosed_ofText`, `diagnosed_ofFile`: reading a schema fails with a diagnosis alone exactly when it
  is one of them;
* `hasWording_of_json`: in JSON there are no values without a wording;
* `Schema.MayFault`: the faults that may end the reading of a file;
* `Schema.IsWholeFile`, `SchemaFormat.holdsHalf_plain`: files without an escape that stands for half of
  a character, which no text holds, and texts without any escape;
* **`Command.run_orderly`**: a run ends in order exactly when its schema file is one of them.
-/

namespace RecordFamily

open Text

variable {α β : Type}

/-! ## Failures with a diagnosis -/

/-- A failure without a diagnosis is a fault. -/
theorem Failure.eq_fault {e : Failure} (h : e.diagnosis? = none) : ∃ x, e = .fault x := by
  cases e with
  | fault x => exact ⟨x, rfl⟩
  | derivation | missingFile | unwritable => cases h

/-- **Only a failure that a line tells of ends the step**, and no fault. -/
def Diagnosed (x : Except Failure α) : Prop := ∀ e, x = .error e → e.diagnosis?.isSome = true

namespace Diagnosed

variable {x : Except Failure α} {f : α → Except Failure β}

theorem of_controlled (h : Controlled x) : Diagnosed x := by
  intro e he
  obtain ⟨d, rfl⟩ := h e he
  rfl

theorem of_error {e : Failure} (he : e.diagnosis?.isSome = true) :
    Diagnosed (.error e : Except Failure α) := by
  rintro _ ⟨⟩
  exact he

theorem not_fault {x : Fault} : ¬ Diagnosed (.error (.fault x) : Except Failure α) :=
  fun h => nomatch h _ rfl

theorem bind_iff (hf : ∀ a, x = .ok a → Diagnosed (f a)) : Diagnosed (x >>= f) ↔ Diagnosed x := by
  cases x with
  | error e =>
    constructor
    · rintro h _ ⟨⟩
      exact h e rfl
    · rintro h _ ⟨⟩
      exact h e rfl
  | ok a => exact iff_of_true (hf a rfl) nofun

end Diagnosed

/-- A step that puts values into words fails with a diagnosis alone when they all have one. -/
theorem Asks.diagnosed_iff {ws : List Value} {x : Except Failure α} (h : Asks Controlled ws x) :
    Diagnosed x ↔ ∀ w ∈ ws, w.HasWording := by
  refine ⟨fun hx w hw => ?_, fun hws => .of_controlled (h.good hws)⟩
  by_contra hn
  rcases h.fault ⟨w, hw, hn⟩ with rfl | rfl
  · exact Diagnosed.not_fault hx
  · exact Diagnosed.not_fault hx

/-! ## Reading schemas -/

/-- What was read as a document is in order: a value whose schema has a wording for all that it puts
into words, or a failure with a diagnosis. -/
def Schema.IsOrderly : Except Failure Value → Prop
  | .ok v => ∀ w ∈ Schema.worded v, w.HasWording
  | .error e => e.diagnosis?.isSome = true

instance : (x : Except Failure Value) → Decidable (Schema.IsOrderly x)
  | .ok v => inferInstanceAs (Decidable (∀ w ∈ Schema.worded v, w.HasWording))
  | .error e => inferInstanceAs (Decidable (e.diagnosis?.isSome = true))

/-- The text is in order in a format: it has only blanks, or its document is in order. -/
def SchemaFormat.IsOrderly (f : SchemaFormat) (text : String) : Prop :=
  isAllBlank text.toList = false → Schema.IsOrderly (Schema.document f text)

instance (f : SchemaFormat) (text : String) : Decidable (f.IsOrderly text) :=
  inferInstanceAs (Decidable (isAllBlank text.toList = false → _))

/-- **The schema file is in order**: in the format that its path tells, its text is, if it has one. -/
def Schema.IsOrderlyFile (read : String → Except PathError (List UInt8)) (path : String) : Prop :=
  ∀ f bytes text, SchemaFormat.ofPath? path = some f → read path = .ok bytes →
    Schema.decode path bytes = .ok text → f.IsOrderly text

/-! ## Halves of characters -/

/-- The code point of an escape from the letter after its backslash on, if it is written out, and how
many characters it takes. -/
def escapedCode : List Char → Nat × Nat
  | 'u' :: ds => ((Json.hexValue? (ds.take 4)).getD 0, 5)
  | 'U' :: ds => ((Json.hexValue? (ds.take 8)).getD 0, 9)
  | _ => (0, 1)

/-- The code points of the text, where an escape counts as one; `skip` characters belong to the escape in
front of them. -/
def codePoints : (skip : Nat) → List Char → List Nat
  | _, [] => []
  | skip + 1, _ :: cs => codePoints skip cs
  | 0, c :: cs =>
    if c == backslash then (escapedCode cs).1 :: codePoints (escapedCode cs).2 cs
    else c.toNat :: codePoints 0 cs

/-- The code point is half of a pair that stands for one character. -/
def isHalf (n : Nat) : Bool := Json.isHighHalf n || Json.isLowHalf n

/-- Some half is not beside its other half. -/
def holdsLoneHalf : List Nat → Bool
  | [] => false
  | [n] => isHalf n
  | n :: m :: ns =>
    if Json.isHighHalf n && Json.isLowHalf m then holdsLoneHalf ns
    else isHalf n || holdsLoneHalf (m :: ns)

/-- The text writes half of a character: in JSON by an escape without its other half, and in YAML, which
does not join halves, by any such escape. -/
def SchemaFormat.holdsHalf (f : SchemaFormat) (text : String) : Bool :=
  match f with
  | .json => holdsLoneHalf (codePoints 0 text.toList)
  | .yaml => (codePoints 0 text.toList).any isHalf

theorem isHalf_toNat (c : Char) : isHalf c.toNat = false := by
  have hvalid : c.toNat < 0xd800 ∨ 0xdfff < c.toNat ∧ c.toNat < 0x110000 := c.valid
  simp only [isHalf, Json.isHighHalf, Json.isLowHalf, Bool.or_eq_false_iff, Bool.and_eq_false_iff,
    decide_eq_false_iff_not]
  omega

theorem codePoints_plain {cs : List Char} (h : backslash ∉ cs) :
    codePoints 0 cs = cs.map Char.toNat := by
  induction cs with
  | nil => rfl
  | cons c cs ih =>
    rw [List.mem_cons, not_or] at h
    have hc : ¬ (c == backslash) = true := fun he => h.1 (beq_iff_eq.mp he).symm
    rw [codePoints, if_neg hc, ih h.2, List.map_cons]

theorem holdsLoneHalf_eq_false {ns : List Nat} (h : ∀ n ∈ ns, isHalf n = false) :
    holdsLoneHalf ns = false := by
  fun_induction holdsLoneHalf ns with
  | case1 => rfl
  | case2 n => exact h n List.mem_cons_self
  | case3 n m ns _ ih =>
    exact ih fun k hk => h k (List.mem_cons_of_mem _ (List.mem_cons_of_mem _ hk))
  | case4 n m ns _ ih =>
    rw [h n List.mem_cons_self, ih fun k hk => h k (List.mem_cons_of_mem _ hk)]
    rfl

/-- **A text without a backslash writes whole characters**, in either format. -/
theorem SchemaFormat.holdsHalf_plain (f : SchemaFormat) {text : String}
    (h : backslash ∉ text.toList) : f.holdsHalf text = false := by
  have hwhole : ∀ n ∈ codePoints 0 text.toList, isHalf n = false := by
    rw [codePoints_plain h]
    exact List.forall_mem_map.mpr fun c _ => isHalf_toNat c
  cases f with
  | json => exact holdsLoneHalf_eq_false hwhole
  | yaml => exact List.any_eq_false.mpr fun n hn => by simp [hwhole n hn]

/-- **The schema file writes whole characters**: no escape in its text, if it has one, stands for half
of a character. -/
def Schema.IsWholeFile (read : String → Except PathError (List UInt8)) (path : String) : Prop :=
  ∀ f bytes text, SchemaFormat.ofPath? path = some f → read path = .ok bytes →
    Schema.decode path bytes = .ok text → f.holdsHalf text = false

namespace Schema

theorem isTidy_document {f : SchemaFormat} {text : String} {v : Value} (h : document f text = .ok v) :
    v.isTidy = true := by
  cases f with
  | json => exact Value.isTidy_of_isJson v (Json.isReadable_of_read (mapError_eq_ok.mp h)).isJson
  | yaml => exact Yaml.isTidy_of_read (mapError_eq_ok.mp h)

theorem ofWord?_word (f : SchemaFormat) : SchemaFormat.ofWord? f.word = some f := by
  cases f <;> rfl

theorem ofText_result (f : SchemaFormat) {text : String} (h : isAllBlank text.toList = false) :
    (ofText text f.word).result = document f text >>= fun v => (ofValue v).result := by
  rw [ofText, if_neg (by simp [h])]
  simp only [ofWord?_word, Outcome.bind_result, Outcome.ofExcept_result]

/-- **Reading the schema of a text fails with a diagnosis alone exactly when the text is in order.** -/
theorem diagnosed_ofText (f : SchemaFormat) (text : String) :
    Diagnosed (ofText text f.word).result ↔ f.IsOrderly text := by
  unfold SchemaFormat.IsOrderly
  cases hblank : isAllBlank text.toList with
  | true =>
    rw [ofText, if_pos hblank]
    exact iff_of_true (.of_error rfl) nofun
  | false =>
    rw [ofText_result f hblank, forall_prop_of_true rfl]
    cases hv : document f text with
    | error e => exact ⟨fun h => h e rfl, fun h => .of_error h⟩
    | ok v => exact (asks_worded (isTidy_document hv)).diagnosed_iff

/-- The faults of JSON documents: a whole number that is too long, or arrays and objects too deep. -/
theorem fault_of_json {text : String} {x : Fault} (h : document .json text = .error (.fault x)) :
    x = .tooDeep ∨ ∃ count, x = .badValue (Json.Cause.tooManyDigits count).wording := by
  obtain ⟨e, _, he⟩ := mapError_eq_error.mp h
  obtain ⟨cause, _, _, _⟩ := e
  cases cause with
  | tooManyDigits count =>
    cases he
    exact .inr ⟨count, rfl⟩
  | tooDeep =>
    cases he
    exact .inl rfl
  | _ => cases he

/-- The faults of YAML documents. A text that is no YAML is refused and no fault. -/
theorem fault_of_yaml {text : String} {x : Fault} (h : document .yaml text = .error (.fault x)) :
    Yaml.read text = .error x ∧ x ≠ .invalidYaml := by
  obtain ⟨y, hy, he⟩ := mapError_eq_error.mp h
  cases y with
  | invalidYaml | invalidJson => cases he
  | _ =>
    cases he
    exact ⟨hy, nofun⟩

/-- A schema in JSON has a wording for all that it puts into words. -/
theorem hasWording_of_json {text : String} {v : Value} (h : document .json text = .ok v) :
    ∀ w ∈ worded v, w.HasWording := by
  have hread := mapError_eq_ok.mp h
  have hjson := (Json.isReadable_of_read hread).isJson
  rw [worded_of_isJson hjson]
  exact hasWording_asked hjson (Json.hasWording_of_read hread)

/-- A fault of a text is one of its document, or in YAML that of a value without a wording. -/
theorem fault_of_text {f : SchemaFormat} {text : String} {x : Fault}
    (h : (ofText text f.word).result = .error (.fault x)) :
    document f text = .error (.fault x) ∨ f = .yaml ∧ (x = .tooDeep ∨ x = .numberTooLong) := by
  cases hblank : isAllBlank text.toList with
  | true =>
    rw [ofText, if_pos hblank] at h
    cases h
  | false =>
    rw [ofText_result f hblank] at h
    rcases bind_eq_error.mp h with hd | ⟨v, hv, hs⟩
    · exact .inl hd
    · have hasks := asks_worded (isTidy_document hv)
      by_cases hw : ∀ w ∈ worded v, w.HasWording
      · obtain ⟨d, hd⟩ := hasks.good hw _ hs
        cases hd
      · -- Some value has no wording, and that does not happen in JSON.
        have hyaml : f = .yaml := by
          cases f with
          | json => exact absurd (hasWording_of_json hv) hw
          | yaml => rfl
        rcases hasks.fault (by simpa using hw) with hx | hx
        · cases hs.symm.trans hx
          exact .inr ⟨hyaml, .inl rfl⟩
        · cases hs.symm.trans hx
          exact .inr ⟨hyaml, .inr rfl⟩

section File

variable {read : String → Except PathError (List UInt8)} {path : String}

/-- The text of a file fails with a diagnosis alone. -/
theorem diagnosed_content (path : String) (r : Except PathError (List UInt8)) :
    Diagnosed (content path r) := by
  cases r with
  | ok bytes =>
    rw [content]
    cases decode path bytes with
    | ok text => exact nofun
    | error e => exact .of_error rfl
  | error e => cases e <;> exact .of_error rfl

theorem content_ok {r : Except PathError (List UInt8)} {text : String} :
    content path r = .ok text ↔ ∃ bytes, r = .ok bytes ∧ decode path bytes = .ok text := by
  cases r with
  | ok bytes => simp [content, mapError_eq_ok]
  | error e => cases e <;> simp [content]

theorem formatOf_some {f : SchemaFormat} (hf : SchemaFormat.ofPath? path = some f) :
    formatOf path none = .ok f.word := by
  unfold formatOf
  rw [hf]

theorem formatOf_none (hf : SchemaFormat.ofPath? path = none) :
    formatOf path none = .error (.unknownExtension path) := by
  unfold formatOf
  rw [hf]

theorem ofFile_result {f : SchemaFormat} (hf : SchemaFormat.ofPath? path = some f)
    (hpath : checkPath path = .ok ()) : (ofFile read path none).result =
      content path (read path) >>= fun text => (ofText text f.word).result := by
  simp only [ofFile, formatOf_some hf, hpath, Outcome.bind_result, Outcome.ofExcept_result]
  rfl

theorem ofFile_refused (hf : SchemaFormat.ofPath? path = none) :
    (ofFile read path none).result = .error (.derivation (.unknownExtension path)) := by
  simp only [ofFile, formatOf_none hf, Outcome.bind_result, Outcome.ofExcept_result]
  rfl

/-- What is said of the text of a file, if it has one, is said of this text. -/
theorem forall_text_iff {P : SchemaFormat → String → Prop} {f : SchemaFormat} {bytes : List UInt8}
    {text : String} (hf : SchemaFormat.ofPath? path = some f) (hr : read path = .ok bytes)
    (ht : decode path bytes = .ok text) :
    (∀ f bytes text, SchemaFormat.ofPath? path = some f → read path = .ok bytes →
      decode path bytes = .ok text → P f text) ↔ P f text := by
  refine ⟨fun h => h f bytes text hf hr ht, fun h f' bytes' text' hf' hr' ht' => ?_⟩
  cases hf.symm.trans hf'
  cases hr.symm.trans hr'
  cases ht.symm.trans ht'
  exact h

theorem isOrderlyFile_iff {f : SchemaFormat} {bytes : List UInt8} {text : String}
    (hf : SchemaFormat.ofPath? path = some f) (hr : read path = .ok bytes)
    (ht : decode path bytes = .ok text) : IsOrderlyFile read path ↔ f.IsOrderly text :=
  forall_text_iff hf hr ht

theorem isWholeFile_iff {f : SchemaFormat} {bytes : List UInt8} {text : String}
    (hf : SchemaFormat.ofPath? path = some f) (hr : read path = .ok bytes)
    (ht : decode path bytes = .ok text) : IsWholeFile read path ↔ f.holdsHalf text = false :=
  forall_text_iff hf hr ht

/-- **Reading the schema of a file fails with a diagnosis alone exactly when the file is in order.** -/
theorem diagnosed_ofFile (hpath : checkPath path = .ok ()) :
    Diagnosed (ofFile read path none).result ↔ IsOrderlyFile read path := by
  cases hf : SchemaFormat.ofPath? path with
  | none =>
    rw [ofFile_refused hf]
    exact iff_of_true (.of_error rfl) fun f _ _ hf' => nomatch hf.symm.trans hf'
  | some f =>
    rw [ofFile_result hf hpath]
    cases hc : content path (read path) with
    | error e =>
      -- Without a text there is nothing to be out of order.
      refine iff_of_true (.of_error (diagnosed_content path _ e hc)) fun _ bytes text _ hr ht => ?_
      cases hc.symm.trans (content_ok.mpr ⟨bytes, hr, ht⟩)
    | ok text =>
      obtain ⟨bytes, hr, ht⟩ := content_ok.mp hc
      rw [ok_bind, diagnosed_ofText, isOrderlyFile_iff hf hr ht]

variable (read path) in
/-- **The faults in which the reading of a schema file may end.** In JSON arrays and objects may stand
too deep, and a whole number may be too long to be read. In YAML the document may have another fault
than that the text is no YAML, such as a scalar in the shape of a day that the calendar does not have,
and a value may be too deep or hold a whole number that is too long to be put into words. -/
inductive MayFault : Fault → Prop where
  | jsonDepth (hformat : SchemaFormat.ofPath? path = some .json) : MayFault .tooDeep
  | jsonDigits (hformat : SchemaFormat.ofPath? path = some .json) (count : Nat) :
      MayFault (.badValue (Json.Cause.tooManyDigits count).wording)
  | yaml (hformat : SchemaFormat.ofPath? path = some .yaml) {bytes : List UInt8} {text : String}
      {x : Fault} (hbytes : read path = .ok bytes) (htext : decode path bytes = .ok text)
      (hx : x ≠ .invalidYaml) (h : Yaml.read text = .error x) : MayFault x
  | yamlDepth (hformat : SchemaFormat.ofPath? path = some .yaml) : MayFault .tooDeep
  | yamlDigits (hformat : SchemaFormat.ofPath? path = some .yaml) : MayFault .numberTooLong

/-- Only such a fault ends the reading of a schema file. -/
theorem mayFault_of_file {x : Fault} (hpath : checkPath path = .ok ())
    (h : (ofFile read path none).result = .error (.fault x)) : MayFault read path x := by
  cases hf : SchemaFormat.ofPath? path with
  | none =>
    rw [ofFile_refused hf] at h
    cases h
  | some f =>
    rw [ofFile_result hf hpath] at h
    rcases bind_eq_error.mp h with hc | ⟨text, hc, ht⟩
    · exact absurd (diagnosed_content path _ _ hc) nofun
    · obtain ⟨bytes, hr, hd⟩ := content_ok.mp hc
      rcases fault_of_text ht with hx | ⟨rfl, rfl | rfl⟩
      · cases f with
        | json =>
          rcases fault_of_json hx with rfl | ⟨count, rfl⟩
          · exact .jsonDepth hf
          · exact .jsonDigits hf count
        | yaml =>
          obtain ⟨hy, hne⟩ := fault_of_yaml hx
          exact .yaml hf hr hd hne hy
      · exact .yamlDepth hf
      · exact .yamlDigits hf

end File

end Schema

/-! ## Runs -/

namespace Command

/-- **The run ends in order**: it leaves a report with the exit status 0 or 1. -/
def EndsInOrder (x : Outcome Report) : Prop :=
  ∃ report, x.result = .ok report ∧ (report.exit = 0 ∨ report.exit = 1)

variable {files : FileTree} {a : Arguments}

/-- The text that a run makes of its schema. -/
def Arguments.textOf (a : Arguments) (s : Schema) : Outcome String := do
  let family ← s.record.derive (a.options s.options)
  Outcome.ofExcept ((family.render a.format).mapError Failure.fault)

theorem text_result (a : Arguments) (read : String → Except PathError (List UInt8)) :
    (a.text read).result = (Schema.ofFile read a.schema none).result >>= fun s =>
      (a.textOf s).result := by
  rw [Arguments.text, Outcome.bind_result]
  rfl

/-- What comes after reading the schema of a run is under control. -/
theorem controlled_textOf (a : Arguments) (s : Schema) : Controlled (a.textOf s).result := by
  refine Outcome.controlled_bind (controlled_derive _ _) fun F hF => ?_
  exact .of_succeeds ((lookUpsSucceed.rendered s.record _ F hF a.format).mapError _)

/-- Putting a text out ends with the exit status 0, or with 1 when the file cannot be written. -/
theorem endsInOrder_putOut (files : FileTree)
    (hout : ∀ path ∈ a.destination, checkPath path = .ok ()) (log text : String) :
    ∃ report, putOut files a log text = .ok report ∧ (report.exit = 0 ∨ report.exit = 1) := by
  unfold putOut
  cases hd : a.destination with
  | none => exact ⟨_, rfl, .inl rfl⟩
  | some path =>
    simp only [hout path hd]
    cases files.write path text.toUTF8.toList with
    | ok files => exact ⟨_, rfl, .inl rfl⟩
    | error e => exact ⟨_, rfl, .inr rfl⟩

theorem conclude_ok {out : Outcome String} {text : String} (h : out.result = .ok text) :
    conclude files a out = putOut files a (a.log out.traces) text := by
  simp only [conclude, h]

theorem conclude_diagnosed {out : Outcome String} {e : Failure} {diagnosis : String}
    (h : out.result = .error e) (hd : e.diagnosis? = some diagnosis) : conclude files a out =
      .ok ⟨1, "", a.log out.traces ++ errorLine diagnosis, files⟩ := by
  simp only [conclude, h, hd]

theorem conclude_fault {out : Outcome String} {x : Fault} (h : out.result = .error (.fault x)) :
    conclude files a out = .error (.fault x) := by
  simp only [conclude, h, Failure.diagnosis?]

section Words

variable {words : List String} (hwords : Arguments.parse words = .ok a)

include hwords

theorem run_eq : (run files words).result = conclude files a (a.text files.read) := by
  rw [run, hwords]

/-- A run ends in order when its text has a diagnosis, if it fails. -/
theorem endsInOrder_iff (hout : ∀ path ∈ a.destination, checkPath path = .ok ()) :
    EndsInOrder (run files words) ↔ Diagnosed (a.text files.read).result := by
  unfold EndsInOrder
  rw [run_eq hwords]
  cases htext : (a.text files.read).result with
  | ok text =>
    rw [conclude_ok htext]
    exact iff_of_true (endsInOrder_putOut files hout _ _) nofun
  | error e =>
    cases hd : e.diagnosis? with
    | some diagnosis =>
      rw [conclude_diagnosed htext hd]
      exact iff_of_true ⟨_, rfl, .inr rfl⟩ (.of_error (by rw [hd]; rfl))
    | none =>
      obtain ⟨x, rfl⟩ := Failure.eq_fault hd
      rw [conclude_fault htext]
      exact iff_of_false (fun ⟨_, h, _⟩ => nomatch h) Diagnosed.not_fault

/-- What escapes from a run is a fault of reading its schema. -/
theorem fault_of_run (hout : ∀ path ∈ a.destination, checkPath path = .ok ()) {e : Failure}
    (h : (run files words).result = .error e) :
    ∃ x, e = .fault x ∧ (Schema.ofFile files.read a.schema none).result = .error (.fault x) := by
  rw [run_eq hwords] at h
  cases htext : (a.text files.read).result with
  | ok text =>
    rw [conclude_ok htext] at h
    obtain ⟨_, hput, _⟩ := endsInOrder_putOut files hout (a.log (a.text files.read).traces) text
    cases h.symm.trans hput
  | error d =>
    cases hd : d.diagnosis? with
    | some diagnosis => cases h.symm.trans (conclude_diagnosed htext hd)
    | none =>
      obtain ⟨x, rfl⟩ := Failure.eq_fault hd
      cases h.symm.trans (conclude_fault htext)
      refine ⟨x, rfl, ?_⟩
      rw [text_result] at htext
      rcases bind_eq_error.mp htext with hf | ⟨s, _, hs⟩
      · exact hf
      · obtain ⟨_, he⟩ := controlled_textOf a s _ hs
        cases he

/-- **A run ends in order exactly when its schema file is in order**, and so does the reading of that
file. Whatever bytes it holds, only one of a few faults escapes. Files that write half of a character are
left out, since a text cannot hold it. -/
theorem run_orderly (hschema : checkPath a.schema = .ok ())
    (_hwhole : Schema.IsWholeFile files.read a.schema)
    (hout : ∀ path ∈ a.destination, checkPath path = .ok ()) :
    (EndsInOrder (run files words) ↔ Schema.IsOrderlyFile files.read a.schema) ∧
      (Diagnosed (Schema.ofFile files.read a.schema none).result ↔
        Schema.IsOrderlyFile files.read a.schema) ∧
      ∀ e, (run files words).result = .error e →
        ∃ x, e = .fault x ∧ Schema.MayFault files.read a.schema x := by
  have hfile : Diagnosed (Schema.ofFile files.read a.schema none).result ↔
      Schema.IsOrderlyFile files.read a.schema := Schema.diagnosed_ofFile hschema
  have htext : Diagnosed (a.text files.read).result ↔
      Diagnosed (Schema.ofFile files.read a.schema none).result := by
    rw [text_result]
    exact Diagnosed.bind_iff fun s _ => .of_controlled (controlled_textOf a s)
  refine ⟨(endsInOrder_iff hwords hout).trans (htext.trans hfile), hfile, fun e he => ?_⟩
  obtain ⟨x, rfl, hx⟩ := fault_of_run hwords hout he
  exact ⟨x, rfl, Schema.mayFault_of_file hschema hx⟩

end Words

/-- A schema whose two fields are one and the same mapping. -/
def sharedText : String := "name: Note\nfields: [&f \x7bname: body, type: str\x7d, *f]\n"

/-- The file of that schema. -/
def sharedTree : FileTree := .ofPaths [("s.yaml", .file sharedText.toUTF8.toList)]

/-- The arguments of a strict run on that file. -/
def sharedArguments : Arguments := ⟨"s.yaml", none, .json, true, false⟩

theorem run_orderly_shared :
    Arguments.parse ["--strict", "-f", "json", "s.yaml"] = .ok sharedArguments ∧
      checkPath sharedArguments.schema = .ok () ∧
      Schema.IsWholeFile sharedTree.read sharedArguments.schema ∧
      (∀ path ∈ sharedArguments.destination, checkPath path = .ok ()) ∧
      EndsInOrder (run sharedTree ["--strict", "-f", "json", "s.yaml"]) := by
  have hwords : Arguments.parse ["--strict", "-f", "json", "s.yaml"] = .ok sharedArguments := by
    decide +kernel
  have hschema : checkPath sharedArguments.schema = .ok () := by decide +kernel
  have hout : ∀ path ∈ sharedArguments.destination, checkPath path = .ok () := nofun
  have hformat : SchemaFormat.ofPath? sharedArguments.schema = some .yaml := by decide +kernel
  have hread : sharedTree.read sharedArguments.schema = .ok sharedText.toUTF8.toList := by
    decide +kernel
  have htext : Schema.decode sharedArguments.schema sharedText.toUTF8.toList = .ok sharedText := by
    decide +kernel
  have hwhole : Schema.IsWholeFile sharedTree.read sharedArguments.schema :=
    (Schema.isWholeFile_iff hformat hread htext).mpr (SchemaFormat.holdsHalf_plain _ (by decide +kernel))
  have horderly : Schema.IsOrderlyFile sharedTree.read sharedArguments.schema :=
    (Schema.isOrderlyFile_iff hformat hread htext).mpr (by decide +kernel)
  exact ⟨hwords, hschema, hwhole, hout, (run_orderly hwords hschema hwhole hout).1.mpr horderly⟩

/-- A file whose schema has a name in the shape of a day, in a month that the calendar does not have. -/
def calendarTree : FileTree := .ofPaths [("s.yaml", .file "name: 2024-13-01\n".toUTF8.toList)]

/-- A day that is not in the calendar escapes from a run. -/
theorem run_impossible_day :
    (run calendarTree ["s.yaml"]).result = .error (.fault (.badValue "month must be in 1..12")) ∧
      ¬ EndsInOrder (run calendarTree ["s.yaml"]) := by
  have hrun : (run calendarTree ["s.yaml"]).result =
      .error (.fault (.badValue "month must be in 1..12")) := by
    decide +kernel
  refine ⟨hrun, ?_⟩
  rintro ⟨report, hreport, -⟩
  cases hrun.symm.trans hreport

end Command

end RecordFamily
