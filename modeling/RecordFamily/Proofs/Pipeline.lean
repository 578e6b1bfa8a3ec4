import RecordFamily.Proofs.Schema
import RecordFamily.Proofs.Validity

/-!
# From a schema to a text

A schema is read, its family derived, and the family put out. On the way only what is put into words
can get out of control.

* `Schema.compile`: the text that comes of a schema;
* `LookUpsSucceed`, `lookUpsSucceed`: what is looked up on the way is there;
* **`compile_controlled`**: a schema ends with a text or a derivation error exactly when all that it
  puts into words has a wording.
-/

namespace RecordFamily

open Text

/-- **The text that comes of the schema in a value.** -/
def Schema.compile (v : Value) (format : OutputFormat) : Outcome String := do
  let schema ← Schema.ofValue v
  let family ← schema.record.derive schema.options
  Outcome.ofExcept ((family.render format).mapError Failure.fault)

/-! ## Look-ups -/

/-- The decorations that were routed are for registered variants. -/
theorem contains_of_routed {R : Registry String} {notes : List String} {routing : Routing String}
    (h : notes.foldlM (Routing.add R) {} = .ok routing) :
    ∀ d ∈ routing.targeted, R.contains d.1 = true := by
  refine foldlM_invariant (P := fun routing => ∀ d ∈ routing.targeted, R.contains d.1 = true)
    (fun routing note routing' hr he => ?_) (by simp) h
  unfold Routing.add at he
  -- Only a decoration directive adds a target, and only a registered one.
  split at he
  · cases he
    exact hr
  · split_ifs at he
    · obtain ⟨d, _, he⟩ := bind_eq_ok.mp he
      split at he
      · cases he
      · split_ifs at he with hc
        cases he
        exact List.forall_mem_append.mpr ⟨hr, List.forall_mem_singleton.mpr hc⟩
    · cases he
      exact hr

/-- **What is looked up on the way from a schema to a text is there.** -/
structure LookUpsSucceed : Prop where
  /-- An annotation that holds more than blanks has a first token. -/
  token : ∀ text : String, isAllBlank text.toList = false → Token.scan (trim text.toList) ≠ []
  /-- Only blanks are reported as an empty annotation. -/
  empty : ∀ text, Directive.parse text = .error .emptyDirective ↔ isAllBlank text.toList = true
  /-- An annotation that is sorted as a directive of a field is a known one. -/
  word : ∀ text d, Directive.isIn fieldWords text = true → Directive.parse text = .ok d →
    ∃ word, FieldDirective.ofName? d.name = some word
  /-- The inclusion directive of a field makes a kind of rule. -/
  kind : ∀ (field : String) (notes : List String) draft d,
    notes.foldlM (RuleDraft.add field) {} = .ok draft → draft.inclusion = some d →
      ∃ word kind, FieldDirective.ofName? d.name = some word ∧ word.ruleKind? = some kind
  /-- An annotation that is sorted as a directive of a record decorates a variant. -/
  decoration : ∀ text d, Directive.isIn recordWords text = true → Directive.parse text = .ok d →
    d.name = decorationWord
  /-- A decorated variant is registered. -/
  decorated : ∀ (R : Registry String) (notes : List String) routing,
    notes.foldlM (Routing.add R) {} = .ok routing → ∀ d ∈ routing.targeted, R.contains d.1 = true
  /-- The fields that a conversion has as arguments are fields of its target. -/
  arguments : ∀ S T : Variant, Succeeds (conversionsBetween S T)
  /-- The targets, the fallbacks and the names of a derived family are there. -/
  family : ∀ (r : Record) (o : Options) F, (r.derive o).result = .ok F → F.Resolves
  /-- A derived family has a text in every format. -/
  rendered : ∀ (r : Record) (o : Options) F, (r.derive o).result = .ok F →
    ∀ format, Succeeds (F.render format)

theorem lookUpsSucceed : LookUpsSucceed where
  token text h hs := by
    rw [scan_trim_eq_nil.mp hs] at h
    cases h
  empty _ := Directive.parse_emptyDirective
  word _ _ := Directive.exists_word
  kind _ _ _ d h := RuleDraft.foldlM_classified h d
  decoration _ _ := Directive.name_decoration
  decorated _ _ _ := contains_of_routed
  arguments := succeeds_conversionsBetween
  family r o F h := by
    obtain ⟨R, ss, h⟩ := derive_ok.mp h
    exact h.resolves
  rendered r o F h format := by
    obtain ⟨R, ss, h⟩ := derive_ok.mp h
    exact h.resolves.succeeds_render format

/-! ## The whole way -/

/-- What comes after reading a schema is under control. -/
theorem asks_compile {v : Value} (h : v.isJson = true) (format : OutputFormat) :
    Asks Controlled (Schema.asked v) (Schema.compile v format).result := by
  rw [Schema.compile, Outcome.bind_result]
  refine (asks_schema h).before fun hs => hs.bind fun s _ => ?_
  refine Outcome.controlled_bind (controlled_derive _ _) fun F hF => ?_
  exact .of_succeeds ((lookUpsSucceed.rendered s.record s.options F hF format).mapError _)

/-- **A schema ends with a text or a derivation error exactly when all that it puts into words has a
wording.** Nothing else gets out of control, and what is looked up on the way is there. -/
theorem compile_controlled {v : Value} (h : v.isJson = true) (format : OutputFormat) :
    (Controlled (Schema.compile v format).result ↔ ∀ w ∈ Schema.asked v, w.HasWording) ∧
      (∀ e, (Schema.compile v format).result = .error e →
        (∃ d, e = .derivation d) ∨ e = .fault .tooDeep ∨ e = .fault .numberTooLong) ∧
      LookUpsSucceed := by
  have hasks := asks_compile h format
  refine ⟨hasks.controlled_iff, fun e he => ?_, lookUpsSucceed⟩
  by_cases hw : ∀ w ∈ Schema.asked v, w.HasWording
  · exact .inl (hasks.good hw e he)
  · refine .inr ?_
    rcases hasks.fault (by simpa using hw) with hf | hf
    · exact .inl (Except.error.inj (he.symm.trans hf))
    · exact .inr (Except.error.inj (he.symm.trans hf))

/-- A schema that holds other values where texts are expected. -/
def oddSchema : Value := .record [
  ("name", .text "Note"),
  ("variants", .list [.text "Draft", .null]),
  ("fields", .list [.record [("name", .text "size"), ("type", .list [.int 1, .bool true])]]),
  ("options", .record [("fallbacks", .record [("int", .int 7)])])]

theorem compile_controlled_odd : oddSchema.isJson = true ∧
    (∀ w ∈ Schema.asked oddSchema, w.HasWording) ∧
      Controlled (Schema.compile oddSchema .classes).result :=
  ⟨rfl, by decide +kernel, (compile_controlled rfl .classes).1.mpr (by decide +kernel)⟩

/-- A schema whose name is a natural number. -/
def numberedSchema (n : Nat) : Value := .record [("name", .int (.ofNat n))]

/-- The first number that is too long to be written gets out of control. -/
theorem compile_long_number : (numberedSchema Value.longNumber).isJson = true ∧
    (Schema.compile (numberedSchema Value.longNumber) .classes).result =
      .error (.fault .numberTooLong) := by
  decide +kernel

end RecordFamily
