import RecordFamily.Command.Run
import RecordFamily.Proofs.Outcome
import RecordFamily.Proofs.SingleLine

/-!
# Messages and the texts that they repeat

The message of an error puts literals around texts: names, annotations, keys and paths, as they stand.
The literals are lines, and so are the numbers and the descriptions between them. A message is
therefore one line exactly when the texts that it repeats are lines.

* `DerivationError.texts`, **`isLine_message`**: the texts that the message of a derivation error
  repeats, which decide whether it is one line;
* `isLine_jsonMessage`, `isLine_utf8Message`, `isLine_pathMessage`, `isLine_report`: messages that
  repeat nothing;
* `Failure.texts`, **`isLine_diagnosis`**: the same for all failures with a diagnosis;
* **`Lined`**: steps whose failures repeat lines alone;
* `Lined.bind`, `Lined.foldlM`, `Lined.mapM`, `Lined.mapError`: chains of such steps, and walks along
  a list.
-/

namespace RecordFamily

open Text

/-! ## Literals with texts between them -/

section Templates

variable {front mid mid' back s t u : String}

theorem isLine_literal {cs : List Char} (h : Unbroken cs) : IsLine (String.ofList cs) :=
  isLine_ofList.mpr h

theorem lines_pair (hs : IsLine s) (ht : IsLine t) : ∀ x ∈ [s, t], IsLine x :=
  List.forall_mem_cons.mpr ⟨hs, List.forall_mem_singleton.mpr ht⟩

theorem lines_triple (hs : IsLine s) (ht : IsLine t) (hu : IsLine u) :
    ∀ x ∈ [s, t, u], IsLine x :=
  List.forall_mem_cons.mpr ⟨hs, lines_pair ht hu⟩

theorem isLine_one (hfront : IsLine front) (hback : IsLine back) :
    IsLine (front ++ s ++ back) ↔ ∀ x ∈ [s], IsLine x := by
  simp [hfront, hback]

theorem isLine_two (hfront : IsLine front) (hmid : IsLine mid) (hback : IsLine back) :
    IsLine (front ++ s ++ mid ++ t ++ back) ↔ ∀ x ∈ [s, t], IsLine x := by
  simp [hfront, hmid, hback]

theorem isLine_three (hfront : IsLine front) (hmid : IsLine mid) (hmid' : IsLine mid')
    (hback : IsLine back) :
    IsLine (front ++ s ++ mid ++ t ++ mid' ++ u ++ back) ↔ ∀ x ∈ [s, t, u], IsLine x := by
  simp [hfront, hmid, hmid', hback, and_assoc]

theorem isLine_one_last (hfront : IsLine front) :
    IsLine (front ++ s) ↔ ∀ x ∈ [s], IsLine x := by
  simp [hfront]

theorem isLine_two_last (hfront : IsLine front) (hmid : IsLine mid) :
    IsLine (front ++ s ++ mid ++ t) ↔ ∀ x ∈ [s, t], IsLine x := by
  simp [hfront, hmid]

end Templates

/-! ## Messages that repeat nothing -/

theorem isLine_wording (c : Json.Cause) : IsLine c.wording := by
  cases c with
  | tooManyDigits count =>
    unfold Json.Cause.wording
    simp only [isLine_append]
    refine ⟨⟨⟨⟨⟨?_, isLine_nat _⟩, ?_⟩, isLine_nat _⟩, ?_⟩, ?_⟩ <;>
      exact isLine_literal (by decide)
  | _ => exact isLine_literal (by decide)

theorem isLine_jsonMessage (e : Json.Error) : IsLine e.message := by
  unfold Json.Error.message
  simp only [isLine_append]
  refine ⟨⟨⟨⟨⟨⟨⟨isLine_wording _, ?_⟩, isLine_nat _⟩, ?_⟩, isLine_nat _⟩, ?_⟩, isLine_nat _⟩, ?_⟩ <;>
    exact isLine_literal (by decide)

theorem isLine_byteText (b : UInt8) : IsLine (byteText b) := by
  have hdigit : ∀ d < 16, isLineBreak (Nat.digitChar d) = false := by decide
  have hhigh : b.toNat / 16 < 16 := by
    have hbyte := b.toNat_lt
    omega
  rw [byteText, isLine_ofList, unbroken_cons, unbroken_cons]
  exact ⟨hdigit _ hhigh, hdigit _ (Nat.mod_lt _ (by decide)), unbroken_nil⟩

theorem isLine_utf8Message (e : Utf8Error) : IsLine e.message := by
  have hreason : IsLine e.reason.wording := by
    cases e.reason <;> exact isLine_literal (by decide)
  have hbyte : IsLine s!"byte 0x{byteText e.byte} in position {e.position}" := by
    simp only [isLine_append]
    refine ⟨⟨⟨?_, isLine_byteText _⟩, ?_⟩, isLine_nat _⟩ <;> exact isLine_literal (by decide)
  have hbytes : IsLine s!"bytes in position {e.position}-{e.position + e.count - 1}" := by
    simp only [isLine_append]
    refine ⟨⟨⟨?_, isLine_nat _⟩, ?_⟩, isLine_nat _⟩ <;> exact isLine_literal (by decide)
  unfold Utf8Error.message
  simp only [isLine_append]
  refine ⟨⟨⟨isLine_literal (by decide), ?_⟩, isLine_literal (by decide)⟩, hreason⟩
  split_ifs
  · exact hbyte
  · exact hbytes

theorem isLine_pathMessage (e : PathError) : IsLine e.message := by
  cases e <;> exact isLine_literal (by decide)

theorem isLine_report (e : PathError) (path : String) : IsLine (e.report path) := by
  unfold PathError.report
  simp only [isLine_append]
  refine ⟨⟨⟨⟨⟨?_, isLine_nat _⟩, ?_⟩, isLine_pathMessage e⟩, ?_⟩, isLine_quoted path⟩ <;>
    exact isLine_literal (by decide)

/-! ## Derivation errors -/

/-- **The texts that the message of an error repeats** as they stand. -/
def DerivationError.texts : DerivationError → List String
  | emptyDirective | unnamedEntry _ | fallbacksNotMapping | schemaNotMapping | schemaUnnamed
  | optionsNotMapping | docstringNotText | entryNotMapping _ | schemaEmpty | invalidJson _
  | invalidYaml => []
  | noDirectiveName text | missingClosing text | badDecoration text | invalidVariantName text
  | undeclaredVariant text | unnamedField _ text | unnamedMapping text | duplicateVariant text
  | notList text | notTextOrList text | entryUntyped text | unsupportedFormat text
  | unknownExtension text => [text]
  | expectedString text found | expectedSeparator text found | missingArguments text found
  | invalidFieldName text found | duplicateField text found | notUtf8 text found
  | unreadable text found => [text, found]
  | unexpectedAfterName first second third | unwantedArguments first second third
  | unknownDirective first second third | conflictingDirectives first second third
  | unknownVariant first second third => [first, second, third]
  | nameCollision entries => entries

/-- **A message is one line exactly when the texts that it repeats are lines.** -/
theorem isLine_message (e : DerivationError) : IsLine e.message ↔ ∀ t ∈ e.texts, IsLine t := by
  cases e with
  | emptyDirective | fallbacksNotMapping | schemaNotMapping | schemaUnnamed | optionsNotMapping
  | docstringNotText | schemaEmpty | invalidYaml =>
    exact iff_of_true (isLine_literal (by decide)) (List.forall_mem_nil _)
  | entryNotMapping position | unnamedEntry position =>
    refine iff_of_true ((isLine_one ?_ ?_).mpr (List.forall_mem_singleton.mpr (isLine_nat position)))
      (List.forall_mem_nil _) <;> exact isLine_literal (by decide)
  | invalidJson error =>
    refine iff_of_true ((isLine_one_last ?_).mpr ?_) (List.forall_mem_nil _)
    · exact isLine_literal (by decide)
    · exact List.forall_mem_singleton.mpr (isLine_jsonMessage error)
  | unnamedField position =>
    refine isLine_one ((isLine_one ?_ ?_).mpr ?_) ?_
    · exact isLine_literal (by decide)
    · exact isLine_literal (by decide)
    · exact List.forall_mem_singleton.mpr (isLine_nat position)
    · exact isLine_literal (by decide)
  | noDirectiveName | missingClosing | badDecoration | invalidVariantName | undeclaredVariant
  | unnamedMapping | duplicateVariant | notList | notTextOrList | entryUntyped | unknownExtension =>
    refine isLine_one ?_ ?_ <;> exact isLine_literal (by decide)
  | unsupportedFormat => exact isLine_one_last (isLine_literal (by decide))
  | expectedString | expectedSeparator | missingArguments | invalidFieldName | duplicateField =>
    refine isLine_two ?_ ?_ ?_ <;> exact isLine_literal (by decide)
  | notUtf8 | unreadable => refine isLine_two_last ?_ ?_ <;> exact isLine_literal (by decide)
  | unexpectedAfterName | unwantedArguments | unknownDirective | conflictingDirectives
  | unknownVariant => refine isLine_three ?_ ?_ ?_ ?_ <;> exact isLine_literal (by decide)
  | nameCollision => exact isLine_intercalate (by decide)

/-! ## Failures -/

/-- The texts that the diagnosis of a failure repeats as they stand. -/
def Failure.texts : Failure → List String
  | derivation e => e.texts
  | missingFile path => [path]
  | fault _ | unwritable _ _ => []

/-- **A diagnosis is one line exactly when the texts that it repeats are lines.** -/
theorem isLine_diagnosis {e : Failure} {d : String} (h : e.diagnosis? = some d) :
    IsLine d ↔ ∀ t ∈ e.texts, IsLine t := by
  cases e with
  | derivation e =>
    cases h
    exact isLine_message e
  | missingFile path =>
    cases h
    exact isLine_one_last (isLine_literal (by decide))
  | unwritable path e =>
    cases h
    exact iff_of_true (isLine_report e path) (List.forall_mem_nil _)
  | fault => cases h

/-! ## Steps whose failures repeat lines -/

/-- Errors that repeat texts. -/
class Repeats (ε : Type) where
  texts : ε → List String

instance : Repeats DerivationError := ⟨DerivationError.texts⟩

instance : Repeats Failure := ⟨Failure.texts⟩

variable {α β ε : Type} [Repeats ε]

/-- **The step repeats lines alone** where it fails, and otherwise has a result with the property. -/
structure Lined (Q : α → Prop) (x : Except ε α) : Prop where
  result : ∀ a, x = .ok a → Q a
  failure : ∀ e, x = .error e → ∀ t ∈ Repeats.texts e, IsLine t

namespace Lined

variable {P : β → Prop} {Q : α → Prop} {x : Except ε α} {f : α → Except ε β}

theorem ok {a : α} (h : Q a) : Lined Q (.ok a : Except ε α) := by
  refine ⟨?_, nofun⟩
  rintro _ ⟨⟩
  exact h

theorem error {e : ε} (h : ∀ t ∈ Repeats.texts e, IsLine t) : Lined Q (.error e : Except ε α) := by
  refine ⟨nofun, ?_⟩
  rintro _ ⟨⟩
  exact h

theorem imp {Q' : α → Prop} (hx : Lined Q x) (h : ∀ a, Q a → Q' a) : Lined Q' x :=
  ⟨fun a ha => h a (hx.result a ha), hx.failure⟩

theorem bind (hx : Lined Q x) (hf : ∀ a, x = .ok a → Q a → Lined P (f a)) : Lined P (x >>= f) := by
  constructor
  · intro b hb
    obtain ⟨a, ha, hb⟩ := bind_eq_ok.mp hb
    exact (hf a ha (hx.result a ha)).result b hb
  · intro e he
    rcases bind_eq_error.mp he with he | ⟨a, ha, he⟩
    · exact hx.failure e he
    · exact (hf a ha (hx.result a ha)).failure e he

theorem map {g : α → β} (hx : Lined Q x) (h : ∀ a, Q a → P (g a)) : Lined P (x.map g) := by
  constructor
  · intro b hb
    obtain ⟨a, ha, rfl⟩ := map_eq_ok.mp hb
    exact h a (hx.result a ha)
  · intro e he
    exact hx.failure e (map_eq_error.mp he)

theorem foldlM {g : β → α → Except ε β} {as : List α} {b : β}
    (hg : ∀ a ∈ as, ∀ b, P b → Lined P (g b a)) (hb : P b) : Lined P (as.foldlM g b) := by
  induction as generalizing b with
  | nil => exact ok hb
  | cons a as ih =>
    obtain ⟨ha, has⟩ := List.forall_mem_cons.mp hg
    rw [List.foldlM_cons]
    exact (ha b hb).bind fun b' _ hb' => ih has hb'

theorem mapM {as : List α} (hf : ∀ a ∈ as, Lined P (f a)) :
    Lined (fun bs => ∀ b ∈ bs, P b) (as.mapM f) := by
  induction as with
  | nil => exact ok (List.forall_mem_nil _)
  | cons a as ih =>
    obtain ⟨ha, has⟩ := List.forall_mem_cons.mp hf
    rw [List.mapM_cons]
    exact ha.bind fun b _ hb => (ih has).bind fun bs _ hbs => ok (List.forall_mem_cons.mpr ⟨hb, hbs⟩)

theorem mapError {x : Except DerivationError α} (hx : Lined Q x) :
    Lined Q (x.mapError Failure.derivation) := by
  constructor
  · intro a ha
    exact hx.result a (mapError_eq_ok.mp ha)
  · intro f hf
    obtain ⟨e, he, rfl⟩ := mapError_eq_error.mp hf
    exact hx.failure e he

end Lined

end RecordFamily
