import RecordFamily.Proofs.Grammar

/-!
# Writing directives

Any texts can be the arguments of a directive: between the marks of its literal a text has a backslash
in front of each backslash and of each mark. Such a directive is read back with the texts as they
were, whichever marks they stand between and whatever blanks part them.

* `guarded`, `unquote_guarded`: a text between two marks, and the text that it stands for;
* `WrittenArgument`, `WrittenCall`: a directive with arguments, and how it is written;
* `spellsArguments_listed`: the text between its parentheses spells its arguments;
* **`parse_written`**: it is read back.
-/

namespace RecordFamily

open Text

/-! ## Texts between marks -/

/-- The text with a backslash in front of each backslash and of each `mark`. -/
def guarded (mark : Char) : List Char → List Char
  | [] => []
  | c :: cs =>
    if c == mark || c == backslash then backslash :: c :: guarded mark cs else c :: guarded mark cs

theorem isInside_guarded (mark : Char) (cs : List Char) : IsInside mark (guarded mark cs) := by
  induction cs with
  | nil => exact .nil
  | cons c cs ih =>
    rw [guarded]
    split_ifs with hc
    · exact .escaped c ih
    · simp only [Bool.or_eq_true, beq_iff_eq, not_or] at hc
      exact .plain hc.1 hc.2 ih

theorem unquote_escaped {c : Char} (hc : c ≠ '\n') (cs : List Char) :
    unquote (backslash :: c :: cs) = c :: unquote cs := by
  simp [unquote, hc]

theorem unquote_plain {c : Char} (hc : c ≠ backslash) (cs : List Char) :
    unquote (c :: cs) = c :: unquote cs := by
  cases cs <;> simp [unquote, hc]

/-- **A text is what it stands for between marks.** -/
theorem unquote_guarded {mark : Char} (hmark : mark ≠ '\n') (cs : List Char) :
    unquote (guarded mark cs) = cs := by
  induction cs with
  | nil => rfl
  | cons c cs ih =>
    rw [guarded]
    split_ifs with hc
    · -- Only a mark or a backslash is escaped, and none of them is a line feed.
      have hne : c ≠ '\n' := by
        rcases Bool.or_eq_true_iff.mp hc with hc | hc
        · rwa [beq_iff_eq.mp hc]
        · rw [beq_iff_eq.mp hc]
          decide
      rw [unquote_escaped hne, ih]
    · simp only [Bool.or_eq_true, beq_iff_eq, not_or] at hc
      rw [unquote_plain hc.2, ih]

/-! ## Written directives -/

/-- A text of blanks. -/
abbrev Blanks := { cs : List Char // isAllBlank cs = true }

/-- A text that is an argument, the mark of its literal, and the blanks around it. -/
structure WrittenArgument where
  text : String
  mark : Char
  isMark : isLiteralMark mark = true
  before : Blanks
  after : Blanks

/-- The argument as it is written. -/
def WrittenArgument.chars (a : WrittenArgument) : List Char :=
  a.before.1 ++ (a.mark :: guarded a.mark a.text.toList ++ a.mark :: a.after.1)

/-- The arguments with commas between them. With `comma` one more comma follows the last argument. The
blanks stand after that comma, or alone when there is no argument. -/
def listedArguments (comma : Bool) (blanks : Blanks) : List WrittenArgument → List Char
  | [] => blanks.1
  | [a] => if comma then a.chars ++ ',' :: blanks.1 else a.chars
  | a :: b :: rest => a.chars ++ ',' :: listedArguments comma blanks (b :: rest)

/-- A directive with arguments, and how it is written. -/
structure WrittenCall where
  name : List Char
  isWord : isWord name = true
  args : List WrittenArgument
  /-- A comma follows the last argument. -/
  comma : Bool
  before : Blanks
  /-- The blanks in front of the opening parenthesis. -/
  gap : Blanks
  /-- The blanks after the last comma, or alone between the parentheses. -/
  inside : Blanks
  after : Blanks

/-- The directive as it is written. -/
def WrittenCall.text (c : WrittenCall) : String :=
  String.ofList (c.before.1 ++ (c.name ++ c.gap.1 ++
    '(' :: listedArguments c.comma c.inside c.args ++ ')' :: c.after.1))

theorem newline_not_isLiteralMark {mark : Char} (h : isLiteralMark mark = true) : mark ≠ '\n' := by
  rintro rfl
  exact absurd h (by decide)

theorem WrittenArgument.spells (a : WrittenArgument) :
    SpellsLiteral a.chars a.mark (guarded a.mark a.text.toList) :=
  ⟨a.isMark, isInside_guarded _ _, a.before.1, a.after.1, a.before.2, a.after.2, rfl⟩

theorem WrittenArgument.unquote_eq (a : WrittenArgument) :
    String.ofList (unquote (guarded a.mark a.text.toList)) = a.text := by
  rw [unquote_guarded (newline_not_isLiteralMark a.isMark), String.ofList_toList]

/-- **The text between the parentheses spells the arguments.** -/
theorem spellsArguments_listed (comma : Bool) (blanks : Blanks) (args : List WrittenArgument) :
    SpellsArguments (listedArguments comma blanks args) (args.map WrittenArgument.text) := by
  induction args with
  | nil => exact .none blanks.2
  | cons a args ih =>
    rw [List.map_cons, ← a.unquote_eq]
    cases args with
    | nil =>
      cases comma with
      | false => exact .last a.spells
      | true => exact .more a.spells ih
    | cons b args => exact .more a.spells ih

namespace Directive

/-- **A written directive is read back**, with its arguments as they were. -/
theorem parse_written (c : WrittenCall) : parse c.text =
    .ok ⟨String.ofList c.name, c.args.map WrittenArgument.text, true, trimmed c.text⟩ :=
  parse_of_spells (.call c.before.2 c.isWord c.gap.2
    (spellsArguments_listed c.comma c.inside c.args) c.after.2 String.toList_ofList)

/-- A call with both marks and backslashes in its texts, the last of them an empty one, between blanks and
with a comma at the end. -/
def guardedCall : WrittenCall where
  name := ['n', 'o', 't', 'e']
  isWord := by decide
  args := [
    ⟨"say \"it's\"", '"', by decide, ⟨[], by decide⟩, ⟨[' '], by decide⟩⟩,
    ⟨"it's, (a\\b\n\\", '\'', by decide, ⟨[' ', '\t'], by decide⟩, ⟨[], by decide⟩⟩,
    ⟨"", '\'', by decide, ⟨[], by decide⟩, ⟨[], by decide⟩⟩]
  comma := true
  before := ⟨[' '], by decide⟩
  gap := ⟨[' '], by decide⟩
  inside := ⟨[' '], by decide⟩
  after := ⟨['\n'], by decide⟩

theorem parse_written_guarded :
    guardedCall.text =
      " note (\"say \\\"it's\\\"\" , \t'it\\'s, (a\\\\b\n\\\\','', )\n" ∧
    parse guardedCall.text = .ok ⟨"note", ["say \"it's\"", "it's, (a\\b\n\\", ""], true,
      trimmed guardedCall.text⟩ := by
  have hname : String.ofList guardedCall.name = "note" := by decide
  refine ⟨by decide, ?_⟩
  rw [← hname]
  exact parse_written guardedCall

end Directive

end RecordFamily
