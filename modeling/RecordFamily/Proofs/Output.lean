import RecordFamily.Proofs.FileTree
import RecordFamily.Proofs.Run

/-!
# All or nothing

A run that ends with the exit status 0 has put out the whole text of its schema, and one that ends with
1 has put out nothing: what stands in the files, in an old output, too, is left as it was.

* `Arguments.Makes`, `makes_iff`: the text that comes of a schema file;
* `Arguments.PutsOut`: the text was printed, or written to the file that the arguments name;
* `putOut_ok`: putting out a text ends in one of two ways;
* **`Command.run_all_or_nothing`**: a run puts out the text of its schema, or nothing.
-/

namespace RecordFamily

namespace Command

variable {files : FileTree} {a : Arguments} {report : Report} {text : String}

/-- **The text comes of the schema file**: the file is read, its family is derived, as strictly as the
arguments or the schema ask for, and is rendered in the format of the arguments. -/
def Arguments.Makes (a : Arguments) (files : FileTree) (text : String) : Prop :=
  ∃ s o F, (Schema.ofFile files.read a.schema none).result = .ok s ∧
    o = ⟨a.strict || s.options.strictVariants, a.strict || s.options.strictNames,
      s.options.fallbacks⟩ ∧
    (s.record.derive o).result = .ok F ∧ F.render a.format = .ok text

theorem Arguments.options_eq (a : Arguments) (o : Options) : a.options o =
    ⟨a.strict || o.strictVariants, a.strict || o.strictNames, o.fallbacks⟩ := by
  unfold Arguments.options
  cases a.strict <;> rfl

theorem makes_iff : a.Makes files text ↔ (a.text files.read).result = .ok text := by
  rw [text_result, bind_eq_ok]
  refine exists_congr fun s => ?_
  simp only [Arguments.textOf, Arguments.options_eq, Outcome.bind_ok, Outcome.ofExcept_result,
    mapError_eq_ok]
  constructor
  · rintro ⟨_, F, hs, rfl, hF, htext⟩
    exact ⟨hs, F, hF, htext⟩
  · rintro ⟨hs, F, hF, htext⟩
    exact ⟨_, F, hs, rfl, hF, htext⟩

/-- **The text was put out**: it was printed and no file changed, or it was written to the file that
the arguments name, and nothing else was written or printed. -/
structure Arguments.PutsOut (a : Arguments) (files : FileTree) (text : String) (report : Report) :
    Prop where
  printed : (∀ path, a.output = some path → path = "") → report.out = text ∧ report.files = files
  written : ∀ path, a.output = some path → path ≠ "" →
    report.out = "" ∧ files.IsWritten report.files path text.toUTF8.toList

/-- Nothing was put out. -/
def Report.IsIdle (report : Report) (files : FileTree) : Prop :=
  report.out = "" ∧ report.files = files

theorem destination_eq_some {path : String} :
    a.destination = some path ↔ a.output = some path ∧ path ≠ "" := by
  rw [Arguments.destination, Option.filter_eq_some_iff]
  simp

theorem destination_eq_none :
    a.destination = none ↔ ∀ path, a.output = some path → path = "" := by
  rw [Arguments.destination, Option.filter_eq_none_iff]
  simp

/-- **Putting out a text ends in one of two ways**: the text was put out, or its file cannot be written
and a line tells so. -/
theorem putOut_ok {log : String} (h : putOut files a log text = .ok report) :
    report.exit = 0 ∧ a.PutsOut files text report ∨
      report.exit = 1 ∧ report.IsIdle files ∧ ∃ path e, a.destination = some path ∧
        files.write path text.toUTF8.toList = .error e ∧
          report.err = log ++ errorLine s!"cannot write `{path}`: {e.message}" := by
  unfold putOut at h
  cases hd : a.destination with
  | none =>
    rw [hd] at h
    cases h
    refine .inl ⟨rfl, fun _ => ⟨rfl, rfl⟩, fun path hpath hne => ?_⟩
    exact absurd (destination_eq_none.mp hd path hpath) hne
  | some path =>
    obtain ⟨houtput, hne⟩ := destination_eq_some.mp hd
    simp only [hd] at h
    obtain ⟨_, _, h⟩ := bind_eq_ok.mp h
    cases hwrite : files.write path text.toUTF8.toList with
    | ok files' =>
      rw [hwrite] at h
      cases h
      refine .inl ⟨rfl, fun hnone => absurd (hnone path houtput) hne, fun path' hpath' _ => ?_⟩
      obtain rfl := Option.some.inj (houtput.symm.trans hpath')
      exact ⟨rfl, FileTree.isWritten_of_write hwrite⟩
    | error e =>
      rw [hwrite] at h
      cases h
      exact .inr ⟨rfl, ⟨rfl, rfl⟩, path, e, rfl, hwrite, rfl⟩

/-- **A run puts out the text of its schema, or nothing.** With the exit status 0 all stages succeeded,
and the text was put out as it is. Otherwise the exit status is 1, and nothing was printed or written:
the schema has no text, or the file that the text is for cannot be written. -/
theorem run_all_or_nothing {words : List String} (hwords : Arguments.parse words = .ok a)
    (h : (run files words).result = .ok report) :
    report.exit = 0 ∧ (∃ text, a.Makes files text ∧ a.PutsOut files text report) ∨
      report.exit = 1 ∧ report.IsIdle files ∧ ∀ text, a.Makes files text →
        ∃ path e, a.output = some path ∧ files.write path text.toUTF8.toList = .error e := by
  rw [run_eq hwords] at h
  cases htext : (a.text files.read).result with
  | ok text =>
    rw [conclude_ok htext] at h
    rcases putOut_ok h with ⟨hexit, hout⟩ | ⟨hexit, hidle, path, e, hpath, hwrite, -⟩
    · exact .inl ⟨hexit, text, makes_iff.mpr htext, hout⟩
    · refine .inr ⟨hexit, hidle, fun text' htext' => ?_⟩
      obtain rfl := Except.ok.inj (htext.symm.trans (makes_iff.mp htext'))
      exact ⟨path, e, (destination_eq_some.mp hpath).1, hwrite⟩
  | error e =>
    have hnone : ∀ text, ¬ a.Makes files text := fun _ hmade =>
      nomatch htext.symm.trans (makes_iff.mp hmade)
    cases hd : e.diagnosis? with
    | some diagnosis =>
      rw [conclude_diagnosed htext hd] at h
      cases h
      exact .inr ⟨rfl, ⟨rfl, rfl⟩, fun text hmade => absurd hmade (hnone text)⟩
    | none =>
      obtain ⟨x, rfl⟩ := Failure.eq_fault hd
      cases (conclude_fault htext).symm.trans h

/-- A schema, and an old output. -/
def outputTree : FileTree := .ofPaths [
  ("s.yaml", .file "name: Note\n".toUTF8.toList),
  ("out/note.dot", .file "old".toUTF8.toList)]

/-- The arguments of a run that replaces the old output. -/
def outputArguments : Arguments := ⟨"s.yaml", some "out/../out/note.dot", .graph, false, false⟩

theorem run_all_or_nothing_replaced :
    Arguments.parse ["s.yaml", "-fdot", "-o", "out/../out/note.dot"] = .ok outputArguments ∧
      ∃ report, (run outputTree ["s.yaml", "-fdot", "-o", "out/../out/note.dot"]).result =
        .ok report ∧ ∃ text, outputArguments.Makes outputTree text ∧ report.out = "" ∧
          outputTree.IsWritten report.files "out/../out/note.dot" text.toUTF8.toList := by
  have hwords : Arguments.parse ["s.yaml", "-fdot", "-o", "out/../out/note.dot"] =
      .ok outputArguments := by
    decide +kernel
  have hrun : (run outputTree ["s.yaml", "-fdot", "-o", "out/../out/note.dot"]).yields
      (fun report => report.exit == 0) = true := by
    decide +kernel
  obtain ⟨report, hreport, hexit⟩ := Outcome.yields_iff.mp hrun
  refine ⟨hwords, report, hreport, ?_⟩
  rcases run_all_or_nothing hwords hreport with ⟨-, text, hmade, hout⟩ | ⟨hone, -⟩
  · exact ⟨text, hmade, hout.written _ rfl (by decide)⟩
  · simp [hone] at hexit

end Command

end RecordFamily
