import LogView.Proofs.Command.Run
import LogView.Proofs.Session.PageThrough
import LogView.Proofs.Text.Lines

/-!
# Exported pages

A page that is exported is read back line by line, whatever lines it holds, with one exception: of
a page whose only line is blank nothing is written, and a text without lines is read back.
-/

namespace LogView

/-- What is written of a page that is exported. -/
def Page.exported (page : Page) : String :=
  if page.text.isEmpty then page.text else page.text ++ "\n"

theorem Page.exported_of_empty {page : Page} (empty : page.text = "") : page.exported = "" := by
  simp [exported, empty]

theorem Page.exported_of_ne {page : Page} (written : page.text ≠ "") :
    page.exported = page.text ++ "\n" := by
  simp [exported, written]

/-- Lines without line ends are read back, unless there is one line and it is blank. -/
theorem logLines_exported {page : Page}
    (plain : ∀ line ∈ page.lines, '\n' ∉ line.text.toList ∧ '\r' ∉ line.text.toList) :
    (logLines page.exported).map LogLine.text = page.lines.map LogLine.text ↔
      page.lines.map LogLine.text ≠ [""] := by
  rw [map_text_logLines]
  -- the text is empty for two pages: the one without lines and the one that is a blank line
  by_cases empty : page.text = ""
  · have nothing : Text.lines page.exported = [] := by
      rw [Page.exported_of_empty empty]
      rfl
    rcases Text.joinLines_eq_empty.mp empty with unshown | blank
    · simp [nothing, unshown]
    · simp [nothing, blank]
  · have shown : page.lines.map LogLine.text ≠ [] := fun unshown =>
      empty (Text.joinLines_eq_empty.mpr (.inl unshown))
    have unlike : page.lines.map LogLine.text ≠ [""] := fun blank =>
      empty (Text.joinLines_eq_empty.mpr (.inr blank))
    have plain' : ∀ text ∈ page.lines.map LogLine.text,
        '\n' ∉ text.toList ∧ '\r' ∉ text.toList := by
      intro text mem
      obtain ⟨line, found, rfl⟩ := List.mem_map.mp mem
      exact plain line found
    have readBack : Text.lines page.exported = page.lines.map LogLine.text := by
      rw [Page.exported_of_ne empty, Page.text, Text.lines_joinLines_feed shown plain']
    exact ⟨fun _ => unlike, fun _ => readBack⟩

namespace Invocation

/-- A run wrote a text: to standard output, or to the file that was asked for. -/
def Wrote (invocation : Invocation) (outcome : Outcome) (text : String) : Prop :=
  match invocation.output with
  | none => outcome.output = text
  | some path => Document.read outcome.files path = .ok (.ofText (fileName path) text)

/-- The session of a run was reached by operations and views the text of the file. -/
theorem reachable_of_sessionIn {invocation : Invocation} {files : Files} {bytes : ByteArray}
    {session : Session} (found : files.read invocation.filter.file = .ok bytes)
    (opened : invocation.sessionIn files = .ok session) :
    session.Reachable ∧ session.document =
      some (.ofText (fileName invocation.filter.file) (Text.decodeLossy bytes)) := by
  obtain ⟨config, -, opened⟩ := sessionIn_eq_ok.mp opened
  obtain ⟨reached, read, same, loaded⟩ := Opening.reachable_ofOptions opened
  rw [Document.read, found] at same
  cases same
  exact ⟨reached, loaded⟩

theorem Delivered.wrote {invocation : Invocation} {files : Files} {outcome : Outcome}
    {text : String} (delivered : invocation.Delivered files outcome text) :
    invocation.Wrote outcome text := by
  unfold Delivered at delivered
  unfold Wrote
  cases output : invocation.output with
  | none =>
    rw [output] at delivered
    exact delivered.1
  | some path =>
    rw [output] at delivered
    exact Document.read_of_write delivered.2

theorem wrote_exported {invocation : Invocation} {files : Files} {session : Session}
    {environment : Environment} (exports : invocation.command = .exportPage)
    (opened : invocation.sessionIn files = .ok session)
    (writable : ∀ path fault,
      (invocation.run environment files).fault ≠ some (.unwritten path fault)) :
    invocation.Wrote (invocation.run environment files) session.page.exported := by
  have made : invocation.content (invocation.colored environment) session =
      .ok session.page.exported := by
    unfold content
    rw [exports]
    rfl
  have drafted := draftIn_eq_ok.mpr ⟨session, _, opened, made, rfl⟩
  rcases run_of_draft drafted with ⟨delivered, -⟩ | ⟨path, fault, -, -, failed⟩
  · exact delivered.wrote
  · exact absurd failed (writable path fault)

/--
What an export of a text without carriage returns writes is read back as the lines of the page that
is selected, unless that page is a single blank line.
-/
theorem exported_page_reads_back {invocation : Invocation} {environment : Environment}
    {files : Files} {bytes : ByteArray} {session : Session}
    (exports : invocation.command = .exportPage)
    (found : files.read invocation.filter.file = .ok bytes)
    (plain : '\r' ∉ (Text.decodeLossy bytes).toList)
    (opened : invocation.sessionIn files = .ok session)
    (writable : ∀ path fault,
      (invocation.run environment files).fault ≠ some (.unwritten path fault)) :
    ∃ text, invocation.Wrote (invocation.run environment files) text ∧
      ((logLines text).map LogLine.text = session.page.lines.map LogLine.text ↔
        session.page.lines.map LogLine.text ≠ [""]) := by
  obtain ⟨reached, loaded⟩ := reachable_of_sessionIn found opened
  refine ⟨session.page.exported, wrote_exported exports opened writable, logLines_exported ?_⟩
  intro line mem
  have shown := reached.mem_lines_of_mem_page loaded mem
  exact ⟨Text.feed_not_mem_lines shown, fun held => plain (Text.mem_of_mem_lines shown held)⟩

/-- An export of `app.log`. -/
def exporting (output : Option String) (rules : List Rule) : Invocation :=
  ⟨.exportPage, ⟨"app.log", rules⟩, {}, none, .text, output, .auto, 0, false⟩

/-- Two blank lines, with a line left out between them, are read back from the file. -/
theorem exported_blank_lines :
    ∃ session, (exporting (some "page.txt") [.ofKind .lacks "a"]).sessionIn
        (holding "\na\n\n") = .ok session ∧
      session.page.lines.map LogLine.text = ["", ""] ∧
      ∃ text, (exporting (some "page.txt") [.ofKind .lacks "a"]).Wrote
          ((exporting (some "page.txt") [.ofKind .lacks "a"]).run {} (holding "\na\n\n")) text ∧
        (logLines text).map LogLine.text = session.page.lines.map LogLine.text := by
  have page : ((exporting (some "page.txt") [.ofKind .lacks "a"]).sessionIn
      (holding "\na\n\n")).toOption.map (fun session => session.page.lines.map LogLine.text) =
        some ["", ""] := by decide +kernel
  have finished : ((exporting (some "page.txt") [.ofKind .lacks "a"]).run {}
      (holding "\na\n\n")).fault = none := by decide +kernel
  have plain : '\r' ∉ (Text.decodeLossy "\na\n\n".toUTF8).toList := by
    rw [Text.decodeLossy_toUTF8]
    decide
  cases opened : (exporting (some "page.txt") [.ofKind .lacks "a"]).sessionIn
      (holding "\na\n\n") with
  | error fault => simp [opened, Except.toOption] at page
  | ok session =>
    have texts : session.page.lines.map LogLine.text = ["", ""] := by
      simpa [opened, Except.toOption] using page
    have writable : ∀ path fault, ((exporting (some "page.txt") [.ofKind .lacks "a"]).run {}
        (holding "\na\n\n")).fault ≠ some (.unwritten path fault) := by simp [finished]
    obtain ⟨text, wrote, reads⟩ :=
      exported_page_reads_back rfl (read_holding _) plain opened writable
    exact ⟨session, rfl, texts, text, wrote, reads.mpr (by simp [texts])⟩

/-- Of a page that is one blank line nothing is written, and no line is read back. -/
theorem exported_blank_line :
    ∃ session, (exporting none []).sessionIn (holding "\n") = .ok session ∧
      session.page.lines.map LogLine.text = [""] ∧
      ((exporting none []).run {} (holding "\n")).output = "" ∧
      (logLines ((exporting none []).run {} (holding "\n")).output).map LogLine.text = [] := by
  have page : ((exporting none []).sessionIn (holding "\n")).toOption.map
      (fun session => session.page.lines.map LogLine.text) = some [""] := by decide +kernel
  cases opened : (exporting none []).sessionIn (holding "\n") with
  | error fault => simp [opened, Except.toOption] at page
  | ok session =>
    have texts : session.page.lines.map LogLine.text = [""] := by
      simpa [opened, Except.toOption] using page
    have output : ((exporting none []).run {} (holding "\n")).output = "" := by decide +kernel
    exact ⟨session, rfl, texts, output, by rw [output]; rfl⟩

end Invocation
end LogView
