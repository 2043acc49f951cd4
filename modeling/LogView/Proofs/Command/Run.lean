import LogView.Command.Run
import LogView.Proofs.Command.Opening
import LogView.Proofs.Files
import LogView.Proofs.Filter.Failure

/-!
# How a run ends

A run that lacks something it needs writes nothing and fails.  A run that has all of it writes what
the session shows, and fails after that exactly if some rule says something and every such rule is
refused.
-/

namespace LogView

namespace Session

end Session

namespace Invocation

variable {invocation : Invocation} {environment : Environment} {files : Files}

/-- Whatever a run makes can be written where it is asked to. -/
def Writable (invocation : Invocation) (files : Files) : Prop :=
  ∀ path, invocation.output = some path →
    ∀ content, ∃ written, files.write path content = .ok written

/-- A run wrote a text where it was asked to, and nothing else. -/
def Delivered (invocation : Invocation) (files : Files) (outcome : Outcome) (text : String) :
    Prop :=
  match invocation.output with
  | none => outcome.output = text ∧ outcome.files = files
  | some path => outcome.output = "" ∧ files.write path text.toUTF8 = .ok outcome.files

/-- The configuration of a run in a directory, or why there is none. -/
def configIn (invocation : Invocation) (files : Files) : Except ConfigFault ViewerConfig :=
  match invocation.config with
  | none => .ok .standard
  | some path => ViewerConfig.read files path

/-- The session of a run in a directory, or why there is none. -/
def sessionIn (invocation : Invocation) (files : Files) : Except RunFault Session :=
  (invocation.openSession (invocation.config.map fun path => (path, files.read path))
    (files.read invocation.filter.file)).2

/-- What a run in a directory is to write, or why it writes nothing. -/
def draftIn (invocation : Invocation) (environment : Environment) (files : Files) :
    Except RunFault Draft :=
  (invocation.draft environment (invocation.config.map fun path => (path, files.read path))
    (files.read invocation.filter.file)).2

theorem sessionIn_eq_ok {session : Session} :
    invocation.sessionIn files = .ok session ↔
      ∃ config, invocation.configIn files = .ok config ∧
        (Opening.ofOptions config invocation.filter.rules invocation.pages
          (Document.read files invocation.filter.file)).session = .ok session := by
  have steps : invocation.sessionIn files =
      (invocation.configIn files).mapError .config >>= fun config =>
        (Opening.ofOptions config invocation.filter.rules invocation.pages
          (Document.read files invocation.filter.file)).session.mapError .opening := by
    unfold sessionIn openSession configIn ViewerConfig.read
    cases invocation.config with
    | none => rfl
    | some path =>
      dsimp only [Option.map_some]
      cases ViewerConfig.ofContent path (files.read path) <;> rfl
  rw [steps]
  cases invocation.configIn files with
  | error fault => simp [Except.mapError, bind, Except.bind]
  | ok config =>
    simp only [Except.ok.injEq, exists_eq_left']
    exact Opening.mapError_eq_ok

theorem draftIn_eq_ok {draft : Draft} :
    invocation.draftIn environment files = .ok draft ↔
      ∃ session text, invocation.sessionIn files = .ok session ∧
        invocation.content (invocation.colored environment) session = .ok text ∧
        ⟨text, session.verdict.1, session.verdict.2⟩ = draft := by
  unfold draftIn Invocation.draft sessionIn
  split
  · next events fault failed => simp [failed]
  · next events session opened =>
    rw [opened]
    cases made : invocation.content (invocation.colored environment) session <;> simp [made]

theorem run_of_draft {draft : Draft} (drafted : invocation.draftIn environment files = .ok draft) :
    invocation.Delivered files (invocation.run environment files) draft.content ∧
        (invocation.run environment files).fault = draft.fault ∨
      ∃ path fault, invocation.output = some path ∧
        files.write path draft.content.toUTF8 = .error fault ∧
        (invocation.run environment files).fault = some (.unwritten path fault) := by
  unfold draftIn at drafted
  cases made : invocation.draft environment
      (invocation.config.map fun path => (path, files.read path))
      (files.read invocation.filter.file) with
  | mk events result =>
    rw [made] at drafted
    cases drafted
    unfold Delivered
    cases output : invocation.output with
    | none =>
      left
      simp only [run, made, output, and_self]
    | some path =>
      cases writes : files.write path draft.content.toUTF8 with
      | ok written =>
        left
        simp only [run, made, output, writes, and_self]
      | error fault =>
        right
        refine ⟨path, fault, rfl, writes, ?_⟩
        simp only [run, made, output, writes]

theorem Delivered.writable {outcome : Outcome} {text : String}
    (delivered : invocation.Delivered files outcome text) : invocation.Writable files := by
  intro path output content
  unfold Delivered at delivered
  rw [output] at delivered
  exact Files.write_eq_ok_of delivered.2 content

/-- A directory that holds `app.log`. -/
def holding (text : String) : Files := ⟨[("app.log", text.toUTF8)]⟩

theorem read_holding (text : String) : (holding text).read "app.log" = .ok text.toUTF8 := by
  have leads : Files.resolve ⟨[]⟩ "app.log" = .name "app.log" := by decide +kernel
  have writes : Files.write ⟨[]⟩ "app.log" text.toUTF8 = .ok (holding text) :=
    Files.write_eq_ok.mpr ⟨"app.log", leads, rfl⟩
  exact Files.read_of_write writes

/-- A view of `app.log` that is written to a file. -/
def viewing (rules : List Rule) : Invocation :=
  ⟨.view, ⟨"app.log", rules⟩, {}, none, .text, some "page.txt", .auto, 0, false⟩

end Invocation

end LogView
