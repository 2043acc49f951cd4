import LogView.Command.Run

/-!
# The program

The program reads the files that its command line names, runs, and writes what comes of it:
content to standard output or to a file, records and faults to standard error.
-/

namespace LogView

def faultOf : IO.Error → FileFault
  | .noFileOrDirectory .. => .notFound
  | .inappropriateType .. => .isDirectory
  | error => .other (toString error)

def attempt {α : Type} (action : IO α) : IO (Except FileFault α) := do
  match ← action.toBaseIO with
  | .ok value => pure (.ok value)
  | .error error => pure (.error (faultOf error))

/-- Writes the content of a draft; gives the fault of the run, if any, and what is told. -/
def deliver (output : Option String) (draft : Draft) : IO (List Event × Option RunFault) := do
  match output with
  | none =>
    IO.print draft.content
    pure (draft.closing, draft.fault)
  | some path =>
    match ← attempt (IO.FS.writeBinFile path draft.content.toUTF8) with
    | .ok () => pure (draft.closing, draft.fault)
    | .error fault => pure ([], some (.unwritten path fault))

def execute (invocation : Invocation) (environment : Environment) : IO UInt32 := do
  let tell (events : List Event) : IO Unit :=
    for event in events do
      if (invocation.threshold environment).shows event then IO.eprintln event.record
  let config ← invocation.config.mapM fun (path : String) => do
    let content ← attempt (IO.FS.readBinFile path)
    pure (path, content)
  let log ← attempt (IO.FS.readBinFile invocation.filter.file)
  let (events, draft) := invocation.draft environment config log
  tell events
  let fault ← match draft with
    | .error fault => pure (some fault)
    | .ok draft => do
      let (closing, fault) ← deliver invocation.output draft
      tell closing
      pure fault
  match fault with
  | none => pure 0
  | some fault =>
    IO.eprint fault.report
    pure 1

end LogView

open LogView in
def main (words : List String) : IO UInt32 := do
  let environment : Environment :=
    ⟨← IO.getEnv "LOG_LENS_CONFIG", ← IO.getEnv "RUST_LOG", ← IO.getEnv "CLICOLOR_FORCE"⟩
  match Invocation.ofWords words environment.config with
  | .ok invocation => execute invocation environment
  | .error fault =>
    if fault.exitCode = 0 then IO.println fault.message else IO.eprintln fault.message
    pure fault.exitCode.toUInt32
