import LogView.Command.Line
import LogView.Command.Opening
import LogView.Diagnostics.Threshold
import LogView.View.Html
import LogView.View.Levels
import LogView.View.Report

/-!
# A run

A run loads the configuration, opens a session, and writes what is asked for, to a file or to
standard output.  It fails after that if no rule could be used; every other fault comes before
anything is written.  What it tells on the way is held to a threshold.
-/

namespace LogView

inductive RunFault where
  | config (fault : ConfigFault)
  | opening (fault : OpeningFault)
  | statsAsMarkup
  | unwritten (path : String) (fault : FileFault)
  | noUsableRule (message : String)
  deriving Repr, DecidableEq

namespace RunFault

def chain : RunFault → List String
  | config fault => "Failed to load config" :: fault.chain
  | opening fault => fault.chain
  | statsAsMarkup => ["HTML output is not available for stats"]
  | unwritten path fault => ["Failed to write output file '" ++ path ++ "'", fault.message]
  | noUsableRule message => ["No usable filter rules: " ++ message]

/-- The lines of a cause: the first behind its number, if it has one, and the others below it. -/
def causeLines (number : Option Nat) (cause : String) : List String :=
  let head := match number with
    | some n => "    " ++ toString n ++ ": "
    | none => "    "
  let below := match number with
    | some _ => "       "
    | none => "    "
  match (cause.toList.splitOn '\n').map String.ofList with
  | first :: rest => (head ++ first) :: rest.map fun line => below ++ line
  | [] => []

def numberedCauses (n : Nat) : List String → List String
  | [] => []
  | cause :: rest => causeLines (some n) cause ++ numberedCauses (n + 1) rest

/-- What is shown of a fault: its message, and its causes if there are any. -/
def report (fault : RunFault) : String :=
  match fault.chain with
  | [] => ""
  | [message] => "Error: " ++ message ++ "\n"
  | message :: causes =>
    let lines := match causes with
      | [cause] => causeLines none cause
      | causes => numberedCauses 0 causes
    "Error: " ++ message ++ "\n\nCaused by:\n" ++ Text.joinLines lines ++ "\n"

end RunFault

/-- The variables of the environment that a run heeds. -/
structure Environment where
  /-- The configuration to load if no option names one. -/
  config : Option String := none
  /-- The threshold for records. -/
  records : Option String := none
  /-- Asks for colours, unless it is `0`, where no terminal shows the text. -/
  forceColor : Option String := none
  deriving Repr, DecidableEq, Inhabited

namespace Invocation

/-- Whether text is coloured.  Unless it is decided by an option, text in files is not. -/
def colored (invocation : Invocation) (environment : Environment) : Bool :=
  match invocation.color with
  | .always => true
  | .never => false
  | .auto => invocation.output.isNone && environment.forceColor.any (· ≠ "0")

/-- The threshold for records: that of the environment, or how much is asked for. -/
def threshold (invocation : Invocation) (environment : Environment) : Threshold :=
  let standard : Weight :=
    if invocation.quiet then .error
    else if invocation.verbose = 0 then .warn
    else if invocation.verbose = 1 then .info
    else .debug
  (environment.records.bind Threshold.read?).getD (.upTo standard.rank)

def content (invocation : Invocation) (colored : Bool) (session : Session) :
    Except RunFault String :=
  match invocation.command, invocation.format with
  | .view, .text => .ok (session.terminalText colored)
  | .view, .html => .ok session.pageMarkup
  | .view, .json => .ok (session.report.print ++ "\n")
  | .exportPage, _ =>
    let text := session.page.text
    .ok (if text.isEmpty then text else text ++ "\n")
  | .stats, .text => .ok (LevelCounts.ofSession session).text
  | .stats, .json => .ok ((LevelCounts.ofSession session).report.print ++ "\n")
  | .stats, .html => .error .statsAsMarkup

/-- What is told while the content is made: every look at the page. -/
def contentEvents (invocation : Invocation) (session : Session) : List Event :=
  let looks := match invocation.command, invocation.format with
    | .view, .json => 2
    | .view, _ => if session.placeholder?.isSome then 2 else 3
    | .exportPage, _ => 1
    | .stats, _ => 0
  List.replicate looks session.pageEvent

def openSession (invocation : Invocation)
    (config : Option (String × Except FileFault ByteArray)) (log : Except FileFault ByteArray) :
    List Event × Except RunFault Session :=
  let loaded : Except ConfigFault ViewerConfig := match config with
    | some (path, content) => ViewerConfig.ofContent path content
    | none => .ok .standard
  match loaded with
  | .error fault => ([], .error (.config fault))
  | .ok settings =>
    let told := config.toList.map fun (path, _) => Event.configLoaded path settings.rules.length
    let document := Document.ofContent invocation.filter.file log
    let opening := Opening.ofOptions settings invocation.filter.rules invocation.pages document
    (told ++ opening.events, opening.session.mapError .opening)

end Invocation

/-- What a run is to write, and how it ends once that is written. -/
structure Draft where
  content : String
  /-- What is told once the content is written. -/
  closing : List Event
  fault : Option RunFault
  deriving Repr, DecidableEq

namespace Session

/-- How a run of the session ends: it fails if no rule could be used. -/
def verdict (session : Session) : List Event × Option RunFault :=
  match session.run.errorMessage? with
  | none => ([], none)
  | some message =>
    if session.run.failed then ([], some (.noUsableRule message))
    else ([.rulesDropped message session.run.refused.length], none)

end Session

def Invocation.draft (invocation : Invocation) (environment : Environment)
    (config : Option (String × Except FileFault ByteArray)) (log : Except FileFault ByteArray) :
    List Event × Except RunFault Draft :=
  match invocation.openSession config log with
  | (events, .error fault) => (events, .error fault)
  | (events, .ok session) =>
    match invocation.content (invocation.colored environment) session with
    | .error fault => (events, .error fault)
    | .ok content =>
      let (closing, fault) := session.verdict
      (events ++ invocation.contentEvents session, .ok ⟨content, closing, fault⟩)

structure Outcome where
  output : String
  files : Files
  records : List String
  fault : Option RunFault

namespace Outcome

def exitCode (outcome : Outcome) : Nat := if outcome.fault.isSome then 1 else 0

end Outcome

def Invocation.run (invocation : Invocation) (environment : Environment) (files : Files) :
    Outcome :=
  let shown (events : List Event) : List String :=
    (events.filter (invocation.threshold environment).shows).map Event.record
  let config := invocation.config.map fun path => (path, files.read path)
  let log := files.read invocation.filter.file
  match invocation.draft environment config log with
  | (events, .error fault) => ⟨"", files, shown events, some fault⟩
  | (events, .ok draft) =>
    match invocation.output with
    | none => ⟨draft.content, files, shown (events ++ draft.closing), draft.fault⟩
    | some path =>
      match files.write path draft.content.toUTF8 with
      | .ok written => ⟨"", written, shown (events ++ draft.closing), draft.fault⟩
      | .error fault => ⟨"", files, shown events, some (.unwritten path fault)⟩

end LogView
