import LogView.Command.Basic
import LogView.Rule.Term

/-!
# Options

An option is named by a word behind two dashes, and most of them by a letter behind one.  Options
that say how to run are known before and after the name of the command, options of a command only
after it.  An option that takes a value takes one word; only rules may be given again.
-/

namespace LogView

inductive CommandOption where
  | config
  | format
  | output
  | color
  | verbose
  | quiet
  | help
  | version
  | rule
  | page
  | pageSize
  | noPaginate
  deriving Repr, DecidableEq, Inhabited

inductive UsageFault where
  | badRule (fault : TermFault)
  | badValue (name value : String)
  | missingValue (name : String)
  | surplusValue (name : String)
  | givenTwice (name : String)
  | unknownArgument (word : String)
  | unknownCommand (word : String)
  | missingFile
  | missingCommand
  | nothingGiven
  | helpAsked
  | versionAsked
  deriving Repr, DecidableEq

namespace UsageFault

/-- The exit status of a run that was refused; asking for help is no fault. -/
def exitCode : UsageFault → Nat
  | helpAsked | versionAsked => 0
  | _ => 2

def message : UsageFault → String
  | badRule fault => "error: " ++ fault.message
  | badValue name value => "error: invalid value '" ++ value ++ "' for '" ++ name ++ "'"
  | missingValue name => "error: a value is required for '" ++ name ++ "'"
  | surplusValue name => "error: no value is taken by '" ++ name ++ "'"
  | givenTwice name => "error: '" ++ name ++ "' cannot be used multiple times"
  | unknownArgument word => "error: unexpected argument '" ++ word ++ "'"
  | unknownCommand word => "error: unrecognized subcommand '" ++ word ++ "'"
  | missingFile => "error: no file is given"
  | missingCommand | nothingGiven => "error: no command is given"
  | helpAsked => "Usage: log-lens [OPTIONS] <view|export|stats> <FILE> [-r RULE]..."
  | versionAsked => "log-lens 0.1.0"

end UsageFault

namespace CommandOption

def all : List CommandOption :=
  [.config, .format, .output, .color, .verbose, .quiet, .help, .version, .rule, .page, .pageSize,
    .noPaginate]

def word : CommandOption → String
  | .config => "config"
  | .format => "format"
  | .output => "output"
  | .color => "color"
  | .verbose => "verbose"
  | .quiet => "quiet"
  | .help => "help"
  | .version => "version"
  | .rule => "rule"
  | .page => "page"
  | .pageSize => "page-size"
  | .noPaginate => "no-paginate"

def letter? : CommandOption → Option Char
  | .config => some 'c'
  | .format => some 'F'
  | .output => some 'o'
  | .verbose => some 'v'
  | .quiet => some 'q'
  | .help => some 'h'
  | .version => some 'V'
  | .rule => some 'r'
  | .page => some 'p'
  | .pageSize => some 's'
  | .color | .noPaginate => none

def takesValue : CommandOption → Bool
  | .verbose | .quiet | .help | .version | .noPaginate => false
  | _ => true

/-- Whether the next word is the value even if it looks like an option. -/
def takesAnyWord : CommandOption → Bool
  | .page | .pageSize => true
  | _ => false

/-- Whether an option is known after the name of a command, or before any. -/
def isKnown (command : Option CommandName) : CommandOption → Bool
  | .version => command.isNone
  | .rule => command.isSome
  | .page | .pageSize | .noPaginate => command.any CommandName.hasPages
  | _ => true

def known (command : Option CommandName) : List CommandOption := all.filter (isKnown command)

end CommandOption

/-- What was given on one side of the name of the command. -/
structure Given where
  config : Option String := none
  format : Option OutputFormat := none
  output : Option String := none
  color : Option ColorChoice := none
  verbose : Nat := 0
  quiet : Bool := false
  rules : List Rule := []
  pages : PageOptions := {}
  file : Option String := none
  deriving Repr, DecidableEq, Inhabited

/-- What a value is for. -/
inductive Slot where
  | option (option : CommandOption)
  | file
  deriving Repr, DecidableEq

namespace Slot

def name : Slot → String
  | option o => "--" ++ o.word
  | file => "FILE"

end Slot

namespace Given

def isNothing (given : Given) : Bool := given = {}

/-- Refuses a value for what has one. -/
def once {α : Type} (slot : Slot) (old : Option α) (value : Except UsageFault α) :
    Except UsageFault (Option α) :=
  if old.isSome then .error (.givenTwice slot.name) else value.map some

/-- A path, which is never empty. -/
def path (slot : Slot) (value : String) : Except UsageFault String :=
  if value.isEmpty then .error (.badValue slot.name value) else .ok value

/-- One of the words that an option takes. -/
def choice {α : Type} (slot : Slot) (value : String) (choice? : Option α) : Except UsageFault α :=
  match choice? with
  | some choice => .ok choice
  | none => .error (.badValue slot.name value)

def put (given : Given) (slot : Slot) (value : String) : Except UsageFault Given :=
  match slot with
  | .option .config => do
    .ok { given with config := ← once slot given.config (path slot value) }
  | .option .output => do
    .ok { given with output := ← once slot given.output (path slot value) }
  | .option .format => do
    .ok { given with
      format := ← once slot given.format (choice slot value (OutputFormat.ofWord? value)) }
  | .option .color => do
    .ok { given with
      color := ← once slot given.color (choice slot value (ColorChoice.ofWord? value)) }
  | .option .page => do
    let page ← once slot given.pages.page (.ok value)
    .ok { given with pages := { given.pages with page := page } }
  | .option .pageSize => do
    let pageSize ← once slot given.pages.pageSize (.ok value)
    .ok { given with pages := { given.pages with pageSize := pageSize } }
  | .option .rule => do
    .ok { given with rules := given.rules ++ [← (Rule.ofTerm value).mapError .badRule] }
  | .file => do
    .ok { given with file := ← once slot given.file (path slot value) }
  | .option _ => .error (.surplusValue slot.name)

/-- The most that counts of repeated options go up to. -/
def maxCount : Nat := 255

/-- Gives an option that takes no value. -/
def raise (given : Given) (option : CommandOption) : Except UsageFault Given :=
  match option with
  | .verbose => .ok { given with verbose := min (given.verbose + 1) maxCount }
  | .quiet =>
    if given.quiet then .error (.givenTwice (Slot.option option).name)
    else .ok { given with quiet := true }
  | .noPaginate =>
    if given.pages.noPaginate then .error (.givenTwice (Slot.option option).name)
    else .ok { given with pages := { given.pages with noPaginate := true } }
  | .help => .error .helpAsked
  | .version => .error .versionAsked
  | _ => .error (.missingValue (Slot.option option).name)

end Given

end LogView
