import LogView.Command.Option
import LogView.Text.Blank

/-!
# The command line

The words of a command line are read from left to right.  A value that stands in a word of its own
is looked at only once the next option or file is met, or all words are read; so of two faults,
the one that is met first need not be the one that is told.  The words after the name of the
command are read before values in front of it are looked at.
-/

namespace LogView

/-- What was read so far of the words on one side of the name of the command. -/
structure Reading where
  given : Given := {}
  /-- What waits to be looked at: what it is for, and the value if there is one. -/
  waiting : Option (Slot × Option String) := none
  /-- The option whose value is the next word. -/
  expecting : Option CommandOption := none
  /-- Whether the two dashes that end options were met. -/
  ended : Bool := false
  fileSeen : Bool := false
  deriving Repr, DecidableEq, Inhabited

namespace Reading

/-- Looks at the value that waits. -/
def settle (reading : Reading) : Except UsageFault Reading :=
  match reading.waiting with
  | none => .ok reading
  | some (slot, none) => .error (.missingValue slot.name)
  | some (slot, some value) => do
    .ok { reading with given := ← reading.given.put slot value, waiting := none }

/-- Reads an option that takes a value, which may be attached to it. -/
def readOption (reading : Reading) (option : CommandOption) (value? : Option String) :
    Except UsageFault Reading := do
  let reading ← reading.settle
  match value? with
  | some value =>
    .ok { reading with given := ← reading.given.put (.option option) value, expecting := none }
  | none =>
    .ok { reading with waiting := some (.option option, none), expecting := some option }

def readFlag (reading : Reading) (option : CommandOption) : Except UsageFault Reading := do
  let reading ← reading.settle
  .ok { reading with given := ← reading.given.raise option, expecting := none }

/-- Reads what follows two dashes. -/
def readLong (command : Option CommandName) (reading : Reading) (text : List Char) :
    Except UsageFault Reading :=
  let (word, value?) := match Text.splitOnce '=' text with
    | some (word, value) => (String.ofList word, some (String.ofList value))
    | none => (String.ofList text, none)
  match (CommandOption.known command).find? fun option => option.word = word with
  | none => .error (.unknownArgument ("--" ++ String.ofList text))
  | some option =>
    if option.takesValue then reading.readOption option value?
    else if value?.isSome then .error (.surplusValue (Slot.option option).name)
    else reading.readFlag option

/-- Reads the letters that follow one dash. -/
def readLetters (command : Option CommandName) (reading : Reading) :
    List Char → Except UsageFault Reading
  | [] => .ok reading
  | c :: rest =>
    match (CommandOption.known command).find? fun option => option.letter? = some c with
    | none => .error (.unknownArgument (String.ofList ['-', c]))
    | some option =>
      if option.takesValue then
        reading.readOption option <| match rest with
          | [] => none
          | '=' :: value | value => some (String.ofList value)
      else do readLetters command (← reading.readFlag option) rest

/-- Reads a word that is no option. -/
def readPlain (command : Option CommandName) (reading : Reading) (word : String) :
    Except UsageFault Reading :=
  match command with
  | none =>
    if reading.ended && (word = "help" || (CommandName.ofWord? word).isSome) then
      .error (.unknownArgument word)
    else .error (.unknownCommand word)
  | some _ =>
    if reading.fileSeen then .error (.unknownArgument word)
    else do
      let reading ← reading.settle
      .ok { reading with waiting := some (.file, some word), fileSeen := true }

/-- Reads a word as a value if one is expected. -/
def readValue (command : Option CommandName) (reading : Reading) (word : String) :
    Except UsageFault Reading :=
  match reading.expecting with
  | some option =>
    .ok { reading with waiting := some (.option option, some word), expecting := none }
  | none => reading.readPlain command word

def readWord (command : Option CommandName) (reading : Reading) (word : String) :
    Except UsageFault Reading :=
  if reading.ended then reading.readPlain command word
  else if reading.expecting.any CommandOption.takesAnyWord then reading.readValue command word
  else
    match word.toList with
    | ['-', '-'] => .ok { reading with ended := true }
    | '-' :: '-' :: text => reading.readLong command text
    | '-' :: c :: text => reading.readLetters command (c :: text)
    | _ => reading.readValue command word

/-- Looks at what waits at the end of the words; no path comes from an empty variable. -/
def finish (reading : Reading) (configVariable : Option String) : Except UsageFault Given := do
  let reading ← reading.settle
  if reading.given.config.isNone && configVariable = some "" then
    .error (.badValue (Slot.option .config).name "")
  else .ok reading.given

end Reading

/-- The fault that asking for help ends in: help, if it is about a command. -/
def helpFault : List String → UsageFault
  | [] => .helpAsked
  | [word] =>
    if word = "help" || (CommandName.ofWord? word).isSome then .helpAsked else .unknownCommand word
  | _ :: word :: _ => .unknownCommand word

/-- Reads the words up to the name of the command; gives it and the words after it. -/
def readFront (reading : Reading) :
    List String → Except UsageFault (Reading × Option (CommandName × List String))
  | [] => .ok (reading, none)
  | word :: rest =>
    let name? :=
      if reading.ended || reading.expecting.isSome then none else CommandName.ofWord? word
    match name? with
    | some name => .ok (reading, some (name, rest))
    | none =>
      if !reading.ended && reading.expecting.isNone && word = "help" then .error (helpFault rest)
      else do readFront (← reading.readWord none word) rest

def readCommand (name : CommandName) (words : List String) (configVariable : Option String) :
    Except UsageFault (Given × String) := do
  let reading ← words.foldlM (Reading.readWord (some name)) {}
  let given ← reading.finish configVariable
  match given.file with
  | some file => .ok (given, file)
  | none => .error .missingFile

/-- What was given on both sides; what stands after the name of the command counts more. -/
def Invocation.ofGiven (name : CommandName) (front back : Given) (file : String)
    (configVariable : Option String) : Invocation where
  command := name
  filter := ⟨file, back.rules⟩
  pages := back.pages
  config := back.config <|> front.config <|> configVariable
  format := (back.format <|> front.format).getD .text
  output := back.output <|> front.output
  color := (back.color <|> front.color).getD .auto
  verbose := if back.verbose = 0 then front.verbose else back.verbose
  quiet := back.quiet || front.quiet

/--
Reads a command line.  A variable of the environment may name the configuration if no option does.
-/
def Invocation.ofWords (words : List String) (configVariable : Option String) :
    Except UsageFault Invocation := do
  let (reading, rest) ← readFront {} words
  match rest with
  | some (name, rest) =>
    let (back, file) ← readCommand name rest configVariable
    let front ← reading.finish configVariable
    .ok (ofGiven name front back file configVariable)
  | none =>
    let front ← reading.finish configVariable
    if front.isNothing && configVariable.isNone then .error .nothingGiven
    else .error .missingCommand

end LogView
