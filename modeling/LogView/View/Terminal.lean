import LogView.View.Lines

/-!
# The page on a terminal

Each line of the page is shown behind a gutter with its two numbers.  With colours on, a styled
text is put between an opening sequence that names its styles and a reset; a reset inside the text
is followed by the opening sequence again.  With colours off, and where there is no style, a text
is written as it is.
-/

namespace LogView

inductive Color where
  | red
  | green
  | yellow
  | blue
  | magenta
  | cyan
  | brightBlack
  | brightRed
  deriving Repr, DecidableEq

structure Style where
  bold : Bool := false
  ground : Option Color := none
  color : Option Color := none
  deriving Repr, DecidableEq

namespace Color

def code : Color → Nat
  | red => 31
  | green => 32
  | yellow => 33
  | blue => 34
  | magenta => 35
  | cyan => 36
  | brightBlack => 90
  | brightRed => 91

def groundCode (color : Color) : Nat := color.code + 10

end Color

namespace Style

def codes (style : Style) : List Nat :=
  (if style.bold then [1] else []) ++ (style.ground.map Color.groundCode).toList ++
    (style.color.map Color.code).toList

def opening (style : Style) : List Char :=
  '\x1b' :: '[' :: (String.intercalate ";" (style.codes.map toString)).toList ++ ['m']

def reset : List Char := ['\x1b', '[', '0', 'm']

/-- A text with a style begun again after each reset in it. -/
def reopen (opening : List Char) : List Char → List Char
  | '\x1b' :: '[' :: '0' :: 'm' :: rest => reset ++ opening ++ reopen opening rest
  | c :: rest => c :: reopen opening rest
  | [] => []

def apply (style : Style) (colored : Bool) (text : String) : String :=
  if colored && !style.codes.isEmpty then
    String.ofList (style.opening ++ reopen style.opening text.toList ++ reset)
  else text

end Style

def Severity.color : Severity → Color
  | .trace => .brightBlack
  | .debug => .magenta
  | .info => .green
  | .warn | .warning => .yellow
  | .error => .red
  | .fatal => .brightRed

def Token.style : Token → Style
  | .date => { color := some .blue }
  | .time => { color := some .cyan }
  | .level severity => { bold := true, color := some severity.color }

/-- The style of a piece of a line: highlighted pieces stand out on yellow ground. -/
def Segment.style (segment : Segment) : Style :=
  let style := (segment.token.map Token.style).getD {}
  if segment.matched then { style with bold := true, ground := some .yellow } else style

/-- A text moved to the right end of a field. -/
def padLeft (width : Nat) (text : String) : String :=
  String.ofList (List.replicate (width - text.length) ' ') ++ text

namespace ShownLine

/-- The two numbers of a line. -/
def gutter (line : ShownLine) : String :=
  padLeft 7 (toString line.number) ++ " " ++ padLeft 7 (toString line.displayIndex)

/-- The style of the numbers: the colour of the line's severity. -/
def gutterStyle (line : ShownLine) : Style :=
  { color := some ((line.content.level.map Severity.color).getD .brightBlack) }

def text (colored : Bool) (line : ShownLine) : String :=
  line.gutterStyle.apply colored line.gutter ++ " │ " ++
    String.join (line.content.segments.map fun segment => segment.style.apply colored segment.text)

end ShownLine

namespace Session

/-- The style of the summary: red once something was refused. -/
def summaryStyle (session : Session) : Style :=
  if session.run.refused.isEmpty then { bold := true } else { bold := true, color := some .red }

/-- The rows of the page: its lines, or a placeholder. -/
def rows (colored : Bool) (session : Session) : List String :=
  match session.placeholder? with
  | some message => [Style.apply { color := some .brightBlack } colored message]
  | none => session.shownLines.map (ShownLine.text colored)

/-- The page on a terminal: a summary and rows, each ended by a line feed. -/
def terminalText (colored : Bool) (session : Session) : String :=
  let rows := session.summaryStyle.apply colored session.summary :: session.rows colored
  String.join (rows.map fun row => row ++ "\n")

end Session

end LogView
