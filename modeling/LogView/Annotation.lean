import LogView.Markup
import LogView.Pattern.Basic
import LogView.Token.Scan

/-!
# Annotated lines

A line is cut at the edges of what is highlighted, and each piece is cut further into dates,
times and severities: dates are looked for first, times in what is left, severities in what is
left then.  The pieces keep the text of the line as it is.
-/

namespace LogView

/-- A piece of a line: its text, whether it is highlighted, and what it stands for. -/
structure Segment where
  text : String
  matched : Bool
  token : Option Token
  deriving Repr, DecidableEq

/-- A line in pieces, and its severity. -/
structure Annotated where
  segments : List Segment
  level : Option Severity
  deriving Repr, DecidableEq

/-- Cuts a text that begins at place `i` at spans; the flag tells the pieces inside spans. -/
def cutAt (i : Nat) : List (Nat × Nat) → List Char → List (Bool × List Char)
  | [], text => [(false, text)]
  | (first, last) :: spans, text =>
    (false, text.take (first - i)) :: (true, (text.drop (first - i)).take (last - first)) ::
      cutAt last spans (text.drop (last - i))

/-- The pieces of a text that are not empty. -/
def pieces (spans : List (Nat × Nat)) (text : List Char) : List (Bool × List Char) :=
  (cutAt 0 spans text).filter fun piece => !piece.2.isEmpty

/-- How each kind of token is found, and what it stands for. -/
def tokenPasses : List ((List Char → Option Nat) × (List Char → Option Token)) :=
  [(Token.dateLength?, fun _ => some .date),
   (Token.timeLength?, fun _ => some .time),
   (Token.levelLength?, fun word => (Severity.ofWord? (String.ofList word)).map .level)]

/-- Cuts a text at tokens, later kinds of token being looked for in what earlier ones left. -/
def tokenize (matched : Bool) :
    List ((List Char → Option Nat) × (List Char → Option Token)) → List Char → List Segment
  | [], text => [⟨String.ofList text, matched, none⟩]
  | (length?, token?) :: passes, text =>
    (pieces (Token.spans length? text) text).flatMap fun (inToken, piece) =>
      if inToken then [⟨String.ofList piece, matched, token? piece⟩]
      else tokenize matched passes piece

/-- Cuts a line at what is highlighted and at tokens. -/
def annotate (line : String) (highlight : Option Pattern) : Annotated :=
  let spans := match highlight with
    | some pattern => pattern.spans line
    | none => []
  ⟨(pieces spans line.toList).flatMap fun (matched, piece) => tokenize matched tokenPasses piece,
    Token.firstLevel? line⟩

def Token.classes : Token → String
  | .date => "hl-date"
  | .time => "hl-time"
  | .level severity => "hl-level level-" ++ severity.className

/-- The markup of a piece, without the mark around it. -/
def Segment.markup (segment : Segment) : String :=
  match segment.token with
  | some token =>
    "<span class=\"" ++ token.classes ++ "\">" ++ Markup.escape segment.text ++ "</span>"
  | none => Markup.escape segment.text

/-- The markup of pieces, `marking` telling whether a mark is open. -/
def markupFrom (marking : Bool) : List Segment → String
  | [] => if marking then "</mark>" else ""
  | segment :: rest =>
    let edge :=
      if segment.matched = marking then "" else if segment.matched then "<mark>" else "</mark>"
    edge ++ segment.markup ++ markupFrom segment.matched rest

namespace Annotated

def plain (annotated : Annotated) : String :=
  String.join (annotated.segments.map Segment.text)

/-- The markup of a line: marks around what is highlighted, spans around tokens. -/
def markup (annotated : Annotated) : String := markupFrom false annotated.segments

end Annotated

end LogView
