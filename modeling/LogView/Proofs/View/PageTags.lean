import LogView.Proofs.Annotation.Lossless
import LogView.Proofs.Markup.Tags
import LogView.View.Html

/-!
# The tags of the web page

Which tags the web page has is told by its outline: whether something was refused, whether there
are lines, and how severe each line is and how it is cut.  No name, pattern, message or line adds a
tag or a bracket, and in each line marks and spans are nested.
-/

namespace LogView

/-- The tag that begins a token. -/
def Token.startTag (token : Token) : String := "<span class=\"" ++ token.classes ++ "\">"

/-- The tags around what stands for a token. -/
def tokenTags : Option Token → List String
  | some token => [token.startTag, "</span>"]
  | none => []

/-- The tags of a line whose pieces are highlighted and stand for tokens as told. -/
def tagsFrom (marking : Bool) : List (Bool × Option Token) → List String
  | [] => if marking then ["</mark>"] else []
  | (matched, token?) :: rest =>
    (if matched = marking then [] else if matched then ["<mark>"] else ["</mark>"]) ++
      tokenTags token? ++ tagsFrom matched rest

/-- How a piece of a line is cut: whether it is highlighted, and what it stands for. -/
def Segment.flags (segment : Segment) : Bool × Option Token := (segment.matched, segment.token)

/--
Markup that is nested, `marking` telling whether a mark is open before it: a mark is opened where
none is open and is closed again, and a span holds an escaped text and nothing else, so that it lies
as a whole inside or outside of a mark.
-/
inductive Nested : (marking : Bool) → String → Prop
  | done : Nested false ""
  | text {marking : Bool} {rest : String} (text : String) (after : Nested marking rest) :
      Nested marking (Markup.escape text ++ rest)
  | span {marking : Bool} {rest : String} (token : Token) (text : String)
      (after : Nested marking rest) :
      Nested marking (token.startTag ++ Markup.escape text ++ "</span>" ++ rest)
  | mark {rest : String} (inside : Nested true rest) : Nested false ("<mark>" ++ rest)
  | unmark {rest : String} (after : Nested false rest) : Nested true ("</mark>" ++ rest)

theorem Nested.segment {marking : Bool} {rest : String} (after : Nested marking rest)
    (segment : Segment) : Nested marking (segment.markup ++ rest) := by
  unfold Segment.markup
  cases segment.token with
  | none => exact .text segment.text after
  | some token => exact .span token segment.text after

theorem nested_markupFrom (marking : Bool) (segments : List Segment) :
    Nested marking (markupFrom marking segments) := by
  induction segments generalizing marking with
  | nil =>
    cases marking with
    | false => exact .done
    | true => exact .unmark .done
  | cons segment segments ih =>
    have rest := (ih segment.matched).segment segment
    -- a mark is opened or closed only where this piece differs from the one before it
    unfold markupFrom
    dsimp only
    rw [String.append_assoc]
    cases matched : segment.matched with
    | false =>
      rw [matched] at rest
      cases marking with
      | false => simpa using rest
      | true => simpa using Nested.unmark rest
    | true =>
      rw [matched] at rest
      cases marking with
      | false => simpa using Nested.mark rest
      | true => simpa using rest

namespace Markup

theorem isPlain_className (severity : Severity) : isPlain severity.className = true := by
  cases severity <;> decide

theorem isPlain_classes (token : Token) : isPlain token.classes = true := by
  cases token with
  | date => decide
  | time => decide
  | level severity =>
    have fixed : isPlain "hl-level level-" = true := by decide
    have named := isPlain_className severity
    change isPlain ("hl-level level-" ++ severity.className) = true
    simp only [isPlain_append, fixed, named, Bool.and_self]

theorem tagged_classed {start name classes : String} (opens : start = "<" ++ name)
    (plainName : isPlain name = true) (plainClasses : isPlain classes = true) :
    Tagged (start ++ classes ++ "\">") [start ++ classes ++ "\">"] := by
  have quote : isPlain "\"" = true := by decide
  have closes : "\">" = "\"" ++ ">" := by decide
  have plain : isPlain (name ++ classes ++ "\"") = true := by
    simp only [isPlain_append, plainName, plainClasses, quote, Bool.and_self]
  have tagged := tagged_tag plain
  simp only [String.append_assoc] at tagged
  simpa only [opens, closes, String.append_assoc] using tagged

theorem tagged_startTag (token : Token) : Tagged token.startTag [token.startTag] := by
  have opens : "<span class=\"" = "<" ++ "span class=\"" := by decide
  exact tagged_classed opens (by decide) (isPlain_classes token)

theorem tagged_segment (segment : Segment) :
    Tagged segment.markup (tokenTags segment.token) := by
  unfold Segment.markup
  cases segment.token with
  | none => exact tagged_escape segment.text
  | some token =>
    have closed : Tagged "</span>" ["</span>"] := tagged_ofList rfl rfl
    exact ((tagged_startTag token).append (tagged_escape segment.text)).append closed

/-- The tags of pieces are told by how they are cut, a mark being open or not. -/
theorem tagged_markupFrom (marking : Bool) (segments : List Segment) :
    Tagged (markupFrom marking segments) (tagsFrom marking (segments.map Segment.flags)) := by
  induction segments generalizing marking with
  | nil => cases marking <;> decide
  | cons segment segments ih =>
    have edge : Tagged
        (if segment.matched = marking then "" else if segment.matched then "<mark>" else "</mark>")
        (if segment.matched = marking then []
          else if segment.matched then ["<mark>"] else ["</mark>"]) := by
      cases segment.matched <;> cases marking <;> decide
    exact (edge.append (tagged_segment segment)).append (ih segment.matched)

end Markup

/-- How severe a line is, and how it is cut. -/
structure LineOutline where
  level : Option Severity
  flags : List (Bool × Option Token)

/-- The class that shows how severe a line is. -/
def glow : Option Severity → String
  | some severity => " level-" ++ severity.className ++ "-glow"
  | none => ""

/-- The tags of a line. -/
def LineOutline.tags (line : LineOutline) : List String :=
  ["<div class=\"line" ++ glow line.level ++ "\">", "<span class=\"line-number file\">", "</span>",
    "<span class=\"line-number display\">", "</span>", "<span class=\"line-text\">"] ++
    tagsFrom false line.flags ++ ["</span>", "</div>"]

/-- What of a session decides the tags of its page. -/
structure Outline where
  refused : Bool
  placeholder : Bool
  lines : List LineOutline

/-- The tags of a page. -/
def Outline.tags (outline : Outline) : List String :=
  ["<!DOCTYPE html>", "<html lang=\"en\">", "<head>", "<meta charset=\"utf-8\">", "<title>",
    "</title>", "<style>", "</style>", "</head>", "<body>",
    if outline.refused then "<div class=\"status error\">" else "<div class=\"status\">",
    "</div>", "<div id=\"output\">"] ++
    (if outline.placeholder then ["<div class=\"empty\">", "</div>"]
      else outline.lines.flatMap LineOutline.tags) ++
    ["</div>", "</body>", "</html>"]

def ShownLine.outline (line : ShownLine) : LineOutline :=
  ⟨line.content.level, line.content.segments.map Segment.flags⟩

def Session.outline (session : Session) : Outline :=
  ⟨!session.run.refused.isEmpty, session.placeholder?.isSome,
    session.shownLines.map ShownLine.outline⟩

namespace Markup

theorem isPlain_glow (level : Option Severity) : isPlain (glow level) = true := by
  cases level with
  | none => decide
  | some severity =>
    have before : isPlain " level-" = true := by decide
    have after : isPlain "-glow" = true := by decide
    simp [glow, before, after, isPlain_className]

theorem tagged_lineStart (level : Option Severity) :
    Tagged ("<div class=\"line" ++ glow level ++ "\">")
      ["<div class=\"line" ++ glow level ++ "\">"] := by
  have opens : "<div class=\"line" = "<" ++ "div class=\"line" := by decide
  exact tagged_classed opens (by decide) (isPlain_glow level)

/-- The element of a line, cut where a tag ends and where a text does. -/
theorem markup_line (line : ShownLine) :
    line.markup =
      "<div class=\"line" ++ glow line.content.level ++ "\">" ++
        "<span class=\"line-number file\">" ++ toString line.number ++
        "</span><span class=\"line-number display\">" ++ toString line.displayIndex ++
        "</span><span class=\"line-text\">" ++ line.content.markup ++ "</span></div>" := by
  have ends : "\"><span class=\"line-number file\">" =
      "\">" ++ "<span class=\"line-number file\">" := by decide
  unfold ShownLine.markup
  rw [ends]
  cases line.content.level <;> simp only [glow, String.append_assoc]

theorem tagged_line (line : ShownLine) : Tagged line.markup line.outline.tags := by
  have file : Tagged "<span class=\"line-number file\">" ["<span class=\"line-number file\">"] :=
    tagged_ofList rfl rfl
  have display : Tagged "</span><span class=\"line-number display\">"
      ["</span>", "<span class=\"line-number display\">"] := tagged_ofList rfl rfl
  have text : Tagged "</span><span class=\"line-text\">"
      ["</span>", "<span class=\"line-text\">"] := tagged_ofList rfl rfl
  have ends : Tagged "</span></div>" ["</span>", "</div>"] := tagged_ofList rfl rfl
  have numbers := (((tagged_lineStart line.content.level).append file).append
    (tagged_number line.number)).append display |>.append (tagged_number line.displayIndex)
  have content := tagged_markupFrom false line.content.segments
  rw [markup_line]
  exact ((numbers.append text).append content).append ends

theorem tagged_body (session : Session) :
    Tagged session.bodyMarkup
      (if session.placeholder?.isSome then ["<div class=\"empty\">", "</div>"]
        else session.shownLines.flatMap fun line => line.outline.tags) := by
  unfold Session.bodyMarkup
  cases session.placeholder? with
  | some message =>
    have opened : Tagged "<div class=\"empty\">" ["<div class=\"empty\">"] := tagged_ofList rfl rfl
    have closed : Tagged "</div>" ["</div>"] := tagged_ofList rfl rfl
    exact (opened.append (tagged_escape message)).append closed
  | none => exact tagged_joinLines fun line _ => tagged_line line

theorem tagged_styleSheet : Tagged styleSheet [] := by
  have both {first second : String} (tagged : Tagged first []) (tagged' : Tagged second []) :
      Tagged (first ++ second) [] := tagged.append tagged'
  unfold styleSheet
  -- rule by rule, one of which is written in two parts
  refine tagged_join ?_
  simp only [List.forall_mem_cons, List.not_mem_nil, false_implies, implies_true, and_true]
  and_intros
  all_goals
    first
    | exact tagged_ofList rfl rfl
    | exact both (tagged_ofList rfl rfl) (tagged_ofList rfl rfl)

theorem markup_page (session : Session) :
    session.pageMarkup =
      "<!DOCTYPE html>\n<html lang=\"en\">\n<head>\n<meta charset=\"utf-8\">\n<title>" ++
        escape session.title ++ "</title>\n<style>\n" ++ styleSheet ++
        "</style>\n</head>\n<body>\n" ++ ("<div class=\"" ++ session.statusClass ++ "\">") ++
        escape session.summary ++ "</div>\n<div id=\"output\">\n" ++ session.bodyMarkup ++
        "\n</div>\n</body>\n</html>\n" := by
  have opens : "</style>\n</head>\n<body>\n<div class=\"" =
      "</style>\n</head>\n<body>\n" ++ "<div class=\"" := by decide
  unfold Session.pageMarkup
  rw [opens]
  simp only [String.join, List.foldl_cons, List.foldl_nil, String.empty_append,
    String.append_assoc]

theorem tagged_statusStart (session : Session) :
    Tagged ("<div class=\"" ++ session.statusClass ++ "\">")
      [if session.outline.refused then "<div class=\"status error\">"
        else "<div class=\"status\">"] := by
  cases accepted : session.run.refused.isEmpty with
  | false =>
    simp only [Session.statusClass, Session.outline, accepted, Bool.not_false]
    decide
  | true =>
    simp only [Session.statusClass, Session.outline, accepted, Bool.not_true]
    decide

theorem tagged_page (session : Session) : Tagged session.pageMarkup session.outline.tags := by
  have top : Tagged
      "<!DOCTYPE html>\n<html lang=\"en\">\n<head>\n<meta charset=\"utf-8\">\n<title>"
      ["<!DOCTYPE html>", "<html lang=\"en\">", "<head>", "<meta charset=\"utf-8\">",
        "<title>"] := tagged_ofList rfl rfl
  have style : Tagged "</title>\n<style>\n" ["</title>", "<style>"] := tagged_ofList rfl rfl
  have body : Tagged "</style>\n</head>\n<body>\n" ["</style>", "</head>", "<body>"] :=
    tagged_ofList rfl rfl
  have output : Tagged "</div>\n<div id=\"output\">\n" ["</div>", "<div id=\"output\">"] :=
    tagged_ofList rfl rfl
  have ends : Tagged "\n</div>\n</body>\n</html>\n" ["</div>", "</body>", "</html>"] :=
    tagged_ofList rfl rfl
  have head := ((top.append (tagged_escape session.title)).append style).append tagged_styleSheet
  have status := ((head.append body).append (tagged_statusStart session)).append
    (tagged_escape session.summary)
  have whole := ((status.append output).append (tagged_body session)).append ends
  rw [markup_page]
  simpa [Outline.tags, Session.outline, List.flatMap_map] using whole

end Markup

/--
The tags of the page are told by its outline alone, its brackets are those around its tags, and the
markup of each line is nested.
-/
theorem Session.page_tags_of_outline (session : Session) :
    Markup.tags session.pageMarkup = session.outline.tags ∧
      Markup.brackets session.pageMarkup =
        (Markup.tags session.pageMarkup).flatMap (fun _ => ['<', '>']) ∧
      ∀ line ∈ session.shownLines, Nested false line.content.markup := by
  have tagged := Markup.tagged_page session
  refine ⟨tagged.tags_eq, ?_, fun line _ => nested_markupFrom false line.content.segments⟩
  rw [tagged.tags_eq]
  exact tagged.bracketed

end LogView
