import LogView.Proofs.View.Agreement

/-!
# Colours

Colours only add to the page: leaving out the sequences that set and reset styles gives the page as
it is written without colours.  This holds as long as no text on the page has an escape character,
which begins every such sequence; brackets, digits and semicolons in a text do no harm.  Which
sequences set a style makes no difference.
-/

namespace LogView

/-- What stands between the bracket and the last letter of a colour sequence. -/
def isColorCode (c : Char) : Bool := c.isDigit || c == ';'

/-- The length of the colour sequence that a text begins with. -/
def colorLength? : List Char → Option Nat
  | '\x1b' :: '[' :: rest =>
    match rest.dropWhile isColorCode with
    | 'm' :: _ => some ((rest.takeWhile isColorCode).length + 3)
    | _ => none
  | _ => none

/-- Leaves out colour sequences, `skip` telling how many characters still belong to the last one. -/
def dropColors (skip : Nat) : List Char → List Char
  | [] => []
  | c :: rest =>
    match skip with
    | skip + 1 => dropColors skip rest
    | 0 =>
      match colorLength? (c :: rest) with
      | some n => dropColors (n - 1) rest
      | none => c :: dropColors 0 rest

/-- A text without its colour sequences. -/
def withoutColors (text : String) : String := String.ofList (dropColors 0 text.toList)

/-- A text that is one colour sequence. -/
def IsColor (sequence : List Char) : Prop :=
  ∃ codes, (∀ c ∈ codes, isColorCode c = true) ∧ sequence = '\x1b' :: '[' :: (codes ++ ['m'])

theorem dropColors_skip (skip : Nat) (text : List Char) :
    dropColors skip text = dropColors 0 (text.drop skip) := by
  induction text generalizing skip with
  | nil => rw [List.drop_nil, dropColors, dropColors]
  | cons c text ih =>
    cases skip with
    | zero => rfl
    | succ skip => exact ih skip

theorem colorLength?_of_ne {c : Char} (plain : c ≠ '\x1b') (rest : List Char) :
    colorLength? (c :: rest) = none := by
  unfold colorLength?
  split
  · rename_i same
    cases same
    contradiction
  · rfl

theorem dropColors_plain {text : List Char} (plain : '\x1b' ∉ text) (rest : List Char) :
    dropColors 0 (text ++ rest) = text ++ dropColors 0 rest := by
  induction text with
  | nil => rfl
  | cons c text ih =>
    obtain ⟨head, tail⟩ := List.ne_and_not_mem_of_not_mem_cons plain
    rw [List.cons_append, dropColors, colorLength?_of_ne head.symm, List.cons_append, ← ih tail]

theorem dropColors_sequence {sequence : List Char} (color : IsColor sequence)
    (rest : List Char) : dropColors 0 (sequence ++ rest) = dropColors 0 rest := by
  obtain ⟨codes, inside, rfl⟩ := color
  have last : isColorCode 'm' = false := by decide
  have taken : (codes ++ 'm' :: rest).takeWhile isColorCode = codes := by
    rw [List.takeWhile_append_of_pos inside, List.takeWhile_cons, last]
    simp
  have left : (codes ++ 'm' :: rest).dropWhile isColorCode = 'm' :: rest := by
    rw [List.dropWhile_append_of_pos inside, List.dropWhile_cons, last]
    rfl
  have length : colorLength? ('\x1b' :: '[' :: (codes ++ 'm' :: rest)) =
      some (codes.length + 3) := by
    rw [colorLength?, left, taken]
    rfl
  have chars : '\x1b' :: '[' :: (codes ++ ['m']) ++ rest =
      '\x1b' :: '[' :: (codes ++ 'm' :: rest) := by simp
  rw [chars, dropColors, length]
  dsimp only
  rw [dropColors_skip]
  simp

/-- A text is another one with colour sequences put in, wherever the two go on alike. -/
def Colors (colored bare : String) : Prop :=
  ∀ rest, dropColors 0 (colored.toList ++ rest) = bare.toList ++ dropColors 0 rest

theorem Colors.withoutColors_eq {colored bare : String} (colors : Colors colored bare) :
    withoutColors colored = bare := by
  have whole := colors []
  rw [List.append_nil, dropColors, List.append_nil] at whole
  rw [withoutColors, whole, String.ofList_toList]

theorem colors_plain {text : String} (plain : '\x1b' ∉ text.toList) : Colors text text :=
  dropColors_plain plain

theorem Colors.append {colored bare colored' bare' : String} (colors : Colors colored bare)
    (colors' : Colors colored' bare') : Colors (colored ++ colored') (bare ++ bare') := by
  intro rest
  rw [String.toList_append, String.toList_append, List.append_assoc, colors, colors',
    List.append_assoc]

theorem colors_join {α : Type} {parts : List α} {colored bare : α → String}
    (colors : ∀ part ∈ parts, Colors (colored part) (bare part)) :
    Colors (String.join (parts.map colored)) (String.join (parts.map bare)) := by
  induction parts with
  | nil =>
    have plain : '\x1b' ∉ "".toList := by decide
    exact colors_plain plain
  | cons part parts ih =>
    obtain ⟨head, tail⟩ := List.forall_mem_cons.mp colors
    rw [List.map_cons, List.map_cons, String.join_cons, String.join_cons]
    exact head.append (ih tail)

/--
Texts are painted in their styles: a text in a style stands between a colour sequence that opens the
style and one that resets it, and a text without a style is written as it is.
-/
structure Paints (paint : Style → String → String) : Prop where
  bare : ∀ text, paint {} text = text
  wrapped : ∀ style text, style ≠ {} → '\x1b' ∉ text.toList →
    ∃ opening closing, IsColor opening ∧ IsColor closing ∧
      (paint style text).toList = opening ++ text.toList ++ closing

theorem Paints.colors {paint : Style → String → String} (paints : Paints paint) (style : Style)
    {text : String} (plain : '\x1b' ∉ text.toList) : Colors (paint style text) text := by
  by_cases styled : style = {}
  · rw [styled, paints.bare]
    exact colors_plain plain
  · obtain ⟨opening, closing, opens, closes, chars⟩ := paints.wrapped style text styled plain
    intro rest
    rw [chars, List.append_assoc, List.append_assoc, dropColors_sequence opens,
      dropColors_plain plain, dropColors_sequence closes]

theorem forall_mem_intercalate {inside : Char → Prop} {separator : List Char}
    (separated : ∀ c ∈ separator, inside c) {parts : List (List Char)}
    (within : ∀ part ∈ parts, ∀ c ∈ part, inside c) :
    ∀ c ∈ separator.intercalate parts, inside c := by
  induction parts with
  | nil => exact List.forall_mem_nil _
  | cons part parts ih =>
    obtain ⟨head, tail⟩ := List.forall_mem_cons.mp within
    cases parts with
    | nil => simpa using head
    | cons next parts =>
      rw [List.intercalate_cons_cons]
      intro c mem
      rcases List.mem_append.mp mem with mem | mem
      · rcases List.mem_append.mp mem with mem | mem
        · exact head c mem
        · exact separated c mem
      · exact ih tail c mem

namespace Style

theorem isColor_reset : IsColor reset :=
  ⟨['0'], List.forall_mem_singleton.mpr (by decide), rfl⟩

theorem isColor_opening (style : Style) : IsColor style.opening := by
  refine ⟨(String.intercalate ";" (style.codes.map toString)).toList, ?_, rfl⟩
  rw [String.toList_intercalate, List.map_map]
  refine forall_mem_intercalate (List.forall_mem_singleton.mpr (by decide)) ?_
  intro part mem c inside
  obtain ⟨code, -, rfl⟩ := List.mem_map.mp mem
  rw [isColorCode, Markup.isDigit_of_mem_toString inside, Bool.true_or]

theorem reopen_plain {text : List Char} (plain : '\x1b' ∉ text) (opening : List Char) :
    reopen opening text = text := by
  induction text with
  | nil => rfl
  | cons c text ih =>
    obtain ⟨head, tail⟩ := List.ne_and_not_mem_of_not_mem_cons plain
    unfold reopen
    split
    · rename_i same
      cases same
      contradiction
    · rename_i same
      cases same
      rw [ih tail]
    · contradiction

theorem codes_eq_nil {style : Style} : style.codes = [] ↔ style = {} := by
  obtain ⟨bold, ground, color⟩ := style
  cases bold <;> cases ground <;> cases color <;> simp [codes]

theorem paints_apply : Paints fun style => style.apply true where
  bare := fun text => rfl
  wrapped := by
    intro style text styled plain
    have codes : (true && !style.codes.isEmpty) = true := by
      simpa [codes_eq_nil] using styled
    refine ⟨style.opening, reset, style.isColor_opening, isColor_reset, ?_⟩
    rw [Style.apply, if_pos codes, String.toList_ofList, reopen_plain plain]

end Style

/-! ### The page -/

theorem Segment.text_plain {line : String} (plain : '\x1b' ∉ line.toList)
    {highlight : Option Pattern} {segment : Segment}
    (mem : segment ∈ (annotate line highlight).segments) : '\x1b' ∉ segment.text.toList := by
  intro inside
  apply plain
  rw [← segmentChars_annotate line highlight]
  exact List.mem_flatMap.mpr ⟨segment, mem, inside⟩

namespace ShownLine

theorem gutter_plain (line : ShownLine) : '\x1b' ∉ line.gutter.toList := by
  have numbers (n : Nat) : '\x1b' ∉ (padLeft 7 (toString n)).toList :=
    not_mem_padLeft (not_mem_number (by decide) n) (by decide) 7
  have gap : '\x1b' ∉ " ".toList := by decide
  unfold gutter
  simp only [String.toList_append, List.mem_append, not_or]
  exact ⟨⟨numbers _, gap⟩, numbers _⟩

/-- A line behind its gutter, in any way of painting. -/
def painted (paint : Style → String → String) (line : ShownLine) : String :=
  paint line.gutterStyle line.gutter ++ " │ " ++
    String.join (line.content.segments.map fun segment => paint segment.style segment.text)

theorem colors_painted {paint : Style → String → String} (paints : Paints paint)
    {line : ShownLine}
    (plain : ∀ segment ∈ line.content.segments, '\x1b' ∉ segment.text.toList) :
    Colors (line.painted paint) (line.text false) := by
  have bar : '\x1b' ∉ " │ ".toList := by decide
  unfold painted text
  simp only [Style.apply_false]
  refine ((paints.colors _ line.gutter_plain).append (colors_plain bar)).append ?_
  exact colors_join fun segment mem => paints.colors _ (plain segment mem)

end ShownLine

namespace Session

/-- The summary has an escape character only where the message of an error has one. -/
theorem summary_plain {session : Session}
    (errors : ∀ message ∈ session.run.errorMessage?, '\x1b' ∉ message.toList) :
    '\x1b' ∉ session.summary.toList := by
  have number (n : Nat) : '\x1b' ∉ (toString n).toList := not_mem_number (by decide) n
  unfold summary
  simp only [String.toList_append, List.mem_append, not_or, number, not_false_eq_true, and_true]
  refine ⟨by decide, ?_⟩
  cases told : session.run.errorMessage? with
  | none => exact List.not_mem_nil
  | some message =>
    have bar : '\x1b' ∉ " | ".toList := by decide
    simp only [String.toList_append, List.mem_append, not_or]
    exact ⟨bar, errors message told⟩

theorem placeholder_plain {session : Session} {message : String}
    (placed : session.placeholder? = some message) : '\x1b' ∉ message.toList := by
  unfold placeholder? at placed
  split_ifs at placed
  · cases placed
    decide
  · cases placed
    decide

theorem shownLines_plain {session : Session}
    (lines : ∀ line ∈ session.page.lines, '\x1b' ∉ line.text.toList) :
    ∀ line ∈ session.shownLines, ∀ segment ∈ line.content.segments,
      '\x1b' ∉ segment.text.toList := by
  intro line mem segment inside
  obtain ⟨i, found⟩ := List.getElem?_of_mem mem
  rw [shownLines, getElem?_shownFrom] at found
  obtain ⟨source, there, rfl⟩ := Option.map_eq_some_iff.mp found
  exact Segment.text_plain (lines source (List.mem_of_getElem? there)) inside

/-- The page on a terminal, in any way of painting. -/
def paintedText (paint : Style → String → String) (session : Session) : String :=
  let rows := match session.placeholder? with
    | some message => [paint { color := some .brightBlack } message]
    | none => session.shownLines.map (ShownLine.painted paint)
  String.join ((paint session.summaryStyle session.summary :: rows).map fun row => row ++ "\n")

/-- The page on a terminal is painted with the sequences of the styles. -/
theorem paintedText_apply (colored : Bool) (session : Session) :
    (session.paintedText fun style => style.apply colored) = session.terminalText colored := rfl

theorem colors_paintedText {paint : Style → String → String} (paints : Paints paint)
    {session : Session} (lines : ∀ line ∈ session.page.lines, '\x1b' ∉ line.text.toList)
    (errors : ∀ message ∈ session.run.errorMessage?, '\x1b' ∉ message.toList) :
    Colors (session.paintedText paint) (session.terminalText false) := by
  have feed : Colors "\n" "\n" := colors_plain (by decide)
  unfold paintedText terminalText rows
  dsimp only
  rw [List.map_cons, List.map_cons, String.join_cons, String.join_cons, Style.apply_false]
  refine ((paints.colors _ (summary_plain errors)).append feed).append ?_
  cases placed : session.placeholder? with
  | some message =>
    dsimp only
    rw [Style.apply_false, List.map_singleton, List.map_singleton, String.join_cons,
      String.join_cons]
    refine ((paints.colors _ (placeholder_plain placed)).append feed).append ?_
    exact colors_plain List.not_mem_nil
  | none =>
    dsimp only
    rw [List.map_map, List.map_map]
    refine colors_join fun line mem => ?_
    exact (ShownLine.colors_painted paints (shownLines_plain lines line mem)).append feed

/--
Leaving out the colour sequences of a page gives the page as it is written without colours, as long
as no line on it and no message of an error has an escape character, and whatever the sequences are
that open and reset the styles.
-/
theorem colors_only_add {session : Session}
    (lines : ∀ line ∈ session.page.lines, '\x1b' ∉ line.text.toList)
    (errors : ∀ message ∈ session.run.errorMessage?, '\x1b' ∉ message.toList) :
    withoutColors (session.terminalText true) = session.terminalText false ∧
      ∀ paint, Paints paint →
        withoutColors (session.paintedText paint) = session.terminalText false := by
  have painted (paint : Style → String → String) (paints : Paints paint) :=
    (colors_paintedText paints lines errors).withoutColors_eq
  refine ⟨?_, painted⟩
  rw [← paintedText_apply true]
  exact painted _ Style.paints_apply

/-- A session that looks for what might be the end of a colour sequence. -/
def bracketed : Session :=
  (((withPaging .standard).perform (.load (.ofText "app.log" "ERROR [31m x\nnone"))).1.perform
    (.addRule (.ofKind .contains "[31m"))).1

/-- A severity and a match, in colours and without them. -/
theorem colors_of_bracketed :
    bracketed.terminalText true =
        "\x1b[1mLines: 2 | Filtered: 1 | Page: 1 / 1\x1b[0m\n" ++
          "\x1b[31m      1       1\x1b[0m │ \x1b[1;31mERROR\x1b[0m \x1b[1;43m[31m\x1b[0m x\n" ∧
      withoutColors (bracketed.terminalText true) =
        "Lines: 2 | Filtered: 1 | Page: 1 / 1\n      1       1 │ ERROR [31m x\n" ∧
      withoutColors (bracketed.paintedText fun style => style.apply true) =
        "Lines: 2 | Filtered: 1 | Page: 1 / 1\n      1       1 │ ERROR [31m x\n" := by
  have lines : ∀ line ∈ bracketed.page.lines, '\x1b' ∉ line.text.toList := by decide +kernel
  have accepted : bracketed.run.errorMessage? = none := by decide +kernel
  have errors : ∀ message ∈ bracketed.run.errorMessage?, '\x1b' ∉ message.toList := by
    simp [accepted]
  have bare : bracketed.terminalText false =
      "Lines: 2 | Filtered: 1 | Page: 1 / 1\n      1       1 │ ERROR [31m x\n" := by decide +kernel
  obtain ⟨added, painted⟩ := colors_only_add lines errors
  rw [bare] at added painted
  exact ⟨by decide +kernel, added, painted _ Style.paints_apply⟩

end Session

end LogView
