import LogView.Proofs.Annotation.Coverage
import LogView.Proofs.Annotation.Lossless
import LogView.Proofs.Pattern.Search
import Mathlib.Data.List.Basic

/-!
# What is marked in a line

The pieces of an annotated line are never empty, give the line in order, and are highlighted
exactly where a span of the pattern covers the line.  The marks of its markup enclose the runs of
spans that touch one another.
-/

namespace LogView

open Pattern

/-- The spans that are highlighted in a line. -/
def highlightedSpans (line : String) (highlight : Option Pattern) : List (Nat × Nat) :=
  match highlight with
  | some pattern => pattern.spans line
  | none => []

theorem spaced_highlightedSpans (line : String) (highlight : Option Pattern) :
    Spaced 0 (highlightedSpans line highlight) := by
  cases highlight with
  | some pattern => exact pattern.spaced_spans line
  | none => trivial

theorem filled_highlightedSpans (line : String) (highlight : Option Pattern) :
    Filled line.length (highlightedSpans line highlight) := by
  cases highlight with
  | some pattern =>
    intro span mem
    exact (mem_spans mem).2
  | none => exact nofun

/-- The characters of segments, each with whether it is highlighted. -/
def markedChars (segments : List Segment) : List (Bool × Char) :=
  segments.flatMap fun segment => segment.text.toList.map (Prod.mk segment.matched)

/-- All that a text is cut into at tokens has its flag, and is not empty unless the text is. -/
theorem mem_tokenize {matched : Bool}
    {passes : List ((List Char → Option Nat) × (List Char → Option Token))} {text : List Char}
    {segment : Segment} (mem : segment ∈ tokenize matched passes text) :
    segment.matched = matched ∧ (text ≠ [] → segment.text ≠ "") := by
  induction passes generalizing text with
  | nil =>
    cases List.mem_singleton.mp mem
    refine ⟨rfl, fun nonempty empty => nonempty ?_⟩
    simpa using congrArg String.toList empty
  | cons pass passes ih =>
    obtain ⟨length?, token?⟩ := pass
    obtain ⟨⟨inToken, piece⟩, kept, mem⟩ := List.mem_flatMap.mp mem
    have nonempty : piece ≠ [] := by
      have kept := (List.mem_filter.mp kept).2
      simpa using kept
    dsimp only at mem
    split_ifs at mem
    · cases List.mem_singleton.mp mem
      refine ⟨rfl, fun _ empty => nonempty ?_⟩
      simpa using congrArg String.toList empty
    · exact ⟨(ih mem).1, fun _ => (ih mem).2 nonempty⟩

theorem markedChars_of_matched {matched : Bool} {segments : List Segment}
    (same : ∀ segment ∈ segments, segment.matched = matched) :
    markedChars segments = (segmentChars segments).map (Prod.mk matched) := by
  unfold markedChars segmentChars
  rw [List.map_flatMap]
  apply List.flatMap_congr
  intro segment mem
  rw [same segment mem]

theorem markedChars_tokenize (matched : Bool)
    (passes : List ((List Char → Option Nat) × (List Char → Option Token))) (text : List Char) :
    markedChars (tokenize matched passes text) = text.map (Prod.mk matched) := by
  rw [markedChars_of_matched fun segment mem => (mem_tokenize mem).1, segmentChars_tokenize]

theorem markedChars_annotate (line : String) (highlight : Option Pattern) :
    markedChars (annotate line highlight).segments =
      coveredChars (highlightedSpans line highlight) 0 line.toList := by
  have filled : Filled line.toList.length (highlightedSpans line highlight) := by
    rw [String.length_toList]
    exact filled_highlightedSpans line highlight
  rw [← flaggedChars_pieces (spaced_highlightedSpans line highlight) filled]
  unfold markedChars flaggedChars
  change ((pieces (highlightedSpans line highlight) line.toList).flatMap _).flatMap _ = _
  rw [List.flatMap_assoc]
  apply List.flatMap_congr
  intro piece _
  exact markedChars_tokenize piece.1 tokenPasses piece.2

theorem text_ne_empty {line : String} {highlight : Option Pattern} {segment : Segment}
    (mem : segment ∈ (annotate line highlight).segments) : segment.text ≠ "" := by
  obtain ⟨piece, kept, mem⟩ := List.mem_flatMap.mp mem
  have nonempty : piece.2 ≠ [] := by
    have kept := (List.mem_filter.mp kept).2
    simpa using kept
  exact (mem_tokenize mem).2 nonempty

theorem exists_matched {line : String} {pattern : Pattern} (found : pattern.spans line ≠ []) :
    ∃ segment ∈ (annotate line (some pattern)).segments, segment.matched = true := by
  obtain ⟨span, mem⟩ := List.exists_mem_of_ne_nil _ found
  obtain ⟨-, taken, inside⟩ := mem_spans mem
  have place : span.1 < line.toList.length := by
    rw [String.length_toList]
    omega
  have cover : covered (pattern.spans line) (0 + span.1) = true := by
    rw [Nat.zero_add, covered, List.any_eq_true]
    exact ⟨span, mem, by simpa using taken⟩
  have marked : (true, line.toList[span.1]) ∈
      markedChars (annotate line (some pattern)).segments := by
    rw [markedChars_annotate, coveredChars, List.mem_mapIdx]
    exact ⟨span.1, place, by rw [← cover]; rfl⟩
  obtain ⟨segment, mem, char⟩ := List.mem_flatMap.mp marked
  obtain ⟨c, -, same⟩ := List.mem_map.mp char
  exact ⟨segment, mem, congrArg Prod.fst same⟩

namespace Markup

/--
Cuts a markup at the tags of marks, the flag telling the parts inside marks.  `rev` is what was
read of the present part, last character first.
-/
def cutAtMarks (marking : Bool) (rev : List Char) : List Char → List (Bool × List Char)
  | '<' :: 'm' :: 'a' :: 'r' :: 'k' :: '>' :: rest =>
    (marking, rev.reverse) :: cutAtMarks true [] rest
  | '<' :: '/' :: 'm' :: 'a' :: 'r' :: 'k' :: '>' :: rest =>
    (marking, rev.reverse) :: cutAtMarks false [] rest
  | c :: rest => cutAtMarks marking (c :: rev) rest
  | [] => [(marking, rev.reverse)]

/-- The text that a markup shows. -/
def shownText (markup : List Char) : List Char := unescapeChars (stripTagChars false markup)

/-- The texts outside and inside the marks of a markup, in turns. -/
def markedTexts (markup : String) : List (Bool × List Char) :=
  (cutAtMarks false [] markup.toList).map fun part => (part.1, shownText part.2)

/-- Whether a part of a markup holds no tag of a mark. -/
def Unmarked (part : List Char) : Prop :=
  ∀ (marking : Bool) (rev rest : List Char),
    cutAtMarks marking rev (part ++ rest) = cutAtMarks marking (part.reverse ++ rev) rest

theorem Unmarked.append {part part' : List Char} (first : Unmarked part)
    (second : Unmarked part') : Unmarked (part ++ part') := by
  intro marking rev rest
  rw [List.append_assoc, first, second, List.reverse_append, List.append_assoc]

theorem cutAtMarks_cons {c : Char} (plain : c ≠ '<') (marking : Bool) (rev rest : List Char) :
    cutAtMarks marking rev (c :: rest) = cutAtMarks marking (c :: rev) rest := by
  conv => lhs; unfold cutAtMarks
  split <;> simp_all

theorem unmarked_text {text : List Char} (unopened : '<' ∉ text) : Unmarked text := by
  intro marking rev rest
  induction text generalizing rev with
  | nil => rfl
  | cons c text ih =>
    rw [List.mem_cons, not_or] at unopened
    rw [List.cons_append, cutAtMarks_cons (Ne.symm unopened.1), ih unopened.2]
    simp

theorem unmarked_span {text : List Char} (unopened : '<' ∉ text) :
    Unmarked ('<' :: 's' :: text) ∧ Unmarked ('<' :: '/' :: 's' :: text) := by
  have after := unmarked_text unopened
  constructor
  · intro marking rev rest
    have step : cutAtMarks marking rev ('<' :: 's' :: (text ++ rest)) =
        cutAtMarks marking ('s' :: '<' :: rev) (text ++ rest) := rfl
    simp only [List.cons_append, step, after marking, List.reverse_cons, List.append_assoc,
      List.nil_append]
  · intro marking rev rest
    have step : cutAtMarks marking rev ('<' :: '/' :: 's' :: (text ++ rest)) =
        cutAtMarks marking ('s' :: '/' :: '<' :: rev) (text ++ rest) := rfl
    simp only [List.cons_append, step, after marking, List.reverse_cons, List.append_assoc,
      List.nil_append]

theorem unopened_classes (token : Token) : '<' ∉ token.classes.toList := by
  cases token with
  | date => decide
  | time => decide
  | level severity => cases severity <;> decide

theorem unmarked_escaped (text : List Char) : Unmarked (text.flatMap escapeChar) := by
  apply unmarked_text
  intro mem
  obtain ⟨c, -, mem⟩ := List.mem_flatMap.mp mem
  exact not_mem_escapeChar c mem

/-- The markup of a piece holds no tag of a mark, whatever the piece holds. -/
theorem unmarked_segment (segment : Segment) : Unmarked segment.markup.toList := by
  unfold Segment.markup
  cases segment.token with
  | none =>
    rw [toList_escape]
    exact unmarked_escaped _
  | some token =>
    have start : Unmarked "<span class=\"".toList := (unmarked_span (by decide)).1
    have stop : Unmarked "</span>".toList := (unmarked_span (by decide)).2
    have quote : Unmarked "\">".toList := unmarked_text (by decide)
    simp only [String.toList_append, toList_escape]
    exact (((start.append (unmarked_text (unopened_classes token))).append quote).append
      (unmarked_escaped _)).append stop

theorem cutAtMarks_edge (flag marking : Bool) (rev rest : List Char) :
    cutAtMarks marking rev ((if flag then "<mark>" else "</mark>").toList ++ rest) =
      (marking, rev.reverse) :: cutAtMarks flag [] rest := by
  cases flag <;> rfl

/-- The markup of pieces without the marks around them. -/
def unmarkedMarkup (segments : List Segment) : List Char :=
  segments.flatMap fun segment => segment.markup.toList

theorem shownText_unmarkedMarkup (segments : List Segment) :
    shownText (unmarkedMarkup segments) = segmentChars segments := by
  have stripped : stripTagChars false (unmarkedMarkup segments) =
      (segmentChars segments).flatMap escapeChar := by
    induction segments with
    | nil => rfl
    | cons segment segments ih =>
      unfold unmarkedMarkup at ih ⊢
      rw [List.flatMap_cons, stripTagChars_segment, ih]
      simp [segmentChars]
  rw [shownText, stripped, unescapeChars_escaped]

theorem cutAtMarks_segment (marking : Bool) (before : List Segment) (segment : Segment)
    (rest : List Char) :
    cutAtMarks marking (unmarkedMarkup before).reverse (segment.markup.toList ++ rest) =
      cutAtMarks marking (unmarkedMarkup (before ++ [segment])).reverse rest := by
  have joined : (unmarkedMarkup (before ++ [segment])).reverse =
      segment.markup.toList.reverse ++ (unmarkedMarkup before).reverse := by
    simp [unmarkedMarkup]
  rw [joined]
  exact unmarked_segment segment marking _ rest

/-- The marks enclose the stretches of highlighted characters, `before` being read before them. -/
theorem cutAtMarks_markupFrom (marking : Bool) (before : List Segment) {segments : List Segment}
    (filled : ∀ segment ∈ segments, segment.text ≠ "") :
    (cutAtMarks marking (unmarkedMarkup before).reverse (markupFrom marking segments).toList).map
        (fun part => (part.1, shownText part.2)) =
      stretchesFrom marking (segmentChars before) (markedChars segments) := by
  induction segments generalizing marking before with
  | nil =>
    cases marking with
    | false => simp [markupFrom, cutAtMarks, shownText_unmarkedMarkup, markedChars, stretchesFrom]
    | true =>
      have ends := cutAtMarks_edge false true (unmarkedMarkup before).reverse []
      have closed : (markupFrom true []).toList =
          (if false then "<mark>" else "</mark>").toList ++ [] := by simp [markupFrom]
      rw [closed, ends]
      simp [cutAtMarks, shownText_unmarkedMarkup, markedChars, stretchesFrom]
      rfl
  | cons segment segments ih =>
    obtain ⟨nonempty, filled'⟩ := List.forall_mem_cons.mp filled
    have chars : segment.text.toList ≠ [] := by simpa using nonempty
    have split : markedChars (segment :: segments) =
        segment.text.toList.map (Prod.mk segment.matched) ++ markedChars segments := rfl
    unfold markupFrom
    dsimp only
    rw [split, String.toList_append, String.toList_append, List.append_assoc]
    by_cases same : segment.matched = marking
    · have text : segmentChars (before ++ [segment]) =
          segmentChars before ++ segment.text.toList := by simp [segmentChars]
      rw [if_pos same, same, stretchesFrom_same, ← text, ← ih marking _ filled',
        ← cutAtMarks_segment]
      rfl
    · have text : segmentChars [segment] = segment.text.toList := by simp [segmentChars]
      have first := cutAtMarks_segment segment.matched [] segment
      rw [if_neg same, cutAtMarks_edge, stretchesFrom_other same _ chars, List.map_cons,
        List.reverse_reverse, shownText_unmarkedMarkup, ← text, ← ih segment.matched _ filled',
        ← List.nil_append [segment], ← first]
      rfl

/-- The texts outside and inside the marks of a line are cut at the joined spans. -/
theorem markedTexts_annotate (line : String) (highlight : Option Pattern) :
    markedTexts (annotate line highlight).markup =
      cutAt 0 (joinTouching (highlightedSpans line highlight)) line.toList := by
  have filled : Filled (0 + line.toList.length) (highlightedSpans line highlight) := by
    rw [Nat.zero_add, String.length_toList]
    exact filled_highlightedSpans line highlight
  obtain ⟨apart, filled', same⟩ :=
    joinTouching_spec (spaced_highlightedSpans line highlight) filled
  have texts : ∀ segment ∈ (annotate line highlight).segments, segment.text ≠ "" :=
    fun segment mem => text_ne_empty mem
  have read := cutAtMarks_markupFrom false [] texts
  rw [markedChars_annotate, ← coveredChars_congr fun k _ => same k] at read
  rw [← stretchesFrom_covered apart filled']
  exact read

end Markup

/-- Whether a span is a stretch of a text, from one place between characters to a later one. -/
def IsStretch (text : String) (span : Nat × Nat) : Prop :=
  ∃ before inside after : String, text = before ++ inside ++ after ∧ inside ≠ "" ∧
    before.length = span.1 ∧ (before ++ inside).length = span.2

theorem isStretch_of_filled {text : String} {spans : List (Nat × Nat)}
    (filled : Filled text.length spans) {span : Nat × Nat} (mem : span ∈ spans) :
    IsStretch text span := by
  obtain ⟨first, last⟩ := span
  obtain ⟨taken, inside⟩ := filled _ mem
  have size : text.toList.length = text.length := String.length_toList
  have split := split_at_span (Nat.zero_le first) (Nat.le_of_lt taken) text.toList
  refine ⟨String.ofList (text.toList.take first),
    String.ofList ((text.toList.drop first).take (last - first)),
    String.ofList (text.toList.drop last), ?_, ?_, ?_, ?_⟩
  · rw [← String.toList_inj]
    simpa using split
  · intro empty
    have blank := congrArg String.toList empty
    simp at blank
    omega
  · simp
    omega
  · simp
    omega

/--
The pieces of an annotated line are not empty and give the line in order, and a character is
highlighted exactly if a span covers its place.  The spans are stretches of the line, one after the
other.  The marks of the markup enclose the texts of the spans, those that touch one another being
joined to runs that lie apart.
-/
theorem annotate_exact (line : String) (highlight : Option Pattern) :
    (∀ segment ∈ (annotate line highlight).segments, segment.text ≠ "") ∧
      (annotate line highlight).plain = line ∧
      markedChars (annotate line highlight).segments =
        line.toList.mapIdx (fun k c => (covered (highlightedSpans line highlight) k, c)) ∧
      Spaced 0 (highlightedSpans line highlight) ∧
      (∀ span ∈ highlightedSpans line highlight, IsStretch line span) ∧
      Apart 0 (joinTouching (highlightedSpans line highlight)) ∧
      (∀ k, covered (joinTouching (highlightedSpans line highlight)) k =
        covered (highlightedSpans line highlight) k) ∧
      Markup.markedTexts (annotate line highlight).markup =
        cutAt 0 (joinTouching (highlightedSpans line highlight)) line.toList := by
  have spaced := spaced_highlightedSpans line highlight
  have filled := filled_highlightedSpans line highlight
  obtain ⟨apart, -, same⟩ := joinTouching_spec spaced filled
  refine ⟨fun segment mem => text_ne_empty mem, plain_annotate line highlight, ?_, spaced,
    fun span mem => isStretch_of_filled filled mem, apart, same,
    Markup.markedTexts_annotate line highlight⟩
  rw [markedChars_annotate, coveredChars]
  simp only [Nat.zero_add]

end LogView
