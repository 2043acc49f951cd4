import LogView.Proofs.Annotation.Pieces
import LogView.Proofs.Markup

/-!
# Annotating loses nothing

The pieces of an annotated line give the line back, and so does its markup once its tags are left
out and its entities are read back, whatever the line holds and whatever is highlighted in it.
-/

namespace LogView

/-- The characters of pieces, one piece after the other. -/
def segmentChars (segments : List Segment) : List Char :=
  segments.flatMap fun segment => segment.text.toList

theorem segmentChars_pieces {cut : Bool × List Char → List Segment}
    (lossless : ∀ piece, segmentChars (cut piece) = piece.2) {spans : List (Nat × Nat)}
    (spaced : Spaced 0 spans) (text : List Char) :
    segmentChars ((pieces spans text).flatMap cut) = text := by
  unfold segmentChars at lossless ⊢
  rw [List.flatMap_assoc]
  simp only [lossless]
  exact flatMap_pieces spaced text

theorem segmentChars_tokenize (matched : Bool)
    (passes : List ((List Char → Option Nat) × (List Char → Option Token))) (text : List Char) :
    segmentChars (tokenize matched passes text) = text := by
  induction passes generalizing text with
  | nil => simp [segmentChars, tokenize]
  | cons pass passes ih =>
    obtain ⟨length?, token?⟩ := pass
    refine segmentChars_pieces (fun piece => ?_) (Token.spaced_spans length? text) text
    dsimp only
    split_ifs
    · simp [segmentChars]
    · exact ih piece.2

theorem segmentChars_annotate (line : String) (highlight : Option Pattern) :
    segmentChars (annotate line highlight).segments = line.toList := by
  refine segmentChars_pieces (fun piece => segmentChars_tokenize piece.1 tokenPasses piece.2) ?_ _
  cases highlight with
  | some pattern => exact pattern.spaced_spans line
  | none => trivial

theorem plain_annotate (line : String) (highlight : Option Pattern) :
    (annotate line highlight).plain = line := by
  rw [← String.toList_inj, ← segmentChars_annotate line highlight]
  simp [Annotated.plain, segmentChars, String.toList_join, List.flatMap_map]

namespace Markup

theorem unclosed_classes (token : Token) : '>' ∉ token.classes.toList := by
  cases token with
  | date => decide
  | time => decide
  | level severity => cases severity <;> decide

theorem isTag_spanStart (token : Token) :
    IsTag ("<span class=\"" ++ token.classes ++ "\">") := by
  refine ⟨"span class=\"".toList ++ token.classes.toList ++ ['"'], by simp, ?_⟩
  have start : '>' ∉ "span class=\"".toList := by decide
  have quote : '>' ∉ ['"'] := by decide
  rw [List.append_assoc, List.mem_append, List.mem_append]
  rintro (mem | mem | mem)
  · exact start mem
  · exact unclosed_classes token mem
  · exact quote mem

theorem isTag_spanEnd : IsTag "</span>" := ⟨"/span".toList, by decide, by decide⟩

theorem isTag_markStart : IsTag "<mark>" := ⟨"mark".toList, by decide, by decide⟩

theorem isTag_markEnd : IsTag "</mark>" := ⟨"/mark".toList, by decide, by decide⟩

theorem stripTagChars_segment (segment : Segment) (rest : List Char) :
    stripTagChars false (segment.markup.toList ++ rest) =
      segment.text.toList.flatMap escapeChar ++ stripTagChars false rest := by
  unfold Segment.markup
  cases segment.token with
  | none => rw [toList_escape, stripTagChars_escaped]
  | some token =>
    rw [String.toList_append, String.toList_append, toList_escape, List.append_assoc,
      List.append_assoc, stripTagChars_tag (isTag_spanStart token), stripTagChars_escaped,
      stripTagChars_tag isTag_spanEnd]

/-- Without its tags the markup of pieces is their escaped text, a mark being open or not. -/
theorem stripTagChars_markupFrom (marking : Bool) (segments : List Segment) :
    stripTagChars false (markupFrom marking segments).toList =
      (segmentChars segments).flatMap escapeChar := by
  induction segments generalizing marking with
  | nil => cases marking <;> decide
  | cons segment segments ih =>
    have body : stripTagChars false
        (segment.markup.toList ++ (markupFrom segment.matched segments).toList) =
        (segmentChars (segment :: segments)).flatMap escapeChar := by
      rw [stripTagChars_segment, ih]
      simp [segmentChars]
    unfold markupFrom
    dsimp only
    rw [String.toList_append, String.toList_append, List.append_assoc]
    split_ifs
    · simpa using body
    · rw [stripTagChars_tag isTag_markStart, body]
    · rw [stripTagChars_tag isTag_markEnd, body]

end Markup

/-- The markup of an annotated line gives the line back. -/
theorem unescape_stripTags_markup (line : String) (highlight : Option Pattern) :
    Markup.unescape (Markup.stripTags (annotate line highlight).markup) = line := by
  unfold Markup.unescape Markup.stripTags Annotated.markup
  rw [Markup.stripTagChars_markupFrom, segmentChars_annotate, String.toList_ofList,
    Markup.unescapeChars_escaped, String.ofList_toList]

end LogView
