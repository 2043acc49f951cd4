import LogView.Filter.Highlight
import LogView.Proofs.Annotation.Marks
import LogView.Proofs.Annotation.Places

/-!
# Tokens beside what is highlighted

A highlight cuts a line before tokens are looked for, so it may cut a word in two or hide a token.
A token of the highlighted line is one of the plain line exactly if it stands alone in the line and
has no character in common with another token of the plain line.
-/

namespace LogView

open Token

/-- Whether a token is written in a text and stands alone there. -/
def PlacedToken.StandsIn (placed : PlacedToken) (text : List Char) : Prop :=
  placed.WrittenIn text ∧ StandsAlone text placed.first placed.last

/-- A gap ends where the text does or where a token stands alone, so it cuts no word. -/
theorem PlacedToken.StandsIn.of_gap {pass : TokenPass} (finds : pass.Finds) {text : List Char}
    {gap : Nat × Nat} (between : gap ∈ gapsFrom 0 (spans pass.1 text) text.length)
    {inner : PlacedToken} (stands : inner.StandsIn (slice text gap.1 gap.2)) :
    (inner.shift gap.1).StandsIn text := by
  obtain ⟨written, alone⟩ := stands
  obtain ⟨start, stop⟩ := mem_gapsFrom between
  have start' : gap.1 = 0 ∨ endsWord (text.drop gap.1) = true := by
    rcases start with start | ⟨span, found, start⟩
    · exact .inl start
    · rw [start]
      exact .inr (finds.mem_spans found).2.2.1.2
  have stop' : gap.2 = text.length ∨ wordBefore false text gap.2 = false := by
    rcases stop with stop | ⟨span, found, stop⟩
    · exact .inl stop
    · rw [stop]
      exact .inr (finds.mem_spans found).2.2.1.1
  have inside : gap.2 ≤ text.length := gap_inside finds.start_inside between
  have taken := written.1
  have within := written.2.1
  rw [length_slice inside] at within
  have whole := written.shift (by omega) inside
  exact ⟨whole, alone.of_slice taken (by omega) inside whole.2.2.edges start' stop'⟩

theorem PlacedToken.StandsIn.in_part {text : List Char} {placed : PlacedToken}
    (stands : placed.StandsIn text) {i j : Nat} (start : i ≤ placed.first)
    (stop : placed.last ≤ j) (inside : j ≤ text.length) :
    ∃ inner : PlacedToken, inner.shift i = placed ∧ inner.StandsIn (slice text i j) := by
  obtain ⟨⟨taken, -, spells⟩, alone⟩ := stands
  have first : i + (placed.first - i) = placed.first := Nat.add_sub_cancel' start
  have last : i + (placed.last - i) = placed.last := by omega
  refine ⟨⟨placed.first - i, placed.last - i, placed.token⟩, ?_, ⟨?_, ?_, ?_⟩, ?_⟩
  · unfold PlacedToken.shift
    dsimp only
    rw [first, last]
  · dsimp only
    omega
  · rw [length_slice inside]
    dsimp only
    omega
  · dsimp only
    rw [slice_slice (last.symm ▸ stop), first, last]
    exact spells
  · rw [← first, ← last] at alone
    exact alone.within (by omega) (by omega)

section Tokenize

variable {passes : List TokenPass} (finds : ∀ pass ∈ passes, pass.Finds) (matched : Bool)
include finds

theorem stands_of_tokenize {text : List Char} {placed : PlacedToken}
    (mem : placed ∈ tokensFrom 0 (tokenize matched passes text)) : placed.StandsIn text := by
  induction passes generalizing text placed with
  | nil => cases mem
  | cons pass passes ih =>
    obtain ⟨here, later⟩ := List.forall_mem_cons.mp finds
    rcases (mem_tokensFrom_tokenize here matched passes).mp mem with
      ⟨span, found, known, first, last⟩ | ⟨gap, between, inner, mem', rfl⟩
    · obtain ⟨taken, inside, alone, token, known', spells⟩ := here.mem_spans found
      cases known'.symm.trans known
      unfold PlacedToken.StandsIn PlacedToken.WrittenIn
      rw [first, last]
      exact ⟨⟨taken, inside, spells⟩, alone⟩
    · exact PlacedToken.StandsIn.of_gap here between (ih later mem')

/-- Where a token is written and stands alone, a token is found that has a character of it. -/
theorem exists_overlapping {text : List Char} {placed : PlacedToken}
    (stands : placed.StandsIn text) (offers : ∃ pass ∈ passes, pass.Offers placed.token) :
    ∃ other ∈ tokensFrom 0 (tokenize matched passes text), other.Overlaps placed := by
  induction passes generalizing text placed with
  | nil =>
    obtain ⟨pass, mem, -⟩ := offers
    cases mem
  | cons pass passes ih =>
    obtain ⟨here, later⟩ := List.forall_mem_cons.mp finds
    obtain ⟨⟨taken, inside, spells⟩, alone⟩ := stands
    by_cases covered : ∃ span ∈ spans pass.1 text, span.1 < placed.last ∧ placed.first < span.2
    · obtain ⟨span, found, overlap⟩ := covered
      obtain ⟨-, -, -, token, known, -⟩ := here.mem_spans found
      refine ⟨⟨span.1, span.2, token⟩, ?_, overlap⟩
      exact (mem_tokensFrom_tokenize here matched passes).mpr (.inl ⟨span, found, known, rfl, rfl⟩)
    · have clear : ∀ span ∈ spans pass.1 text,
          placed.last ≤ span.1 ∨ span.2 ≤ placed.first := by
        intro span found
        rcases Nat.lt_or_ge span.1 placed.last with before | after
        · rcases Nat.lt_or_ge placed.first span.2 with overlap | behind
          · exact absurd ⟨span, found, before, overlap⟩ covered
          · exact .inr behind
        · exact .inl after
      -- this pass would have found a token of its kind, so a later one looks for it in a gap
      have offers' : ∃ pass ∈ passes, pass.Offers placed.token := by
        obtain ⟨other, mem, offers⟩ := offers
        rcases List.mem_cons.mp mem with rfl | mem
        · obtain ⟨span, found, before, after⟩ := here.exists_span offers spells alone
          exact absurd ⟨span, found, by omega, after⟩ covered
        · exact ⟨other, mem, offers⟩
      obtain ⟨gap, between, start, stop⟩ := exists_gap (Nat.zero_le placed.first) inside clear
      obtain ⟨inner, rfl, stands⟩ := PlacedToken.StandsIn.in_part ⟨⟨taken, inside, spells⟩, alone⟩
        start stop (gap_inside here.start_inside between)
      obtain ⟨other, mem, before, after⟩ := ih later stands offers'
      refine ⟨other.shift gap.1, ?_, Nat.add_lt_add_left before _, Nat.add_lt_add_left after _⟩
      exact (mem_tokensFrom_tokenize here matched passes).mpr
        (.inr ⟨gap, between, other, mem, rfl⟩)

end Tokenize

theorem finds_tokenPasses : ∀ pass ∈ tokenPasses, TokenPass.Finds pass := by
  simp only [tokenPasses, List.forall_mem_cons]
  exact ⟨finds_dates, finds_times, finds_levels, nofun⟩

theorem offers_tokenPasses (token : Token) : ∃ pass ∈ tokenPasses, TokenPass.Offers pass token := by
  cases token with
  | date => exact ⟨_, List.mem_cons_self, [], rfl⟩
  | time => exact ⟨_, List.mem_cons_of_mem _ List.mem_cons_self, [], rfl⟩
  | level severity =>
    exact ⟨_, List.mem_cons_of_mem _ (List.mem_cons_of_mem _ List.mem_cons_self),
      offers_levels severity⟩

theorem tokens_annotate_none (line : String) :
    (annotate line none).tokens = tokensFrom 0 (tokenize false tokenPasses line.toList) := by
  unfold Annotated.tokens annotate
  cases chars : line.toList with
  | nil => rfl
  | cons c rest => simp [pieces, cutAt]

theorem written_of_annotate {line : String} {highlight : Option Pattern} {placed : PlacedToken}
    (mem : placed ∈ (annotate line highlight).tokens) : placed.WrittenIn line.toList := by
  have inside : ∀ span ∈ highlightedSpans line highlight,
      span.1 < span.2 ∧ span.2 ≤ line.toList.length := by
    rw [String.length_toList]
    exact filled_highlightedSpans line highlight
  have lossless : ∀ piece : Bool × List Char,
      segmentChars (tokenize piece.1 tokenPasses piece.2) = piece.2 :=
    fun piece => segmentChars_tokenize piece.1 tokenPasses piece.2
  have part {matched : Bool} {i j : Nat} (ordered : i ≤ j) (within : j ≤ line.toList.length)
      (mem : placed ∈ tokensFrom i (tokenize matched tokenPasses (slice line.toList i j))) :
      placed.WrittenIn line.toList := by
    obtain ⟨inner, mem', rfl⟩ := mem_tokensFrom_shift.mp mem
    exact (stands_of_tokenize finds_tokenPasses matched mem').1.shift ordered within
  have cut : placed ∈ tokensFrom 0 ((pieces (highlightedSpans line highlight) line.toList).flatMap
      fun piece => tokenize piece.1 tokenPasses piece.2) := by
    cases highlight <;> exact mem
  rcases (mem_tokensFrom_pieces lossless (spaced_highlightedSpans line highlight)
    (fun span found => (inside span found).2)).mp cut with
    ⟨span, found, -, mem⟩ | ⟨gap, between, nonempty, mem⟩
  · exact part (Nat.le_of_lt (inside span found).1) (inside span found).2 mem
  · have within : gap.2 ≤ line.toList.length := by
      refine gap_inside (fun span found => ?_) between
      have bounds := inside span found
      omega
    have ordered : gap.1 ≤ gap.2 := by
      have width := List.length_pos_of_ne_nil nonempty
      rw [length_slice within] at width
      omega
    exact part ordered within mem

/--
A token of a highlighted line is one of the plain line, at the same place, exactly if no character
of a word comes right before it or right behind it in the line, and it has no character in common
with another token of the plain line.
-/
theorem token_kept_iff {line : String} {highlight : Option Pattern} {placed : PlacedToken}
    (shown : placed ∈ (annotate line highlight).tokens) :
    placed ∈ (annotate line none).tokens ↔
      StandsAlone line.toList placed.first placed.last ∧
        ∀ other ∈ (annotate line none).tokens, other.Overlaps placed → other = placed := by
  rw [tokens_annotate_none]
  constructor
  · intro mem
    refine ⟨(stands_of_tokenize finds_tokenPasses false mem).2, ?_⟩
    intro other mem' overlap
    exact eq_of_overlaps (tokensFrom_ordered _ _).2 mem' mem overlap
  · rintro ⟨alone, clear⟩
    obtain ⟨other, mem, overlap⟩ := exists_overlapping finds_tokenPasses false
      ⟨written_of_annotate shown, alone⟩ (offers_tokenPasses placed.token)
    rw [← clear other mem overlap]
    exact mem

/-- A time before a word that is cut is the one of the plain line. -/
theorem time_kept :
    ⟨3, 11, .time⟩ ∈ (annotate "at 10:00:00 ERRORS"
        (highlight [.ofKind .contains "S"]).toOption.join).tokens ∧
      ⟨3, 11, .time⟩ ∈ (annotate "at 10:00:00 ERRORS" none).tokens := by
  have shown : ⟨3, 11, .time⟩ ∈ (annotate "at 10:00:00 ERRORS"
      (highlight [.ofKind .contains "S"]).toOption.join).tokens := by decide +kernel
  exact ⟨shown, (token_kept_iff shown).mpr (by decide +kernel)⟩

/--
A highlight right behind a severity makes a token of what is a part of a word in the plain line.
One inside of a date leaves a time that shares digits with it, and one at a fraction a shorter time.
-/
theorem tokens_of_cut_words :
    (annotate "ERRORS" none).tokens = [] ∧
      (annotate "ERRORS" (highlight [.ofKind .contains "S"]).toOption.join).tokens =
        [⟨0, 5, .level .error⟩] ∧
      ¬StandsAlone "ERRORS".toList 0 5 ∧
      (annotate "2024-10-20:30:40" none).tokens = [⟨0, 10, .date⟩] ∧
      (annotate "2024-10-20:30:40" (highlight [.ofKind .contains "2024"]).toOption.join).tokens =
        [⟨8, 16, .time⟩] ∧
      (annotate "10:00:00.123" none).tokens = [⟨0, 12, .time⟩] ∧
      (annotate "10:00:00.123" (highlight [.ofKind .contains ".123"]).toOption.join).tokens =
        [⟨0, 8, .time⟩] := by
  decide +kernel

end LogView
