import LogView.Proofs.Annotation.Lossless
import LogView.Proofs.Token.Scan

/-!
# Where the tokens of a line lie

The pieces of a line lie side by side, so each token has a place in the line.  What is cut at spans
has the tokens of the spans and those of the gaps between them.
-/

namespace LogView

open Token

/-- A token and the places where it begins and ends. -/
structure PlacedToken where
  first : Nat
  last : Nat
  token : Token
  deriving Repr, DecidableEq

namespace PlacedToken

/-- A token of a stretch of a text that begins at a place, as a token of the text. -/
def shift (placed : PlacedToken) (i : Nat) : PlacedToken :=
  ⟨i + placed.first, i + placed.last, placed.token⟩

/-- Whether two tokens have a character in common. -/
def Overlaps (placed other : PlacedToken) : Prop :=
  placed.first < other.last ∧ other.first < placed.last

instance (placed other : PlacedToken) : Decidable (placed.Overlaps other) :=
  inferInstanceAs (Decidable (_ ∧ _))

/-- Whether a text has at a place what is written as the token. -/
def WrittenIn (placed : PlacedToken) (text : List Char) : Prop :=
  placed.first < placed.last ∧ placed.last ≤ text.length ∧
    placed.token.Spells (slice text placed.first placed.last)

end PlacedToken

/-- The tokens of pieces, the first of which begins at a place. -/
def tokensFrom (i : Nat) : List Segment → List PlacedToken
  | [] => []
  | segment :: rest =>
    let next := i + segment.text.length
    (segment.token.map fun token => ⟨i, next, token⟩).toList ++ tokensFrom next rest

/-- The tokens of an annotated line. -/
def Annotated.tokens (annotated : Annotated) : List PlacedToken := tokensFrom 0 annotated.segments

theorem tokensFrom_append (i : Nat) (segments rest : List Segment) :
    tokensFrom i (segments ++ rest) =
      tokensFrom i segments ++ tokensFrom (i + (segmentChars segments).length) rest := by
  induction segments generalizing i with
  | nil => rfl
  | cons segment segments ih =>
    have width : i + (segmentChars (segment :: segments)).length =
        i + segment.text.length + (segmentChars segments).length := by
      simp [segmentChars, String.length_toList]
      omega
    simp only [List.cons_append, tokensFrom, ih, width, List.append_assoc]

theorem tokensFrom_shift (i k : Nat) (segments : List Segment) :
    tokensFrom (i + k) segments = (tokensFrom k segments).map fun placed => placed.shift i := by
  induction segments generalizing k with
  | nil => rfl
  | cons segment segments ih =>
    simp only [tokensFrom, Nat.add_assoc, ih, List.map_append]
    cases segment.token <;> rfl

theorem tokensFrom_ordered (i : Nat) (segments : List Segment) :
    (∀ placed ∈ tokensFrom i segments, i ≤ placed.first) ∧
      (tokensFrom i segments).Pairwise fun placed next => placed.last ≤ next.first := by
  induction segments generalizing i with
  | nil => exact ⟨nofun, .nil⟩
  | cons segment segments ih =>
    obtain ⟨after, ordered⟩ := ih (i + segment.text.length)
    unfold tokensFrom
    cases segment.token with
    | none =>
      refine ⟨?_, ordered⟩
      intro placed mem
      have le := after placed mem
      omega
    | some token =>
      refine ⟨?_, List.pairwise_cons.mpr ⟨after, ordered⟩⟩
      intro placed mem
      rcases List.mem_cons.mp mem with rfl | mem
      · exact Nat.le_refl i
      · have le := after placed mem
        omega

theorem eq_of_overlaps {tokens : List PlacedToken}
    (ordered : tokens.Pairwise fun placed next => placed.last ≤ next.first)
    {placed other : PlacedToken} (mem : placed ∈ tokens) (mem' : other ∈ tokens)
    (overlap : placed.Overlaps other) : placed = other := by
  obtain ⟨before, after⟩ := overlap
  induction ordered with
  | nil => cases mem
  | cons first _ ih =>
    rcases List.mem_cons.mp mem with rfl | later
    · rcases List.mem_cons.mp mem' with rfl | later'
      · rfl
      · have le := first other later'
        omega
    · rcases List.mem_cons.mp mem' with rfl | later'
      · have le := first placed later
        omega
      · exact ih later later'

section Cut

variable {cut : Bool × List Char → List Segment}
  (lossless : ∀ piece, segmentChars (cut piece) = piece.2)

/-- The stretches of a text, from a place to a place, that lie between spans. -/
def gapsFrom (i : Nat) : List (Nat × Nat) → Nat → List (Nat × Nat)
  | [], stop => [(i, stop)]
  | span :: spans, stop => (i, span.1) :: gapsFrom span.2 spans stop

include lossless in
theorem mem_tokensFrom_cutAt {text : List Char} {i : Nat} {spans : List (Nat × Nat)}
    (spaced : Spaced i spans) (inside : ∀ span ∈ spans, span.2 ≤ text.length)
    {placed : PlacedToken} :
    placed ∈ tokensFrom i ((cutAt i spans (text.drop i)).flatMap cut) ↔
      (∃ span ∈ spans, placed ∈ tokensFrom span.1 (cut (true, slice text span.1 span.2))) ∨
        ∃ gap ∈ gapsFrom i spans text.length,
          placed ∈ tokensFrom gap.1 (cut (false, slice text gap.1 gap.2)) := by
  induction spans generalizing i with
  | nil =>
    have rest : slice text i text.length = text.drop i := by
      unfold slice
      rw [← List.length_drop, List.take_length]
    simp [cutAt, gapsFrom, rest]
  | cons span spans ih =>
    obtain ⟨first, last⟩ := span
    obtain ⟨start, ordered, rest⟩ := spaced
    obtain ⟨here, later⟩ := List.forall_mem_cons.mp inside
    dsimp only at here
    have gap : slice text i first = (text.drop i).take (first - i) := rfl
    have within : ((text.drop i).drop (first - i)).take (last - first) = slice text first last := by
      rw [List.drop_drop, Nat.add_sub_cancel' start]
      rfl
    have behind : (text.drop i).drop (last - i) = text.drop last := by
      rw [List.drop_drop, Nat.add_sub_cancel' (Nat.le_trans start ordered)]
    have width : i + (segmentChars (cut (false, slice text i first))).length = first := by
      rw [lossless, gap, List.length_take, List.length_drop]
      omega
    have width' : first + (segmentChars (cut (true, slice text first last))).length = last := by
      rw [lossless, slice, List.length_take, List.length_drop]
      omega
    rw [cutAt, within, behind, ← gap, List.flatMap_cons, List.flatMap_cons, tokensFrom_append,
      width, tokensFrom_append, width', List.mem_append, List.mem_append, ih rest later]
    simp only [gapsFrom, List.exists_mem_cons_iff]
    constructor
    · rintro (mem | mem | mem | mem)
      · exact .inr (.inl mem)
      · exact .inl (.inl mem)
      · exact .inl (.inr mem)
      · exact .inr (.inr mem)
    · rintro ((mem | mem) | (mem | mem))
      · exact .inr (.inl mem)
      · exact .inr (.inr (.inl mem))
      · exact .inl mem
      · exact .inr (.inr (.inr mem))

include lossless in
theorem mem_tokensFrom_pieces {text : List Char} {spans : List (Nat × Nat)}
    (spaced : Spaced 0 spans) (inside : ∀ span ∈ spans, span.2 ≤ text.length)
    {placed : PlacedToken} :
    placed ∈ tokensFrom 0 ((pieces spans text).flatMap cut) ↔
      (∃ span ∈ spans, slice text span.1 span.2 ≠ [] ∧
        placed ∈ tokensFrom span.1 (cut (true, slice text span.1 span.2))) ∨
      ∃ gap ∈ gapsFrom 0 spans text.length, slice text gap.1 gap.2 ≠ [] ∧
        placed ∈ tokensFrom gap.1 (cut (false, slice text gap.1 gap.2)) := by
  have dropped (all : List (Bool × List Char)) :
      (all.filter fun piece => !piece.2.isEmpty).flatMap cut =
        all.flatMap fun piece => if piece.2 = [] then [] else cut piece := by
    induction all with
    | nil => rfl
    | cons piece all ih => by_cases empty : piece.2 = [] <;> simp [empty, ih]
  have lossless' : ∀ piece : Bool × List Char,
      segmentChars (if piece.2 = [] then [] else cut piece) = piece.2 := by
    intro piece
    split_ifs with empty
    · rw [empty]
      rfl
    · exact lossless piece
  have kept (place : Nat) (flag : Bool) (piece : List Char) :
      placed ∈ tokensFrom place (if piece = [] then [] else cut (flag, piece)) ↔
        piece ≠ [] ∧ placed ∈ tokensFrom place (cut (flag, piece)) := by
    by_cases empty : piece = []
    · simp [empty, tokensFrom]
    · simp [empty]
  unfold pieces
  rw [dropped]
  refine (mem_tokensFrom_cutAt lossless' spaced inside).trans ?_
  simp only [kept]

end Cut

theorem mem_gapsFrom {i stop : Nat} {spans : List (Nat × Nat)} {gap : Nat × Nat}
    (mem : gap ∈ gapsFrom i spans stop) :
    (gap.1 = i ∨ ∃ span ∈ spans, gap.1 = span.2) ∧
      (gap.2 = stop ∨ ∃ span ∈ spans, gap.2 = span.1) := by
  induction spans generalizing i with
  | nil =>
    cases List.mem_singleton.mp mem
    exact ⟨.inl rfl, .inl rfl⟩
  | cons span spans ih =>
    rcases List.mem_cons.mp mem with rfl | later
    · exact ⟨.inl rfl, .inr ⟨span, List.mem_cons_self, rfl⟩⟩
    · obtain ⟨start, finish⟩ := ih later
      constructor
      · rcases start with start | ⟨other, inside, start⟩
        · exact .inr ⟨span, List.mem_cons_self, start⟩
        · exact .inr ⟨other, List.mem_cons_of_mem _ inside, start⟩
      · rcases finish with finish | ⟨other, inside, finish⟩
        · exact .inl finish
        · exact .inr ⟨other, List.mem_cons_of_mem _ inside, finish⟩

theorem gap_inside {i stop : Nat} {spans : List (Nat × Nat)}
    (inside : ∀ span ∈ spans, span.1 ≤ stop) {gap : Nat × Nat}
    (mem : gap ∈ gapsFrom i spans stop) : gap.2 ≤ stop := by
  rcases (mem_gapsFrom mem).2 with finish | ⟨span, found, finish⟩
  · exact Nat.le_of_eq finish
  · rw [finish]
    exact inside span found

theorem exists_gap {i stop first last : Nat} {spans : List (Nat × Nat)} (start : i ≤ first)
    (inside : last ≤ stop) (clear : ∀ span ∈ spans, last ≤ span.1 ∨ span.2 ≤ first) :
    ∃ gap ∈ gapsFrom i spans stop, gap.1 ≤ first ∧ last ≤ gap.2 := by
  induction spans generalizing i with
  | nil => exact ⟨(i, stop), List.mem_cons_self, start, inside⟩
  | cons span spans ih =>
    obtain ⟨here, later⟩ := List.forall_mem_cons.mp clear
    rcases here with before | after
    · exact ⟨(i, span.1), List.mem_cons_self, start, before⟩
    · obtain ⟨gap, mem, covers⟩ := ih after later
      exact ⟨gap, List.mem_cons_of_mem _ mem, covers⟩

theorem PlacedToken.WrittenIn.shift {placed : PlacedToken} {text : List Char} {i j : Nat}
    (written : placed.WrittenIn (slice text i j)) (ordered : i ≤ j) (inside : j ≤ text.length) :
    (placed.shift i).WrittenIn text := by
  obtain ⟨taken, within, spells⟩ := written
  rw [length_slice inside] at within
  rw [slice_slice (by omega)] at spells
  refine ⟨?_, ?_, spells⟩
  · unfold PlacedToken.shift
    dsimp only
    omega
  · unfold PlacedToken.shift
    dsimp only
    omega

theorem tokensFrom_tokenize_nil (matched : Bool) (passes : List TokenPass) (i : Nat) :
    tokensFrom i (tokenize matched passes []) = [] := by
  cases passes <;> rfl

theorem mem_tokensFrom_singleton {placed : PlacedToken} {text : List Char} {first last : Nat}
    (ordered : first ≤ last) (inside : last ≤ text.length) (matched : Bool)
    (token : Option Token) :
    placed ∈ tokensFrom first [⟨String.ofList (slice text first last), matched, token⟩] ↔
      token = some placed.token ∧ placed.first = first ∧ placed.last = last := by
  have width : first + (String.ofList (slice text first last)).length = last := by
    rw [String.length_ofList, length_slice inside]
    omega
  obtain ⟨start, finish, found⟩ := placed
  cases token with
  | none => simp [tokensFrom]
  | some token =>
    simp only [tokensFrom, width, Option.map_some, Option.toList_some, List.append_nil,
      List.mem_singleton, PlacedToken.mk.injEq, Option.some.injEq]
    constructor
    · rintro ⟨rfl, rfl, rfl⟩
      exact ⟨rfl, rfl, rfl⟩
    · rintro ⟨rfl, rfl, rfl⟩
      exact ⟨rfl, rfl, rfl⟩

theorem mem_tokensFrom_shift {placed : PlacedToken} {i : Nat} {segments : List Segment} :
    placed ∈ tokensFrom i segments ↔ ∃ inner ∈ tokensFrom 0 segments, inner.shift i = placed := by
  have moved := tokensFrom_shift i 0 segments
  rw [Nat.add_zero] at moved
  rw [moved, List.mem_map]

/-- The tokens of a text are those that its first pass finds and those of the gaps it leaves. -/
theorem mem_tokensFrom_tokenize {pass : TokenPass} (finds : pass.Finds) (matched : Bool)
    (passes : List TokenPass) {text : List Char} {placed : PlacedToken} :
    placed ∈ tokensFrom 0 (tokenize matched (pass :: passes) text) ↔
      (∃ span ∈ spans pass.1 text, pass.2 (slice text span.1 span.2) = some placed.token ∧
        placed.first = span.1 ∧ placed.last = span.2) ∨
      ∃ gap ∈ gapsFrom 0 (spans pass.1 text) text.length,
        ∃ inner ∈ tokensFrom 0 (tokenize matched passes (slice text gap.1 gap.2)),
          inner.shift gap.1 = placed := by
  obtain ⟨length?, token?⟩ := pass
  have lossless : ∀ piece : Bool × List Char, segmentChars
      (if piece.1 then [⟨String.ofList piece.2, matched, token? piece.2⟩]
        else tokenize matched passes piece.2) = piece.2 := by
    intro piece
    split_ifs
    · simp [segmentChars]
    · exact segmentChars_tokenize matched passes piece.2
  have inside : ∀ span ∈ spans length? text, span.2 ≤ text.length :=
    fun span mem => (finds.mem_spans mem).2.1
  refine (mem_tokensFrom_pieces lossless (spaced_spans length? text) inside).trans ?_
  refine or_congr ?_ ?_
  · refine exists_congr fun span => and_congr_right fun mem => ?_
    obtain ⟨taken, within, -⟩ := finds.mem_spans mem
    have nonempty : slice text span.1 span.2 ≠ [] := by
      apply List.ne_nil_of_length_pos
      rw [length_slice within]
      omega
    refine (and_iff_right nonempty).trans ?_
    exact mem_tokensFrom_singleton (Nat.le_of_lt taken) within matched _
  · refine exists_congr fun gap => and_congr_right fun _ => ?_
    refine Iff.trans ?_ mem_tokensFrom_shift
    refine and_iff_right_of_imp fun mem empty => ?_
    rw [empty] at mem
    change placed ∈ tokensFrom gap.1 (tokenize matched passes []) at mem
    rw [tokensFrom_tokenize_nil] at mem
    cases mem

end LogView
