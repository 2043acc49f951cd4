import LogView.Proofs.Pattern.CharSet
import LogView.Proofs.Pattern.Literal
import Mathlib.Data.List.Forall2

/-!
# Where literal texts are found

The pattern of a literal text, which repeats nothing and leaves no choice, matches at a place if
its parts can be followed from there.  So it is found where a run of the line has the characters
of the text, one by one and up to case where case is ignored, at the place that its anchor asks
for.
-/

namespace LogView
namespace Pattern

theorem keepFirst_toList (place : Option Nat) : keepFirst 0 place.toList = place.toList := by
  cases place <;> simp [keepFirst]

theorem matcher_eq_partwise {node : Node} (once : node.repeats = false) :
    node.matcher = node.partwise := by
  induction node with
  | empty => rfl
  | chars set => rfl
  | place condition => rfl
  | seq left right => simp [Node.matcher, once]
  | choice preferred other ih ih' =>
    simp only [Node.repeats, Bool.or_eq_false_iff] at once
    rw [Node.matcher, Node.partwise, ih once.1, ih' once.2]
  | capture body ih => rw [Node.matcher, Node.partwise, ih once]
  | repeated body least most greedy => cases once

/-- Where a part ends that begins at a place. -/
def LiteralPart.step? (ignoreCase : Bool) (line : Line) (i : Nat) : LiteralPart → Option Nat
  | char c =>
    if (charAfter line i).any (literalSet ignoreCase c).contains then some (i + 1) else none
  | lineStart => if i = 0 then some i else none
  | lineEnd => if i = line.size then some i else none

/-- Where parts end that follow one another from a place on. -/
def follow (ignoreCase : Bool) (line : Line) (i : Nat) (parts : List LiteralPart) : Option Nat :=
  parts.foldlM (fun j part => part.step? ignoreCase line j) i

variable (ignoreCase : Bool) (line : Line)

theorem LiteralPart.ends_node (i : Nat) (part : LiteralPart) :
    (part.node ignoreCase).partwise.ends line i = (part.step? ignoreCase line i).toList := by
  cases part with
  | char c =>
    simp only [node, Node.partwise, Matcher.chars, step?]
    split_ifs <;> rfl
  | lineStart =>
    simp only [node, Node.partwise, Matcher.place, Condition.holds, beq_iff_eq, step?]
    split_ifs <;> rfl
  | lineEnd =>
    simp only [node, Node.partwise, Matcher.place, Condition.holds, beq_iff_eq, step?]
    split_ifs <;> rfl

theorem ends_foldl_seq (i : Nat) (parts : List LiteralPart) {first : Node} {place : Option Nat}
    (ends : first.partwise.ends line i = place.toList) :
    ((parts.map (LiteralPart.node ignoreCase)).foldl .seq first).partwise.ends line i =
      (place.bind fun j => follow ignoreCase line j parts).toList := by
  induction parts generalizing first place with
  | nil => cases place <;> exact ends
  | cons part parts ih =>
    have step : (Node.seq first (part.node ignoreCase)).partwise.ends line i =
        (place.bind fun j => part.step? ignoreCase line j).toList := by
      rw [← keepFirst_toList]
      simp only [Node.partwise, Matcher.seq, ends]
      cases place with
      | none => rfl
      | some j => simp [part.ends_node]
    rw [List.map_cons, List.foldl_cons, ih step, Option.bind_assoc]
    rfl

theorem ends_literalNode (i : Nat) (parts : List LiteralPart) :
    (literalNode ignoreCase parts).partwise.ends line i =
      (follow ignoreCase line i parts).toList := by
  cases parts with
  | nil => rfl
  | cons first rest =>
    exact ends_foldl_seq ignoreCase line i rest (first.ends_node ignoreCase line i)

theorem repeats_foldl_seq (parts : List LiteralPart) {first : Node}
    (once : first.repeats = false) :
    ((parts.map (LiteralPart.node ignoreCase)).foldl .seq first).repeats = false := by
  induction parts generalizing first with
  | nil => exact once
  | cons part parts ih =>
    have head : (part.node ignoreCase).repeats = false := by cases part <;> rfl
    have step : (Node.seq first (part.node ignoreCase)).repeats = false := by
      simp [Node.repeats, once, head]
    exact ih step

theorem repeats_literalNode (parts : List LiteralPart) :
    (literalNode ignoreCase parts).repeats = false := by
  cases parts with
  | nil => rfl
  | cons first rest =>
    have head : (first.node ignoreCase).repeats = false := by cases first <;> rfl
    exact repeats_foldl_seq ignoreCase rest head

theorem first?_literalNode (i : Nat) (parts : List LiteralPart) :
    (literalNode ignoreCase parts).matcher.first? line i = follow ignoreCase line i parts := by
  rw [Matcher.first?_eq, matcher_eq_partwise (repeats_literalNode ignoreCase parts),
    ends_literalNode, Option.head?_toList]

theorem isMatch_literalNode (parts : List LiteralPart) :
    (literalNode ignoreCase parts).matcher.isMatch line = true ↔
      ∃ i ≤ line.size, (follow ignoreCase line i parts).isSome = true := by
  simp only [Matcher.isMatch, List.any_eq_true, List.mem_range, Nat.lt_succ_iff,
    first?_literalNode]

/-- Whether two characters count as one, up to case if case is ignored. -/
def SameChar (c d : Char) : Prop := if ignoreCase then Unicode.SameUpToCase c d else c = d

/-- Whether a run of characters is a text, up to case if case is ignored. -/
def Resembles (text run : List Char) : Prop := List.Forall₂ (SameChar ignoreCase) text run

theorem contains_literalSet (c d : Char) :
    (literalSet ignoreCase c).contains d = true ↔ SameChar ignoreCase c d := by
  cases ignoreCase with
  | false => exact CharSet.contains_single.trans eq_comm
  | true => exact CharSet.contains_alikeTo

theorem charAfter_eq_head? (i : Nat) : charAfter line i = (line.toList.drop i).head? := by
  rw [List.head?_drop, charAfter, Array.getElem?_toList]

theorem follow_nil (i : Nat) : follow ignoreCase line i [] = some i := rfl

theorem follow_cons (i : Nat) (part : LiteralPart) (parts : List LiteralPart) :
    follow ignoreCase line i (part :: parts) =
      (part.step? ignoreCase line i).bind fun j => follow ignoreCase line j parts := rfl

theorem follow_append (i : Nat) (parts more : List LiteralPart) :
    follow ignoreCase line i (parts ++ more) =
      (follow ignoreCase line i parts).bind fun j => follow ignoreCase line j more := by
  unfold follow
  rw [List.foldlM_append]
  rfl

theorem follow_chars (text : List Char) (i j : Nat) :
    follow ignoreCase line i (text.map .char) = some j ↔
      j = i + text.length ∧ ∃ run, Resembles ignoreCase text run ∧ run <+: line.toList.drop i := by
  induction text generalizing i with
  | nil => simp [follow, Resembles, eq_comm]
  | cons c text ih =>
    rw [List.map_cons, follow_cons]
    unfold LiteralPart.step? Resembles
    rw [charAfter_eq_head?]
    cases rest : line.toList.drop i with
    | nil => simp
    | cons d tail =>
      have dropped : line.toList.drop (i + 1) = tail := by
        rw [← List.tail_drop, rest]
        rfl
      have length : i + (c :: text).length = i + 1 + text.length := by
        rw [List.length_cons]
        omega
      rw [length]
      by_cases same : SameChar ignoreCase c d
      · have taken := (contains_literalSet ignoreCase c d).mpr same
        simp only [List.head?_cons, Option.any_some, taken, if_true, Option.bind_some]
        rw [ih, dropped]
        refine and_congr_right fun _ => ?_
        simp [Resembles, List.forall₂_cons_left_iff, same]
      · have refused := mt (contains_literalSet ignoreCase c d).mp same
        simp [List.forall₂_cons_left_iff, same, refused]

theorem Resembles.length_eq {text run : List Char} (alike : Resembles ignoreCase text run) :
    text.length = run.length := List.Forall₂.length_eq alike

theorem isMatch_contained (text : List Char) :
    (literalNode ignoreCase (text.map .char)).matcher.isMatch line = true ↔
      ∃ run, Resembles ignoreCase text run ∧ run <:+: line.toList := by
  rw [isMatch_literalNode]
  simp only [Option.isSome_iff_exists, follow_chars]
  constructor
  · rintro ⟨i, -, -, -, run, alike, here⟩
    exact ⟨run, alike, here.isInfix.trans (List.drop_suffix i line.toList).isInfix⟩
  · rintro ⟨run, alike, before, after, split⟩
    have inside : before.length ≤ line.size := by
      rw [← Array.length_toList, ← split]
      simp
    refine ⟨before.length, inside, _, rfl, run, alike, after, ?_⟩
    rw [← split, List.append_assoc, List.drop_left]

theorem isMatch_leading (text : List Char) :
    (literalNode ignoreCase (.lineStart :: text.map .char)).matcher.isMatch line = true ↔
      ∃ run, Resembles ignoreCase text run ∧ run <+: line.toList := by
  rw [isMatch_literalNode]
  simp only [follow_cons, LiteralPart.step?]
  constructor
  · rintro ⟨i, -, found⟩
    split_ifs at found with start
    · obtain ⟨j, found⟩ := Option.isSome_iff_exists.mp found
      obtain ⟨-, run, alike, here⟩ := (follow_chars ignoreCase line text i j).mp found
      rw [start] at here
      exact ⟨run, alike, here⟩
    · cases found
  · rintro ⟨run, alike, here⟩
    have found := (follow_chars ignoreCase line text 0 (0 + text.length)).mpr
      ⟨rfl, run, alike, here⟩
    exact ⟨0, Nat.zero_le _, by simp [found]⟩

theorem isMatch_trailing (text : List Char) :
    (literalNode ignoreCase (text.map .char ++ [.lineEnd])).matcher.isMatch line = true ↔
      ∃ run, Resembles ignoreCase text run ∧ run <:+ line.toList := by
  rw [isMatch_literalNode]
  simp only [follow_append, follow_cons, LiteralPart.step?]
  constructor
  · rintro ⟨i, inside, found⟩
    cases chars : follow ignoreCase line i (text.map .char) with
    | none => simp [chars] at found
    | some j =>
      obtain ⟨width, run, alike, here⟩ := (follow_chars ignoreCase line text i j).mp chars
      have finish : j = line.size := by
        by_contra before
        simp [chars, before] at found
      have whole : run = line.toList.drop i := by
        refine here.eq_of_length ?_
        have size : line.toList.length = line.size := Array.length_toList
        rw [← alike.length_eq, List.length_drop]
        omega
      exact ⟨run, alike, whole ▸ List.drop_suffix i line.toList⟩
  · rintro ⟨run, alike, before, split⟩
    have size : before.length + text.length = line.size := by
      rw [← Array.length_toList, ← split, List.length_append, alike.length_eq]
    have here : run <+: line.toList.drop before.length := by
      rewrite [← split, List.drop_left]
      exact List.prefix_rfl
    have found := (follow_chars ignoreCase line text before.length line.size).mpr
      ⟨size.symm, run, alike, here⟩
    exact ⟨before.length, by omega, by simp [found, follow_nil]⟩

theorem resembles_exactly {text run : List Char} : Resembles false text run ↔ run = text := by
  unfold Resembles SameChar
  simp [List.forall₂_eq_eq_eq, eq_comm]

end Pattern
end LogView
