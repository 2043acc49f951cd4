import LogView.Proofs.Pattern.Reading
import LogView.Proofs.Pattern.Size
import LogView.Proofs.Pattern.SmallSet
import Mathlib.Algebra.GroupWithZero.Nat
import Mathlib.Tactic.SplitIfs

/-!
# The patterns of literal texts

The pattern of a literal text is a row of parts: its characters, each written so that it stands
for itself, and perhaps an anchor.  Such a pattern is never refused but for its size.
-/

namespace LogView
namespace Pattern

open Reader

/-- The characters that a character of a literal text stands for. -/
def literalSet (ignoreCase : Bool) (c : Char) : CharSet :=
  if ignoreCase then .alikeTo c else .single c

/-- A part of the pattern of a literal text. -/
inductive LiteralPart where
  | char (c : Char)
  | lineStart
  | lineEnd

namespace LiteralPart

/-- How a part is written. -/
def source : LiteralPart → List Char
  | char c => quoteChar c
  | lineStart => ['^']
  | lineEnd => ['$']

/-- What a part is read as. -/
def item : LiteralPart → Expr
  | char c => .literal ⟨c, false⟩
  | lineStart => .mark .lineStart
  | lineEnd => .mark .lineEnd

/-- What a part matches. -/
def node (ignoreCase : Bool) : LiteralPart → Node
  | char c => .chars (literalSet ignoreCase c)
  | lineStart => .place .textStart
  | lineEnd => .place .textEnd

end LiteralPart

theorem mayEscape_of_isMeta {c : Char} (isMeta : isMeta c = true) : mayEscape c = true := by
  revert isMeta
  simp only [Reader.isMeta, List.mem_cons, List.not_mem_nil, or_false, decide_eq_true_eq]
  rintro (rfl | rfl | rfl | rfl | rfl | rfl | rfl | rfl | rfl | rfl | rfl | rfl | rfl | rfl | rfl |
    rfl | rfl | rfl) <;> decide

theorem readPart_escaped {c : Char} (isMeta : isMeta c = true) (sofar : SoFar)
    (rest : List Char) (plain : sofar.verbose = false) :
    readPart sofar '\\' (c :: rest) = .ok (sofar.add (.literal ⟨c, false⟩), rest) := by
  have escape : readEscape false (c :: rest) = .ok (.char c, rest) := by
    rw [readEscape, if_pos (mayEscape_of_isMeta isMeta)]
  simp [readPart, plain, escape, Atom.char, Atom.toExpr, bind, Except.bind]

theorem boundsOfSign?_of_not_isMeta {c : Char} (notMeta : isMeta c = false) :
    boundsOfSign? c = none := by
  unfold boundsOfSign?
  split
  · contradiction
  · contradiction
  · contradiction
  · rfl

theorem readPart_plain {c : Char} (notMeta : isMeta c = false) (sofar : SoFar)
    (rest : List Char) :
    readPart sofar c rest = .ok (sofar.add (.literal ⟨c, false⟩), rest) := by
  have sign := boundsOfSign?_of_not_isMeta notMeta
  simp only [isMeta, List.mem_cons, List.not_mem_nil, or_false, decide_eq_false_iff_not,
    not_or] at notMeta
  simp [readPart, plainAtom, sign, notMeta, Atom.char, Atom.toExpr]

theorem LiteralPart.reads (part : LiteralPart) :
    Reads part.source fun sofar => sofar.add part.item := by
  cases part with
  | char c =>
    change Reads (quoteChar c) fun sofar => sofar.add (.literal ⟨c, false⟩)
    unfold quoteChar
    split_ifs with isMeta
    · exact reads_of_readPart (fun _ => rfl) fun sofar rest plain =>
        readPart_escaped isMeta sofar rest plain
    · exact reads_of_readPart (fun _ => rfl) fun sofar rest _ =>
        readPart_plain (Bool.eq_false_iff.mpr isMeta) sofar rest
  | lineStart => exact reads_of_readPart (fun _ => rfl) fun _ _ _ => rfl
  | lineEnd => exact reads_of_readPart (fun _ => rfl) fun _ _ _ => rfl

/-- Items side by side sit no deeper than the deepest of them, and one level deeper together. -/
theorem depth_foldl_seq {items : List Expr} (flat : ∀ item ∈ items, item.depth .nothing = 0)
    (first : Expr) (shallow : first.depth .sequence = 0) :
    (items.foldl .seq first).depth .sequence = 0 := by
  induction items generalizing first with
  | nil => exact shallow
  | cons item items ih =>
    have head := flat item List.mem_cons_self
    refine ih (fun other mem => flat other (List.mem_cons_of_mem _ mem)) (.seq first item) ?_
    simp [Expr.depth, shallow, head]

theorem depth_le_of_sequence (expr : Expr) :
    expr.depth .nothing ≤ expr.depth .sequence + 1 := by
  cases expr <;> simp [Expr.depth]

theorem LiteralPart.depth_item (part : LiteralPart) (context : Continues) :
    part.item.depth context = 0 := by
  cases part <;> rfl

theorem depth_ofItems_le (parts : List LiteralPart) :
    (Expr.ofItems (parts.map LiteralPart.item)).depth .nothing ≤ 1 := by
  cases parts with
  | nil => exact Nat.zero_le 1
  | cons first rest =>
    have flat : ∀ item ∈ rest.map LiteralPart.item, item.depth .nothing = 0 := by
      intro item mem
      obtain ⟨part, -, rfl⟩ := List.mem_map.mp mem
      exact part.depth_item .nothing
    have shallow := depth_foldl_seq flat first.item (first.depth_item .sequence)
    have le := depth_le_of_sequence ((rest.map LiteralPart.item).foldl .seq first.item)
    rw [shallow] at le
    exact le

theorem read_literal (parts : List LiteralPart) :
    Expr.read (parts.flatMap LiteralPart.source) =
      .ok (Expr.ofItems (parts.map LiteralPart.item)) := by
  have read := (reads_flatMap LiteralPart.reads parts).finish
  rw [finish_addAll] at read
  have depth : (Expr.ofItems (parts.map LiteralPart.item)).depth .nothing ≤ maxDepth :=
    Nat.le_trans (depth_ofItems_le parts) (by decide)
  unfold Expr.read
  rw [read]
  simp [bind, Except.bind, depth]

/-- Nodes one after the other. -/
def Node.ofItems : List Node → Node
  | [] => .empty
  | first :: rest => rest.foldl .seq first

/-- What the parts of a literal text match. -/
def literalNode (ignoreCase : Bool) (parts : List LiteralPart) : Node :=
  .ofItems (parts.map (LiteralPart.node ignoreCase))

theorem LiteralPart.noLarger (part : LiteralPart) :
    (part.node false).NoLarger (part.node true) := by
  cases part with
  | char c =>
    refine ⟨fun backward => ?_, fun _ => rfl, rfl⟩
    have itself : (CharSet.alikeTo c).contains c = true := CharSet.contains_alikeTo.mpr rfl
    have least := CharSet.le_bytes itself backward
    rwa [← CharSet.bytes_single] at least
  | lineStart => exact .refl _
  | lineEnd => exact .refl _

theorem noLarger_literalNode (ignoreCase : Bool) (parts : List LiteralPart) :
    (literalNode false parts).NoLarger (literalNode ignoreCase parts) := by
  have row (parts : List LiteralPart) {small large : Node} (le : small.NoLarger large) :
      ((parts.map (LiteralPart.node false)).foldl .seq small).NoLarger
        ((parts.map (LiteralPart.node true)).foldl .seq large) := by
    induction parts generalizing small large with
    | nil => exact le
    | cons part parts ih => exact ih (le.seq part.noLarger)
  cases ignoreCase with
  | false => exact .refl _
  | true =>
    cases parts with
    | nil => exact .refl _
    | cons first rest => exact row rest first.noLarger

/-- Ignoring case never makes the pattern of a literal text smaller. -/
theorem bytes_literalNode_le {ignoreCase ignoreCase' : Bool}
    (coarser : ignoreCase = true → ignoreCase' = true) (parts : List LiteralPart) :
    (literalNode ignoreCase parts).bytes ≤ (literalNode ignoreCase' parts).bytes := by
  cases ignoreCase with
  | false => exact (noLarger_literalNode ignoreCase' parts).bytes_le
  | true => exact Nat.le_of_eq (by rw [coarser rfl])

/-- The bytes that a part takes where case counts. -/
def LiteralPart.bytes : LiteralPart → Nat
  | char c => 32 * c.utf8Size
  | lineStart => 32
  | lineEnd => 32

theorem LiteralPart.size_node (part : LiteralPart) (backward : Bool) :
    (part.node false).size backward = part.bytes := by
  cases part with
  | char c => exact CharSet.bytes_single c backward
  | lineStart => rfl
  | lineEnd => rfl

theorem LiteralPart.size_node_le (ignoreCase : Bool) (part : LiteralPart) (backward : Bool) :
    (part.node ignoreCase).size backward ≤ 1088 := by
  cases part with
  | char c =>
    cases ignoreCase with
    | false =>
      have short := c.utf8Size_le_four
      rw [size_node, bytes]
      omega
    | true => exact CharSet.bytes_alikeTo_le c backward
  | lineStart => exact Nat.le_of_ble_eq_true rfl
  | lineEnd => exact Nat.le_of_ble_eq_true rfl

theorem Node.size_ofItems (nodes : List Node) (backward : Bool) :
    (Node.ofItems nodes).size backward = (nodes.map (Node.size backward)).sum := by
  have row (rest : List Node) (first : Node) : (rest.foldl .seq first).size backward =
      first.size backward + (rest.map (Node.size backward)).sum := by
    induction rest generalizing first with
    | nil => rfl
    | cons next rest ih =>
      rw [List.foldl_cons, ih, Node.size, List.map_cons, List.sum_cons, Nat.add_assoc]
  cases nodes with
  | nil => rfl
  | cons first rest => exact row rest first

theorem size_literalNode (parts : List LiteralPart) (backward : Bool) :
    (literalNode false parts).size backward = (parts.map LiteralPart.bytes).sum := by
  rw [literalNode, Node.size_ofItems, List.map_map]
  exact congrArg List.sum (List.map_congr_left fun part _ => part.size_node backward)

theorem size_literalNode_le (ignoreCase : Bool) (parts : List LiteralPart) (backward : Bool) :
    (literalNode ignoreCase parts).size backward ≤ 1088 * parts.length := by
  have each : ∀ size ∈ (parts.map (LiteralPart.node ignoreCase)).map (Node.size backward),
      size ≤ 1088 := by
    intro size mem
    obtain ⟨node, made, rfl⟩ := List.mem_map.mp mem
    obtain ⟨part, -, rfl⟩ := List.mem_map.mp made
    exact part.size_node_le ignoreCase backward
  have total := List.sum_le_card_nsmul _ _ each
  rw [List.length_map, List.length_map, Nat.nsmul_eq_mul, Nat.mul_comm] at total
  rw [literalNode, Node.size_ofItems]
  exact total

theorem LiteralPart.meaning_item (ignoreCase : Bool) (part : LiteralPart) :
    part.item.meaning { ignoreCase := ignoreCase } =
      .ok (part.node ignoreCase, { ignoreCase := ignoreCase }) := by
  cases part with
  | char c => cases ignoreCase <;> rfl
  | lineStart => rfl
  | lineEnd => rfl

theorem meaning_foldl_seq (ignoreCase : Bool) (parts : List LiteralPart) {first : Expr}
    {node : Node}
    (meaning : first.meaning { ignoreCase := ignoreCase } =
      .ok (node, { ignoreCase := ignoreCase })) :
    ((parts.map LiteralPart.item).foldl .seq first).meaning { ignoreCase := ignoreCase } =
      .ok ((parts.map (LiteralPart.node ignoreCase)).foldl .seq node,
        { ignoreCase := ignoreCase }) := by
  induction parts generalizing first node with
  | nil => exact meaning
  | cons part parts ih =>
    have step : (Expr.seq first part.item).meaning { ignoreCase := ignoreCase } =
        .ok (.seq node (part.node ignoreCase), { ignoreCase := ignoreCase }) := by
      simp only [Expr.meaning, meaning, part.meaning_item, bind, Except.bind]
    exact ih step

theorem meaning_literal (ignoreCase : Bool) (parts : List LiteralPart) :
    (Expr.ofItems (parts.map LiteralPart.item)).meaning { ignoreCase := ignoreCase } =
      .ok (literalNode ignoreCase parts, { ignoreCase := ignoreCase }) := by
  cases parts with
  | nil => rfl
  | cons first rest => exact meaning_foldl_seq ignoreCase rest (first.meaning_item ignoreCase)

theorem nodeOf_literal (ignoreCase : Bool) {parts : List LiteralPart} {source : String}
    (written : source.toList = parts.flatMap LiteralPart.source) :
    nodeOf source ignoreCase =
      if (literalNode ignoreCase parts).bytes ≤ maxBytes then .ok (literalNode ignoreCase parts)
      else .error .tooLarge := by
  unfold nodeOf
  rw [written, read_literal]
  simp [bind, Except.bind, meaning_literal]

theorem ofSource_literal (ignoreCase : Bool) {parts : List LiteralPart}
    (fits : (literalNode ignoreCase parts).bytes ≤ maxBytes) {source : String}
    (written : source.toList = parts.flatMap LiteralPart.source) :
    ∃ pattern, ofSource source ignoreCase = .ok pattern ∧
      pattern.matcher = (literalNode ignoreCase parts).matcher := by
  have node := nodeOf_literal ignoreCase written
  rw [if_pos fits] at node
  refine ⟨⟨source, ignoreCase, literalNode ignoreCase parts, _, rfl⟩, ?_, rfl⟩
  unfold ofSource
  rw [node]
  rfl

theorem ofSource_long_literal (ignoreCase : Bool) {parts : List LiteralPart}
    (long : maxBytes < (literalNode ignoreCase parts).bytes) {source : String}
    (written : source.toList = parts.flatMap LiteralPart.source) :
    ofSource source ignoreCase = .error .tooLarge := by
  have node := nodeOf_literal ignoreCase written
  rw [if_neg (Nat.not_le.mpr long)] at node
  unfold ofSource
  rw [node]
  rfl

end Pattern
end LogView
