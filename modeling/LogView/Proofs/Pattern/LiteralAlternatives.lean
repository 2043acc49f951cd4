import LogView.Proofs.Pattern.Alternatives
import LogView.Proofs.Pattern.LiteralMatch

/-!
# Literal texts as alternatives

The patterns of literal texts, each between parentheses and with bars between them, are read as so
many alternatives.  Together they are refused for nothing but their size, and they match what the
first of them that matches at all does.
-/

namespace LogView
namespace Pattern

open Reader

/-- The pattern of a literal text between parentheses. -/
def groupSource (parts : List LiteralPart) : List Char :=
  '(' :: (parts.flatMap LiteralPart.source ++ [')'])

/-- What the pattern of a literal text between parentheses is read as. -/
def groupItem (parts : List LiteralPart) : Expr :=
  .group none (.ofItems (parts.map LiteralPart.item))

/-- The patterns of literal texts between parentheses, with bars between them. -/
def alternativeSource : List (List LiteralPart) → List Char
  | [] => []
  | first :: rest => groupSource first ++ rest.flatMap fun parts => '|' :: groupSource parts

theorem Reader.Reads.group {text : List Char} {items : List Expr}
    (reads : Reads text fun sofar => sofar.addAll items) (unmarked : text.head? ≠ some '?') :
    Reads ('(' :: (text ++ [')'])) fun sofar => sofar.add (.group none (.ofItems items)) := by
  obtain ⟨steps, le, whole⟩ := reads
  refine ⟨steps + 2, ?_, ?_⟩
  · rw [List.length_cons, List.length_append, List.length_singleton]
    omega
  · intro fuel sofar rest plain
    refine ⟨plain, ?_⟩
    have opens : readPart sofar '(' (text ++ ')' :: rest) =
        .ok (sofar.openGroup none, text ++ ')' :: rest) := by
      unfold readPart
      rw [if_pos rfl, plain, readOpening_plain unmarked]
      rfl
    have inside := (whole (fuel + 1) (sofar.openGroup none) (')' :: rest) plain).2
    have closes : readPart ((sofar.openGroup none).addAll items) ')' rest =
        .ok (sofar.add (.group none (.ofItems items)), rest) := by
      obtain ⟨verbose, branch, groups, names⟩ := sofar
      rw [SoFar.addAll_eq]
      simp [readPart, SoFar.closeGroup, SoFar.openGroup, SoFar.add, Branch.close, Branch.start,
        Expr.ofAlternatives, bind, Except.bind]
    have split : '(' :: (text ++ [')']) ++ rest = '(' :: (text ++ ')' :: rest) := by simp
    have count : fuel + (steps + 2) = fuel + 1 + steps + 1 := by omega
    have shown : skip sofar.verbose ('(' :: (text ++ ')' :: rest)) =
        '(' :: (text ++ ')' :: rest) := by rw [plain, skip_false]
    have shown' :
        skip ((sofar.openGroup none).addAll items).verbose (')' :: rest) = ')' :: rest := by
      rw [(whole 0 (sofar.openGroup none) [] plain).1, skip_false]
    rw [split, count, readParts_shown shown, opens]
    change readParts (fuel + 1 + steps) (sofar.openGroup none) (text ++ ')' :: rest) = _
    rw [inside, readParts_shown shown', closes]
    rfl

theorem reads_groupSource (parts : List LiteralPart) :
    Reads (groupSource parts) fun sofar => sofar.add (groupItem parts) := by
  have row := reads_flatMap LiteralPart.reads parts
  exact row.group (row.readsAs (finish_addAll _)).unmarked

/-- Begins another alternative with a literal text between parentheses. -/
def Reader.SoFar.alternate (sofar : SoFar) (parts : List LiteralPart) : SoFar :=
  { sofar with branch := sofar.branch.next.add (groupItem parts) }

theorem reads_barred (parts : List LiteralPart) :
    Reads ('|' :: groupSource parts) fun sofar => sofar.alternate parts := by
  have bar : Reads ['|'] fun sofar => { sofar with branch := sofar.branch.next } :=
    reads_of_readPart (fun _ => rfl) fun _ _ _ => rfl
  exact bar.append (reads_groupSource parts)

theorem finish_alternate (rest : List (List LiteralPart)) (alternatives : List Expr) (item : Expr) :
    (rest.foldl SoFar.alternate ⟨false, ⟨alternatives, [item]⟩, [], []⟩).finish =
      .ok (.ofAlternatives (alternatives.reverse ++ item :: rest.map groupItem)) := by
  induction rest generalizing alternatives item with
  | nil =>
    have close : (Branch.mk alternatives [item]).close =
        .ofAlternatives (alternatives.reverse ++ [item]) := by
      simp [Branch.close, Expr.ofItems]
    exact congrArg Except.ok close
  | cons parts rest ih =>
    have next : SoFar.alternate ⟨false, ⟨alternatives, [item]⟩, [], []⟩ parts =
        ⟨false, ⟨item :: alternatives, [groupItem parts]⟩, [], []⟩ := rfl
    rw [List.foldl_cons, next, ih]
    simp

theorem readParts_alternativeSource (first : List LiteralPart) (rest : List (List LiteralPart)) :
    readParts ((alternativeSource (first :: rest)).length + 1) start
        (alternativeSource (first :: rest)) =
      .ok (.ofAlternatives ((first :: rest).map groupItem)) := by
  have reads := (reads_groupSource first).append (reads_foldl reads_barred rest)
  exact reads.finish.trans (finish_alternate rest [] (groupItem first))

theorem depth_groupItem_le (parts : List LiteralPart) (context : Continues) :
    (groupItem parts).depth context ≤ 2 :=
  Nat.succ_le_succ (depth_ofItems_le parts)

theorem depth_foldl_choice_le (rest : List (List LiteralPart)) {first : Expr}
    (shallow : first.depth .choice ≤ 2) :
    ((rest.map groupItem).foldl .choice first).depth .choice ≤ 2 := by
  induction rest generalizing first with
  | nil => exact shallow
  | cons parts rest ih =>
    apply ih
    have next := depth_groupItem_le parts .nothing
    simp only [Expr.depth, if_true]
    omega

theorem depth_le_of_choice (expr : Expr) : expr.depth .nothing ≤ expr.depth .choice + 1 := by
  cases expr <;> simp [Expr.depth]

theorem depth_alternatives_le (first : List LiteralPart) (rest : List (List LiteralPart)) :
    (Expr.ofAlternatives ((first :: rest).map groupItem)).depth .nothing ≤ 3 := by
  have shallow := depth_foldl_choice_le rest (depth_groupItem_le first .choice)
  exact Nat.le_trans (depth_le_of_choice _) (Nat.succ_le_succ shallow)

theorem mean_literals (ignoreCase : Bool) (all : List (List LiteralPart)) :
    Mean { ignoreCase := ignoreCase } (all.map fun parts => .ofItems (parts.map LiteralPart.item))
      (all.map (literalNode ignoreCase)) := by
  unfold Mean
  rw [List.forall₂_map_left_iff, List.forall₂_map_right_iff, List.forall₂_same]
  intro parts _
  exact ⟨_, meaning_literal ignoreCase parts⟩

/-- What literal texts as alternatives match. -/
def alternativeNode (ignoreCase : Bool) (all : List (List LiteralPart)) : Node :=
  .ofAlternatives (all.map fun parts => .capture (literalNode ignoreCase parts))

/-- Literal texts as alternatives are refused for nothing but their size. -/
theorem nodeOf_alternativeSource {ignoreCase : Bool} {all : List (List LiteralPart)}
    (inhabited : all ≠ []) (fits : (alternativeNode ignoreCase all).bytes ≤ maxBytes)
    {source : String} (written : source.toList = alternativeSource all) :
    nodeOf source ignoreCase = .ok (alternativeNode ignoreCase all) := by
  obtain ⟨first, rest, rfl⟩ := List.exists_cons_of_ne_nil inhabited
  have shape : (first :: rest).map groupItem =
      ((first :: rest).map fun parts => Expr.ofItems (parts.map LiteralPart.item)).map
        (.group none) := by
    rw [List.map_map]
    rfl
  have captured : alternativeNode ignoreCase (first :: rest) =
      .ofAlternatives (((first :: rest).map (literalNode ignoreCase)).map .capture) := by
    rw [List.map_map]
    rfl
  have meaning : (Expr.ofAlternatives ((first :: rest).map groupItem)).meaning
      { ignoreCase := ignoreCase } =
        .ok (alternativeNode ignoreCase (first :: rest), { ignoreCase := ignoreCase }) := by
    rw [shape, captured]
    exact meaning_groups.mpr ⟨rfl, _, mean_literals ignoreCase (first :: rest), rfl⟩
  refine nodeOf_eq_ok.mpr ⟨_, _, ?_, ?_, meaning, fits⟩
  · rw [written]
    exact readParts_alternativeSource first rest
  · exact Nat.le_trans (depth_alternatives_le first rest) (by decide)

/-- Of literal texts as alternatives, the first one that can be followed from a place matches. -/
theorem first?_literals (ignoreCase : Bool) {all : List (List LiteralPart)} (inhabited : all ≠ [])
    (line : Line) (i : Nat) :
    (alternativeNode ignoreCase all).matcher.first? line i =
      all.findSome? (follow ignoreCase line i) := by
  have inhabited' : all.map (fun parts => Node.capture (literalNode ignoreCase parts)) ≠ [] :=
    mt List.map_eq_nil_iff.mp inhabited
  rw [alternativeNode, first?_ofAlternatives inhabited', List.findSome?_map]
  congr 1
  funext parts
  exact first?_literalNode ignoreCase line i parts

end Pattern
end LogView
