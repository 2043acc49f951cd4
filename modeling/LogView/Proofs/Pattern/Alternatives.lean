import LogView.Proofs.Pattern.CaseFlag
import LogView.Proofs.Pattern.Parenthesized
import LogView.Proofs.Pattern.Size
import Mathlib.Data.List.Forall2
import Mathlib.Data.List.Induction

/-!
# Alternatives of a whole pattern

An alternative that is complete, and stands in no group, is never changed by what is read after
it.  So a pattern between parentheses, with a bar or nothing behind it, is an alternative of the
whole pattern, with the same alternatives before it.
-/

namespace LogView
namespace Pattern
namespace Reader

/-- What was read outside of all groups. -/
def outermost (branch : Branch) : List OpenGroup → Branch
  | [] => branch
  | group :: groups => outermost group.before groups

def SoFar.outermost (sofar : SoFar) : Branch := Reader.outermost sofar.branch sofar.groups

theorem outermost_suffix {branch next : Branch}
    (suffix : branch.alternatives <:+ next.alternatives) (groups : List OpenGroup) :
    (outermost branch groups).alternatives <:+ (outermost next groups).alternatives := by
  cases groups with
  | nil => exact suffix
  | cons group groups => exact List.suffix_refl _

/-- Whether complete alternatives outside of all groups are still there. -/
def Keeps (sofar next : SoFar) : Prop :=
  sofar.outermost.alternatives <:+ next.outermost.alternatives

theorem keeps_of_alternatives {sofar next : SoFar} (groups : next.groups = sofar.groups)
    (suffix : sofar.branch.alternatives <:+ next.branch.alternatives) : Keeps sofar next := by
  unfold Keeps SoFar.outermost
  rw [groups]
  exact outermost_suffix suffix sofar.groups

theorem keeps_add (sofar : SoFar) (item : Expr) : Keeps sofar (sofar.add item) :=
  keeps_of_alternatives rfl (List.suffix_refl _)

theorem keeps_openWith {sofar next : SoFar} {opening : Opening}
    (opened : sofar.openWith opening = .ok next) : Keeps sofar next := by
  cases opening with
  | group settings =>
    cases opened
    exact List.suffix_refl _
  | named name =>
    simp only [SoFar.openWith] at opened
    split_ifs at opened
    cases opened
    exact List.suffix_refl _
  | flags settings =>
    cases opened
    exact keeps_of_alternatives rfl (List.suffix_refl _)

theorem keeps_closeGroup {sofar next : SoFar} (closed : sofar.closeGroup = .ok next) :
    Keeps sofar next := by
  obtain ⟨verbose, branch, groups, names⟩ := sofar
  cases groups with
  | nil => cases closed
  | cons group groups =>
    cases closed
    have suffix : group.before.alternatives <:+
        (group.before.add (.group group.settings branch.close)).alternatives := List.suffix_refl _
    exact outermost_suffix suffix groups

theorem keeps_addRepetition {sofar before : SoFar} {item : Expr}
    (taken : sofar.takeRepeated = .ok (item, before)) (count : Count) :
    Keeps sofar (before.addRepetition item count) := by
  unfold SoFar.takeRepeated at taken
  split at taken
  · cases taken
  · cases taken
  · cases taken
    exact keeps_of_alternatives rfl (List.suffix_refl _)

theorem readPart_keeps {sofar next : SoFar} {c : Char} {rest left : List Char}
    (read : readPart sofar c rest = .ok (next, left)) : Keeps sofar next := by
  unfold readPart at read
  split_ifs at read
  · obtain ⟨opening, -, read⟩ := ok_of_bind read
    obtain ⟨opened, opens, read⟩ := ok_of_bind read
    cases read
    exact keeps_openWith opens
  · obtain ⟨closed, closes, read⟩ := ok_of_bind read
    cases read
    exact keeps_closeGroup closes
  · cases read
    exact keeps_of_alternatives rfl (List.suffix_cons _ _)
  · obtain ⟨item, -, read⟩ := ok_of_bind read
    cases read
    exact keeps_add sofar item.1
  · obtain ⟨taken, takes, read⟩ := ok_of_bind read
    obtain ⟨count, -, read⟩ := ok_of_bind read
    cases read
    exact keeps_addRepetition takes count.1
  · obtain ⟨atom, -, read⟩ := ok_of_bind read
    cases read
    exact keeps_add sofar atom.1.toExpr
  · cases sign : boundsOfSign? c with
    | none =>
      rw [sign] at read
      cases read
      exact keeps_add sofar _
    | some bounds =>
      rw [sign] at read
      obtain ⟨taken, takes, read⟩ := ok_of_bind read
      cases read
      exact keeps_addRepetition takes _

theorem finish_keeps {sofar : SoFar} {expr : Expr} (finish : sofar.finish = .ok expr) :
    ∃ later, expr = .ofAlternatives (sofar.outermost.alternatives.reverse ++ later) := by
  obtain ⟨closed, close⟩ := finish_ok finish
  refine ⟨[.ofItems sofar.branch.items.reverse], ?_⟩
  unfold SoFar.outermost
  rw [closed, ← close]
  unfold Branch.close
  rw [List.reverse_cons]
  rfl

/-- The alternatives that are complete are the first ones of the whole pattern. -/
theorem readParts_keeps {fuel : Nat} {sofar : SoFar} {text : List Char} {expr : Expr}
    (reads : readParts fuel sofar text = .ok expr) :
    ∃ later, expr = .ofAlternatives (sofar.outermost.alternatives.reverse ++ later) := by
  induction fuel generalizing sofar text with
  | zero => exact finish_keeps reads
  | succ fuel ih =>
    cases shown : skip sofar.verbose text with
    | nil =>
      rw [readParts_blank shown] at reads
      exact finish_keeps reads
    | cons c rest =>
      rw [readParts_shown shown] at reads
      obtain ⟨⟨next, left⟩, part, reads⟩ := ok_of_bind reads
      obtain ⟨between, kept⟩ := readPart_keeps part
      obtain ⟨later, whole⟩ := ih reads
      refine ⟨between.reverse ++ later, ?_⟩
      rw [whole, ← kept, List.reverse_append, List.append_assoc]

theorem readParts_item {fuel : Nat} {alternatives : List Expr} {item : Expr}
    {names : List (List Char)} {tail : List Char} {expr : Expr}
    (ends : tail = [] ∨ ∃ rest, tail = '|' :: rest)
    (reads : readParts fuel ⟨false, ⟨alternatives, [item]⟩, [], names⟩ tail = .ok expr) :
    ∃ later, expr = .ofAlternatives (alternatives.reverse ++ item :: later) := by
  have last : (Branch.mk alternatives [item]).close =
      .ofAlternatives (alternatives.reverse ++ [item]) := by
    simp [Branch.close, Expr.ofItems]
  obtain rfl | ⟨rest, rfl⟩ := ends
  · rw [readParts_nil] at reads
    cases reads
    exact ⟨[], last⟩
  · cases fuel with
    | zero =>
      cases reads
      exact ⟨[], last⟩
    | succ fuel =>
      have next : readParts fuel ⟨false, ⟨item :: alternatives, []⟩, [], names⟩ rest =
        .ok expr := reads
      obtain ⟨later, whole⟩ := readParts_keeps next
      refine ⟨later, ?_⟩
      rw [whole]
      simp [SoFar.outermost, outermost]

end Reader

theorem ofAlternatives_concat {alternatives : List Expr} (nonempty : alternatives ≠ [])
    (last : Expr) :
    Expr.ofAlternatives (alternatives ++ [last]) =
      .choice (.ofAlternatives alternatives) last := by
  obtain ⟨first, rest, rfl⟩ := List.exists_cons_of_ne_nil nonempty
  simp [Expr.ofAlternatives]

theorem depth_lt_of_mem {alternatives : List Expr} {body : Expr}
    (mem : .group none body ∈ alternatives) (context : Continues) :
    body.depth .nothing < (Expr.ofAlternatives alternatives).depth context := by
  induction alternatives using List.reverseRec generalizing context with
  | nil => cases mem
  | append_singleton alternatives last ih =>
    by_cases only : alternatives = []
    · subst only
      cases List.mem_singleton.mp mem
      exact Nat.lt_succ_self _
    · rw [ofAlternatives_concat only]
      simp only [Expr.depth]
      obtain before | same := List.mem_append.mp mem
      · have deep := ih before .choice
        omega
      · cases List.mem_singleton.mp same
        have deep : body.depth .nothing < (Expr.group none body).depth .nothing :=
          Nat.lt_succ_self _
        omega

theorem meaning_choice {left right : Expr} {mode after : Mode} {node : Node} :
    (Expr.choice left right).meaning mode = .ok (node, after) ↔
      ∃ preferred between other, left.meaning mode = .ok (preferred, between) ∧
        right.meaning between = .ok (other, after) ∧ node = .choice preferred other := by
  constructor
  · intro meaning
    unfold Expr.meaning at meaning
    obtain ⟨⟨preferred, between⟩, first, meaning⟩ := Reader.ok_of_bind meaning
    obtain ⟨⟨other, last⟩, second, meaning⟩ := Reader.ok_of_bind meaning
    cases meaning
    exact ⟨preferred, between, other, first, second, rfl⟩
  · rintro ⟨preferred, between, other, first, second, rfl⟩
    simp only [Expr.meaning, first, second, bind, Except.bind]

theorem meaning_group {body : Expr} {mode after : Mode} {node : Node} :
    (Expr.group none body).meaning mode = .ok (node, after) ↔
      after = mode ∧ ∃ inner flags, body.meaning mode = .ok (inner, flags) ∧
        node = .capture inner := by
  constructor
  · intro meaning
    unfold Expr.meaning at meaning
    obtain ⟨⟨inner, flags⟩, known, meaning⟩ := Reader.ok_of_bind meaning
    cases meaning
    exact ⟨rfl, inner, flags, known, rfl⟩
  · rintro ⟨rfl, inner, flags, known, rfl⟩
    simp only [Expr.meaning, known, bind, Except.bind]

/-- What expressions mean one by one, all under the same flags. -/
def Mean (mode : Mode) : List Expr → List Node → Prop :=
  List.Forall₂ fun expr node => ∃ after, expr.meaning mode = .ok (node, after)

theorem Mean.exists_of_mem {mode : Mode} {exprs : List Expr} {nodes : List Node}
    (means : Mean mode exprs nodes) {expr : Expr} (mem : expr ∈ exprs) :
    ∃ node ∈ nodes, ∃ after, expr.meaning mode = .ok (node, after) := by
  induction means with
  | nil => cases mem
  | cons known _ ih =>
    rcases List.mem_cons.mp mem with rfl | mem
    · exact ⟨_, List.mem_cons_self, known⟩
    · obtain ⟨node, inside, known⟩ := ih mem
      exact ⟨node, List.mem_cons_of_mem _ inside, known⟩

theorem Mean.exists_expr {mode : Mode} {exprs : List Expr} {nodes : List Node}
    (means : Mean mode exprs nodes) {node : Node} (mem : node ∈ nodes) :
    ∃ expr ∈ exprs, ∃ after, expr.meaning mode = .ok (node, after) := by
  induction means with
  | nil => cases mem
  | cons known _ ih =>
    rcases List.mem_cons.mp mem with rfl | mem
    · exact ⟨_, List.mem_cons_self, known⟩
    · obtain ⟨expr, inside, known⟩ := ih mem
      exact ⟨expr, List.mem_cons_of_mem _ inside, known⟩

/-- Groups after an alternative capture what they mean alone, and leave the flags as they were. -/
theorem meaning_foldl_groups {mode after : Mode} {first : Expr} {bodies : List Expr}
    {node : Node} :
    ((bodies.map (.group none)).foldl .choice first).meaning mode = .ok (node, after) ↔
      ∃ preferred nodes, first.meaning mode = .ok (preferred, after) ∧ Mean after bodies nodes ∧
        node = (nodes.map .capture).foldl .choice preferred := by
  induction bodies generalizing first with
  | nil => simp [Mean]
  | cons body bodies ih =>
    rw [List.map_cons, List.foldl_cons, ih]
    constructor
    · rintro ⟨both, nodes, meaning, means, rfl⟩
      obtain ⟨preferred, between, other, before, group, rfl⟩ := meaning_choice.mp meaning
      obtain ⟨rfl, inner, flags, known, rfl⟩ := meaning_group.mp group
      exact ⟨preferred, inner :: nodes, before, .cons ⟨flags, known⟩ means, rfl⟩
    · rintro ⟨preferred, nodes, before, means, rfl⟩
      rcases means with _ | ⟨⟨flags, known⟩, means⟩
      exact ⟨_, _, meaning_choice.mpr ⟨preferred, after, _, before,
        meaning_group.mpr ⟨rfl, _, flags, known, rfl⟩, rfl⟩, means, rfl⟩

theorem meaning_groups {mode after : Mode} {body : Expr} {bodies : List Expr} {node : Node} :
    (Expr.ofAlternatives ((body :: bodies).map (.group none))).meaning mode = .ok (node, after) ↔
      after = mode ∧ ∃ nodes, Mean mode (body :: bodies) nodes ∧
        node = .ofAlternatives (nodes.map .capture) := by
  refine meaning_foldl_groups.trans ?_
  constructor
  · rintro ⟨first, nodes, meaning, means, rfl⟩
    obtain ⟨rfl, inner, flags, known, rfl⟩ := meaning_group.mp meaning
    exact ⟨rfl, inner :: nodes, .cons ⟨flags, known⟩ means, rfl⟩
  · rintro ⟨rfl, nodes, means, rfl⟩
    rcases means with _ | ⟨⟨flags, known⟩, means⟩
    exact ⟨_, _, meaning_group.mpr ⟨rfl, _, flags, known, rfl⟩, means, rfl⟩

theorem meaning_foldl_choice {mode after : Mode} {first : Expr} {later : List Expr} {node : Node}
    (meaning : (later.foldl .choice first).meaning mode = .ok (node, after)) :
    ∃ (preferred : Node) (between : Mode) (others : List Node),
      first.meaning mode = .ok (preferred, between) ∧ node = others.foldl .choice preferred := by
  induction later generalizing first with
  | nil => exact ⟨node, after, [], meaning, rfl⟩
  | cons next later ih =>
    obtain ⟨both, between, others, known, rfl⟩ := ih meaning
    obtain ⟨preferred, between', other, first, -, rfl⟩ := meaning_choice.mp known
    exact ⟨preferred, between', other :: others, first, rfl⟩

/-- Groups before all other alternatives mean what they mean alone, and stand before the others. -/
theorem meaning_alternatives {mode after : Mode} {body : Expr} {bodies later : List Expr}
    {node : Node}
    (meaning : (Expr.ofAlternatives ((body :: bodies).map (.group none) ++ later)).meaning mode =
      .ok (node, after)) :
    ∃ nodes others, Mean mode (body :: bodies) nodes ∧
      node = .ofAlternatives (nodes.map .capture ++ others) := by
  rw [List.map_cons, List.cons_append, Expr.ofAlternatives, List.foldl_append] at meaning
  obtain ⟨preferred, between, others, known, rfl⟩ := meaning_foldl_choice meaning
  obtain ⟨-, nodes, means, rfl⟩ := meaning_groups.mp known
  refine ⟨nodes, others, means, ?_⟩
  rcases means with _ | ⟨-, means⟩
  simp [Node.ofAlternatives]

/-- The preferred match of alternatives is that of the first one that matches. -/
theorem first?_ofAlternatives {nodes : List Node} (nonempty : nodes ≠ []) (line : Line) (i : Nat) :
    (Node.ofAlternatives nodes).matcher.first? line i =
      nodes.findSome? fun node => node.matcher.first? line i := by
  have folded (rest : List Node) (first : Node) :
      (rest.foldl .choice first).matcher.first? line i =
        (first.matcher.first? line i).or
          (rest.findSome? fun node => node.matcher.first? line i) := by
    induction rest generalizing first with
    | nil => exact (Option.or_none).symm
    | cons next rest ih =>
      have both : (Node.choice first next).matcher.first? line i =
          (first.matcher.first? line i).or (next.matcher.first? line i) := by
        rw [Node.matcher]
        rfl
      rw [List.foldl_cons, ih, both, Option.or_assoc, List.findSome?_cons]
      cases next.matcher.first? line i <;> rfl
  obtain ⟨first, rest, rfl⟩ := List.exists_cons_of_ne_nil nonempty
  rw [Node.ofAlternatives, folded, List.findSome?_cons]
  cases first.matcher.first? line i <;> rfl

theorem meaning_of_mem {mode after : Mode} {bodies later : List Expr} {node : Node}
    (meaning : (Expr.ofAlternatives (bodies.map (.group none) ++ later)).meaning mode =
      .ok (node, after)) {body : Expr} (mem : body ∈ bodies) :
    ∃ part flags, body.meaning mode = .ok (part, flags) ∧ part.bytes ≤ node.bytes := by
  obtain ⟨first, rest, rfl⟩ := List.exists_cons_of_ne_nil (List.ne_nil_of_mem mem)
  obtain ⟨nodes, others, means, rfl⟩ := meaning_alternatives meaning
  obtain ⟨part, inside, flags, known⟩ := means.exists_of_mem mem
  have mem' : .capture part ∈ nodes.map .capture ++ others :=
    List.mem_append_left others (List.mem_map_of_mem inside)
  exact ⟨part, flags, known, Node.bytes_le_of_mem mem'⟩

section Whole

open Reader

theorem nodeOf_of_meaning {source : String} {ignoreCase : Bool} {expr : Expr}
    (read : readParts (source.toList.length + 1) start source.toList = .ok expr)
    (depth : expr.depth .nothing ≤ maxDepth) {node : Node} {mode : Mode}
    (meaning : expr.meaning { ignoreCase := ignoreCase } = .ok (node, mode)) :
    nodeOf source ignoreCase = if node.bytes ≤ maxBytes then .ok node else .error .tooLarge := by
  have read' : Expr.read source.toList = .ok expr := by
    unfold Expr.read
    unfold start at read
    rw [read]
    exact if_pos depth
  unfold nodeOf
  rw [read']
  dsimp only [bind, Except.bind]
  rw [meaning]

theorem nodeOf_eq_ok {source : String} {ignoreCase : Bool} {node : Node} :
    nodeOf source ignoreCase = .ok node ↔
      ∃ expr mode, readParts (source.toList.length + 1) start source.toList = .ok expr ∧
        expr.depth .nothing ≤ maxDepth ∧
        expr.meaning { ignoreCase := ignoreCase } = .ok (node, mode) ∧ node.bytes ≤ maxBytes := by
  constructor
  · intro made
    unfold nodeOf at made
    obtain ⟨expr, read, made⟩ := ok_of_bind made
    obtain ⟨⟨inner, mode⟩, meaning, made⟩ := ok_of_bind made
    unfold Expr.read at read
    obtain ⟨whole, read, shallow⟩ := ok_of_bind read
    split_ifs at shallow with depth
    cases shallow
    dsimp only at made
    split_ifs at made with small
    cases made
    exact ⟨expr, mode, read, depth, meaning, small⟩
  · rintro ⟨expr, mode, read, depth, meaning, small⟩
    rw [nodeOf_of_meaning read depth meaning, if_pos small]

theorem nodeOf_of_unread {source : String} {fault : Fault}
    (unread : readParts (source.toList.length + 1) start source.toList = .error fault)
    (ignoreCase : Bool) : nodeOf source ignoreCase = .error fault := by
  unfold nodeOf Expr.read
  unfold start at unread
  rw [unread]
  rfl

/--
A pattern that is one of several alternatives is not refused alone if they are accepted together,
unless for its size in another case than theirs.
-/
theorem nodeOf_of_alternatives {bodies later : List Expr} {body : Expr} (mem : body ∈ bodies)
    {source : String}
    (reads : readParts (source.toList.length + 1) start source.toList = .ok body)
    (depth : (Expr.ofAlternatives (bodies.map (.group none) ++ later)).depth .nothing ≤ maxDepth)
    {other : Bool} {node : Node} {mode : Mode}
    (meaning : (Expr.ofAlternatives (bodies.map (.group none) ++ later)).meaning
      { ignoreCase := other } = .ok (node, mode))
    (small : node.bytes ≤ maxBytes) {ignoreCase : Bool} {fault : Fault}
    (refused : nodeOf source ignoreCase = .error fault) :
    fault = .tooLarge ∧ ignoreCase ≠ other := by
  have deep := depth_lt_of_mem
    (List.mem_append_left later (List.mem_map_of_mem (f := Expr.group none) mem)) .nothing
  have shallow : body.depth .nothing ≤ maxDepth := by omega
  obtain ⟨part, flags, known, le⟩ := meaning_of_mem meaning mem
  obtain ⟨made, flags', known'⟩ := meaning_of_ignoreCase known ignoreCase
  rw [nodeOf_of_meaning reads shallow known'] at refused
  split_ifs at refused with fits
  cases refused
  refine ⟨rfl, ?_⟩
  rintro rfl
  cases known.symm.trans known'
  omega

theorem readParts_alternatives {earlier : List (List Char × Expr)}
    (whole : ∀ part ∈ earlier, ReadsAs part.1 part.2) {text : List Char} {body : Expr}
    (whole' : ReadsAs text body) {tail : List Char} (ends : tail = [] ∨ ∃ rest, tail = '|' :: rest)
    {all : List Char}
    (split : all = barred (earlier.map Prod.fst) ++ '(' :: (text ++ ')' :: tail)) {expr : Expr}
    (read : readParts (all.length + 1) start all = .ok expr) :
    ∃ later, expr = .ofAlternatives
      ((earlier.map Prod.snd ++ [body]).map (.group none) ++ later) := by
  have leads := (leads_barred whole []).append (whole'.leads _)
  have grouped : all = barred (earlier.map Prod.fst) ++ '(' :: (text ++ [')']) ++ tail := by
    simp [split]
  obtain ⟨cause, fails⟩ | ⟨steps, names, -, onward⟩ :=
    leads (all.length + 1) [] tail (grouped ▸ Nat.lt_succ_self _)
  · rw [← grouped] at fails
    cases fails.symm.trans read
  · rw [← grouped] at onward
    obtain ⟨later, shape⟩ := readParts_item ends (onward.symm.trans read)
    refine ⟨later, ?_⟩
    rw [shape]
    simp [Function.comp_def]

/--
A pattern that is refused, not for a fault at its edge, is refused as well as one of several
alternatives.  If it is refused for its size, it has to be in their case too.
-/
theorem nodeOf_alternatives {earlier : List (List Char × Expr)}
    (whole : ∀ part ∈ earlier, ReadsAs part.1 part.2) {source : String} {ignoreCase : Bool}
    {fault : Fault} (refused : nodeOf source ignoreCase = .error fault)
    (inside : fault.isAtEdge = false) (unmarked : source.toList.head? ≠ some '?')
    (closed : takesParenthesis source.toList = false) {tail : List Char}
    (ends : tail = [] ∨ ∃ rest, tail = '|' :: rest) {all : String}
    (split : all.toList = barred (earlier.map Prod.fst) ++ '(' :: (source.toList ++ ')' :: tail))
    {other : Bool} (sized : fault = .tooLarge → ∃ cause, nodeOf source other = .error cause) :
    ∃ cause, nodeOf all other = .error cause := by
  cases together : nodeOf all other with
  | error cause => exact ⟨cause, rfl⟩
  | ok node =>
    obtain ⟨expr, mode, read, depth, meaning, small⟩ := nodeOf_eq_ok.mp together
    -- A pattern that is not read alone stops the reading of all.  One that is read is an
    -- alternative of what is read of all, and would then be accepted with it.
    cases alone : readParts (source.toList.length + 1) start source.toList with
    | error cause =>
      cases refused.symm.trans (nodeOf_of_unread alone ignoreCase)
      rw [split] at read
      obtain ⟨cause, fails⟩ | ⟨steps, names, enough, onward⟩ :=
        leads_barred whole [] _ [] ('(' :: (source.toList ++ ')' :: tail)) (Nat.lt_succ_self _)
      · cases fails.symm.trans read
      · obtain ⟨cause, fails⟩ := readParts_parenthesized_fails alone inside unmarked _ names enough
        cases (onward.trans fails).symm.trans read
    | ok body =>
      obtain ⟨later, shape⟩ :=
        readParts_alternatives whole (readsAs_of_read alone closed) ends split read
      rw [shape] at depth meaning
      have mem : body ∈ earlier.map Prod.snd ++ [body] := by simp
      obtain ⟨large, -⟩ := nodeOf_of_alternatives mem alone depth meaning small refused
      obtain ⟨cause, refused'⟩ := sized large
      exact absurd rfl (nodeOf_of_alternatives mem alone depth meaning small refused').2

/-- Whether an expression is accepted as a whole pattern, and matches what a node does. -/
def Expr.Makes (ignoreCase : Bool) (expr : Expr) (node : Node) : Prop :=
  expr.depth .nothing ≤ maxDepth ∧
    (∃ flags, expr.meaning { ignoreCase := ignoreCase } = .ok (node, flags)) ∧
    node.bytes ≤ maxBytes

/-- What is read as the first alternatives of an accepted pattern is accepted alone. -/
theorem exists_nodes {earlier : List (List Char × Expr)}
    (whole : ∀ part ∈ earlier, ReadsAs part.1 part.2) {text : List Char} {body : Expr}
    (whole' : ReadsAs text body) {tail : List Char} (ends : tail = [] ∨ ∃ rest, tail = '|' :: rest)
    {all : String}
    (split : all.toList = barred (earlier.map Prod.fst) ++ '(' :: (text ++ ')' :: tail))
    {ignoreCase : Bool} {node : Node} (made : nodeOf all ignoreCase = .ok node) :
    ∃ (nodes others : List Node), node = .ofAlternatives (nodes.map .capture ++ others) ∧
      (∃ own ∈ nodes, body.Makes ignoreCase own) ∧
      ∀ part ∈ nodes, ∃ expr ∈ earlier.map Prod.snd ++ [body], expr.Makes ignoreCase part := by
  obtain ⟨expr, flags, reads, depth, meaning, small⟩ := nodeOf_eq_ok.mp made
  obtain ⟨later, rfl⟩ := readParts_alternatives whole whole' ends split reads
  obtain ⟨nodes, others, means, rfl⟩ : ∃ nodes others,
      Mean { ignoreCase := ignoreCase } (earlier.map Prod.snd ++ [body]) nodes ∧
        node = .ofAlternatives (nodes.map .capture ++ others) := by
    cases earlier with
    | nil => exact meaning_alternatives meaning
    | cons first earlier => exact meaning_alternatives meaning
  have shallow : ∀ expr ∈ earlier.map Prod.snd ++ [body], expr.depth .nothing ≤ maxDepth := by
    intro expr mem
    have deep := depth_lt_of_mem
      (List.mem_append_left later (List.mem_map_of_mem (f := Expr.group none) mem)) .nothing
    omega
  have fits : ∀ part ∈ nodes, part.bytes ≤ maxBytes := by
    intro part mem
    have mem' : .capture part ∈ nodes.map .capture ++ others :=
      List.mem_append_left others (List.mem_map_of_mem mem)
    exact Nat.le_trans (Node.bytes_le_of_mem mem') small
  refine ⟨nodes, others, rfl, ?_, ?_⟩
  · have last : body ∈ earlier.map Prod.snd ++ [body] := by simp
    obtain ⟨own, mem, known⟩ := means.exists_of_mem last
    exact ⟨own, mem, shallow body last, known, fits own mem⟩
  · intro part mem
    obtain ⟨expr, inside, known⟩ := means.exists_expr mem
    exact ⟨expr, inside, shallow expr inside, known, fits part mem⟩

end Whole

end Pattern
end LogView
