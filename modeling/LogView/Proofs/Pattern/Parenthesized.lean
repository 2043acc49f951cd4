import LogView.Proofs.Pattern.Onward.Parts
import LogView.Proofs.Pattern.Reading

/-!
# Patterns between parentheses

A pattern that can be read is read between parentheses as one group, unless a comment at its end
takes in the parenthesis.  A pattern that cannot be read, for a fault that lies inside it, cannot
be read between parentheses either, whatever stands before and behind them.
-/

namespace LogView
namespace Pattern
namespace Reader

theorem readParts_shown {sofar : SoFar} {text : List Char} {c : Char} {rest : List Char}
    (shown : skip sofar.verbose text = c :: rest) (fuel : Nat) :
    readParts (fuel + 1) sofar text =
      readPart sofar c rest >>= fun read => readParts fuel read.1 read.2 := by
  rw [readParts, shown]

theorem readParts_blank {sofar : SoFar} {text : List Char} (blank : skip sofar.verbose text = [])
    (fuel : Nat) : readParts fuel sofar text = sofar.finish := by
  cases fuel with
  | zero => rfl
  | succ fuel => rw [readParts, blank]

theorem isAtEdge_of_finish {sofar : SoFar} {fault : Fault} (fails : sofar.finish = .error fault) :
    fault.isAtEdge = true := by
  unfold SoFar.finish at fails
  split_ifs at fails
  cases fails
  rfl

theorem finish_ok {sofar : SoFar} {expr : Expr} (finish : sofar.finish = .ok expr) :
    sofar.groups = [] ∧ sofar.branch.close = expr := by
  unfold SoFar.finish at finish
  split_ifs at finish with closed
  exact ⟨List.isEmpty_iff.mp closed, Except.ok.inj finish⟩

theorem readPart_closing {sofar : SoFar} {expr : Expr}
    (whole : sofar.groups = [] ∧ sofar.branch.close = expr) (group : OpenGroup)
    (outer : List OpenGroup) (taken : List (List Char)) (rest : List Char) :
    readPart (sofar.within (group :: outer) taken) ')' rest =
      .ok (⟨group.verbose, group.before.add (.group group.settings expr), outer,
        sofar.names ++ taken⟩, rest) := by
  obtain ⟨verbose, branch, groups, names⟩ := sofar
  obtain ⟨rfl, rfl⟩ := whole
  rfl

section Between

variable {more rest : List Char} {sofar : SoFar} {c : Char} (outer : List OpenGroup)
  (taken : List (List Char))

/-- A part that is refused alone, not at the edge, is refused between parentheses. -/
theorem readPart_refused
    (goesOn : GoesOn more rest (readPart sofar c rest) (readPart sofar c (rest ++ ')' :: more)))
    {fault : Fault} (refused : readPart sofar c rest = .error fault)
    (inside : fault.isAtEdge = false) :
    readPart (sofar.within outer taken) c (rest ++ ')' :: more) = .error fault := by
  rw [refused] at goesOn
  have within := readPart_within outer taken sofar c (rest ++ ')' :: more)
  rw [goesOn inside] at within
  refine within ?_
  rintro rfl
  cases inside

/-- A part that is read alone is read between parentheses, unless its name is taken. -/
theorem readPart_read
    (goesOn : GoesOn more rest (readPart sofar c rest) (readPart sofar c (rest ++ ')' :: more)))
    {next : SoFar} {left : List Char} (read : readPart sofar c rest = .ok (next, left)) :
    left.length ≤ rest.length ∧
      (readPart (sofar.within outer taken) c (rest ++ ')' :: more) =
          .ok (next.within outer taken, left ++ ')' :: more) ∨
        readPart (sofar.within outer taken) c (rest ++ ')' :: more) =
          .error .groupNameDuplicate) := by
  rw [read] at goesOn
  have within := readPart_within outer taken sofar c (rest ++ ')' :: more)
  rw [goesOn.2] at within
  exact ⟨goesOn.1, within⟩

end Between

theorem readParts_fails {fuel : Nat} {sofar : SoFar} {text : List Char} {fault : Fault}
    (fails : readParts fuel sofar text = .error fault) (inside : fault.isAtEdge = false)
    (k : Nat) (outer : List OpenGroup) (taken : List (List Char)) (more : List Char) :
    ∃ other, readParts (fuel + k) (sofar.within outer taken) (text ++ ')' :: more) =
      .error other := by
  have unfinished {sofar : SoFar} : sofar.finish ≠ .error fault := by
    intro finish
    rw [isAtEdge_of_finish finish] at inside
    cases inside
  -- The end of the text is no place for the fault, so a part is at fault, now or later.
  induction fuel generalizing sofar text with
  | zero => exact absurd fails unfinished
  | succ fuel ih =>
    cases shown : skip sofar.verbose text with
    | nil => exact absurd (readParts_blank shown _ ▸ fails) unfinished
    | cons c rest =>
      have shown' : skip (sofar.within outer taken).verbose (text ++ ')' :: more) =
        c :: (rest ++ ')' :: more) := skip_append shown _
      rw [readParts_shown shown] at fails
      rw [Nat.add_right_comm, readParts_shown shown']
      obtain goesOn | ⟨ended, alone, -⟩ := readPart_goesOn sofar c rest
      · cases part : readPart sofar c rest with
        | error other =>
          rw [part] at fails
          cases fails
          rw [readPart_refused outer taken (goesOn more) part inside]
          exact ⟨fault, rfl⟩
        | ok read =>
          obtain ⟨next, left⟩ := read
          rw [part] at fails
          obtain ⟨-, same | named⟩ := readPart_read outer taken (goesOn more) part
          · rw [same]
            exact ih fails
          · rw [named]
            exact ⟨_, rfl⟩
      · rw [alone] at fails
        exact absurd ((readParts_nil fuel ended).symm.trans fails) unfinished

/--
A pattern that can be read is read inside an open group up to the parenthesis that closes it, if
it does not take in the parenthesis itself.
-/
theorem readParts_closes {fuel : Nat} {sofar : SoFar} {text : List Char} {expr : Expr}
    (enough : text.length < fuel) (reads : readParts fuel sofar text = .ok expr)
    (closed : readParts (fuel + 1) sofar (text ++ [')']) ≠ .ok expr) (k : Nat)
    (group : OpenGroup) (outer : List OpenGroup) (taken : List (List Char)) (more : List Char) :
    (∃ fault, readParts (fuel + k) (sofar.within (group :: outer) taken) (text ++ ')' :: more) =
        .error fault) ∨
      ∃ steps names, k ≤ steps ∧
        readParts (fuel + k) (sofar.within (group :: outer) taken) (text ++ ')' :: more) =
          readParts steps
            ⟨group.verbose, group.before.add (.group group.settings expr), outer, names⟩ more := by
  -- Inside the group part after part is read as alone.  When none is left the parenthesis shows,
  -- as a comment that hid it would have hidden it from the pattern alone.
  induction fuel generalizing sofar text with
  | zero => exact absurd enough (Nat.not_lt_zero _)
  | succ fuel ih =>
    rw [Nat.add_right_comm]
    cases shown : skip sofar.verbose text with
    | nil =>
      rw [readParts_blank shown] at reads
      obtain shows | ends := skip_onward shown
      · right
        have shown' : skip (sofar.within (group :: outer) taken).verbose (text ++ ')' :: more) =
          ')' :: more := shows more
        rw [readParts_shown shown', readPart_closing (finish_ok reads)]
        exact ⟨fuel + k, _, Nat.le_add_left k fuel, rfl⟩
      · exact absurd ((readParts_blank ends _).trans reads) closed
    | cons c rest =>
      have shown' : skip (sofar.within (group :: outer) taken).verbose (text ++ ')' :: more) =
        c :: (rest ++ ')' :: more) := skip_append shown _
      have skipped := length_skip_le sofar.verbose text
      rw [shown, List.length_cons] at skipped
      rw [readParts_shown (skip_append shown _)] at closed
      rw [readParts_shown shown] at reads
      rw [readParts_shown shown']
      obtain goesOn | ⟨ended, alone, ends⟩ := readPart_goesOn sofar c rest
      · cases part : readPart sofar c rest with
        | error other =>
          rw [part] at reads
          cases reads
        | ok read =>
          obtain ⟨next, left⟩ := read
          rw [part] at reads
          obtain ⟨le, same | named⟩ := readPart_read (group :: outer) taken (goesOn more) part
          · have onward := goesOn []
            rw [part] at onward
            rw [onward.2] at closed
            rw [same]
            exact ih (by omega) reads closed
          · rw [named]
            exact .inl ⟨_, rfl⟩
      · rw [alone] at reads
        rw [ends] at closed
        exact absurd ((readParts_nil _ ended).trans ((readParts_nil fuel ended).symm.trans reads))
          closed

/-- The beginning of a pattern. -/
def start : SoFar := ⟨false, .start, [], []⟩

/-- What a text is read as, up to its end and no further. -/
structure ReadsAs (text : List Char) (expr : Expr) : Prop where
  reads : readParts (text.length + 1) start text = .ok expr
  closed : readParts (text.length + 2) start (text ++ [')']) ≠ .ok expr

/--
Whether a parenthesis put behind a pattern is taken in by it.  A pattern that is read to its end
does so if a comment is open there.
-/
def takesParenthesis (text : List Char) : Bool :=
  (readParts (text.length + 2) start (text ++ [')'])).isOk

theorem readsAs_of_read {text : List Char} {expr : Expr}
    (reads : readParts (text.length + 1) start text = .ok expr)
    (closed : takesParenthesis text = false) : ReadsAs text expr := by
  refine ⟨reads, fun taken => ?_⟩
  unfold takesParenthesis at closed
  rw [taken] at closed
  cases closed

/-- A text that is read without looking ahead does not take in what follows it. -/
theorem Reads.readsAs {text : List Char} {change : SoFar → SoFar} {expr : Expr}
    (reads : Reads text change) (finish : (change start).finish = .ok expr) :
    ReadsAs text expr := by
  refine ⟨reads.finish.trans finish, ?_⟩
  obtain ⟨steps, le, whole⟩ := reads
  obtain ⟨spare, split⟩ := Nat.exists_eq_add_of_le' le
  have read := (whole (spare + 2) start [')'] rfl).2
  have steps_eq : text.length + 2 = spare + 2 + steps := by omega
  have refused : readPart (change start) ')' [] = .error .groupUnopened := by
    have closed := (finish_ok finish).1
    unfold readPart SoFar.closeGroup
    rw [closed]
    rfl
  have shown : skip (change start).verbose [')'] = [')'] := by
    cases (change start).verbose <;> rfl
  rw [steps_eq, read, readParts_shown shown, refused]
  exact nofun

theorem readOpening_plain {text : List Char} (unmarked : text.head? ≠ some '?')
    (more : List Char) :
    readOpening false (text ++ ')' :: more) = .ok (.group none, text ++ ')' :: more) := by
  cases text with
  | nil => rfl
  | cons c rest =>
    have mark : c ≠ '?' := fun same => unmarked (same ▸ rfl)
    rw [List.cons_append, readOpening_shown false (skip_false _), if_neg mark]

theorem readPart_opening {text : List Char} (unmarked : text.head? ≠ some '?')
    (branch : Branch) (names : List (List Char)) (more : List Char) :
    readPart ⟨false, branch, [], names⟩ '(' (text ++ ')' :: more) =
      .ok (start.within [⟨none, branch, false⟩] names, text ++ ')' :: more) := by
  unfold readPart
  rw [if_pos rfl, readOpening_plain unmarked]
  rfl

theorem ReadsAs.unmarked {text : List Char} {expr : Expr} (whole : ReadsAs text expr) :
    text.head? ≠ some '?' := by
  intro mark
  obtain ⟨rest, rfl⟩ := List.head?_eq_some_iff.mp mark
  cases whole.reads

/--
Whether a part of a pattern that stands in no group takes what was read from one branch to
another, unless it is refused for a name.
-/
def Leads (part : List Char) (branch next : Branch) : Prop :=
  ∀ (fuel : Nat) (names : List (List Char)) (more : List Char), (part ++ more).length < fuel →
    (∃ fault, readParts fuel ⟨false, branch, [], names⟩ (part ++ more) = .error fault) ∨
      ∃ steps names', more.length < steps ∧
        readParts fuel ⟨false, branch, [], names⟩ (part ++ more) =
          readParts steps ⟨false, next, [], names'⟩ more

theorem leads_nil (branch : Branch) : Leads [] branch branch :=
  fun fuel names _ enough => .inr ⟨fuel, names, enough, rfl⟩

theorem Leads.append {part part' : List Char} {branch middle next : Branch}
    (first : Leads part branch middle) (second : Leads part' middle next) :
    Leads (part ++ part') branch next := by
  intro fuel names more enough
  rw [List.append_assoc] at enough ⊢
  obtain refused | ⟨steps, names', enough', read⟩ := first fuel names (part' ++ more) enough
  · exact .inl refused
  · rw [read]
    exact second steps names' more enough'

theorem leads_bar (branch : Branch) : Leads ['|'] branch branch.next := by
  intro fuel names more enough
  obtain ⟨steps, rfl⟩ : ∃ steps, fuel = steps + 1 := Nat.exists_eq_succ_of_ne_zero (by omega)
  exact .inr ⟨steps, names, Nat.lt_of_succ_lt_succ enough, rfl⟩

theorem readParts_opening {text : List Char} (unmarked : text.head? ≠ some '?') (fuel : Nat)
    (branch : Branch) (names : List (List Char)) (more : List Char) :
    readParts (fuel + 1) ⟨false, branch, [], names⟩ ('(' :: (text ++ ')' :: more)) =
      readParts fuel (start.within [⟨none, branch, false⟩] names) (text ++ ')' :: more) := by
  rw [readParts_shown (skip_false _), readPart_opening unmarked]
  rfl

theorem ReadsAs.leads {text : List Char} {expr : Expr} (whole : ReadsAs text expr)
    (branch : Branch) : Leads ('(' :: (text ++ [')'])) branch (branch.add (.group none expr)) := by
  intro fuel names more enough
  have split : '(' :: (text ++ [')']) ++ more = '(' :: (text ++ ')' :: more) := by simp
  rw [split] at enough ⊢
  rw [List.length_cons, List.length_append, List.length_cons] at enough
  obtain ⟨k, rfl⟩ : ∃ k, fuel = text.length + 1 + k + 1 :=
    ⟨fuel - text.length - 2, by omega⟩
  rw [readParts_opening whole.unmarked]
  have group := readParts_closes (Nat.lt_succ_self _) whole.reads whole.closed k
    ⟨none, branch, false⟩ [] names more
  obtain refused | ⟨steps, names', le, read⟩ := group
  · exact .inl refused
  · exact .inr ⟨steps, names', by omega, read⟩

/-- The text of patterns, each between parentheses and with a bar behind it. -/
def barred (texts : List (List Char)) : List Char :=
  texts.flatMap fun text => '(' :: (text ++ [')', '|'])

theorem leads_barred {parts : List (List Char × Expr)}
    (whole : ∀ part ∈ parts, ReadsAs part.1 part.2) (alternatives : List Expr) :
    Leads (barred (parts.map Prod.fst)) ⟨alternatives, []⟩
      ⟨(parts.map fun part => .group none part.2).reverse ++ alternatives, []⟩ := by
  induction parts generalizing alternatives with
  | nil => exact leads_nil _
  | cons part parts ih =>
    obtain ⟨text, expr⟩ := part
    have first := ((whole _ List.mem_cons_self).leads ⟨alternatives, []⟩).append (leads_bar _)
    have rest := ih (fun other mem => whole other (List.mem_cons_of_mem _ mem))
      (.group none expr :: alternatives)
    have split : barred (text :: parts.map Prod.fst) =
        '(' :: (text ++ [')']) ++ ['|'] ++ barred (parts.map Prod.fst) := by
      simp [barred]
    rw [List.map_cons, List.map_cons, List.reverse_cons, List.append_assoc, split]
    exact first.append rest

/-- A pattern with a fault inside it is refused as a later alternative as well. -/
theorem readParts_parenthesized_fails {text : List Char} {fault : Fault}
    (fails : readParts (text.length + 1) start text = .error fault)
    (inside : fault.isAtEdge = false) (unmarked : text.head? ≠ some '?') {fuel : Nat}
    (branch : Branch) (names : List (List Char)) {more : List Char}
    (enough : ('(' :: (text ++ ')' :: more)).length < fuel) :
    ∃ other, readParts fuel ⟨false, branch, [], names⟩ ('(' :: (text ++ ')' :: more)) =
      .error other := by
  rw [List.length_cons, List.length_append, List.length_cons] at enough
  obtain ⟨k, rfl⟩ : ∃ k, fuel = text.length + 1 + k + 1 :=
    ⟨fuel - text.length - 2, by omega⟩
  rw [readParts_opening unmarked]
  exact readParts_fails fails inside k [⟨none, branch, false⟩] names more

end Reader
end Pattern
end LogView
