import LogView.Pattern.Reader.Count
import LogView.Proofs.Pattern.Onward.Basic

/-!
# Counts in front of a parenthesis

Digits at the end of a text may be followed by more of them behind a comment.  A number only
grows by that, so one that is too large stays so, and a count is not complete before its brace.
-/

namespace LogView
namespace Pattern
namespace Reader

variable (verbose : Bool) (more : List Char)

theorem le_readDigits (fuel n : Nat) (text : List Char) :
    ∃ m, (readDigits verbose fuel (some n) text).1 = some m ∧ n ≤ m := by
  induction fuel generalizing n text with
  | zero => exact ⟨n, rfl, Nat.le_refl n⟩
  | succ fuel ih =>
    cases text with
    | nil => exact ⟨n, rfl, Nat.le_refl n⟩
    | cons c rest =>
      unfold readDigits
      dsimp only
      split_ifs
      · obtain ⟨m, read, le⟩ := ih (n * 10 + (c.toNat - '0'.toNat)) (skip verbose rest)
        refine ⟨m, read, Nat.le_trans ?_ le⟩
        omega
      · exact ⟨n, rfl, Nat.le_refl n⟩

theorem readDigits_nil (fuel : Nat) (value : Option Nat) :
    readDigits verbose fuel value [] = (value, []) := by
  cases fuel <;> rfl

/-- Digits are read as before, unless the text ends with them, when their number may grow. -/
theorem readDigits_onward {fuel : Nat} {text : List Char} (enough : text.length < fuel) (k : Nat)
    (value : Option Nat) :
    (readDigits verbose fuel value text).2.length ≤ text.length ∧
      (readDigits verbose (fuel + k) value (text ++ ')' :: more) =
          ((readDigits verbose fuel value text).1,
            (readDigits verbose fuel value text).2 ++ ')' :: more) ∨
        ∃ n m, readDigits verbose fuel value text = (some n, []) ∧ n ≤ m ∧
          (readDigits verbose (fuel + k) value (text ++ ')' :: more)).1 = some m) := by
  induction fuel generalizing value text with
  | zero => exact absurd enough (Nat.not_lt_zero _)
  | succ fuel ih =>
    rw [Nat.add_right_comm]
    cases text with
    | nil => exact ⟨Nat.le_refl _, .inl rfl⟩
    | cons c rest =>
      have skipped := length_skip_le verbose rest
      have enough' : rest.length < fuel := Nat.lt_of_succ_lt_succ enough
      unfold readDigits
      simp only [List.cons_append]
      split_ifs
      · cases shown : skip verbose rest with
        | nil =>
          -- Only a comment is left, behind which more digits may stand.
          obtain ⟨m, read, le⟩ := le_readDigits verbose (fuel + k)
            (value.getD 0 * 10 + (c.toNat - '0'.toNat)) (skip verbose (rest ++ ')' :: more))
          rw [readDigits_nil]
          exact ⟨Nat.zero_le _, .inr ⟨_, m, rfl, le, read⟩⟩
        | cons d inner =>
          rw [skip_append shown]
          rw [shown] at skipped
          obtain ⟨le, onward⟩ := ih (Nat.lt_of_le_of_lt skipped enough')
            (some (value.getD 0 * 10 + (c.toNat - '0'.toNat)))
          exact ⟨Nat.le_succ_of_le (Nat.le_trans le skipped), onward⟩
      · exact ⟨Nat.le_refl _, .inl rfl⟩

theorem dropWhile_isBlank_onward (text : List Char) :
    (text ++ ')' :: more).dropWhile Text.isBlank =
      text.dropWhile Text.isBlank ++ ')' :: more := by
  rw [List.dropWhile_append]
  cases text.dropWhile Text.isBlank with
  | nil => rfl
  | cons c rest => rfl

/-- The number that digits make. -/
def numberOf : Option Nat → Except Fault Nat
  | none => .error .countEmpty
  | some n => if n ≤ maxPasses then .ok n else .error .decimalInvalid

theorem readNumber_eq (text : List Char) :
    readNumber verbose text =
      let text := text.dropWhile Text.isBlank
      let digits := readDigits verbose (text.length + 1) none text
      (numberOf digits.1, digits.2.dropWhile Text.isBlank) := by
  unfold readNumber numberOf
  rfl

theorem numberOf_error_of_le {n m : Nat} (le : n ≤ m) {fault : Fault}
    (wrong : numberOf (some n) = .error fault) : numberOf (some m) = .error fault := by
  simp only [numberOf] at wrong ⊢
  split_ifs at wrong with small
  rw [if_neg fun small' => small (Nat.le_trans le small')]
  exact wrong

/-- A number is read as before, unless the text ends with it, when a wrong one stays wrong. -/
theorem readNumber_onward (text : List Char) :
    (readNumber verbose text).2.length ≤ text.length ∧
      (readNumber verbose (text ++ ')' :: more) =
          ((readNumber verbose text).1, (readNumber verbose text).2 ++ ')' :: more) ∨
        (readNumber verbose text).2 = [] ∧ ∀ fault, (readNumber verbose text).1 = .error fault →
          (readNumber verbose (text ++ ')' :: more)).1 = .error fault) := by
  rw [readNumber_eq, readNumber_eq, dropWhile_isBlank_onward]
  dsimp only
  rw [length_onward]
  have blank_le (text : List Char) : (text.dropWhile Text.isBlank).length ≤ text.length :=
    (List.dropWhile_sublist _).length_le
  obtain ⟨le, onward⟩ := readDigits_onward verbose more
    (Nat.lt_succ_self (text.dropWhile Text.isBlank).length) (more.length + 1) none
  refine ⟨Nat.le_trans (blank_le _) (Nat.le_trans le (blank_le _)), ?_⟩
  obtain same | ⟨n, m, alone, le, grown⟩ := onward
  · left
    rw [same, dropWhile_isBlank_onward]
  · right
    rw [alone, grown]
    exact ⟨rfl, fun fault wrong => numberOf_error_of_le le wrong⟩

/-- Reads the bounds of a count, of which the first number was read. -/
def readMost (verbose : Bool) (least : Except Fault Nat) (text : List Char) :
    Except Fault (Reading (Nat × Option Nat)) :=
  match skip verbose text with
  | [] => .error .countUnclosed
  | c :: rest =>
    if c = '\x7d' then least >>= fun least => .ok ((least, none), '\x7d' :: rest)
    else
      least >>= fun least =>
        (readNumber verbose (c :: rest)).1 >>= fun most =>
          .ok ((least, some most), (readNumber verbose (c :: rest)).2)

/-- Reads the bounds of a count, behind its first number. -/
def readBoundsAfter (verbose : Bool) (first : Reading (Except Fault Nat)) :
    Except Fault (Reading (Nat × Option Nat)) :=
  match first.2 with
  | [] => .error .countUnclosed
  | c :: rest =>
    if c = ',' then readMost verbose first.1 rest
    else first.1 >>= fun count => .ok ((count, some count), c :: rest)

theorem readBounds_shown {text : List Char} {c : Char} {rest : List Char}
    (shown : skip verbose text = c :: rest) :
    readBounds verbose text = readBoundsAfter verbose (readNumber verbose (c :: rest)) := by
  unfold readBounds readBoundsAfter
  rw [shown]
  dsimp only
  generalize readNumber verbose (c :: rest) = first
  obtain ⟨least, left⟩ := first
  cases left with
  | nil => rfl
  | cons d after =>
    dsimp only
    split_ifs with comma
    · subst comma
      unfold readMost
      simp only []
      cases skip verbose after with
      | nil => rfl
      | cons e inner =>
        dsimp only
        split_ifs with brace
        · subst brace
          rfl
        · split
          · contradiction
          · next same => exact absurd (List.cons.inj same).1 brace
          · rfl
    · split
      · next same => cases same
      · next same => exact absurd (List.cons.inj (Prod.mk.inj same).2).1 comma
      · next same =>
        cases same
        rfl

theorem readMost_goesOn (least : Except Fault Nat) (text : List Char) :
    GoesOn more text (readMost verbose least text)
        (readMost verbose least (text ++ ')' :: more)) ∨
      ∃ bounds, readMost verbose least text = .ok (bounds, []) := by
  unfold readMost
  have skipped := length_skip_le verbose text
  cases shown : skip verbose text with
  | nil => exact .inl (goesOn_of_edge rfl _)
  | cons c rest =>
    rw [skip_append shown]
    rw [shown] at skipped
    dsimp only
    split_ifs with brace
    · subst brace
      exact .inl (goesOn_map skipped least _)
    · cases least with
      | error fault => exact .inl (goesOn_error fault)
      | ok least =>
        obtain ⟨le, same | ⟨spent, wrong⟩⟩ := readNumber_onward verbose more (c :: rest)
        · left
          rw [List.cons_append] at same
          rw [same]
          exact goesOn_map (Nat.le_trans le skipped) (readNumber verbose (c :: rest)).1 _
        · cases number : (readNumber verbose (c :: rest)).1 with
          | error fault =>
            left
            rw [List.cons_append] at wrong
            rw [wrong fault number]
            exact goesOn_error fault
          | ok most =>
            right
            rw [spent]
            exact ⟨(least, some most), rfl⟩

theorem readBounds_goesOn (text : List Char) :
    GoesOn more text (readBounds verbose text) (readBounds verbose (text ++ ')' :: more)) ∨
      ∃ bounds, readBounds verbose text = .ok (bounds, []) := by
  have skipped := length_skip_le verbose text
  cases shown : skip verbose text with
  | nil =>
    left
    unfold readBounds
    rw [shown]
    exact goesOn_of_edge rfl _
  | cons c rest =>
    rw [readBounds_shown verbose shown, readBounds_shown verbose (skip_append shown _)]
    rw [shown] at skipped
    obtain ⟨le, onward⟩ := readNumber_onward verbose more (c :: rest)
    rw [List.cons_append] at onward
    unfold readBoundsAfter
    cases left : (readNumber verbose (c :: rest)).2 with
    | nil => exact .inl (goesOn_of_edge rfl _)
    | cons d after =>
      rw [left] at le onward
      obtain same | ⟨spent, -⟩ := onward
      · rw [same]
        have le' := Nat.le_trans le skipped
        dsimp only [List.cons_append]
        split_ifs
        · exact (readMost_goesOn verbose more (readNumber verbose (c :: rest)).1 after).imp
            (fun goesOn => goesOn.mono (Nat.le_of_succ_le le')) id
        · exact .inl (goesOn_map le' (readNumber verbose (c :: rest)).1 _)
      · cases spent

/-- Reads the question mark that may follow the closing brace of a count. -/
def readGreedy (verbose : Bool) (text : List Char) : Reading Bool :=
  match skip verbose text with
  | '?' :: rest => (false, rest)
  | rest => (true, rest)

theorem readGreedy_shown {text : List Char} {c : Char} {rest : List Char}
    (shown : skip verbose text = c :: rest) :
    readGreedy verbose text = if c = '?' then (false, rest) else (true, c :: rest) := by
  unfold readGreedy
  rw [shown]
  split_ifs with mark
  · subst mark
    rfl
  · split
    · next same => exact absurd (List.cons.inj same).1 mark
    · rfl

theorem readGreedy_blank {text : List Char} (blank : skip verbose text = []) :
    readGreedy verbose text = (true, []) := by
  unfold readGreedy
  rw [blank]

theorem readGreedy_onward (text : List Char) :
    (readGreedy verbose text).2.length ≤ text.length ∧
      ((∀ more, readGreedy verbose (text ++ ')' :: more) =
          ((readGreedy verbose text).1, (readGreedy verbose text).2 ++ ')' :: more)) ∨
        readGreedy verbose text = (true, []) ∧
          readGreedy verbose (text ++ [')']) = (true, [])) := by
  have skipped := length_skip_le verbose text
  cases shown : skip verbose text with
  | nil =>
    rw [readGreedy_blank verbose shown]
    refine ⟨Nat.zero_le _, ?_⟩
    obtain shows | ends := skip_onward shown
    · left
      intro more
      rw [readGreedy_shown verbose (shows more)]
      rfl
    · exact .inr ⟨rfl, readGreedy_blank verbose ends⟩
  | cons c rest =>
    rw [shown] at skipped
    rw [readGreedy_shown verbose shown]
    have onward (more : List Char) := readGreedy_shown verbose (skip_append shown (')' :: more))
    simp only [onward]
    split_ifs
    · exact ⟨Nat.le_of_succ_le skipped, .inl fun _ => rfl⟩
    · exact ⟨skipped, .inl fun _ => rfl⟩

/-- Reads the end of a count, from its closing brace. -/
def readCountEnd (verbose : Bool) (bounds : Reading (Nat × Option Nat)) :
    Except Fault (Reading Count) :=
  match bounds.2 with
  | [] => .error .countUnclosed
  | c :: rest =>
    if c = '\x7d' then
      if bounds.1.2.all (bounds.1.1 ≤ ·) then
        .ok (⟨bounds.1.1, bounds.1.2, (readGreedy verbose rest).1⟩, (readGreedy verbose rest).2)
      else .error .countRangeInvalid
    else .error .countUnclosed

theorem readCount_eq (text : List Char) :
    readCount verbose text = readBounds verbose text >>= readCountEnd verbose := by
  unfold readCount
  congr 1
  funext ⟨⟨least, most⟩, rest⟩
  unfold readCountEnd
  cases rest with
  | nil => rfl
  | cons c rest =>
    by_cases brace : c = '\x7d'
    · subst brace
      rfl
    · simp only [if_neg brace]
      split
      · next same => exact absurd (List.cons.inj (Prod.mk.inj same).2).1 brace
      · rfl

theorem readCountEnd_goesOn (bounds : Nat × Option Nat) {text : List Char} (left : text ≠ []) :
    (∀ more, GoesOn more text (readCountEnd verbose (bounds, text))
        (readCountEnd verbose (bounds, text ++ ')' :: more))) ∨
      ∃ count, readCountEnd verbose (bounds, text) = .ok (count, []) ∧
        readCountEnd verbose (bounds, text ++ [')']) = .ok (count, []) := by
  obtain ⟨c, rest, rfl⟩ := List.exists_cons_of_ne_nil left
  simp only [readCountEnd, List.cons_append]
  split_ifs
  · obtain ⟨le, shows | ⟨alone, ends⟩⟩ := readGreedy_onward verbose rest
    · left
      intro more
      rw [shows]
      exact goesOn_ok (Nat.le_succ_of_le le) _
    · right
      rw [alone, ends]
      exact ⟨_, rfl, rfl⟩
  · exact .inl fun _ => goesOn_error _
  · exact .inl fun _ => goesOn_error _

theorem readCount_goesOn (text : List Char) : GoesOnOrEnds text (readCount verbose) := by
  unfold GoesOnOrEnds
  simp only [readCount_eq]
  by_cases spent : ∃ bounds, readBounds verbose text = .ok (bounds, [])
  · obtain ⟨bounds, alone⟩ := spent
    left
    intro more
    rw [alone]
    have edge : Fault.countUnclosed.isAtEdge = true := rfl
    exact goesOn_of_edge edge _
  · have bound (more : List Char) := (readBounds_goesOn verbose more text).resolve_right spent
    cases alone : readBounds verbose text with
    | error fault =>
      left
      intro more inside
      have onward := bound more
      rw [alone] at onward
      rw [onward inside]
      rfl
    | ok read =>
      obtain ⟨bounds, rest⟩ := read
      have left : rest ≠ [] := fun ended => spent ⟨bounds, ended ▸ alone⟩
      have onward (more : List Char) : rest.length ≤ text.length ∧
          readBounds verbose (text ++ ')' :: more) = .ok (bounds, rest ++ ')' :: more) := by
        have goesOn := bound more
        rw [alone] at goesOn
        exact goesOn
      refine (readCountEnd_goesOn verbose bounds left).imp (fun goesOn more => ?_) fun ends => ?_
      · rw [(onward more).2]
        exact (goesOn more).mono (onward more).1
      · rw [(onward []).2]
        exact ends

end Reader
end Pattern
end LogView
