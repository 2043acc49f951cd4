import LogView.Pattern.Reader.Class
import LogView.Proofs.Pattern.Onward.Escape

/-!
# Classes in front of a parenthesis

A class that is closed takes up its own characters only.  Names of ASCII classes are looked up
ahead of the closing bracket, but no name has a parenthesis in it.
-/

namespace LogView
namespace Pattern
namespace Reader

variable (verbose : Bool) (more : List Char)

theorem asciiClassOfName?_of_mem {name : List Char} (mem : ')' ∈ name) :
    asciiClassOfName? name = none := by
  have eq : name = (String.ofList name).toList := String.toList_ofList.symm
  rw [eq] at mem
  unfold asciiClassOfName?
  split <;>
    first
    | next same => rw [same] at mem; exact absurd mem (by decide)
    | rfl

/-- The named class behind a colon and perhaps a caret. -/
def namedClass? (negated : Bool) (text : List Char) : Option (SetExpr × List Char) :=
  match text.dropWhile (· ≠ ':') with
  | ':' :: ']' :: after =>
    (asciiClassOfName? (text.takeWhile (· ≠ ':'))).map fun name => (.ascii name negated, after)
  | _ => none

theorem readAsciiClass?_colon {c : Char} (caret : c ≠ '^') (text : List Char) :
    readAsciiClass? (':' :: c :: text) = namedClass? false (c :: text) := by
  have uncaret (rest : List Char) : c :: text = '^' :: rest → False :=
    fun same => caret (List.cons.inj same).1
  simp only [readAsciiClass?]
  rfl

theorem readAsciiClass?_other {c : Char} (colon : c ≠ ':') (text : List Char) :
    readAsciiClass? (c :: text) = none := by
  unfold readAsciiClass?
  split
  · next same => exact absurd (List.cons.inj same).1 colon
  · rfl

theorem namedClass?_append (negated : Bool) (text : List Char) :
    namedClass? negated (text ++ ')' :: more) =
      (namedClass? negated text).map fun read => (read.1, read.2 ++ ')' :: more) := by
  unfold namedClass?
  rw [List.dropWhile_append, List.takeWhile_append]
  have joined : text.takeWhile (· ≠ ':') ++ text.dropWhile (· ≠ ':') = text :=
    List.takeWhile_append_dropWhile
  cases shown : text.dropWhile (· ≠ ':') with
  | nil =>
    -- The name goes on behind the text, and then a parenthesis is in it.
    rw [shown, List.append_nil] at joined
    rw [joined, if_pos rfl, asciiClassOfName?_of_mem]
    · split <;> rfl
    · simp
  | cons d tail =>
    have ends : (text.takeWhile (· ≠ ':')).length ≠ text.length := by
      intro same
      rw [shown] at joined
      have length := congrArg List.length joined
      rw [List.length_append, List.length_cons] at length
      omega
    rw [if_neg ends, if_neg (by simp)]
    match tail with
    | [] =>
      dsimp only [List.cons_append, List.nil_append]
      split <;> simp_all
    | e :: after =>
      by_cases closed : d = ':' ∧ e = ']'
      · obtain ⟨rfl, rfl⟩ := closed
        simp only [List.cons_append, Option.map_map]
        rfl
      · dsimp only [List.cons_append]
        split <;> simp_all

theorem length_le_of_namedClass? {negated : Bool} {text : List Char}
    {read : SetExpr × List Char} (named : namedClass? negated text = some read) :
    read.2.length ≤ text.length := by
  unfold namedClass? at named
  split at named
  · next after shown =>
    obtain ⟨name, -, rfl⟩ := Option.map_eq_some_iff.mp named
    have le := (List.dropWhile_sublist (l := text) (· ≠ ':')).length_le
    rw [shown] at le
    exact Nat.le_trans (Nat.le_add_right _ 2) le
  · cases named

theorem readAsciiClass?_cases (text : List Char) :
    (readAsciiClass? text = none ∧ readAsciiClass? (text ++ ')' :: more) = none) ∨
      ∃ negated inner, inner.length ≤ text.length ∧
        readAsciiClass? text = namedClass? negated inner ∧
        readAsciiClass? (text ++ ')' :: more) = namedClass? negated (inner ++ ')' :: more) := by
  match text with
  | [] => exact .inl ⟨rfl, rfl⟩
  | c :: rest =>
    by_cases colon : c = ':'
    · subst colon
      match rest with
      | [] => exact .inr ⟨false, [], Nat.zero_le _, rfl, rfl⟩
      | d :: inner =>
        by_cases caret : d = '^'
        · subst caret
          exact .inr ⟨true, inner, Nat.le_add_right _ 2, rfl, rfl⟩
        · exact .inr ⟨false, d :: inner, Nat.le_succ _, readAsciiClass?_colon caret _,
            readAsciiClass?_colon caret _⟩
    · exact .inl ⟨readAsciiClass?_other colon _, readAsciiClass?_other colon _⟩

theorem readAsciiClass?_append (text : List Char) :
    readAsciiClass? (text ++ ')' :: more) =
      (readAsciiClass? text).map fun read => (read.1, read.2 ++ ')' :: more) := by
  obtain ⟨alone, onward⟩ | ⟨negated, inner, -, alone, onward⟩ := readAsciiClass?_cases more text
  · rw [alone, onward]
    rfl
  · rw [alone, onward, namedClass?_append]

theorem length_le_of_readAsciiClass? {text : List Char} {read : SetExpr × List Char}
    (named : readAsciiClass? text = some read) : read.2.length ≤ text.length := by
  obtain ⟨alone, -⟩ | ⟨negated, inner, le, alone, -⟩ := readAsciiClass?_cases [] text
  · rw [alone] at named
    cases named
  · rw [alone] at named
    exact Nat.le_trans (length_le_of_namedClass? named) le

theorem readClassAtom_goesOn (text : List Char) :
    GoesOn more text (readClassAtom verbose text)
      (readClassAtom verbose (text ++ ')' :: more)) := by
  match text with
  | [] => exact goesOn_of_edge rfl _
  | c :: rest =>
    have le : rest.length ≤ (c :: rest).length := Nat.le_succ _
    by_cases backslash : c = '\\'
    · subst backslash
      exact (readEscape_goesOn verbose more rest).mono le
    · simp only [readClassAtom, List.cons_append]
      exact goesOn_ok le _

theorem firstShown?_append {inComment : Bool} {text : List Char} {c : Char}
    (shown : firstShown? inComment text = some c) (more : List Char) :
    firstShown? inComment (text ++ more) = some c := by
  induction text generalizing inComment with
  | nil => cases shown
  | cons d text ih =>
    simp only [List.cons_append, firstShown?] at shown ⊢
    split_ifs at shown ⊢
    · exact ih shown
    · exact ih shown
    · exact shown

/-- A text that shows nothing is skipped, and so is the rest of its comment. -/
theorem skipLayout_of_firstShown? {inComment : Bool} {text : List Char}
    (blank : firstShown? inComment text = none) {inside : Bool}
    (comment : inside = true → inComment = true) : skipLayout inside text = [] := by
  induction text generalizing inComment inside with
  | nil => rfl
  | cons c text ih =>
    simp only [firstShown?, skipLayout] at blank ⊢
    split_ifs at blank with isBlank opens
    · split_ifs with isInside
      · exact ih blank fun _ => comment isInside
      · exact ih blank fun no => absurd no (by decide)
    · simp only [Bool.and_eq_true, Bool.not_eq_true', decide_eq_true_eq] at opens
      obtain ⟨outside, rfl⟩ := opens
      rw [if_neg fun isInside => absurd (comment isInside) (by simp [outside])]
      exact ih blank fun _ => rfl

theorem peek_append {text : List Char} (shown : skip verbose text ≠ []) :
    peek verbose (text ++ more) = peek verbose text := by
  match text, verbose with
  | [], false => exact absurd rfl shown
  | [], true => exact absurd rfl shown
  | c :: rest, false => rfl
  | c :: rest, true =>
    cases first : firstShown? false (c :: rest) with
    | none => exact absurd (skipLayout_of_firstShown? first fun no => no) shown
    | some d => simp only [peek, first, firstShown?_append first, if_true, Option.some_or]

/-- A bracket or hyphen that is seen ahead is seen there whatever follows. -/
theorem peek_append_of_sign {text : List Char} {c : Char} (sign : c = ']' ∨ c = '-')
    (seen : peek verbose text = some c) : peek verbose (text ++ more) = some c := by
  match text, verbose with
  | [], false => cases seen
  | [], true => cases seen
  | d :: rest, false => exact seen
  | d :: rest, true =>
    cases first : firstShown? false (d :: rest) with
    | none =>
      simp only [peek, first, if_true, Option.none_or, List.head?_cons] at seen
      cases seen
      obtain rfl | rfl := sign <;> cases first
    | some d =>
      simp only [peek, first, firstShown?_append first, if_true, Option.some_or] at seen ⊢
      exact seen

/-- Reads what follows a hyphen behind an atom of a class. -/
def readRange (verbose : Bool) (atom : Atom) (after : List Char) :
    Except Fault (Reading SetExpr) :=
  if peek verbose after = some ']' || peek verbose after = some '-' then do
    .ok (← atom.toMember, '-' :: after)
  else
    match skip verbose after with
    | [] => .error .classUnclosed
    | after => do
      let (other, rest) ← readClassAtom verbose after
      let first ← atom.toBound
      let last ← other.toBound
      if first.char ≤ last.char then .ok (.range first last, rest)
      else .error .classRangeInvalid

/-- Reads what follows an atom of a class. -/
def readAfterAtom (verbose : Bool) (atom : Atom) (rest : List Char) :
    Except Fault (Reading SetExpr) :=
  match skip verbose rest with
  | [] => .error .classUnclosed
  | c :: after =>
    if c = '-' then readRange verbose atom after else do .ok (← atom.toMember, c :: after)

theorem readMember_eq (text : List Char) :
    readMember verbose text =
      readClassAtom verbose text >>= fun read => readAfterAtom verbose read.1 read.2 := by
  unfold readMember
  congr 1
  funext ⟨atom, rest⟩
  dsimp only
  unfold readAfterAtom
  cases skip verbose rest with
  | nil => rfl
  | cons c after =>
    dsimp only
    split_ifs with hyphen
    · subst hyphen
      rfl
    · split
      · contradiction
      · next same => exact absurd (List.cons.inj same).1 hyphen
      · rfl

theorem readRange_goesOn (atom : Atom) (after : List Char) :
    GoesOn more ('-' :: after) (readRange verbose atom after)
      (readRange verbose atom (after ++ ')' :: more)) := by
  unfold readRange
  by_cases closes : (peek verbose after = some ']' || peek verbose after = some '-') = true
  · have closes' : (peek verbose (after ++ ')' :: more) = some ']' ||
        peek verbose (after ++ ')' :: more) = some '-') = true := by
      simp only [Bool.or_eq_true, decide_eq_true_eq] at closes ⊢
      exact closes.imp (peek_append_of_sign verbose _ (.inl rfl))
        (peek_append_of_sign verbose _ (.inr rfl))
    rw [if_pos closes, if_pos closes']
    exact goesOn_map (Nat.le_refl _) atom.toMember id
  · rw [if_neg closes]
    cases shown : skip verbose after with
    | nil => exact goesOn_of_edge rfl _
    | cons c inner =>
      have skipped := length_skip_le verbose after
      rw [shown] at skipped
      rw [peek_append verbose _ (by simp [shown]), if_neg closes, skip_append shown]
      refine ((readClassAtom_goesOn verbose more (c :: inner)).bind ?_).mono
        (Nat.le_succ_of_le skipped)
      intro other rest
      dsimp only
      cases atom.toBound with
      | error fault => exact goesOn_error fault
      | ok first =>
        cases other.toBound with
        | error fault => exact goesOn_error fault
        | ok last =>
          dsimp only [bind, Except.bind]
          split_ifs
          · exact goesOn_ok (Nat.le_refl _) _
          · exact goesOn_error _

theorem readAfterAtom_goesOn (atom : Atom) (rest : List Char) :
    GoesOn more rest (readAfterAtom verbose atom rest)
      (readAfterAtom verbose atom (rest ++ ')' :: more)) := by
  unfold readAfterAtom
  have skipped := length_skip_le verbose rest
  cases shown : skip verbose rest with
  | nil => exact goesOn_of_edge rfl _
  | cons c after =>
    rw [skip_append shown]
    rw [shown] at skipped
    dsimp only
    split_ifs with hyphen
    · subst hyphen
      exact (readRange_goesOn verbose more atom after).mono skipped
    · exact (goesOn_map (Nat.le_refl _) atom.toMember id).mono skipped

theorem readMember_goesOn (text : List Char) :
    GoesOn more text (readMember verbose text) (readMember verbose (text ++ ')' :: more)) := by
  rw [readMember_eq, readMember_eq]
  exact (readClassAtom_goesOn verbose more text).bind (readAfterAtom_goesOn verbose more)

theorem readHyphens_shown {text : List Char} {c : Char} {rest : List Char}
    (shown : skip verbose text = c :: rest) (fuel : Nat) (members : List SetExpr) :
    readHyphens verbose (fuel + 1) members text =
      if c = '-' then readHyphens verbose fuel (.literal ⟨'-', false⟩ :: members) rest
      else .ok (members, c :: rest) := by
  rw [readHyphens, shown]
  split_ifs with hyphen
  · subst hyphen
    rfl
  · split
    · contradiction
    · next same => exact absurd (List.cons.inj same).1 hyphen
    · rfl

theorem readHyphens_goesOn (fuel k : Nat) (members : List SetExpr) (text : List Char) :
    GoesOn more text (readHyphens verbose fuel members text)
      (readHyphens verbose (fuel + k) members (text ++ ')' :: more)) := by
  induction fuel generalizing members text with
  | zero => exact goesOn_of_edge rfl _
  | succ fuel ih =>
    rw [Nat.add_right_comm]
    have skipped := length_skip_le verbose text
    cases shown : skip verbose text with
    | nil =>
      rw [readHyphens, shown]
      exact goesOn_of_edge rfl _
    | cons c rest =>
      rw [readHyphens_shown verbose shown, readHyphens_shown verbose (skip_append shown _)]
      rw [shown] at skipped
      split_ifs
      · exact (ih _ rest).mono (Nat.le_of_succ_le skipped)
      · exact goesOn_ok skipped members

/-- Reads the closing bracket that stands for itself before any other member of a class. -/
def readBracket (verbose negated : Bool) (members : List SetExpr) (text : List Char) :
    Except Fault (Reading (Bool × List SetExpr)) :=
  match members, text with
  | [], ']' :: rest =>
    match skip verbose rest with
    | [] => .error .classUnclosed
    | rest => .ok ((negated, [.literal ⟨']', false⟩]), rest)
  | _, _ => .ok ((negated, members), text)

theorem readBracket_other {negated : Bool} {members : List SetExpr} {text : List Char}
    (other : members = [] → text.head? ≠ some ']') :
    readBracket verbose negated members text = .ok ((negated, members), text) := by
  unfold readBracket
  split
  · exact absurd rfl (other rfl)
  · rfl

theorem readBracket_goesOn (negated : Bool) (members : List SetExpr) (text : List Char) :
    GoesOn more text (readBracket verbose negated members text)
      (readBracket verbose negated members (text ++ ')' :: more)) := by
  by_cases bracket : members = [] ∧ text.head? = some ']'
  · obtain ⟨rfl, head⟩ := bracket
    obtain ⟨rest, rfl⟩ := List.head?_eq_some_iff.mp head
    have skipped := length_skip_le verbose rest
    cases shown : skip verbose rest with
    | nil =>
      have unclosed : readBracket verbose negated [] (']' :: rest) = .error .classUnclosed := by
        simp only [readBracket, shown]
      rw [unclosed]
      exact goesOn_of_edge rfl _
    | cons c inner =>
      simp only [readBracket, List.cons_append, shown, skip_append shown]
      rw [shown] at skipped
      exact goesOn_ok (Nat.le_succ_of_le skipped) _
  · have other : members = [] → text.head? ≠ some ']' := fun first head => bracket ⟨first, head⟩
    have other' : members = [] → (text ++ ')' :: more).head? ≠ some ']' := by
      intro first
      cases text with
      | nil => simp
      | cons c rest => exact other first
    rw [readBracket_other verbose other, readBracket_other verbose other']
    exact goesOn_ok (Nat.le_refl _) _

/-- Reads the head of a class that is `negated` or not. -/
def readHeadMembers (verbose negated : Bool) (text : List Char) :
    Except Fault (Reading (Bool × List SetExpr)) :=
  readHyphens verbose (text.length + 1) [] text >>= fun read =>
    readBracket verbose negated read.1 read.2

theorem readHeadMembers_goesOn (negated : Bool) (text : List Char) :
    GoesOn more text (readHeadMembers verbose negated text)
      (readHeadMembers verbose negated (text ++ ')' :: more)) := by
  unfold readHeadMembers
  rw [length_onward]
  exact (readHyphens_goesOn verbose more _ _ [] text).bind (readBracket_goesOn verbose more negated)

theorem readClassHead_shown {text : List Char} {c : Char} {rest : List Char}
    (shown : skip verbose text = c :: rest) :
    readClassHead verbose text =
      if c = '^' then readHeadMembers verbose true rest
      else readHeadMembers verbose false (c :: rest) := by
  unfold readClassHead
  rw [shown]
  split_ifs with caret
  · subst caret
    rfl
  · have uncaret (after : List Char) : c :: rest = '^' :: after → False :=
      fun same => caret (List.cons.inj same).1
    simp only []
    rfl

theorem readClassHead_goesOn (text : List Char) :
    GoesOn more text (readClassHead verbose text)
      (readClassHead verbose (text ++ ')' :: more)) := by
  cases shown : skip verbose text with
  | nil =>
    have unclosed : readClassHead verbose text = .error .classUnclosed := by
      unfold readClassHead
      rw [shown]
      cases verbose <;> rfl
    rw [unclosed]
    exact goesOn_of_edge rfl _
  | cons c rest =>
    have skipped := length_skip_le verbose text
    rw [shown] at skipped
    rw [readClassHead_shown verbose shown, readClassHead_shown verbose (skip_append shown _)]
    split_ifs
    · exact (readHeadMembers_goesOn verbose more true rest).mono (Nat.le_of_succ_le skipped)
    · exact (readHeadMembers_goesOn verbose more false (c :: rest)).mono skipped

/-- The operator at the head of a text, and the text after it. -/
def operatorAt? : List Char → Option (SetOperator × List Char)
  | '&' :: '&' :: rest => some (.intersection, rest)
  | '-' :: '-' :: rest => some (.difference, rest)
  | '~' :: '~' :: rest => some (.symmetricDifference, rest)
  | _ => none

/-- Reads the class within a class that begins after its bracket. -/
def readInner (verbose : Bool) (fuel : Nat) (sofar : ClassSoFar) (text : List Char) :
    Except Fault (Reading SetExpr) :=
  match readAsciiClass? text with
  | some (member, rest) => readMembers verbose fuel (sofar.add member) rest
  | none =>
    readClassHead verbose text >>= fun head =>
      readMembers verbose fuel ⟨none, head.1.2⟩ head.2 >>= fun inner =>
        readMembers verbose fuel (sofar.add (.bracketed head.1.1 inner.1)) inner.2

theorem readMembers_shown {text : List Char} {c : Char} {rest : List Char}
    (shown : skip verbose text = c :: rest) (fuel : Nat) (sofar : ClassSoFar) :
    readMembers verbose (fuel + 1) sofar text =
      if c = ']' then .ok (sofar.close, rest)
      else if c = '[' then readInner verbose fuel sofar rest
      else
        match operatorAt? (c :: rest) with
        | some (operator, rest) => readMembers verbose fuel (sofar.combine operator) rest
        | none =>
          readMember verbose (c :: rest) >>= fun read =>
            readMembers verbose fuel (sofar.add read.1) read.2 := by
  rw [readMembers, shown]
  split_ifs with closing opening
  · subst closing
    rfl
  · subst opening
    unfold readInner
    cases named : readAsciiClass? rest <;> simp only [named]
  · unfold operatorAt?
    split <;> simp_all

theorem operatorAt?_pair (c d : Char) :
    (∃ operator, ∀ rest, operatorAt? (c :: d :: rest) = some (operator, rest)) ∨
      ∀ rest, operatorAt? (c :: d :: rest) = none := by
  by_cases same : c = d
  · subst same
    by_cases both : c = '&'
    · subst both
      exact .inl ⟨.intersection, fun _ => rfl⟩
    · by_cases left : c = '-'
      · subst left
        exact .inl ⟨.difference, fun _ => rfl⟩
      · by_cases either : c = '~'
        · subst either
          exact .inl ⟨.symmetricDifference, fun _ => rfl⟩
        · refine .inr fun rest => ?_
          unfold operatorAt?
          split <;> simp_all
  · refine .inr fun rest => ?_
    unfold operatorAt?
    split <;> simp_all

theorem readMember_single (c : Char) : ∃ fault : Fault,
    fault.isAtEdge = true ∧ readMember verbose [c] = .error fault := by
  by_cases backslash : c = '\\'
  · subst backslash
    exact ⟨.escapeUnfinished, rfl, rfl⟩
  · refine ⟨.classUnclosed, rfl, ?_⟩
    rw [readMember_eq]
    simp only [readClassAtom]
    cases verbose <;> rfl

theorem readMembers_goesOn (fuel k : Nat) (sofar : ClassSoFar) (text : List Char) :
    GoesOn more text (readMembers verbose fuel sofar text)
      (readMembers verbose (fuel + k) sofar (text ++ ')' :: more)) := by
  induction fuel generalizing sofar text with
  | zero => exact goesOn_of_edge rfl _
  | succ fuel ih =>
    rw [Nat.add_right_comm]
    have skipped := length_skip_le verbose text
    cases shown : skip verbose text with
    | nil =>
      rw [readMembers, shown]
      exact goesOn_of_edge rfl _
    | cons c rest =>
      rw [readMembers_shown verbose shown, readMembers_shown verbose (skip_append shown _)]
      rw [shown] at skipped
      have le := Nat.le_of_succ_le skipped
      split_ifs
      · exact goesOn_ok le _
      · refine GoesOn.mono ?_ le
        unfold readInner
        rw [readAsciiClass?_append]
        cases named : readAsciiClass? rest with
        | some read =>
          exact (ih _ read.2).mono (length_le_of_readAsciiClass? named)
        | none =>
          refine (readClassHead_goesOn verbose more rest).bind ?_
          intro head rest
          exact (ih _ rest).bind fun inner rest => ih _ rest
      · refine GoesOn.mono ?_ skipped
        -- A last character is neither an operator nor, with the class still open, a member.
        cases rest with
        | nil =>
          obtain ⟨fault, edge, single⟩ := readMember_single verbose c
          have alone : operatorAt? [c] = none := by
            unfold operatorAt?
            split <;> simp_all
          simp only [alone, single]
          exact goesOn_of_edge edge _
        | cons d rest =>
          rw [List.cons_append]
          obtain ⟨operator, found⟩ | absent := operatorAt?_pair c d
          · simp only [found]
            exact (ih _ rest).mono (Nat.le_add_right _ 2)
          · simp only [absent]
            exact (readMember_goesOn verbose more (c :: d :: rest)).bind
              fun member rest => ih _ rest

theorem readClass_goesOn (text : List Char) :
    GoesOn more text (readClass verbose text) (readClass verbose (text ++ ')' :: more)) := by
  unfold readClass
  refine (readClassHead_goesOn verbose more text).bind ?_
  intro head rest
  dsimp only
  rw [length_onward]
  exact (readMembers_goesOn verbose more _ _ _ rest).bind
    fun inner rest => goesOn_ok (Nat.le_refl _) _

end Reader
end Pattern
end LogView
