import LogView.Proofs.Pattern.Onward.Basic

/-!
# Escapes in front of a parenthesis

An escape takes up its own characters only, so what is read of it does not depend on what follows.
-/

namespace LogView
namespace Pattern
namespace Reader

variable (verbose : Bool) (more : List Char)

theorem readHexDigits_goesOn (count value : Nat) (text : List Char) :
    GoesOn more text (readHexDigits verbose count value text)
      (readHexDigits verbose count value (text ++ ')' :: more)) := by
  induction count generalizing value text with
  | zero => exact goesOn_ok (Nat.le_refl _) value
  | succ count ih =>
    unfold readHexDigits
    cases shown : skip verbose text with
    | nil => exact goesOn_of_edge rfl _
    | cons c rest =>
      rw [skip_append shown]
      dsimp only
      cases Unicode.hexValue? c with
      | none => exact goesOn_error _
      | some digit => exact (ih _ rest).mono (length_le_of_skip shown)

theorem readHexBraced_goesOn (fuel k : Nat) (value : Option Nat) (text : List Char) :
    GoesOn more text (readHexBraced verbose fuel value text)
      (readHexBraced verbose (fuel + k) value (text ++ ')' :: more)) := by
  induction fuel generalizing value text with
  | zero => exact goesOn_of_edge rfl _
  | succ fuel ih =>
    rw [Nat.add_right_comm]
    unfold readHexBraced
    cases shown : skip verbose text with
    | nil => exact goesOn_of_edge rfl _
    | cons c rest =>
      rw [skip_append shown]
      have le := length_le_of_skip shown
      by_cases brace : c = '\x7d'
      · subst brace
        cases value with
        | none => exact goesOn_error _
        | some n => exact goesOn_ok le n
      · simp only []
        cases Unicode.hexValue? c with
        | none => exact goesOn_error _
        | some digit => exact (ih _ rest).mono le

theorem readHex_shown {verbose : Bool} {text : List Char} {c : Char} {rest : List Char}
    (shown : skip verbose text = c :: rest) (digits : Nat) :
    readHex verbose digits text =
      (if c = '\x7b' then readHexBraced verbose (rest.length + 1) none rest
        else readHexDigits verbose digits 0 (c :: rest)) >>= fun read =>
      numberedAtom read.1 (c ≠ '\x7b' && digits = 2) >>= fun atom => .ok (atom, read.2) := by
  unfold readHex
  rw [shown]
  split_ifs with brace
  · subst brace
    rfl
  · split
    · contradiction
    · next same => exact absurd (List.cons.inj same).1 brace
    · simp [brace]

theorem readHex_goesOn (digits : Nat) (text : List Char) :
    GoesOn more text (readHex verbose digits text)
      (readHex verbose digits (text ++ ')' :: more)) := by
  cases shown : skip verbose text with
  | nil =>
    unfold readHex
    rw [shown]
    exact goesOn_of_edge rfl _
  | cons c rest =>
    rw [readHex_shown shown, readHex_shown (skip_append shown _), length_onward]
    refine GoesOn.bind ?_ fun n rest => goesOn_map (Nat.le_refl _) _ id
    split_ifs
    · exact (readHexBraced_goesOn verbose more _ _ none rest).mono (length_le_of_skip shown)
    · exact (readHexDigits_goesOn verbose more digits 0 (c :: rest)).mono
        (shown ▸ length_skip_le verbose text)

theorem readBraced_goesOn (fuel k : Nat) (rev text : List Char) :
    GoesOn more text (readBraced verbose fuel rev text)
      (readBraced verbose (fuel + k) rev (text ++ ')' :: more)) := by
  induction fuel generalizing rev text with
  | zero => exact goesOn_of_edge rfl _
  | succ fuel ih =>
    rw [Nat.add_right_comm]
    unfold readBraced
    cases shown : skip verbose text with
    | nil => exact goesOn_of_edge rfl _
    | cons c rest =>
      rw [skip_append shown]
      have le := length_le_of_skip shown
      by_cases brace : c = '\x7d'
      · subst brace
        exact goesOn_ok le rev.reverse
      · simp only []
        exact (ih _ rest).mono le

theorem readProperty_shown {verbose : Bool} {text : List Char} {c : Char} {rest : List Char}
    (shown : skip verbose text = c :: rest) (negated : Bool) :
    readProperty verbose negated text =
      if c = '\x7b' then
        readBraced verbose (rest.length + 1) [] rest >>= fun read =>
          .ok (.property (propertyQuery read.1) negated, read.2)
      else if c = '\\' then .error .unicodeClassInvalid
      else .ok (.property (.named (String.singleton c)) negated, rest) := by
  unfold readProperty
  rw [shown]
  split_ifs with brace backslash
  · subst brace
    rfl
  · subst backslash
    rfl
  · simp only []

theorem readProperty_goesOn (negated : Bool) (text : List Char) :
    GoesOn more text (readProperty verbose negated text)
      (readProperty verbose negated (text ++ ')' :: more)) := by
  cases shown : skip verbose text with
  | nil =>
    unfold readProperty
    rw [shown]
    exact goesOn_of_edge rfl _
  | cons c rest =>
    rw [readProperty_shown shown, readProperty_shown (skip_append shown _), length_onward]
    have le := length_le_of_skip shown
    split_ifs
    · exact ((readBraced_goesOn verbose more _ _ [] rest).mono le).bind
        fun inner rest => goesOn_ok (Nat.le_refl _) _
    · exact goesOn_error _
    · exact goesOn_ok le _

theorem readBoundaryName_append {fuel : Nat} {rev text name rest : List Char}
    (read : readBoundaryName verbose fuel rev text = (name, '\x7d' :: rest)) (k : Nat) :
    rest.length ≤ text.length ∧
      readBoundaryName verbose (fuel + k) rev (text ++ ')' :: more) =
        (name, '\x7d' :: (rest ++ ')' :: more)) := by
  induction fuel generalizing rev text with
  | zero =>
    cases read
    refine ⟨Nat.le_succ _, ?_⟩
    cases k <;> rfl
  | succ fuel ih =>
    rw [Nat.add_right_comm]
    unfold readBoundaryName at read ⊢
    cases text with
    | nil => cases read
    | cons c text =>
      dsimp only [List.cons_append] at read ⊢
      split_ifs at read ⊢ with letter
      · cases shown : skip verbose text with
        | nil =>
          rw [shown] at read
          cases fuel <;> cases read
        | cons d inner =>
          rw [shown] at read
          rw [skip_append shown]
          obtain ⟨le, onward⟩ := ih read
          have inner_le := length_skip_le verbose text
          rw [shown] at inner_le
          exact ⟨Nat.le_succ_of_le (Nat.le_trans le inner_le), onward⟩
      · cases read
        exact ⟨Nat.le_succ _, rfl⟩

theorem readBoundary_brace {rest : List Char} {c : Char} {inner : List Char}
    (shown : skip verbose rest = c :: inner) :
    readBoundary verbose ('\x7b' :: rest) =
      if c.isAlpha || c = '-' then
        match readBoundaryName verbose (inner.length + 1) [] (c :: inner) with
        | (name, '\x7d' :: rest) =>
          match boundaryOfName? name with
          | some mark => .ok (.mark mark, rest)
          | none => .error .boundaryUnrecognized
        | _ => .error .boundaryUnclosed
      else .ok (.mark .wordBoundary, '\x7b' :: rest) := by
  unfold readBoundary
  simp only []
  generalize skip verbose rest = seen at shown ⊢
  subst shown
  rfl

theorem readBoundary_plain {c : Char} (brace : c ≠ '\x7b') (rest : List Char) :
    readBoundary verbose (c :: rest) = .ok (.mark .wordBoundary, c :: rest) := by
  unfold readBoundary
  split
  · next same => exact absurd (List.cons.inj same).1 brace
  · rfl

theorem readBoundary_goesOn (text : List Char) :
    GoesOn more text (readBoundary verbose text) (readBoundary verbose (text ++ ')' :: more)) := by
  cases text with
  | nil => exact goesOn_ok (Nat.le_refl _) _
  | cons c rest =>
    by_cases brace : c = '\x7b'
    · subst brace
      cases shown : skip verbose rest with
      | nil =>
        have unfinished : readBoundary verbose ('\x7b' :: rest) = .error .boundaryUnfinished := by
          rw [readBoundary, shown]
        rw [unfinished]
        exact goesOn_of_edge rfl _
      | cons d inner =>
        rw [List.cons_append, readBoundary_brace verbose shown,
          readBoundary_brace verbose (skip_append shown _), length_onward]
        split_ifs
        · have inner_le := length_skip_le verbose rest
          rw [shown] at inner_le
          cases read : readBoundaryName verbose (inner.length + 1) [] (d :: inner) with
          | mk name left =>
            by_cases closed : ∃ after, left = '\x7d' :: after
            · obtain ⟨after, rfl⟩ := closed
              obtain ⟨le, onward⟩ := readBoundaryName_append verbose more read (more.length + 1)
              rw [List.cons_append] at onward
              rw [onward]
              change GoesOn more _ (match boundaryOfName? name with
                | some mark => _
                | none => _) (match boundaryOfName? name with
                | some mark => _
                | none => _)
              cases boundaryOfName? name with
              | none => exact goesOn_error _
              | some mark =>
                exact goesOn_ok (Nat.le_succ_of_le (Nat.le_trans le inner_le)) _
            · split
              · next same => exact absurd ⟨_, (Prod.mk.inj same).2⟩ closed
              · exact goesOn_of_edge rfl _
        · exact goesOn_ok (Nat.le_refl _) _
    · rw [List.cons_append, readBoundary_plain verbose brace, readBoundary_plain verbose brace]
      exact goesOn_ok (Nat.le_refl _) _

theorem readEscape_goesOn (text : List Char) :
    GoesOn more text (readEscape verbose text) (readEscape verbose (text ++ ')' :: more)) := by
  cases text with
  | nil => exact goesOn_of_edge rfl _
  | cons c rest =>
    have le : rest.length ≤ (c :: rest).length := Nat.le_succ _
    unfold readEscape
    simp only [List.cons_append]
    split_ifs
    · exact goesOn_ok le _
    · exact goesOn_error _
    · exact (readHex_goesOn verbose more 2 rest).mono le
    · exact (readHex_goesOn verbose more 4 rest).mono le
    · exact (readHex_goesOn verbose more 8 rest).mono le
    · exact (readProperty_goesOn verbose more false rest).mono le
    · exact (readProperty_goesOn verbose more true rest).mono le
    · exact (readBoundary_goesOn verbose more rest).mono le
    · cases letterAtom? c with
      | none => exact goesOn_error _
      | some atom => exact goesOn_ok le atom

end Reader
end Pattern
end LogView
