import LogView.Pattern.Reader.Text
import LogView.Proofs.Pattern.Onward.Class
import LogView.Proofs.Pattern.Onward.Count
import LogView.Proofs.Pattern.Onward.Group

/-!
# Parts in front of a parenthesis

One part of a pattern is read in front of a parenthesis as it is alone.  Inside open groups it is
read in the same way too, but that its name may be taken, and that a closing parenthesis may close
one of them.
-/

namespace LogView
namespace Pattern
namespace Reader

theorem readLazy_append (text more : List Char) :
    readLazy (text ++ ')' :: more) = ((readLazy text).1, (readLazy text).2 ++ ')' :: more) := by
  match text with
  | [] => rfl
  | c :: rest =>
    by_cases mark : c = '?'
    · subst mark
      rfl
    · unfold readLazy
      split <;> simp_all

theorem length_readLazy_le (text : List Char) : (readLazy text).2.length ≤ text.length := by
  unfold readLazy
  split
  · exact Nat.le_succ _
  · exact Nat.le_refl _

theorem readPart_goesOn (sofar : SoFar) (c : Char) (rest : List Char) :
    GoesOnOrEnds rest (readPart sofar c) := by
  unfold GoesOnOrEnds readPart
  split_ifs
  · obtain goesOn | ⟨alone, ends⟩ := readOpening_goesOn sofar.verbose rest
    · exact .inl fun more => (goesOn more).bind fun opening rest =>
        goesOn_map (Nat.le_refl _) (sofar.openWith opening) id
    · right
      rw [alone, ends]
      exact ⟨_, rfl, rfl⟩
  · exact .inl fun more => goesOn_map (Nat.le_refl _) sofar.closeGroup id
  · exact .inl fun more => goesOn_ok (Nat.le_refl _) _
  · exact .inl fun more => (readClass_goesOn sofar.verbose more rest).bind fun item rest =>
      goesOn_ok (Nat.le_refl _) (sofar.add item)
  · cases sofar.takeRepeated with
    | error fault => exact .inl fun more => goesOn_error fault
    | ok taken =>
      obtain ⟨item, before⟩ := taken
      obtain goesOn | ⟨count, alone, ends⟩ := readCount_goesOn sofar.verbose rest
      · exact .inl fun more => (goesOn more).bind fun count rest =>
          goesOn_ok (Nat.le_refl _) (before.addRepetition item count)
      · right
        dsimp only [bind, Except.bind]
        rw [alone, ends]
        exact ⟨_, rfl, rfl⟩
  · exact .inl fun more => (readEscape_goesOn sofar.verbose more rest).bind fun atom rest =>
      goesOn_ok (Nat.le_refl _) (sofar.add atom.toExpr)
  · cases boundsOfSign? c with
    | none => exact .inl fun more => goesOn_ok (Nat.le_refl _) _
    | some bounds =>
      obtain ⟨least, most⟩ := bounds
      left
      intro more
      cases sofar.takeRepeated with
      | error fault => exact goesOn_error fault
      | ok taken =>
        dsimp only [bind, Except.bind]
        rw [readLazy_append]
        exact goesOn_ok (length_readLazy_le rest) _

/-- What was read so far, inside groups that are open and beside names that are taken. -/
def SoFar.within (sofar : SoFar) (outer : List OpenGroup) (taken : List (List Char)) : SoFar :=
  { sofar with groups := sofar.groups ++ outer, names := sofar.names ++ taken }

section Within

variable (outer : List OpenGroup) (taken : List (List Char))

/--
Whether a reading inside open groups, `inside`, is the same as the one outside of them, `alone`,
except for a name that is taken and a parenthesis that closes nothing alone.
-/
def StaysWithin (alone inside : Except Fault (Reading SoFar)) : Prop :=
  match alone with
  | .ok (sofar, rest) =>
    inside = .ok (sofar.within outer taken, rest) ∨ inside = .error .groupNameDuplicate
  | .error fault => fault ≠ .groupUnopened → inside = .error fault

theorem staysWithin_error (fault : Fault) :
    StaysWithin outer taken (.error fault) (.error fault) :=
  fun _ => rfl

theorem staysWithin_bind {α : Type} {read : Except Fault (Reading α)}
    {alone inside : Reading α → Except Fault (Reading SoFar)}
    (stays : ∀ value rest, StaysWithin outer taken (alone (value, rest)) (inside (value, rest))) :
    StaysWithin outer taken (read >>= alone) (read >>= inside) := by
  cases read with
  | error fault => exact staysWithin_error outer taken fault
  | ok reading => exact stays reading.1 reading.2

theorem openWith_within (sofar : SoFar) (opening : Opening) (rest : List Char) :
    StaysWithin outer taken (sofar.openWith opening >>= fun opened => .ok (opened, rest))
      ((sofar.within outer taken).openWith opening >>= fun opened => .ok (opened, rest)) := by
  cases opening with
  | group settings => exact .inl rfl
  | flags settings => exact .inl rfl
  | named name =>
    simp only [SoFar.openWith, SoFar.within, List.contains_append]
    cases sofar.names.contains name with
    | true => exact staysWithin_error outer taken _
    | false =>
      rw [Bool.false_or]
      cases taken.contains name with
      | true => exact .inr rfl
      | false => exact .inl rfl

theorem closeGroup_within (sofar : SoFar) (rest : List Char) :
    StaysWithin outer taken (sofar.closeGroup >>= fun closed => .ok (closed, rest))
      ((sofar.within outer taken).closeGroup >>= fun closed => .ok (closed, rest)) := by
  obtain ⟨verbose, branch, groups, names⟩ := sofar
  cases groups with
  | nil => exact fun opened => absurd rfl opened
  | cons group groups => exact .inl rfl

/-- Taking off the last item does not look at the open groups. -/
theorem takeRepeated_within (sofar : SoFar) :
    (∃ fault, sofar.takeRepeated = .error fault ∧
        (sofar.within outer taken).takeRepeated = .error fault) ∨
      ∃ item before, sofar.takeRepeated = .ok (item, before) ∧
        (sofar.within outer taken).takeRepeated = .ok (item, before.within outer taken) := by
  unfold SoFar.takeRepeated SoFar.within
  dsimp only
  split
  · exact .inl ⟨_, rfl, rfl⟩
  · exact .inl ⟨_, rfl, rfl⟩
  · exact .inr ⟨_, _, rfl, rfl⟩

theorem readPart_within (sofar : SoFar) (c : Char) (rest : List Char) :
    StaysWithin outer taken (readPart sofar c rest)
      (readPart (sofar.within outer taken) c rest) := by
  unfold readPart
  split_ifs
  · exact staysWithin_bind outer taken (openWith_within outer taken sofar)
  · exact closeGroup_within outer taken sofar rest
  · exact .inl rfl
  · exact staysWithin_bind outer taken fun item rest => .inl rfl
  · obtain ⟨fault, alone, inside⟩ | ⟨item, before, alone, inside⟩ :=
      takeRepeated_within outer taken sofar
    · rw [alone, inside]
      exact staysWithin_error outer taken fault
    · rw [alone, inside]
      exact staysWithin_bind outer taken fun count rest => .inl rfl
  · exact staysWithin_bind outer taken fun atom rest => .inl rfl
  · cases boundsOfSign? c with
    | none => exact .inl rfl
    | some bounds =>
      obtain ⟨fault, alone, inside⟩ | ⟨item, before, alone, inside⟩ :=
        takeRepeated_within outer taken sofar
      · rw [alone, inside]
        exact staysWithin_error outer taken fault
      · rw [alone, inside]
        exact .inl rfl

end Within

end Reader
end Pattern
end LogView
