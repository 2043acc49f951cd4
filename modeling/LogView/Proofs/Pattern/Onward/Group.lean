import LogView.Pattern.Reader.Group
import LogView.Proofs.Pattern.Onward.Basic

/-!
# Openings in front of a parenthesis

Flags and names are read up to a sign that ends them, and a parenthesis ends flags only.  An
opening parenthesis at the end of a text opens a plain group, unless a comment takes in what
follows it.
-/

namespace LogView
namespace Pattern
namespace Reader

variable (verbose : Bool) (more : List Char)

theorem readFlags_goesOn (sofar : FlagsSoFar) (text : List Char) :
    GoesOn more text (readFlags sofar text) (readFlags sofar (text ++ ')' :: more)) := by
  induction text generalizing sofar with
  | nil => exact goesOn_of_edge rfl _
  | cons c rest ih =>
    have le : rest.length ≤ (c :: rest).length := Nat.le_succ _
    simp only [List.cons_append, readFlags]
    split_ifs
    · exact goesOn_error _
    · exact goesOn_ok le _
    · exact goesOn_error _
    · exact (ih _).mono le
    · cases flagOfLetter? c with
      | none => exact goesOn_error _
      | some flag =>
        dsimp only
        split_ifs
        · exact goesOn_error _
        · exact (ih _).mono le

theorem readName_goesOn (rev text : List Char) :
    GoesOn more text (readName rev text) (readName rev (text ++ ')' :: more)) := by
  induction text generalizing rev with
  | nil => exact goesOn_of_edge rfl _
  | cons c rest ih =>
    have le : rest.length ≤ (c :: rest).length := Nat.le_succ _
    simp only [List.cons_append, readName]
    split_ifs
    · exact goesOn_error _
    · exact goesOn_ok le _
    · exact (ih _).mono le
    · exact goesOn_error _

theorem readFlagGroup_goesOn (text : List Char) :
    GoesOn more text (readFlagGroup text) (readFlagGroup (text ++ ')' :: more)) := by
  cases text with
  | nil => exact goesOn_of_edge rfl _
  | cons c rest =>
    refine (readFlags_goesOn more ⟨[], false, false⟩ (c :: rest)).bind ?_
    intro read rest
    dsimp only
    split_ifs
    · exact goesOn_ok (Nat.le_refl _) _
    · exact goesOn_error _
    · exact goesOn_ok (Nat.le_refl _) _

/-- Whether a look around begins behind a question mark. -/
def looksAround : List Char → Bool
  | '=' :: _ | '!' :: _ | '<' :: '=' :: _ | '<' :: '!' :: _ => true
  | _ => false

/-- The text behind the sign that opens a name. -/
def afterNameSign? : List Char → Option (List Char)
  | 'P' :: '<' :: rest | '<' :: rest => some rest
  | _ => none

/-- Reads what a question mark behind an opening parenthesis begins. -/
def readMarked (text : List Char) : Except Fault (Reading Opening) :=
  if looksAround text then .error .lookAround
  else
    match afterNameSign? text with
    | some rest => readName [] rest >>= fun read => .ok (.named read.1, read.2)
    | none => readFlagGroup text

theorem readOpening_shown {text : List Char} {c : Char} {rest : List Char}
    (shown : skip verbose text = c :: rest) :
    readOpening verbose text =
      if c = '?' then readMarked rest else .ok (.group none, c :: rest) := by
  unfold readOpening
  rw [shown]
  split_ifs with mark
  · subst mark
    unfold readMarked looksAround afterNameSign?
    split <;> simp_all
  · split <;> simp_all

theorem looksAround_append (text : List Char) :
    looksAround (text ++ ')' :: more) = looksAround text := by
  match text with
  | [] => rfl
  | [c] =>
    unfold looksAround
    split <;> simp_all
  | c :: d :: rest =>
    unfold looksAround
    split <;> simp_all

theorem afterNameSign?_append (text : List Char) :
    afterNameSign? (text ++ ')' :: more) = (afterNameSign? text).map (· ++ ')' :: more) := by
  match text with
  | [] => rfl
  | [c] =>
    unfold afterNameSign?
    split <;> simp_all
  | c :: d :: rest =>
    unfold afterNameSign?
    split <;> simp_all

theorem length_le_of_afterNameSign? {text rest : List Char}
    (named : afterNameSign? text = some rest) : rest.length ≤ text.length := by
  unfold afterNameSign? at named
  split at named
  · cases named
    exact Nat.le_add_right _ 2
  · cases named
    exact Nat.le_succ _
  · cases named

theorem readMarked_goesOn (text : List Char) :
    GoesOn more text (readMarked text) (readMarked (text ++ ')' :: more)) := by
  unfold readMarked
  rw [looksAround_append, afterNameSign?_append]
  split_ifs
  · exact goesOn_error _
  · cases named : afterNameSign? text with
    | none => exact readFlagGroup_goesOn more text
    | some rest =>
      exact ((readName_goesOn more [] rest).bind fun name rest =>
        goesOn_ok (Nat.le_refl _) (Opening.named name)).mono (length_le_of_afterNameSign? named)

/-- What an opening parenthesis begins goes on, unless a comment ends the text behind it. -/
theorem readOpening_goesOn (text : List Char) :
    (∀ more, GoesOn more text (readOpening verbose text)
      (readOpening verbose (text ++ ')' :: more))) ∨
      readOpening verbose text = .ok (.group none, []) ∧
        readOpening verbose (text ++ [')']) = .ok (.group none, []) := by
  have plain {text : List Char} (blank : skip verbose text = []) :
      readOpening verbose text = .ok (.group none, []) := by
    unfold readOpening
    rw [blank]
  have skipped := length_skip_le verbose text
  cases shown : skip verbose text with
  | nil =>
    obtain shows | ends := skip_onward shown
    · left
      intro more
      rw [plain shown, readOpening_shown verbose (shows more)]
      exact goesOn_ok (Nat.zero_le _) _
    · exact .inr ⟨plain shown, plain ends⟩
  | cons c rest =>
    left
    intro more
    rw [readOpening_shown verbose shown, readOpening_shown verbose (skip_append shown _)]
    rw [shown] at skipped
    split_ifs
    · exact (readMarked_goesOn more rest).mono (Nat.le_of_succ_le skipped)
    · exact goesOn_ok skipped _

end Reader
end Pattern
end LogView
