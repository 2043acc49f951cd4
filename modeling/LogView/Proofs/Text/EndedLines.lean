import LogView.Proofs.Document
import LogView.Proofs.Text.Lines

/-!
# Lines with their ends

Every character of a text belongs to a line or to the end of one.  There is one way only to cut a
text into lines and ends if the ends are as long as they can be and nothing stands behind the last
one, and the lines of the text are those of this cut.
-/

namespace LogView
namespace Text

/-- What a line ends in; the last line of a text may end in nothing. -/
inductive LineEnd where
  | feed
  | returnFeed
  | missing
  deriving Repr, DecidableEq

def LineEnd.chars : LineEnd → List Char
  | feed => ['\n']
  | returnFeed => ['\r', '\n']
  | missing => []

/-- A line and its end. -/
structure EndedLine where
  text : List Char
  ending : LineEnd
  deriving Repr, DecidableEq

def EndedLine.chars (line : EndedLine) : List Char := line.text ++ line.ending.chars

/-- A text is cut into lines with their ends. -/
structure CutInto (text : List Char) (lines : List EndedLine) : Prop where
  whole : text = lines.flatMap EndedLine.chars
  unbroken : ∀ line ∈ lines, '\n' ∉ line.text
  /-- A return before a line feed belongs to the end. -/
  returned : ∀ line ∈ lines, line.ending = .feed → line.text.getLast? ≠ some '\r'
  ended : ∀ line ∈ lines.dropLast, line.ending ≠ .missing
  /-- A text that ends in a line end has no further line. -/
  last : ∀ line ∈ lines.getLast?, line.ending = .missing → line.text ≠ []

namespace EndedLine

/-- The line that a line feed ends, from what was read of it, last first. -/
def ofRead : List Char → EndedLine
  | '\r' :: rev => ⟨rev.reverse, .returnFeed⟩
  | rev => ⟨rev.reverse, .feed⟩

theorem text_ofRead (rev : List Char) : (ofRead rev).text = (dropReturn rev).reverse := by
  unfold ofRead dropReturn
  split <;> simp_all

theorem chars_ofRead (rev : List Char) : (ofRead rev).chars = rev.reverse ++ ['\n'] := by
  unfold ofRead
  split <;> simp [chars, LineEnd.chars]

theorem ending_ofRead (rev : List Char) : (ofRead rev).ending ≠ .missing := by
  unfold ofRead
  split <;> simp

theorem returned_ofRead {rev : List Char} (fed : (ofRead rev).ending = .feed) :
    (ofRead rev).text.getLast? ≠ some '\r' := by
  unfold ofRead at fed ⊢
  split at fed
  · cases fed
  · next plain =>
    intro last
    rw [List.getLast?_reverse] at last
    obtain ⟨rest, rfl⟩ := List.head?_eq_some_iff.mp last
    exact plain rest rfl

theorem exists_read {line : EndedLine} (unbroken : '\n' ∉ line.text)
    (returned : line.ending = .feed → line.text.getLast? ≠ some '\r')
    (ended : line.ending ≠ .missing) :
    ∃ read, '\n' ∉ read ∧ line.chars = read ++ ['\n'] ∧ ofRead read.reverse = line := by
  obtain ⟨text, ending⟩ := line
  cases ending with
  | feed =>
    refine ⟨text, unbroken, rfl, ?_⟩
    unfold ofRead
    split
    · next rev reversed =>
      rw [List.reverse_eq_iff] at reversed
      simp [reversed] at returned
    · simp
  | returnFeed =>
    refine ⟨text ++ ['\r'], ?_, ?_, ?_⟩
    · simpa using unbroken
    · simp [chars, LineEnd.chars]
    · simp [ofRead]
  | missing => contradiction

end EndedLine

namespace CutInto

theorem nil : CutInto [] [] := by
  constructor <;> simp

theorem unended {text : List Char} (nonempty : text ≠ []) (unbroken : '\n' ∉ text) :
    CutInto text [⟨text, .missing⟩] := by
  constructor <;> simp [EndedLine.chars, LineEnd.chars, nonempty, unbroken]

theorem cons {line : EndedLine} {text : List Char} {lines : List EndedLine}
    (unbroken : '\n' ∉ line.text)
    (returned : line.ending = .feed → line.text.getLast? ≠ some '\r')
    (ended : line.ending ≠ .missing) (cut : CutInto text lines) :
    CutInto (line.chars ++ text) (line :: lines) where
  whole := by rw [List.flatMap_cons, ← cut.whole]
  unbroken := List.forall_mem_cons.mpr ⟨unbroken, cut.unbroken⟩
  returned := List.forall_mem_cons.mpr ⟨returned, cut.returned⟩
  ended := by
    cases lines with
    | nil => simp
    | cons next lines => exact List.forall_mem_cons.mpr ⟨ended, cut.ended⟩
  last := by
    cases lines with
    | nil => simp [ended]
    | cons next lines => simpa [List.getLast?_cons_cons] using cut.last

theorem tail {line : EndedLine} {text : List Char} {lines : List EndedLine}
    (cut : CutInto text (line :: lines)) : CutInto (lines.flatMap EndedLine.chars) lines where
  whole := rfl
  unbroken := (List.forall_mem_cons.mp cut.unbroken).2
  returned := (List.forall_mem_cons.mp cut.returned).2
  ended := by
    cases lines with
    | nil => simp
    | cons next lines => exact (List.forall_mem_cons.mp cut.ended).2
  last := by
    cases lines with
    | nil => simp
    | cons next lines => simpa [List.getLast?_cons_cons] using cut.last

/-- Only the last line may have no end. -/
theorem eq_nil_of_missing {line : EndedLine} {text : List Char} {lines : List EndedLine}
    (cut : CutInto text (line :: lines)) (missing : line.ending = .missing) : lines = [] := by
  cases lines with
  | nil => rfl
  | cons next lines => exact absurd missing (cut.ended line List.mem_cons_self)

end CutInto

/-- The lines of `rev.reverse ++ text` with their ends. -/
def endedFrom (rev : List Char) : List Char → List EndedLine
  | [] => if rev.isEmpty then [] else [⟨rev.reverse, .missing⟩]
  | c :: rest => if c = '\n' then .ofRead rev :: endedFrom [] rest else endedFrom (c :: rev) rest

theorem map_text_endedFrom (rev text : List Char) :
    (endedFrom rev text).map EndedLine.text = linesFrom rev text := by
  induction text generalizing rev with
  | nil =>
    unfold endedFrom linesFrom
    split <;> rfl
  | cons c text ih =>
    unfold endedFrom linesFrom
    split
    · rw [List.map_cons, EndedLine.text_ofRead, ih]
    · exact ih (c :: rev)

theorem endedFrom_of_unbroken {text : List Char} (unbroken : '\n' ∉ text) (rev : List Char) :
    endedFrom rev text = endedFrom (text.reverse ++ rev) [] := by
  induction text generalizing rev with
  | nil => rfl
  | cons c text ih =>
    rw [List.mem_cons, not_or] at unbroken
    obtain ⟨head, tail⟩ := unbroken
    have step : endedFrom rev (c :: text) = endedFrom (c :: rev) text := if_neg (Ne.symm head)
    rw [step, ih tail]
    simp

theorem endedFrom_feed {text : List Char} (unbroken : '\n' ∉ text) (rev rest : List Char) :
    endedFrom rev (text ++ '\n' :: rest) = .ofRead (text.reverse ++ rev) :: endedFrom [] rest := by
  induction text generalizing rev with
  | nil => simp [endedFrom]
  | cons c text ih =>
    rw [List.mem_cons, not_or] at unbroken
    obtain ⟨head, tail⟩ := unbroken
    rw [List.cons_append, endedFrom, if_neg (Ne.symm head), ih tail]
    simp

theorem cutInto_endedFrom {rev : List Char} (unbroken : '\n' ∉ rev) (text : List Char) :
    CutInto (rev.reverse ++ text) (endedFrom rev text) := by
  induction text generalizing rev with
  | nil =>
    unfold endedFrom
    split
    · next blank =>
      rw [List.isEmpty_iff.mp blank]
      exact .nil
    · next read =>
      rw [List.append_nil]
      refine .unended ?_ (by simpa using unbroken)
      simpa using read
  | cons c text ih =>
    unfold endedFrom
    split
    · next fed =>
      have plain : '\n' ∉ (EndedLine.ofRead rev).text := by
        rw [EndedLine.text_ofRead, List.mem_reverse]
        exact mt mem_of_mem_dropReturn unbroken
      have cut := (ih List.not_mem_nil).cons plain EndedLine.returned_ofRead
        (EndedLine.ending_ofRead rev)
      rw [EndedLine.chars_ofRead] at cut
      simpa [fed] using cut
    · next goesOn =>
      have further : '\n' ∉ c :: rev := by
        rw [List.mem_cons, not_or]
        exact ⟨Ne.symm goesOn, unbroken⟩
      have cut := ih further
      simpa using cut

theorem CutInto.eq_endedFrom {text : List Char} {lines : List EndedLine}
    (cut : CutInto text lines) : lines = endedFrom [] text := by
  induction lines generalizing text with
  | nil =>
    rw [cut.whole]
    rfl
  | cons line lines ih =>
    have unbroken := cut.unbroken line List.mem_cons_self
    have rest := ih cut.tail
    by_cases missing : line.ending = .missing
    · obtain rfl := cut.eq_nil_of_missing missing
      have filled := cut.last line rfl missing
      obtain ⟨chars, ending⟩ := line
      subst missing
      rw [cut.whole, List.flatMap_singleton, EndedLine.chars, LineEnd.chars, List.append_nil,
        endedFrom_of_unbroken unbroken]
      simp [endedFrom, filled]
    · obtain ⟨read, plain, chars, made⟩ :=
        EndedLine.exists_read unbroken (cut.returned line List.mem_cons_self) missing
      rw [cut.whole, List.flatMap_cons, chars, List.append_assoc, List.singleton_append,
        endedFrom_feed plain, List.append_nil, made, ← rest]

example : endedFrom [] "a\r\r\nb\r".toList =
    [⟨['a', '\r'], .returnFeed⟩, ⟨['b', '\r'], .missing⟩] := rfl

/-- Whether a text goes on behind its last line feed. -/
def GoesOn (text : List Char) : Prop := text ≠ [] ∧ text.getLast? ≠ some '\n'

instance (text : List Char) : Decidable (GoesOn text) :=
  inferInstanceAs (Decidable (_ ∧ _))

/-- What stands before a line feed does not matter for what stands behind the last one. -/
theorem goesOn_behind_feed (text rest : List Char) :
    GoesOn (text ++ '\n' :: rest) ↔ GoesOn rest := by
  unfold GoesOn
  cases rest with
  | nil => simp
  | cons c rest =>
    rw [List.getLast?_append_cons, List.getLast?_cons_cons]
    simp

theorem length_linesFrom {rev : List Char} (unbroken : '\n' ∉ rev) (text : List Char) :
    (linesFrom rev text).length =
      text.count '\n' + if GoesOn (rev.reverse ++ text) then 1 else 0 := by
  induction text generalizing rev with
  | nil =>
    cases rev with
    | nil => simp [linesFrom, GoesOn]
    | cons c rev =>
      have goesOn : c ≠ '\n' := fun fed => unbroken (fed ▸ List.mem_cons_self)
      simp [linesFrom, GoesOn, goesOn]
  | cons c text ih =>
    unfold linesFrom
    split
    · next fed =>
      subst fed
      have unbroken : '\n' ∉ ([] : List Char) := List.not_mem_nil
      have rest := ih unbroken
      rw [List.reverse_nil, List.nil_append] at rest
      simp only [List.length_cons, rest, List.count_cons_self, goesOn_behind_feed]
      omega
    · next goesOn =>
      have further : '\n' ∉ c :: rev := by
        rw [List.mem_cons, not_or]
        exact ⟨Ne.symm goesOn, unbroken⟩
      rw [ih further, List.count_cons_of_ne goesOn]
      simp

end Text

open Text

/--
A text is cut into lines with their ends in one way only; its lines are those of the cut, numbered
from one.  There are as many as line feeds, and one more if the text is not empty and does not end
in a line feed.
-/
theorem logLines_of_only_cut (text : String) :
    (∃! lines, CutInto text.toList lines) ∧
      (∀ lines, CutInto text.toList lines →
        logLines text =
          lines.mapIdx fun i line => ⟨i + 1, String.ofList line.text⟩) ∧
      (logLines text).length = text.toList.count '\n' +
        if text.toList ≠ [] ∧ text.toList.getLast? ≠ some '\n' then 1 else 0 := by
  have cut : CutInto text.toList (endedFrom [] text.toList) :=
    cutInto_endedFrom List.not_mem_nil text.toList
  refine ⟨⟨_, cut, fun lines other => other.eq_endedFrom⟩, ?_, ?_⟩
  · intro lines other
    obtain rfl := other.eq_endedFrom
    refine List.ext_getElem? fun i => ?_
    rw [logLines, getElem?_numberLines, Text.lines, ← map_text_endedFrom]
    simp [Function.comp_def, Nat.add_comm]
  · have lines := congrArg List.length (map_text_logLines text)
    rw [List.length_map, Text.lines, List.length_map, length_linesFrom List.not_mem_nil] at lines
    exact lines

end LogView
