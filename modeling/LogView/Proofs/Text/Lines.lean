import LogView.Text.Lines

/-!
# Lines of joined texts

The lines of a text hold characters of that text and no line feed.  Texts that hold no part of a
line end, joined by line feeds and ended by one more, are the lines of what is made of them.
-/

namespace LogView
namespace Text

theorem dropReturn_of_not_mem {rev : List Char} (plain : '\r' ∉ rev) : dropReturn rev = rev := by
  unfold dropReturn
  split
  · simp at plain
  · rfl

theorem mem_of_mem_dropReturn {c : Char} {rev : List Char} (mem : c ∈ dropReturn rev) :
    c ∈ rev := by
  unfold dropReturn at mem
  split at mem
  · exact List.mem_cons_of_mem _ mem
  · exact mem

theorem linesFrom_feed {text : List Char} (unbroken : '\n' ∉ text) (rev rest : List Char) :
    linesFrom rev (text ++ '\n' :: rest) =
      (dropReturn (text.reverse ++ rev)).reverse :: linesFrom [] rest := by
  induction text generalizing rev with
  | nil => simp [linesFrom]
  | cons c text ih =>
    rw [List.mem_cons, not_or] at unbroken
    obtain ⟨head, tail⟩ := unbroken
    have goesOn : c ≠ '\n' := Ne.symm head
    simp [linesFrom, goesOn, ih tail]

/-- Texts without line ends are the lines of the text in which each of them is ended. -/
theorem linesFrom_ended {texts : List (List Char)}
    (plain : ∀ text ∈ texts, '\n' ∉ text ∧ '\r' ∉ text) :
    linesFrom [] (texts.flatMap fun text => text ++ ['\n']) = texts := by
  induction texts with
  | nil => rfl
  | cons text texts ih =>
    obtain ⟨unbroken, unreturned⟩ := plain text List.mem_cons_self
    have rest := ih fun other mem => plain other (List.mem_cons_of_mem _ mem)
    rw [List.flatMap_cons, List.append_assoc, List.singleton_append, linesFrom_feed unbroken,
      rest, List.append_nil, dropReturn_of_not_mem (by simpa using unreturned),
      List.reverse_reverse]

theorem mem_of_mem_linesFrom {rev text line : List Char} {c : Char}
    (mem : line ∈ linesFrom rev text) (held : c ∈ line) : c ∈ rev ∨ c ∈ text := by
  induction text generalizing rev with
  | nil =>
    unfold linesFrom at mem
    split at mem
    · cases mem
    · rw [List.mem_singleton.mp mem, List.mem_reverse] at held
      exact .inl held
  | cons d text ih =>
    unfold linesFrom at mem
    split at mem
    · rcases List.mem_cons.mp mem with rfl | later
      · exact .inl (mem_of_mem_dropReturn (List.mem_reverse.mp held))
      · have found := (ih later).resolve_left List.not_mem_nil
        exact .inr (List.mem_cons_of_mem d found)
    · rcases ih mem with inRev | inText
      · rcases List.mem_cons.mp inRev with rfl | inRev
        · exact .inr List.mem_cons_self
        · exact .inl inRev
      · exact .inr (List.mem_cons_of_mem d inText)

theorem feed_not_mem_linesFrom {rev text line : List Char} (unbroken : '\n' ∉ rev)
    (mem : line ∈ linesFrom rev text) : '\n' ∉ line := by
  induction text generalizing rev with
  | nil =>
    unfold linesFrom at mem
    split at mem
    · cases mem
    · rwa [List.mem_singleton.mp mem, List.mem_reverse]
  | cons c text ih =>
    unfold linesFrom at mem
    split at mem
    · rcases List.mem_cons.mp mem with rfl | later
      · intro held
        exact unbroken (mem_of_mem_dropReturn (List.mem_reverse.mp held))
      · exact ih List.not_mem_nil later
    · next goesOn =>
      refine ih ?_ mem
      rw [List.mem_cons, not_or]
      exact ⟨Ne.symm goesOn, unbroken⟩

theorem mem_of_mem_lines {text line : String} {c : Char} (mem : line ∈ lines text)
    (held : c ∈ line.toList) : c ∈ text.toList := by
  obtain ⟨chars, found, rfl⟩ := List.mem_map.mp mem
  rw [String.toList_ofList] at held
  exact (mem_of_mem_linesFrom found held).resolve_left List.not_mem_nil

theorem feed_not_mem_lines {text line : String} (mem : line ∈ lines text) :
    '\n' ∉ line.toList := by
  obtain ⟨chars, found, rfl⟩ := List.mem_map.mp mem
  rw [String.toList_ofList]
  exact feed_not_mem_linesFrom List.not_mem_nil found

theorem toList_joinLines_feed {texts : List String} (nonempty : texts ≠ []) :
    (joinLines texts ++ "\n").toList = texts.flatMap fun text => text.toList ++ ['\n'] := by
  induction texts with
  | nil => contradiction
  | cons text texts ih =>
    cases texts with
    | nil => simp [joinLines]
    | cons next texts =>
      have rest := ih (List.cons_ne_nil next texts)
      rw [List.flatMap_cons, ← rest]
      simp [joinLines, String.intercalate_cons_cons]

/-- Nothing is written where nothing is joined, and where one empty text is. -/
theorem joinLines_eq_empty {texts : List String} :
    joinLines texts = "" ↔ texts = [] ∨ texts = [""] := by
  cases texts with
  | nil => simp [joinLines]
  | cons text texts =>
    cases texts with
    | nil => simp [joinLines]
    | cons next texts => simp [joinLines, String.intercalate_cons_cons]

theorem lines_joinLines_feed {texts : List String} (nonempty : texts ≠ [])
    (plain : ∀ text ∈ texts, '\n' ∉ text.toList ∧ '\r' ∉ text.toList) :
    lines (joinLines texts ++ "\n") = texts := by
  have plain' : ∀ chars ∈ texts.map String.toList, '\n' ∉ chars ∧ '\r' ∉ chars := by
    intro chars mem
    obtain ⟨text, found, rfl⟩ := List.mem_map.mp mem
    exact plain text found
  have ended := linesFrom_ended plain'
  rw [List.flatMap_map, ← toList_joinLines_feed nonempty] at ended
  rw [lines, ended, List.map_map]
  simp

end Text
end LogView
