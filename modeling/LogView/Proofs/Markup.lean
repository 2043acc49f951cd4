import LogView.Markup

/-!
# Escaping and tags

Reading entities back undoes escaping, wherever the escaped text is cut; and an escaped text
opens no tag, so leaving out tags takes away exactly the tags between escaped texts.
-/

namespace LogView
namespace Markup

/-- The characters that are written as entities. -/
def specials : List Char := ['&', '<', '>', '"', '\'']

theorem escapeChar_of_plain {c : Char} (plain : c ∉ specials) : escapeChar c = [c] := by
  simp only [specials, List.mem_cons, List.not_mem_nil, or_false, not_or] at plain
  obtain ⟨amp, lt, gt, quot, apos⟩ := plain
  unfold escapeChar
  split <;> simp_all

theorem unescapeChars_cons {c : Char} (notAmp : c ≠ '&') (rest : List Char) :
    unescapeChars (c :: rest) = c :: unescapeChars rest := by
  conv => lhs; unfold unescapeChars
  split <;> simp_all

theorem unescapeChars_escapeChar (c : Char) (rest : List Char) :
    unescapeChars (escapeChar c ++ rest) = c :: unescapeChars rest := by
  by_cases special : c ∈ specials
  · simp only [specials, List.mem_cons, List.not_mem_nil, or_false] at special
    obtain rfl | rfl | rfl | rfl | rfl := special <;> rfl
  · rw [escapeChar_of_plain special]
    refine unescapeChars_cons ?_ rest
    rintro rfl
    exact special (by decide)

theorem unescapeChars_escaped (text : List Char) :
    unescapeChars (text.flatMap escapeChar) = text := by
  induction text with
  | nil => rfl
  | cons c text ih => rw [List.flatMap_cons, unescapeChars_escapeChar, ih]

@[simp] theorem toList_escape (text : String) :
    (escape text).toList = text.toList.flatMap escapeChar := by
  simp [escape]

theorem not_mem_escapeChar (c : Char) : '<' ∉ escapeChar c := by
  by_cases special : c ∈ specials
  · simp only [specials, List.mem_cons, List.not_mem_nil, or_false] at special
    obtain rfl | rfl | rfl | rfl | rfl := special <;> decide
  · rw [escapeChar_of_plain special, List.mem_singleton]
    rintro rfl
    exact special (by decide)

theorem stripTagChars_text {text : List Char} (unopened : '<' ∉ text)
    (rest : List Char) : stripTagChars false (text ++ rest) = text ++ stripTagChars false rest := by
  induction text with
  | nil => rfl
  | cons c text ih =>
    rw [List.mem_cons, not_or] at unopened
    obtain ⟨head, tail⟩ := unopened
    have plain : c ≠ '<' := Ne.symm head
    simp [stripTagChars, plain, ih tail]

theorem stripTagChars_escaped (text rest : List Char) :
    stripTagChars false (text.flatMap escapeChar ++ rest) =
      text.flatMap escapeChar ++ stripTagChars false rest := by
  refine stripTagChars_text ?_ rest
  intro mem
  obtain ⟨c, -, mem⟩ := List.mem_flatMap.mp mem
  exact not_mem_escapeChar c mem

theorem stripTagChars_inside {name : List Char} (unclosed : '>' ∉ name)
    (rest : List Char) : stripTagChars true (name ++ '>' :: rest) = stripTagChars false rest := by
  induction name with
  | nil => simp [stripTagChars]
  | cons c name ih =>
    rw [List.mem_cons, not_or] at unclosed
    obtain ⟨head, tail⟩ := unclosed
    have plain : c ≠ '>' := Ne.symm head
    simp [stripTagChars, plain, ih tail]

/-- A text that is one tag: brackets, and none that closes between them. -/
def IsTag (tag : String) : Prop :=
  ∃ name : List Char, tag.toList = '<' :: (name ++ ['>']) ∧ '>' ∉ name

theorem stripTagChars_tag {tag : String} (isTag : IsTag tag) (rest : List Char) :
    stripTagChars false (tag.toList ++ rest) = stripTagChars false rest := by
  obtain ⟨name, chars, unclosed⟩ := isTag
  have opened : tag.toList ++ rest = '<' :: (name ++ '>' :: rest) := by simp [chars]
  rw [opened, ← stripTagChars_inside unclosed rest]
  simp [stripTagChars]

end Markup
end LogView
