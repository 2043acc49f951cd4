import LogView.Proofs.Markup
import LogView.Text.Lines
import Mathlib.Data.List.Basic

/-!
# The tags of a markup

A tag is a stretch from an opening bracket to the next closing one.  Markup is put together from
tags and from texts without brackets, and its tags are then those that were put into it.
-/

namespace LogView
namespace Markup

/--
Reads tags, `open?` holding what was read of a tag that is open, last character first.  Gives the
tags and what was read of a tag that is left open.
-/
def scanTags (open? : Option (List Char)) : List Char → List String × Option (List Char)
  | [] => ([], open?)
  | c :: rest =>
    match open? with
    | none => scanTags (if c = '<' then some [c] else none) rest
    | some rev =>
      if c = '>' then
        let (tags, left?) := scanTags none rest
        (String.ofList (c :: rev).reverse :: tags, left?)
      else scanTags (some (c :: rev)) rest

/-- The tags of a markup, in order. -/
def tags (markup : String) : List String := (scanTags none markup.toList).1

def isBracket (c : Char) : Bool := c = '<' || c = '>'

/-- The brackets of a markup, in order. -/
def brackets (markup : String) : List Char := markup.toList.filter isBracket

/-- A markup has these tags, leaves none open, and has no brackets but those around its tags. -/
structure Tagged (markup : String) (tags : List String) : Prop where
  scanned : scanTags none markup.toList = (tags, none)
  bracketed : brackets markup = tags.flatMap fun _ => ['<', '>']

instance (markup : String) (tags : List String) : Decidable (Tagged markup tags) :=
  decidable_of_iff
    (scanTags none markup.toList = (tags, none) ∧
      brackets markup = tags.flatMap fun _ => ['<', '>'])
    ⟨fun ⟨scanned, bracketed⟩ => ⟨scanned, bracketed⟩, fun tagged => ⟨tagged.1, tagged.2⟩⟩

theorem Tagged.tags_eq {markup : String} {shown : List String} (tagged : Tagged markup shown) :
    tags markup = shown := by
  rw [tags, tagged.scanned]

theorem scanTags_append (open? : Option (List Char)) (text rest : List Char) :
    scanTags open? (text ++ rest) =
      ((scanTags open? text).1 ++ (scanTags (scanTags open? text).2 rest).1,
        (scanTags (scanTags open? text).2 rest).2) := by
  induction text generalizing open? with
  | nil => rfl
  | cons c text ih =>
    cases open? with
    | none => exact ih _
    | some rev =>
      simp only [List.cons_append, scanTags]
      split
      · rw [ih none]
        rfl
      · exact ih _

theorem Tagged.append {first second : String} {tags tags' : List String}
    (tagged : Tagged first tags) (tagged' : Tagged second tags') :
    Tagged (first ++ second) (tags ++ tags') := by
  constructor
  · rw [String.toList_append, scanTags_append, tagged.scanned, tagged'.scanned]
  · rw [brackets, String.toList_append, List.filter_append, List.flatMap_append]
    exact congrArg₂ _ tagged.bracketed tagged'.bracketed

theorem tagged_ofList {chars : List Char} {shown : List String}
    (scanned : scanTags none chars = (shown, none))
    (bracketed : chars.filter isBracket = shown.flatMap fun _ => ['<', '>']) :
    Tagged (String.ofList chars) shown := by
  constructor
  · rw [String.toList_ofList, scanned]
  · rw [brackets, String.toList_ofList, bracketed]

/-- Whether a text has no brackets. -/
def isPlain (text : String) : Bool := text.toList.all fun c => !isBracket c

@[simp] theorem isPlain_append (first second : String) :
    isPlain (first ++ second) = (isPlain first && isPlain second) := by
  simp [isPlain]

theorem isPlain_iff {text : String} :
    isPlain text = true ↔ ∀ c ∈ text.toList, isBracket c = false := by
  simp [isPlain]

theorem isBracket_eq_false {c : Char} : isBracket c = false ↔ c ≠ '<' ∧ c ≠ '>' := by
  simp [isBracket]

theorem filter_isBracket_of_plain {text : List Char} (plain : ∀ c ∈ text, isBracket c = false) :
    text.filter isBracket = [] := by
  rw [List.filter_eq_nil_iff]
  intro c mem
  rw [plain c mem]
  decide

theorem tagged_text {text : String} (plain : ∀ c ∈ text.toList, isBracket c = false) :
    Tagged text [] := by
  constructor
  · generalize text.toList = chars at plain
    induction chars with
    | nil => rfl
    | cons c chars ih =>
      obtain ⟨head, tail⟩ := List.forall_mem_cons.mp plain
      rw [scanTags, if_neg (isBracket_eq_false.mp head).1]
      exact ih tail
  · exact filter_isBracket_of_plain plain

theorem scanTags_close {name : List Char} (plain : ∀ c ∈ name, isBracket c = false)
    (rev : List Char) :
    scanTags (some rev) (name ++ ['>']) =
      ([String.ofList (rev.reverse ++ name ++ ['>'])], none) := by
  induction name generalizing rev with
  | nil => simp [scanTags]
  | cons c name ih =>
    obtain ⟨head, tail⟩ := List.forall_mem_cons.mp plain
    rw [List.cons_append, scanTags, if_neg (isBracket_eq_false.mp head).2, ih tail]
    simp

theorem tagged_tag {name : String} (plain : isPlain name = true) :
    Tagged ("<" ++ name ++ ">") ["<" ++ name ++ ">"] := by
  have chars : ("<" ++ name ++ ">").toList = '<' :: (name.toList ++ ['>']) := by simp
  have tag : "<" ++ name ++ ">" = String.ofList ('<' :: (name.toList ++ ['>'])) := by
    rw [← chars, String.ofList_toList]
  rw [isPlain_iff] at plain
  constructor
  · rw [chars, scanTags, if_pos rfl, scanTags_close plain, tag]
    rfl
  · rw [brackets, chars, List.filter_cons, List.filter_append, filter_isBracket_of_plain plain]
    rfl

theorem isBracket_of_mem_escapeChar {c d : Char} (mem : d ∈ escapeChar c) :
    isBracket d = false := by
  by_cases special : c ∈ specials
  · have entities : specials.all (fun c => (escapeChar c).all fun d => !isBracket d) := by decide
    have entity := List.all_eq_true.mp (List.all_eq_true.mp entities c special) d mem
    simpa using entity
  · rw [escapeChar_of_plain special, List.mem_singleton] at mem
    subst mem
    rw [isBracket_eq_false]
    constructor
    · rintro rfl
      exact special (by decide)
    · rintro rfl
      exact special (by decide)

theorem tagged_escape (text : String) : Tagged (escape text) [] := by
  refine tagged_text fun d mem => ?_
  rw [toList_escape] at mem
  obtain ⟨c, -, mem⟩ := List.mem_flatMap.mp mem
  exact isBracket_of_mem_escapeChar mem

theorem isDigit_of_mem_toString {n : Nat} {c : Char} (mem : c ∈ (toString n).toList) :
    c.isDigit = true := by
  have digits : (toString n).toList = Nat.toDigits 10 n := String.toList_ofList
  rw [digits] at mem
  exact Nat.isDigit_of_mem_toDigits (by decide) (by decide) mem

theorem tagged_number (n : Nat) : Tagged (toString n) [] := by
  refine tagged_text fun c mem => ?_
  have digit := isDigit_of_mem_toString mem
  rw [isBracket_eq_false]
  constructor
  · rintro rfl
    cases digit
  · rintro rfl
    cases digit

theorem tagged_joinLines {α : Type} {parts : List α} {markup : α → String}
    {tags : α → List String} (tagged : ∀ part ∈ parts, Tagged (markup part) (tags part)) :
    Tagged (Text.joinLines (parts.map markup)) (parts.flatMap tags) := by
  induction parts with
  | nil => exact tagged_text nofun
  | cons part parts ih =>
    obtain ⟨first, rest⟩ := List.forall_mem_cons.mp tagged
    cases parts with
    | nil => simpa [Text.joinLines] using first
    | cons next parts =>
      have feed : Tagged "\n" [] := tagged_ofList rfl rfl
      have joined := first.append (feed.append (ih rest))
      rw [List.nil_append, ← List.flatMap_cons, ← String.append_assoc] at joined
      simpa [Text.joinLines, String.intercalate_cons_cons] using joined

theorem tagged_join {texts : List String} (tagged : ∀ text ∈ texts, Tagged text []) :
    Tagged (String.join texts) [] := by
  induction texts with
  | nil => exact tagged_ofList rfl rfl
  | cons text texts ih =>
    obtain ⟨first, rest⟩ := List.forall_mem_cons.mp tagged
    rw [String.join_cons]
    exact first.append (ih rest)

end Markup
end LogView
