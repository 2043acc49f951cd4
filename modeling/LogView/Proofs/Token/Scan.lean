import LogView.Annotation
import LogView.Proofs.Token.Alone
import Mathlib.Data.List.Forall2

/-!
# Finding tokens

A token is a word of some shape, or the name of a severity, that stands alone: no character of a
word comes right before it or right behind it.  A scan for one kind of token finds nothing else,
and it passes over a token of its kind only where it found another that covers its first character.
-/

namespace LogView
namespace Token

/-- Whether a character is what a shape asks for. -/
def FitsChar (s c : Char) : Prop := (if s = 'd' then c.isDigit else decide (c = s)) = true

/-- Whether a word has a shape. -/
def Fits (shape word : List Char) : Prop := List.Forall₂ FitsChar shape word

/-- Whether a word is written as a token is. -/
def Spells : Token → List Char → Prop
  | .date, word => Fits dateShape word
  | .time, word => ∃ shape ∈ timeShapes, Fits shape word
  | .level severity, word => word = severity.word.toList

theorem afterShape?_eq_some {shape text rest : List Char} :
    afterShape? shape text = some rest ↔ ∃ word, Fits shape word ∧ text = word ++ rest := by
  induction shape generalizing text with
  | nil => simp [afterShape?, Fits]
  | cons s shape ih =>
    cases text with
    | nil => simp [afterShape?, Fits, List.forall₂_cons_left_iff]
    | cons c text =>
      unfold afterShape?
      by_cases fits : (if s = 'd' then c.isDigit else decide (c = s)) = true
      · rw [if_pos fits, ih]
        constructor
        · rintro ⟨word, rest, rfl⟩
          exact ⟨c :: word, .cons fits rest, rfl⟩
        · rintro ⟨word, whole, split⟩
          obtain ⟨d, word, -, rest, rfl⟩ := List.forall₂_cons_left_iff.mp whole
          cases split
          exact ⟨word, rest, rfl⟩
      · rw [if_neg fits]
        constructor
        · exact nofun
        · rintro ⟨word, whole, split⟩
          obtain ⟨d, word, first, -, rfl⟩ := List.forall₂_cons_left_iff.mp whole
          cases split
          exact absurd first fits

theorem hasShape_iff {shape text : List Char} :
    hasShape shape text = true ↔
      ∃ word rest, Fits shape word ∧ endsWord rest = true ∧ text = word ++ rest := by
  unfold hasShape
  rw [Option.any_eq_true]
  simp only [afterShape?_eq_some]
  constructor
  · rintro ⟨rest, ⟨word, fits, split⟩, ends⟩
    exact ⟨word, rest, fits, ends, split⟩
  · rintro ⟨word, rest, fits, ends, split⟩
    exact ⟨rest, ⟨word, fits, split⟩, ends⟩

theorem beginsWord_of_fits {shape word : List Char} (fits : Fits ('d' :: shape) word) :
    BeginsWord word := by
  obtain ⟨c, rest, digit, -, rfl⟩ := List.forall₂_cons_left_iff.mp fits
  have digit : c.isDigit = true := digit
  simp [BeginsWord, endsWord, isWordChar, Char.isAlphanum, digit]

/-- The word of a token begins and ends with a character of a word. -/
theorem Spells.edges {token : Token} {word : List Char} (spells : token.Spells word) :
    BeginsWord word ∧ BeginsWord word.reverse := by
  cases token with
  | date =>
    exact ⟨beginsWord_of_fits spells, beginsWord_of_fits (List.forall₂_reverse_iff.mpr spells)⟩
  | time =>
    obtain ⟨shape, mem, fits⟩ := spells
    have digits : ∃ body body', shape = 'd' :: body ∧ shape.reverse = 'd' :: body' := by
      revert mem
      simp only [timeShapes, List.mem_cons, List.not_mem_nil, or_false]
      rintro (rfl | rfl | rfl) <;> exact ⟨_, _, rfl, rfl⟩
    obtain ⟨body, body', first, last⟩ := digits
    have fits' : Fits shape.reverse word.reverse := List.forall₂_reverse_iff.mpr fits
    rw [last] at fits'
    rw [first] at fits
    exact ⟨beginsWord_of_fits fits, beginsWord_of_fits fits'⟩
  | level severity =>
    cases spells
    cases severity <;> exact ⟨by decide, by decide⟩

end Token

/--
A way to find one kind of token: the length of the one that a text begins with, and what it is.
-/
abbrev TokenPass := (List Char → Option Nat) × (List Char → Option Token)

/-- Whether what is found may be a token. -/
def TokenPass.Offers (pass : TokenPass) (token : Token) : Prop := ∃ word, pass.2 word = some token

open Token

/-- Whether the tokens that are found are those, of all that may be, that stand at the beginning. -/
structure TokenPass.Finds (pass : TokenPass) : Prop where
  sound : ∀ {text : List Char} {n : Nat}, pass.1 text = some n →
    n ≤ text.length ∧ endsWord (text.drop n) = true ∧
      ∃ token, pass.2 (text.take n) = some token ∧ token.Spells (text.take n)
  complete : ∀ {token : Token} {word rest : List Char}, pass.Offers token → token.Spells word →
    endsWord rest = true → (pass.1 (word ++ rest)).isSome = true

theorem Token.finds_dates : TokenPass.Finds (dateLength?, fun _ => some .date) where
  sound := by
    intro text n found
    dsimp only at found
    unfold dateLength? at found
    split_ifs at found with shape
    cases found
    obtain ⟨word, rest, fits, ends, rfl⟩ := hasShape_iff.mp shape
    rw [fits.length_eq, List.take_left, List.drop_left, List.length_append]
    exact ⟨Nat.le_add_right _ _, ends, .date, rfl, fits⟩
  complete := by
    rintro token word rest ⟨-, ⟨⟩⟩ spells ends
    have shape := hasShape_iff.mpr ⟨word, rest, spells, ends, rfl⟩
    simp [dateLength?, shape]

theorem Token.finds_times : TokenPass.Finds (timeLength?, fun _ => some .time) where
  sound := by
    intro text n found
    obtain ⟨shape, preferred, rfl⟩ := Option.map_eq_some_iff.mp found
    have shown := List.find?_some preferred
    obtain ⟨word, rest, fits, ends, rfl⟩ := hasShape_iff.mp shown
    rw [fits.length_eq, List.take_left, List.drop_left, List.length_append]
    exact ⟨Nat.le_add_right _ _, ends, .time, rfl, shape, List.mem_of_find?_eq_some preferred, fits⟩
  complete := by
    rintro token word rest ⟨-, ⟨⟩⟩ ⟨shape, mem, fits⟩ ends
    have shown := hasShape_iff.mpr ⟨word, rest, fits, ends, rfl⟩
    dsimp only
    rw [timeLength?, Option.isSome_map, List.find?_isSome]
    exact ⟨shape, mem, shown⟩

theorem Token.endsWord_dropWhile (text : List Char) :
    endsWord (text.dropWhile isWordChar) = true := by
  induction text with
  | nil => rfl
  | cons c text ih =>
    by_cases inside : isWordChar c = true
    · rw [List.dropWhile_cons_of_pos inside]
      exact ih
    · rw [List.dropWhile_cons_of_neg inside]
      simpa [endsWord] using inside

theorem Token.takeWhile_of_endsWord {rest : List Char} (ends : endsWord rest = true) :
    rest.takeWhile isWordChar = [] := by
  cases rest with
  | nil => rfl
  | cons c rest =>
    rw [List.takeWhile_cons_of_neg]
    simpa [endsWord] using ends

theorem Token.slice_takeWhile (text : List Char) (i : Nat) :
    slice text i (i + ((text.drop i).takeWhile isWordChar).length) =
        (text.drop i).takeWhile isWordChar ∧
      text.drop (i + ((text.drop i).takeWhile isWordChar).length) =
        (text.drop i).dropWhile isWordChar := by
  have here : (text.drop i).takeWhile isWordChar <+: text.drop i := List.takeWhile_prefix _
  have taken := (List.prefix_iff_eq_take.mp here).symm
  have split := List.takeWhile_append_dropWhile (p := isWordChar) (l := text.drop i)
  have whole := List.take_append_drop ((text.drop i).takeWhile isWordChar).length (text.drop i)
  rw [taken] at whole
  constructor
  · rw [slice, Nat.add_sub_cancel_left, taken]
  · rw [← List.drop_drop]
    exact List.append_cancel_left (whole.trans split.symm)

namespace Severity

theorem ofWord?_word (severity : Severity) : ofWord? severity.word = some severity := by
  cases severity <;> rfl

theorem ofWord?_ofList_eq_some {word : List Char} {severity : Severity} :
    ofWord? (String.ofList word) = some severity ↔ word = severity.word.toList := by
  constructor
  · intro named
    have same : severity.word = String.ofList word := by simpa using List.find?_some named
    rw [same, String.toList_ofList]
  · rintro rfl
    rw [String.ofList_toList, ofWord?_word]

theorem isUpper_of_mem_word {severity : Severity} {c : Char} (mem : c ∈ severity.word.toList) :
    c.isUpper = true := by
  have capitals : severity.word.toList.all Char.isUpper = true := by
    cases severity <;> decide
  exact List.all_eq_true.mp capitals c mem

theorem length_word_pos (severity : Severity) : 0 < severity.word.toList.length := by
  cases severity <;> decide

end Severity

theorem Token.isWordChar_of_isUpper {c : Char} (capital : c.isUpper = true) :
    isWordChar c = true := by
  have letter : c.isAlpha = true := Bool.or_eq_true_iff.mpr (.inl capital)
  simp [isWordChar, Char.isAlphanum, letter]

theorem Token.finds_levels : TokenPass.Finds
    (levelLength?, fun word => (Severity.ofWord? (String.ofList word)).map .level) where
  sound := by
    intro text n found
    obtain ⟨severity, named, rfl⟩ := Option.map_eq_some_iff.mp found
    obtain ⟨taken, left⟩ := slice_takeWhile text 0
    rw [List.drop_zero, Nat.zero_add, slice, Nat.sub_zero, List.drop_zero] at taken
    rw [List.drop_zero, Nat.zero_add] at left
    rw [taken, left]
    refine ⟨(List.takeWhile_prefix _).length_le, endsWord_dropWhile text, .level severity, ?_, ?_⟩
    · simp [named]
    · exact Severity.ofWord?_ofList_eq_some.mp named
  complete := by
    rintro token word rest ⟨other, offered⟩ spells ends
    obtain ⟨severity, -, rfl⟩ := Option.map_eq_some_iff.mp offered
    cases spells
    have inside : ∀ c ∈ severity.word.toList, isWordChar c = true :=
      fun c mem => isWordChar_of_isUpper (Severity.isUpper_of_mem_word mem)
    dsimp only
    rw [levelLength?, List.takeWhile_append_of_pos inside, takeWhile_of_endsWord ends,
      List.append_nil, String.ofList_toList, Severity.ofWord?_word]
    rfl

theorem Token.offers_levels (severity : Severity) : TokenPass.Offers
    (levelLength?, fun word => (Severity.ofWord? (String.ofList word)).map .level)
    (.level severity) := by
  refine ⟨severity.word.toList, ?_⟩
  dsimp only
  rw [String.ofList_toList, Severity.ofWord?_word]
  rfl

namespace Token

section Scan

variable {length? : List Char → Option Nat}

/-- What a scan finds begins where no word goes on, and is as long as what is found there. -/
theorem mem_spansFrom {inWord : Bool} {skip i : Nat} {text : List Char} {span : Nat × Nat}
    (mem : span ∈ spansFrom length? inWord skip i text) :
    ∃ k n, k < text.length ∧ wordBefore inWord text k = false ∧
      length? (text.drop k) = some n ∧ span = (i + k, i + k + n) := by
  induction text generalizing inWord skip i with
  | nil => cases mem
  | cons c text ih =>
    have later {skip : Nat} (mem : span ∈ spansFrom length? (isWordChar c) skip (i + 1) text) :
        ∃ k n, k < (c :: text).length ∧ wordBefore inWord (c :: text) k = false ∧
          length? ((c :: text).drop k) = some n ∧ span = (i + k, i + k + n) := by
      obtain ⟨k, n, inside, fresh, found, rfl⟩ := ih mem
      refine ⟨k + 1, n, Nat.succ_lt_succ inside, ?_, found, ?_⟩
      · rw [wordBefore_cons]
        exact fresh
      · have place : i + 1 + k = i + (k + 1) := by omega
        rw [place]
    cases skip with
    | succ skip => exact later mem
    | zero =>
      cases found : if inWord then none else length? (c :: text) with
      | none =>
        rw [spansFrom, found] at mem
        exact later mem
      | some n =>
        rw [spansFrom, found] at mem
        rcases List.mem_cons.mp mem with rfl | mem
        · split_ifs at found with inside
          exact ⟨0, n, Nat.succ_pos _, Bool.eq_false_iff.mpr inside, found, rfl⟩
        · exact later mem

/-- A scan passes over what could be found at a place only inside of something else it found. -/
theorem exists_covering (positive : ∀ text n, length? text = some n → 0 < n) {inWord : Bool}
    {skip i k : Nat} {text : List Char} (inside : k < text.length)
    (fresh : wordBefore inWord text k = false) (shown : (length? (text.drop k)).isSome = true) :
    k < skip ∨ ∃ span ∈ spansFrom length? inWord skip i text, span.1 ≤ i + k ∧ i + k < span.2 := by
  induction text generalizing inWord skip i k with
  | nil => exact absurd inside (Nat.not_lt_zero k)
  | cons c text ih =>
    have later (skip : Nat) {k' : Nat} (next : k = k' + 1) : k' < skip ∨
        ∃ span ∈ spansFrom length? (isWordChar c) skip (i + 1) text,
          span.1 ≤ i + k ∧ i + k < span.2 := by
      subst next
      rw [wordBefore_cons] at fresh
      have place : i + 1 + k' = i + (k' + 1) := by omega
      rw [← place]
      exact ih (Nat.lt_of_succ_lt_succ inside) fresh shown
    cases skip with
    | succ skip =>
      cases k with
      | zero => exact .inl (Nat.succ_pos skip)
      | succ k =>
        rcases later skip rfl with before | covered
        · exact .inl (Nat.succ_lt_succ before)
        · exact .inr covered
    | zero =>
      right
      cases found : if inWord then none else length? (c :: text) with
      | none =>
        rw [spansFrom, found]
        cases k with
        | zero =>
          have outside : inWord = false := fresh
          rw [outside, if_neg (by decide)] at found
          have shown : (length? (c :: text)).isSome = true := shown
          rw [found] at shown
          cases shown
        | succ k =>
          rcases later 0 rfl with before | covered
          · exact absurd before (Nat.not_lt_zero k)
          · exact covered
      | some n =>
        rw [spansFrom, found]
        have taken : 0 < n := by
          split_ifs at found
          exact positive _ n found
        cases k with
        | zero => exact ⟨_, List.mem_cons_self, by simp, by simpa using taken⟩
        | succ k =>
          rcases later (n - 1) rfl with before | ⟨span, mem, covers⟩
          · exact ⟨_, List.mem_cons_self, by simp, by dsimp only; omega⟩
          · exact ⟨span, List.mem_cons_of_mem _ mem, covers⟩

end Scan

end Token

namespace TokenPass.Finds

variable {pass : TokenPass} (finds : pass.Finds)
include finds

theorem positive {text : List Char} {n : Nat} (found : pass.1 text = some n) : 0 < n := by
  obtain ⟨-, -, token, -, spells⟩ := finds.sound found
  cases n with
  | zero => cases spells.edges.1
  | succ n => exact Nat.succ_pos n

theorem mem_spans {text : List Char} {span : Nat × Nat} (mem : span ∈ spans pass.1 text) :
    span.1 < span.2 ∧ span.2 ≤ text.length ∧ StandsAlone text span.1 span.2 ∧
      ∃ token, pass.2 (slice text span.1 span.2) = some token ∧
        token.Spells (slice text span.1 span.2) := by
  obtain ⟨k, n, inside, fresh, found, rfl⟩ := mem_spansFrom mem
  obtain ⟨width, ends, token, known, spells⟩ := finds.sound found
  have taken := finds.positive found
  have stretch : slice text (0 + k) (0 + k + n) = (text.drop k).take n := by
    unfold slice
    rw [Nat.zero_add, Nat.add_sub_cancel_left]
  rw [List.length_drop] at width
  rw [List.drop_drop] at ends
  rw [stretch]
  refine ⟨by dsimp only; omega, by dsimp only; omega, ⟨?_, ?_⟩, token, known, spells⟩
  · rw [Nat.zero_add]
    exact fresh
  · rw [Nat.zero_add]
    exact ends

theorem start_inside {text : List Char} : ∀ span ∈ spans pass.1 text, span.1 ≤ text.length := by
  intro span mem
  obtain ⟨taken, inside, -⟩ := finds.mem_spans mem
  omega

theorem exists_span {text : List Char} {first last : Nat} {token : Token}
    (offers : pass.Offers token) (spells : token.Spells (slice text first last))
    (alone : StandsAlone text first last) :
    ∃ span ∈ spans pass.1 text, span.1 ≤ first ∧ first < span.2 := by
  have nonempty : slice text first last ≠ [] := by
    intro empty
    have begins := spells.edges.1
    rw [empty] at begins
    cases begins
  have ordered : first < last ∧ first < text.length := by
    have width := List.length_pos_of_ne_nil nonempty
    unfold slice at width
    rw [List.length_take, List.length_drop] at width
    omega
  have split : text.drop first = slice text first last ++ text.drop last :=
    drop_eq_slice_append (Nat.le_of_lt ordered.1)
  have shown := finds.complete offers spells alone.2
  rw [← split] at shown
  have positive : ∀ text n, pass.1 text = some n → 0 < n := fun _ _ => finds.positive
  rcases exists_covering positive ordered.2 alone.1 shown with before | covered
  · exact absurd before (Nat.not_lt_zero first)
  · rw [Nat.zero_add] at covered
    exact covered

end TokenPass.Finds

end LogView
