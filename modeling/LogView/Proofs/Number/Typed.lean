import LogView.Number.Typed
import LogView.Proofs.Number.Whole
import Mathlib.Data.List.TakeWhile

/-!
# Whole numbers as people type them

Digits with white space around them stand for the number that they write, as exactly as a binary
value can, and for none where the number is beyond the range of binary values.
-/

namespace LogView

namespace Text

theorem dropWhile_isBlank_of_shown {shown : List Char} (nonempty : shown ≠ [])
    (all : ∀ c ∈ shown, isBlank c = false) (rest : List Char) :
    (shown ++ rest).dropWhile isBlank = shown ++ rest := by
  cases shown with
  | nil => contradiction
  | cons c shown =>
    have first : ¬ isBlank c = true := by simp [all c List.mem_cons_self]
    rw [List.cons_append, List.dropWhile_cons_of_neg first]

theorem trimChars_surrounded {before shown after : List Char} (nonempty : shown ≠ [])
    (all : ∀ c ∈ shown, isBlank c = false) (blank : ∀ c ∈ before, isBlank c = true)
    (blank' : ∀ c ∈ after, isBlank c = true) : trimChars (before ++ shown ++ after) = shown := by
  have front : (before ++ shown ++ after).dropWhile isBlank = shown ++ after := by
    rw [List.append_assoc, List.dropWhile_append_of_pos blank,
      dropWhile_isBlank_of_shown nonempty all after]
  have back : (shown ++ after).reverse.dropWhile isBlank = shown.reverse := by
    have nonempty' : shown.reverse ≠ [] := by simpa using nonempty
    have all' : ∀ c ∈ shown.reverse, isBlank c = false := by simpa using all
    have kept := dropWhile_isBlank_of_shown nonempty' all' []
    rw [List.append_nil] at kept
    rw [List.reverse_append, List.dropWhile_append_of_pos (by simpa using blank'), kept]
  rw [trimChars, front, back, List.reverse_reverse]

theorem isBlank_of_isDigit {c : Char} (digit : c.isDigit = true) : isBlank c = false := by
  obtain ⟨low, high⟩ := Char.isDigit_iff_toNat.mp digit
  have zero : '0'.toNat = 48 := rfl
  have nine : '9'.toNat = 57 := rfl
  simp only [isBlank, Bool.or_eq_false_iff, Bool.and_eq_false_iff, decide_eq_false_iff_not,
    beq_eq_false_iff_ne]
  omega

end Text

namespace Decimal

theorem ofDigits_eq (digits : List Char) : ofDigits digits = Nat.ofDigitChars 10 digits 0 := by
  unfold ofDigits Nat.ofDigitChars
  congr
  funext n c
  rw [Nat.mul_comm]

theorem readSign_of_isDigit {c : Char} (digit : c.isDigit = true) (text : List Char) :
    readSign (c :: text) = (false, c :: text) := by
  unfold readSign
  split
  · next same =>
    cases same
    simp at digit
  · next same =>
    cases same
    simp at digit
  · rfl

theorem readDigits_digits {digits : List Char} (all : ∀ c ∈ digits, c.isDigit = true) :
    readDigits digits = (digits, []) := by
  rw [readDigits, List.takeWhile_eq_self_iff.mpr all, List.dropWhile_eq_nil_iff.mpr all]

theorem read?_digits {digits : List Char} (nonempty : digits ≠ [])
    (all : ∀ c ∈ digits, c.isDigit = true) :
    read? digits = some ⟨false, Nat.ofDigitChars 10 digits 0, 0⟩ := by
  cases digits with
  | nil => contradiction
  | cons c digits =>
    unfold read?
    rw [readSign_of_isDigit (all c List.mem_cons_self)]
    dsimp only
    rw [readDigits_digits all]
    simp [readExponent?, ofDigits_eq]

theorem leastBeyond_le_of_size {n : Nat} (long : 310 < size n) : Binary64.leastBeyond ≤ n := by
  have many : 10 ^ 310 ≤ n := by
    rw [← Nat.not_lt, ← Nat.length_toDigits_le_iff (by decide) (by decide)]
    exact Nat.not_le.mpr long
  have above : Binary64.leastBeyond ≤ 10 ^ 310 := by decide +kernel
  exact Nat.le_trans above many

/-- That numbers with many digits are not divided out makes no difference. -/
theorem toBinary64?_whole (negative : Bool) (n : Nat) :
    toBinary64? ⟨negative, n, 0⟩ = Binary64.ofRatio? n 1 := by
  unfold toBinary64?
  dsimp only
  rcases Nat.eq_zero_or_pos n with rfl | positive
  · rfl
  · have readable : ¬ (n = 0 || decide ((0 : Int) + size n < -330)) = true := by
      simp only [Bool.or_eq_true, decide_eq_true_eq]
      omega
    rw [if_neg readable]
    by_cases long : 310 < size n
    · have beyond : (310 : Int) < 0 + size n := by omega
      rw [if_pos beyond, (Binary64.ofRatio?_whole n).2 (leastBeyond_le_of_size long)]
    · have short : ¬ (310 : Int) < 0 + size n := by omega
      rw [if_neg short, if_pos (Int.le_refl 0)]
      simp

end Decimal

theorem typedNumber?_digits (before digits after : List Char) (nonempty : digits ≠ [])
    (all : ∀ c ∈ digits, c.isDigit = true) (blank : ∀ c ∈ before, Text.isBlank c = true)
    (blank' : ∀ c ∈ after, Text.isBlank c = true) :
    typedNumber? (String.ofList (before ++ digits ++ after)) =
      (Binary64.ofRatio? (Nat.ofDigitChars 10 digits 0) 1).map fun value =>
        saturate (value.floor false) := by
  have shown : ∀ c ∈ digits, Text.isBlank c = false := fun c mem =>
    Text.isBlank_of_isDigit (all c mem)
  unfold typedNumber?
  rw [String.toList_ofList, Text.trimChars_surrounded nonempty shown blank blank',
    Decimal.read?_digits nonempty all]
  simp only [Option.bind_eq_bind, Option.bind_some, Decimal.toBinary64?_whole]
  rw [Option.map_eq_bind]
  rfl

theorem typedNumber?_whole (before digits after : List Char) (nonempty : digits ≠ [])
    (all : ∀ c ∈ digits, c.isDigit = true) (blank : ∀ c ∈ before, Text.isBlank c = true)
    (blank' : ∀ c ∈ after, Text.isBlank c = true) :
    (Nat.ofDigitChars 10 digits 0 < Binary64.leastBeyond →
      ∃ number, typedNumber? (String.ofList (before ++ digits ++ after)) = some number ∧
        min number (2 ^ 53) = min (Nat.ofDigitChars 10 digits 0 : Int) (2 ^ 53)) ∧
      (Binary64.leastBeyond ≤ Nat.ofDigitChars 10 digits 0 →
        typedNumber? (String.ofList (before ++ digits ++ after)) = none) := by
  rw [typedNumber?_digits before digits after nonempty all blank blank']
  generalize Nat.ofDigitChars 10 digits 0 = n
  obtain ⟨inside, beyond⟩ := Binary64.ofRatio?_whole n
  constructor
  · intro within
    obtain ⟨value, found, floor⟩ := inside within
    refine ⟨saturate (value.floor false), by rw [found]; rfl, ?_⟩
    unfold saturate minInt64 maxInt64
    omega
  · intro large
    rw [beyond large]
    rfl

end LogView
