import LogView.Pattern.Size
import LogView.Proofs.Pattern.CharSet
import Mathlib.Data.List.Perm.Subperm
import Mathlib.Tactic.ByContra
import Mathlib.Tactic.SplitIfs

/-!
# What byte forms cover

The forms of a set of characters cover the bytes of just its members.  An automaton has a state at
least for each byte of the longest character of a set, in whatever direction it reads: forms that
share all of their bytes still have to be read one byte after the other.  A single character takes
no more than that.
-/

namespace LogView
namespace Pattern

/-- A form takes bytes if each of them lies in its range. -/
def Takes (form : ByteForm) (bytes : List Nat) : Prop :=
  List.Forall₂ (fun range byte => range.1 ≤ byte ∧ byte ≤ range.2) form bytes

theorem takes_cons {range : Nat × Nat} {form : ByteForm} {byte : Nat} {bytes : List Nat} :
    Takes (range :: form) (byte :: bytes) ↔
      (range.1 ≤ byte ∧ byte ≤ range.2) ∧ Takes form bytes :=
  List.forall₂_cons

/-- Some form takes bytes. -/
def Covers (forms : List ByteForm) (bytes : List Nat) : Prop := ∃ form ∈ forms, Takes form bytes

section Covers

variable {forms forms' : List ByteForm} {bytes : List Nat}

@[simp] theorem not_covers_nil : ¬ Covers [] bytes := by
  simp [Covers]

@[simp] theorem covers_append :
    Covers (forms ++ forms') bytes ↔ Covers forms bytes ∨ Covers forms' bytes := by
  simp [Covers, or_and_right, exists_or]

theorem covers_map_cons {range : Nat × Nat} {byte : Nat} :
    Covers (forms.map (range :: ·)) (byte :: bytes) ↔
      (range.1 ≤ byte ∧ byte ≤ range.2) ∧ Covers forms bytes := by
  simp [Covers, takes_cons, and_left_comm]

theorem covers_flatMap {α : Type} {list : List α} {forms : α → List ByteForm} :
    Covers (list.flatMap forms) bytes ↔ ∃ a ∈ list, Covers (forms a) bytes := by
  simp only [Covers, List.mem_flatMap]
  constructor
  · rintro ⟨form, ⟨a, mem, inside⟩, takes⟩
    exact ⟨a, mem, form, inside, takes⟩
  · rintro ⟨a, mem, form, inside, takes⟩
    exact ⟨form, ⟨a, mem, inside⟩, takes⟩

end Covers

namespace Utf8Band

theorem length_of_mem_between {following first last : Nat} {form : ByteForm}
    (mem : form ∈ between following first last) : form.length = following + 1 := by
  unfold between at mem
  split at mem
  · cases List.mem_singleton.mp mem
    simp
  · cases mem

theorem length_of_mem_split {base following low high : Nat} {form : ByteForm}
    (mem : form ∈ split base following low high) : form.length = following + 1 := by
  induction following generalizing base low high form with
  | zero =>
    cases List.mem_singleton.mp mem
    rfl
  | succ following ih =>
    have behind {range : Nat × Nat} {low high : Nat}
        (mem : form ∈ (split 0x80 following low high).map (range :: ·)) :
        form.length = following + 1 + 1 := by
      obtain ⟨tail, inside, rfl⟩ := List.mem_map.mp mem
      rw [List.length_cons, ih inside]
    unfold split at mem
    dsimp only at mem
    rw [apply_ite (form ∈ ·), List.mem_append, List.mem_append] at mem
    split at mem
    · exact behind mem
    · rcases mem with (front | middle) | back
      · split at front
        · cases front
        · exact behind front
      · exact length_of_mem_between middle
      · split at back
        · cases back
        · exact behind back

/-- The digits of a number to base 64, `base` added to the first one and 0x80 to later ones. -/
def digits (base : Nat) : (following n : Nat) → List Nat
  | 0, n => [base + n]
  | following + 1, n =>
    (base + n / Nat.pow 64 (following + 1)) ::
      digits 0x80 following (n % Nat.pow 64 (following + 1))

theorem length_digits (base following n : Nat) :
    (digits base following n).length = following + 1 := by
  induction following generalizing base n with
  | zero => rfl
  | succ following ih => rw [digits, List.length_cons, ih]

theorem takes_digits {following n : Nat} (small : n < Nat.pow 64 (following + 1)) :
    Takes (List.replicate (following + 1) (0x80, 0xBF)) (digits 0x80 following n) := by
  induction following generalizing n with
  | zero =>
    have below : n < 64 := small
    exact takes_cons.mpr ⟨by omega, .nil⟩
  | succ following ih =>
    have below : n / Nat.pow 64 (following + 1) < 64 := Nat.div_lt_of_lt_mul small
    have rest := ih (Nat.mod_lt n (Nat.pow_pos (by decide)))
    rw [List.replicate_succ, digits, takes_cons]
    exact ⟨⟨Nat.le_add_right _ _, by omega⟩, rest⟩

theorem covers_between {following first last byte : Nat} {bytes : List Nat}
    (rest : Takes (List.replicate following (0x80, 0xBF)) bytes) :
    Covers (between following first last) (byte :: bytes) ↔ first ≤ byte ∧ byte ≤ last := by
  unfold between
  split_ifs with filled
  · simp [Covers, takes_cons, rest]
  · simp only [not_covers_nil, false_iff]
    omega

/-- Numbers are compared by their first digits, and by what remains if these are the same. -/
theorem le_iff_div (unit low high : Nat) : low ≤ high ↔
    low / unit < high / unit ∨ low / unit = high / unit ∧ low % unit ≤ high % unit := by
  have low_eq := Nat.div_add_mod low unit
  have high_eq := Nat.div_add_mod high unit
  rcases Nat.lt_trichotomy (low / unit) (high / unit) with less | same | greater
  · have before := Nat.lt_of_div_lt_div less
    omega
  · rw [same] at low_eq
    omega
  · have behind := Nat.lt_of_div_lt_div greater
    omega

/-- The forms of a range cover the digits of just the numbers in it. -/
theorem covers_split {base following low high n : Nat} (filled : low ≤ high) :
    Covers (split base following low high) (digits base following n) ↔ low ≤ n ∧ n ≤ high := by
  induction following generalizing base low high n with
  | zero => simp [split, digits, Covers, Takes]
  | succ following ih =>
    have positive : 0 < Nat.pow 64 (following + 1) := Nat.pow_pos (by decide)
    have rest := takes_digits (Nat.mod_lt n positive)
    rw [digits, split]
    dsimp only
    generalize Nat.pow 64 (following + 1) = unit at *
    rw [le_iff_div unit] at filled ⊢
    rw [le_iff_div unit n]
    have before := Nat.mod_lt low positive
    have inside := Nat.mod_lt n positive
    have after := Nat.mod_lt high positive
    -- Only the first digits and what remains behind them matter from here on.
    generalize low / unit = a, low % unit = lower at *
    generalize high / unit = b, high % unit = upper at *
    generalize n / unit = digit, n % unit = m at *
    split_ifs with same front back back <;>
      simp only [covers_append, covers_map_cons, covers_between rest, not_covers_nil, false_or,
        or_false]
    · rw [ih (by omega)]
      omega
    · omega
    · rw [ih (by omega)]
      omega
    · rw [ih (by omega)]
      omega
    · rw [ih (by omega), ih (by omega)]
      omega

theorem split_self (base following n : Nat) : ∃ form, split base following n n = [form] ∧
    form.length = following + 1 ∧ ∀ range ∈ form, range.1 = range.2 := by
  induction following generalizing base n with
  | zero => exact ⟨[(base + n, base + n)], rfl, rfl, by simp⟩
  | succ following ih =>
    obtain ⟨tail, only, length, single⟩ := ih 0x80 (n % Nat.pow 64 (following + 1))
    let digit := base + n / Nat.pow 64 (following + 1)
    refine ⟨(digit, digit) :: tail, ?_, by rw [List.length_cons, length],
      List.forall_mem_cons.mpr ⟨rfl, single⟩⟩
    unfold split
    dsimp only
    rw [if_pos rfl, only]
    rfl

/-- The bytes of a character are its digits in the band that it belongs to. -/
theorem exists_band (c : Char) : ∃ band ∈ all, band.first ≤ c.toNat ∧ c.toNat ≤ band.last ∧
    (String.utf8EncodeChar c).map UInt8.toNat = digits band.base band.following c.toNat := by
  have valid : c.toNat < 0xD800 ∨ 0xDFFF < c.toNat ∧ c.toNat < 0x110000 := c.valid
  simp only [all, List.mem_cons, List.not_mem_nil, or_false, exists_eq_or_imp, exists_eq_left]
  unfold String.utf8EncodeChar
  dsimp only
  change _ ∨ _
  rw [Char.toNat_val]
  split_ifs <;> simp [digits] <;> omega

theorem base_eq {band other : Utf8Band} (listed : band ∈ all) (listed' : other ∈ all)
    (same : band.following = other.following) : band.base = other.base := by
  have each : ∀ band ∈ all, ∀ other ∈ all, band.following = other.following →
      band.base = other.base := by decide
  exact each band listed other listed' same

theorem forms_self (n : Nat) (band : Utf8Band) : forms (n, n) band =
    if band.first ≤ n ∧ n ≤ band.last then split band.base band.following n n else [] := by
  unfold forms
  dsimp only
  split_ifs with filled inside inside
  · rw [Nat.max_eq_left inside.1, Nat.min_eq_left inside.2]
  · omega
  · omega
  · rfl

end Utf8Band

/-! ### Branches -/

variable {forms : List ByteForm}

theorem mem_branches {range : Nat × Nat} {tail : ByteForm} :
    (∃ branch ∈ branches forms, branch.1 = range ∧ tail ∈ branch.2) ↔ range :: tail ∈ forms := by
  fun_induction branches forms with
  | case1 => simp
  | case2 forms ih => simpa using ih
  | case3 first rest forms only ih =>
    rw [List.mem_cons, ← ih, only, List.cons.injEq]
    simp [eq_comm]
  | case4 rest forms next tails others known ih =>
    rw [List.mem_cons, ← ih, known, List.cons.injEq]
    simp only [List.mem_cons, exists_eq_or_imp, and_or_left, or_assoc]
    simp only [eq_comm (a := range), and_comm]
  | case5 first rest forms next tails others known differs ih =>
    rw [List.mem_cons, ← ih, known, List.cons.injEq]
    simp only [List.mem_cons, exists_eq_or_imp, List.not_mem_nil, or_false]
    simp only [eq_comm (a := range)]

/-- The length of the longest form; 0 if there is none. -/
def longest (forms : List ByteForm) : Nat := forms.foldr (fun form n => max form.length n) 0

theorem longest_le_iff {n : Nat} : longest forms ≤ n ↔ ∀ form ∈ forms, form.length ≤ n := by
  induction forms with
  | nil => simp [longest]
  | cons form forms ih =>
    rw [List.forall_mem_cons, ← ih]
    exact Nat.max_le

theorem length_le_longest {form : ByteForm} (mem : form ∈ forms) : form.length ≤ longest forms :=
  longest_le_iff.mp (Nat.le_refl _) form mem

theorem exists_length_eq (positive : 0 < longest forms) :
    ∃ form ∈ forms, form.length = longest forms := by
  by_contra! differ
  have shorter : longest forms ≤ longest forms - 1 := by
    refine longest_le_iff.mpr fun form mem => ?_
    have le := length_le_longest mem
    have ne := differ form mem
    omega
  omega

/-- As one form is read that is as long as any, what remains gets shorter byte by byte. -/
theorem exists_longest_eq {steps n : Nat} (short : longest forms ≤ steps)
    (le : n ≤ longest forms) : ∃ rest ∈ remainders steps forms, longest rest = n := by
  induction steps generalizing forms with
  | zero => exact ⟨forms, List.mem_singleton_self _, by omega⟩
  | succ steps ih =>
    rcases Nat.eq_or_lt_of_le le with rfl | less
    · exact ⟨forms, List.mem_cons_self, rfl⟩
    obtain ⟨form, mem, length⟩ := exists_length_eq (Nat.zero_lt_of_lt less)
    rcases form with _ | ⟨range, tail⟩
    · rw [← length] at less
      cases less
    obtain ⟨branch, known, rfl, inside⟩ := mem_branches.mpr mem
    have shorter : longest branch.2 ≤ tail.length := by
      refine longest_le_iff.mpr fun other mem' => ?_
      have le' := length_le_longest (mem_branches.mp ⟨branch, known, rfl, mem'⟩)
      rw [← length, List.length_cons, List.length_cons] at le'
      omega
    have longer := length_le_longest inside
    rw [List.length_cons] at length
    obtain ⟨rest, remains, eq⟩ := @ih branch.2 (by omega) (by omega)
    exact ⟨rest, List.mem_cons_of_mem _ (List.mem_flatMap.mpr ⟨branch, known, remains⟩), eq⟩

theorem longest_lt_length_remainders {steps : Nat} (short : longest forms ≤ steps) :
    longest forms < (remainders steps forms).eraseDups.length := by
  have subset : List.range (longest forms + 1) ⊆
      (remainders steps forms).eraseDups.map longest := by
    intro n mem
    obtain ⟨rest, remains, eq⟩ :=
      exists_longest_eq short (Nat.le_of_lt_succ (List.mem_range.mp mem))
    exact List.mem_map.mpr ⟨rest, List.mem_eraseDups.mpr remains, eq⟩
  have counted := (List.subperm_of_subset List.nodup_range subset).length_le
  rwa [List.length_range, List.length_map] at counted

theorem length_le_beginnings {steps : Nat} {form : ByteForm} (mem : form ∈ forms)
    (short : form.length ≤ steps) : form.length ≤ beginnings steps forms := by
  have part {n : Nat} {all : List ((Nat × Nat) × List ByteForm)} {branch}
      (known : branch ∈ all) : beginnings n branch.2 + 1 ≤
        all.foldr (fun branch count => beginnings n branch.2 + 1 + count) 0 := by
    induction all with
    | nil => cases known
    | cons first all ih =>
      rcases List.mem_cons.mp known with rfl | known
      · exact Nat.le_add_right _ _
      · exact Nat.le_trans (ih known) (Nat.le_add_left _ _)
  induction steps generalizing forms form with
  | zero => exact short
  | succ steps ih =>
    rcases form with _ | ⟨range, tail⟩
    · exact Nat.zero_le _
    obtain ⟨branch, known, rfl, inside⟩ := mem_branches.mpr mem
    exact Nat.le_trans (Nat.succ_le_succ (ih inside (Nat.le_of_succ_le_succ short))) (part known)

/-! ### Sets -/

theorem le_formBytes {form : ByteForm} (short : longest forms ≤ 4) (mem : form ∈ forms)
    (backward : Bool) : stateBytes * form.length ≤ formBytes backward forms := by
  unfold formBytes
  split_ifs with only ascii
  · obtain ⟨own, rfl⟩ := List.length_eq_one_iff.mp (beq_iff_eq.mp (Bool.and_eq_true_iff.mp only).1)
    cases List.mem_singleton.mp mem
    simp
  · have one := List.all_eq_true.mp ascii form mem
    rw [beq_iff_eq.mp one]
    exact Nat.le_add_right _ _
  · have shared := length_le_beginnings mem (Nat.le_trans (length_le_longest mem) short)
    simp only [stateBytes, forkBytes]
    omega
  · have states (rests : List (List ByteForm)) : stateBytes * rests.length ≤
        rests.foldr (fun rest bytes => readBytes (branches rest).length + bytes) 0 := by
      induction rests with
      | nil => exact Nat.le_refl _
      | cons rest rests ih =>
        rw [List.foldr_cons, List.length_cons, Nat.mul_succ, Nat.add_comm]
        exact Nat.add_le_add (Nat.le_add_right _ _) ih
    have le := length_le_longest mem
    have distinct := longest_lt_length_remainders short
    exact Nat.le_trans (Nat.mul_le_mul_left _ (by omega)) (states _)

namespace CharSet

variable {s : CharSet} {c : Char}

theorem longest_forms (s : CharSet) : longest s.forms ≤ 4 := by
  refine longest_le_iff.mpr fun form mem => ?_
  obtain ⟨range, -, mem⟩ := List.mem_flatMap.mp mem
  obtain ⟨band, known, mem⟩ := List.mem_flatMap.mp mem
  have few : ∀ band ∈ Utf8Band.all, band.following ≤ 3 := by decide
  unfold Utf8Band.forms at mem
  dsimp only at mem
  split at mem
  · have := few band known
    rw [Utf8Band.length_of_mem_split mem]
    omega
  · cases mem

/-- The forms of a set cover the bytes of just its characters. -/
theorem covers_forms :
    Covers s.forms ((String.utf8EncodeChar c).map UInt8.toNat) ↔ s.contains c = true := by
  obtain ⟨band, listed, first, last, bytes⟩ := Utf8Band.exists_band c
  rw [bytes, forms, covers_flatMap, contains, has_iff]
  simp only [covers_flatMap, LiesIn]
  refine exists_congr fun range => and_congr_right fun _ => ?_
  unfold Utf8Band.forms
  dsimp only
  constructor
  · rintro ⟨other, listed', covers⟩
    split_ifs at covers with filled
    · have same : other.following = band.following := by
        obtain ⟨form, mem, takes⟩ := covers
        have length := takes.length_eq
        rw [Utf8Band.length_of_mem_split mem, Utf8Band.length_digits] at length
        omega
      rw [← same, ← Utf8Band.base_eq listed' listed same, Utf8Band.covers_split filled] at covers
      omega
    · cases not_covers_nil covers
  · intro inside
    refine ⟨band, listed, ?_⟩
    rw [if_pos (by omega), Utf8Band.covers_split (by omega)]
    omega

/-- A set takes a state for each byte of any character that it contains. -/
theorem le_bytes (mem : s.contains c = true) (backward : Bool) :
    stateBytes * c.utf8Size ≤ formBytes backward s.forms := by
  obtain ⟨form, inside, takes⟩ := covers_forms.mpr mem
  have length := takes.length_eq
  rw [List.length_map, String.length_utf8EncodeChar] at length
  rw [← length]
  exact le_formBytes s.longest_forms inside backward

theorem forms_single (c : Char) : ∃ form, (single c).forms = [form] ∧
    form.length = c.utf8Size ∧ ∀ range ∈ form, range.1 = range.2 := by
  obtain ⟨band, listed, first, last, bytes⟩ := Utf8Band.exists_band c
  have size := congrArg List.length bytes
  rw [List.length_map, String.length_utf8EncodeChar, Utf8Band.length_digits] at size
  obtain ⟨form, only, length, same⟩ := Utf8Band.split_self band.base band.following c.toNat
  refine ⟨form, ?_, length.trans size.symm, same⟩
  have each : (single c).forms = Utf8Band.all.flatMap (Utf8Band.forms (c.toNat, c.toNat)) := by
    simp [CharSet.forms, CharSet.single, ofRanges, insert, empty, addRange]
  -- The bands are apart, so the character has no form in any other one.
  rw [each, ← only]
  simp only [Utf8Band.all, List.mem_cons, List.not_mem_nil, or_false] at listed
  rcases listed with rfl | rfl | rfl | rfl | rfl <;> dsimp only at first last <;>
    simp only [Utf8Band.all, List.flatMap_cons, List.flatMap_nil, Utf8Band.forms_self] <;>
    split_ifs <;> first | omega | simp

/-- A single character takes a state for each of its bytes, and no more. -/
theorem bytes_single (c : Char) (backward : Bool) :
    formBytes backward (single c).forms = stateBytes * c.utf8Size := by
  obtain ⟨form, only, length, same⟩ := forms_single c
  have bytewise : form.all (fun range => range.1 == range.2) = true := by simpa using same
  simp [formBytes, only, bytewise, length]

end CharSet

end Pattern
end LogView
