import LogView.Proofs.Markup
import Mathlib.Data.List.TakeWhile
import Mathlib.Data.Set.Operations

/-!
# Entities

Escaping and reading entities back undo each other: reading back undoes escaping on every text, and
escaping undoes reading back on the texts that escaping writes.  Entities are replaced once, from
left to right, so that what was written for one is not read again.  It makes no difference whether
the text is gone through character by character or from one ampersand to the next.
-/

namespace LogView
namespace Markup

/-- Whether a text begins with one of the five entities. -/
def BeginsEntity (text : List Char) : Prop := ∃ c ∈ specials, escapeChar c <+: text

/--
A text with its entities replaced by the characters that they stand for: at each place an entity is
taken as a whole, and any other character stays.
-/
inductive Replaced : List Char → List Char → Prop
  | nil : Replaced [] []
  | entity {c : Char} {rest read : List Char} (special : c ∈ specials)
      (behind : Replaced rest read) : Replaced (escapeChar c ++ rest) (c :: read)
  | other {c : Char} {rest read : List Char} (plain : ¬ BeginsEntity (c :: rest))
      (behind : Replaced rest read) : Replaced (c :: rest) (c :: read)

/-- A text that escaping writes: its ampersands begin entities, and nothing else is special. -/
structure IsEscaped (text : List Char) : Prop where
  bare : ∀ c ∈ text, c ∈ specials → c = '&'
  entity : ∀ behind, '&' :: behind <:+ text → BeginsEntity ('&' :: behind)

/-! ### One entity or one character -/

theorem escapeChar_of_special {c : Char} (special : c ∈ specials) :
    ∃ name, escapeChar c = '&' :: name ∧ ∀ d ∈ name, d ∉ specials := by
  simp only [specials, List.mem_cons, List.not_mem_nil, or_false] at special
  obtain rfl | rfl | rfl | rfl | rfl := special <;> exact ⟨_, rfl, by simp [specials]⟩

theorem beginsEntity_escapeChar {c : Char} (special : c ∈ specials) (rest : List Char) :
    BeginsEntity (escapeChar c ++ rest) :=
  ⟨c, special, List.prefix_append _ rest⟩

theorem unescapeChars_other {c : Char} {rest : List Char} (plain : ¬ BeginsEntity (c :: rest)) :
    unescapeChars (c :: rest) = c :: unescapeChars rest := by
  have taken (d : Char) (special : d ∈ specials) (behind : List Char)
      (same : c :: rest = escapeChar d ++ behind) : False :=
    plain (same ▸ beginsEntity_escapeChar special behind)
  conv => lhs; unfold unescapeChars
  split
  · exact (taken '&' (by decide) _ ‹_›).elim
  · exact (taken '<' (by decide) _ ‹_›).elim
  · exact (taken '>' (by decide) _ ‹_›).elim
  · exact (taken '"' (by decide) _ ‹_›).elim
  · exact (taken '\'' (by decide) _ ‹_›).elim
  · rename_i same
    cases same
    rfl
  · contradiction

/-- Reading back replaces the entities of a text, a place at a time. -/
theorem replaced_unescapeChars (text : List Char) : Replaced text (unescapeChars text) := by
  cases text with
  | nil => exact .nil
  | cons c rest =>
    by_cases begins : BeginsEntity (c :: rest)
    · obtain ⟨d, special, behind, same⟩ := begins
      rw [← same, unescapeChars_escapeChar]
      exact .entity special (replaced_unescapeChars behind)
    · rw [unescapeChars_other begins]
      exact .other begins (replaced_unescapeChars rest)
termination_by text.length
decreasing_by
  · obtain ⟨name, entity, -⟩ := escapeChar_of_special special
    rw [← same, entity, List.cons_append, List.length_cons, List.length_append]
    omega
  · exact Nat.lt_succ_self rest.length

theorem replaced_iff {text read : List Char} : Replaced text read ↔ unescapeChars text = read := by
  constructor
  · intro replaced
    induction replaced with
    | nil => rfl
    | entity special _ ih => rw [unescapeChars_escapeChar, ih]
    | other plain _ ih => rw [unescapeChars_other plain, ih]
  · rintro rfl
    exact replaced_unescapeChars text

/-! ### The texts that escaping writes -/

theorem isEscaped_nil : IsEscaped [] where
  bare := nofun
  entity := by
    intro behind suffix
    cases List.eq_nil_of_suffix_nil suffix

theorem isEscaped_cons {c : Char} {rest : List Char} :
    IsEscaped (c :: rest) ↔
      (c ∈ specials → c = '&' ∧ BeginsEntity (c :: rest)) ∧ IsEscaped rest := by
  constructor
  · intro escaped
    refine ⟨fun special => ?_, ?_, ?_⟩
    · have amp := escaped.bare c List.mem_cons_self special
      subst amp
      exact ⟨rfl, escaped.entity rest List.suffix_rfl⟩
    · exact fun d mem => escaped.bare d (List.mem_cons_of_mem c mem)
    · exact fun behind suffix => escaped.entity behind (suffix.trans (List.suffix_cons c rest))
  · rintro ⟨first, escaped⟩
    constructor
    · intro d mem special
      rcases List.mem_cons.mp mem with rfl | mem
      · exact (first special).1
      · exact escaped.bare d mem special
    · intro behind suffix
      rcases List.suffix_cons_iff.mp suffix with same | suffix
      · cases same
        exact (first (by decide)).2
      · exact escaped.entity behind suffix

theorem isEscaped_plain_append {text rest : List Char} (plain : ∀ c ∈ text, c ∉ specials) :
    IsEscaped (text ++ rest) ↔ IsEscaped rest := by
  induction text with
  | nil => rfl
  | cons c text ih =>
    obtain ⟨head, tail⟩ := List.forall_mem_cons.mp plain
    rw [List.cons_append, isEscaped_cons, ih tail]
    exact and_iff_right fun special => absurd special head

/-- A character is escaped on its own: what stands behind it decides about the rest. -/
theorem isEscaped_escapeChar_append (c : Char) (rest : List Char) :
    IsEscaped (escapeChar c ++ rest) ↔ IsEscaped rest := by
  by_cases special : c ∈ specials
  · obtain ⟨name, entity, plain⟩ := escapeChar_of_special special
    have begins := beginsEntity_escapeChar special rest
    rw [entity, List.cons_append] at begins ⊢
    rw [isEscaped_cons, isEscaped_plain_append plain]
    exact and_iff_right fun _ => ⟨rfl, begins⟩
  · rw [escapeChar_of_plain special]
    refine isEscaped_plain_append ?_
    rw [List.forall_mem_singleton]
    exact special

theorem isEscaped_escaped (text : List Char) : IsEscaped (text.flatMap escapeChar) := by
  induction text with
  | nil => exact isEscaped_nil
  | cons c text ih =>
    rw [List.flatMap_cons, isEscaped_escapeChar_append]
    exact ih

/-- Escaping what was read back writes the text that was read. -/
theorem Replaced.escaped {text read : List Char} (replaced : Replaced text read)
    (escaped : IsEscaped text) : read.flatMap escapeChar = text := by
  induction replaced with
  | nil => rfl
  | @entity c rest read special _ ih =>
    rw [List.flatMap_cons, ih ((isEscaped_escapeChar_append c rest).mp escaped)]
  | @other c rest read plain _ ih =>
    obtain ⟨first, behind⟩ := isEscaped_cons.mp escaped
    have unspecial : c ∉ specials := fun special => plain (first special).2
    rw [List.flatMap_cons, escapeChar_of_plain unspecial, ih behind]
    rfl

theorem escape_unescape {text : String} (escaped : IsEscaped text.toList) :
    escape (unescape text) = text := by
  rw [← String.toList_inj, toList_escape, unescape, String.toList_ofList]
  exact (replaced_unescapeChars text.toList).escaped escaped

theorem unescape_escape (text : String) : unescape (escape text) = text := by
  rw [unescape, toList_escape, unescapeChars_escaped, String.ofList_toList]

theorem escape_append (first second : String) :
    escape (first ++ second) = escape first ++ escape second := by
  rw [← String.toList_inj]
  simp

theorem range_escape : Set.range escape = {text | IsEscaped text.toList} := by
  ext text
  constructor
  · rintro ⟨source, rfl⟩
    rw [Set.mem_ofPred_eq, toList_escape]
    exact isEscaped_escaped source.toList
  · exact fun escaped => ⟨unescape text, escape_unescape escaped⟩

/-! ### From one ampersand to the next -/

theorem unescapeChars_plain_append {text : List Char} (plain : '&' ∉ text) (rest : List Char) :
    unescapeChars (text ++ rest) = text ++ unescapeChars rest := by
  induction text with
  | nil => rfl
  | cons c text ih =>
    obtain ⟨head, tail⟩ := List.ne_and_not_mem_of_not_mem_cons plain
    rw [List.cons_append, unescapeChars_cons head.symm, ih tail, List.cons_append]

/-- A text that is being read back: what was read, and what is left. -/
structure Reading where
  read : List Char
  left : List Char

namespace Reading

/--
Reads on to the next ampersand and takes the entity there, or the ampersand alone if there is none;
gives nothing where no ampersand is left.
-/
def round? (reading : Reading) : Option Reading :=
  let before := reading.left.takeWhile (· ≠ '&')
  match reading.left.dropWhile (· ≠ '&') with
  | [] => none
  | c :: rest =>
    match specials.find? fun special => (escapeChar special).isPrefixOf (c :: rest) with
    | some special =>
      some ⟨reading.read ++ before ++ [special], (c :: rest).drop (escapeChar special).length⟩
    | none => some ⟨reading.read ++ before ++ [c], rest⟩

/-- The rounds that a reading goes on for, and the text that it ends with. -/
inductive Ends : Reading → Nat → List Char → Prop
  | stop {reading : Reading} (idle : reading.round? = none) :
      Ends reading 0 (reading.read ++ reading.left)
  | round {reading next : Reading} {rounds : Nat} {text : List Char}
      (made : reading.round? = some next) (ends : Ends next rounds text) :
      Ends reading (rounds + 1) text

/-- What one round takes: plain text, and then an entity or an ampersand that begins none. -/
inductive Takes (reading next : Reading) : Prop
  | entity {before : List Char} {c : Char} (plain : '&' ∉ before) (special : c ∈ specials)
      (left : reading.left = before ++ (escapeChar c ++ next.left))
      (read : next.read = reading.read ++ before ++ [c])
  | ampersand {before : List Char} (plain : '&' ∉ before)
      (other : ¬ BeginsEntity ('&' :: next.left))
      (left : reading.left = before ++ '&' :: next.left)
      (read : next.read = reading.read ++ before ++ ['&'])

theorem plain_takeWhile (text : List Char) : '&' ∉ text.takeWhile (· ≠ '&') := by
  intro mem
  simpa using List.mem_takeWhile_imp mem

theorem not_mem_of_round? {reading : Reading} (idle : reading.round? = none) :
    '&' ∉ reading.left := by
  unfold round? at idle
  dsimp only at idle
  split at idle
  · rename_i none
    intro mem
    simpa using List.dropWhile_eq_nil_iff.mp none '&' mem
  · split at idle <;> cases idle

theorem takes_of_round? {reading next : Reading} (made : reading.round? = some next) :
    Takes reading next := by
  have cut : reading.left.takeWhile (· ≠ '&') ++ reading.left.dropWhile (· ≠ '&') = reading.left :=
    List.takeWhile_append_dropWhile
  have plain := plain_takeWhile reading.left
  unfold round? at made
  dsimp only at made
  split at made
  · cases made
  · rename_i c rest found
    rw [found] at cut
    have amp : c = '&' := by
      have stops := List.head?_dropWhile_not (· ≠ '&') reading.left
      rw [found] at stops
      simpa using stops
    subst amp
    split at made
    · rename_i special named
      cases made
      have begins := List.find?_some named
      obtain ⟨behind, same⟩ := List.isPrefixOf_iff_prefix.mp begins
      have left : (('&' :: rest).drop (escapeChar special).length) = behind := by
        rw [← same, List.drop_left]
      refine .entity plain (List.mem_of_find?_eq_some named) ?_ rfl
      dsimp only
      rw [left, same, cut]
    · rename_i none
      cases made
      refine .ampersand plain ?_ cut.symm rfl
      rintro ⟨special, mem, begins⟩
      exact List.find?_eq_none.mp none special mem (List.isPrefixOf_iff_prefix.mpr begins)

theorem Takes.keeps {reading next : Reading} (takes : Takes reading next) :
    next.read ++ unescapeChars next.left = reading.read ++ unescapeChars reading.left := by
  cases takes with
  | entity plain special left read =>
    rw [left, read, unescapeChars_plain_append plain, unescapeChars_escapeChar]
    simp
  | ampersand plain none left read =>
    rw [left, read, unescapeChars_plain_append plain, unescapeChars_other none]
    simp

theorem Takes.fewer {reading next : Reading} (takes : Takes reading next) :
    next.left.count '&' < reading.left.count '&' := by
  cases takes with
  | entity plain special left read =>
    obtain ⟨name, entity, -⟩ := escapeChar_of_special special
    rw [left, entity, List.cons_append, List.count_append, List.count_cons_self, List.count_append]
    omega
  | ampersand plain none left read =>
    rw [left, List.count_append, List.count_cons_self]
    omega

/-- There are no more rounds than ampersands, and they come to what reading back gives. -/
theorem exists_ends (reading : Reading) :
    ∃ rounds ≤ reading.left.count '&',
      reading.Ends rounds (reading.read ++ unescapeChars reading.left) := by
  cases made : reading.round? with
  | none =>
    have plain := unescapeChars_plain_append (not_mem_of_round? made) []
    rw [List.append_nil, unescapeChars, List.append_nil] at plain
    rw [plain]
    exact ⟨0, Nat.zero_le _, .stop made⟩
  | some next =>
    have takes := takes_of_round? made
    have fewer := takes.fewer
    obtain ⟨rounds, few, ends⟩ := exists_ends next
    rw [takes.keeps] at ends
    exact ⟨rounds + 1, by omega, .round made ends⟩
termination_by reading.left.count '&'
decreasing_by exact (takes_of_round? made).fewer

end Reading

/--
Reading back undoes escaping, escaping goes character by character, and the texts that it writes
are those that escaping what they say writes again.  On any text whatever the entities are replaced
once, from left to right, in no more rounds than there are ampersands.
-/
theorem escape_and_unescape :
    (∀ text, unescape (escape text) = text) ∧
      (∀ first second, escape (first ++ second) = escape first ++ escape second) ∧
      Set.range escape = {text | IsEscaped text.toList} ∧
      (∀ text, IsEscaped text.toList → escape (unescape text) = text) ∧
      (∀ text read, Replaced text.toList read.toList ↔ unescape text = read) ∧
      ∀ text : String, ∃ rounds ≤ text.toList.count '&',
        Reading.Ends ⟨[], text.toList⟩ rounds (unescape text).toList := by
  refine ⟨unescape_escape, escape_append, range_escape, fun text => escape_unescape, ?_, ?_⟩
  · intro text read
    rw [replaced_iff, unescape, ← String.toList_inj, String.toList_ofList]
  · intro text
    have ends := Reading.exists_ends ⟨[], text.toList⟩
    rwa [unescape, String.toList_ofList]

/-- An escaped entity is read back as the entity, and what is read is not read again. -/
theorem escape_unescape_once :
    IsEscaped "&amp;lt;".toList ∧ escape (unescape "&amp;lt;") = "&amp;lt;" ∧
      unescape "&amp;lt;" = "&lt;" := by
  have escaped : IsEscaped "&amp;lt;".toList := isEscaped_escaped "&lt;".toList
  obtain ⟨-, -, -, again, -⟩ := escape_and_unescape
  exact ⟨escaped, again "&amp;lt;" escaped, by decide +kernel⟩

end Markup
end LogView
