import LogView.Proofs.Rule.Term
import LogView.Proofs.Text.Blank
import Mathlib.Tactic.ByContra

/-!
# The grammar of terms

A term is `[join:]kind[/modifier]:pattern`.  Neither a join nor a kind with its modifier holds a
colon, and a kind holds no slash, so a term is cut in one way only, once it is known whether it
begins with a join; and as no kind is called as a join is, the grammar need not say so.  A term
that is not of the grammar is refused for the first part, from the left, that is missing or not
known.
-/

namespace LogView

namespace Text

/-- A stretch of a term says a word, in any case and with any white space around it. -/
def Says (chars : List Char) (word : String) : Prop :=
  ∃ core, TrimsTo chars core ∧ core.map Char.toLower = word.toList

theorem says_iff {chars : List Char} {word : String} :
    Says chars word ↔ lowerAscii (trim (String.ofList chars)) = word := by
  simp [Says, trimsTo_iff, lowerAscii, trim, ← String.toList_inj]

theorem splitOnce_eq_none_iff {sep : Char} {text : List Char} :
    splitOnce sep text = none ↔ sep ∉ text := by
  induction text with
  | nil => simp [splitOnce]
  | cons c text ih =>
    unfold splitOnce
    split
    · next same => simp [same]
    · next apart => simp [ih, Ne.symm apart]

theorem splitOnce_eq_some_iff {sep : Char} {text head rest : List Char} :
    splitOnce sep text = some (head, rest) ↔ sep ∉ head ∧ text = head ++ sep :: rest := by
  constructor
  · intro cut
    induction text generalizing head with
    | nil => simp [splitOnce] at cut
    | cons c text ih =>
      unfold splitOnce at cut
      split at cut
      · next same =>
        cases cut
        simp [same]
      · next apart =>
        obtain ⟨⟨before, behind⟩, found, pair⟩ := Option.map_eq_some_iff.mp cut
        cases pair
        obtain ⟨whole, same⟩ := ih found
        simp [whole, same, Ne.symm apart]
  · rintro ⟨whole, rfl⟩
    exact splitOnce_append whole rest

theorem trimsTo_trim (text : List Char) : TrimsTo text (trim (String.ofList text)).toList := by
  simp [trimsTo_iff, trim]

theorem isEmpty_trim_iff {text : List Char} :
    (trim (String.ofList text)).isEmpty = true ↔ ∀ c ∈ text, c ∈ whiteSpace := by
  obtain ⟨⟨before, after, whole, blank⟩, first, -⟩ := trimsTo_trim text
  rw [String.isEmpty_iff, ← String.toList_eq_nil_iff]
  generalize (trim (String.ofList text)).toList = core at *
  constructor
  · rintro rfl
    rwa [whole, List.append_nil]
  · intro all
    cases core with
    | nil => rfl
    | cons c core => exact absurd (all c (by simp [whole])) (first c rfl)

theorem Says.not_mem {chars : List Char} {word : String} (said : Says chars word) {sign : Char}
    (shown : sign ∉ whiteSpace) (small : sign.toLower = sign) (plain : sign ∉ word.toList) :
    sign ∉ chars := by
  obtain ⟨core, ⟨⟨before, after, rfl, blank⟩, -, -⟩, lowered⟩ := said
  intro mem
  have kept : sign ∈ core := by
    simp only [List.mem_append] at mem blank
    have outside : sign ∉ before ∧ sign ∉ after := by
      exact ⟨fun held => shown (blank sign (.inl held)), fun held => shown (blank sign (.inr held))⟩
    simpa [outside] using mem
  apply plain
  rw [← lowered, ← small]
  exact List.mem_map_of_mem kept

end Text

open Text

namespace Join

/-- A stretch of a term says a join. -/
def SaidBy : Join → List Char → Prop
  | .and, chars => Says chars "and"
  | .or, chars => Says chars "or"

theorem saidBy_iff {join : Join} {chars : List Char} :
    join.SaidBy chars ↔ Says chars join.name := by
  cases join <;> rfl

theorem ofName?_eq_some_iff {chars : List Char} {join : Join} :
    ofName? (trim (String.ofList chars)) = some join ↔ join.SaidBy chars := by
  rw [saidBy_iff, says_iff]
  unfold ofName?
  dsimp only
  split_ifs with and or
  · rw [and]
    cases join <;> simp [name]
  · rw [or]
    cases join <;> simp [name]
  · cases join <;> simp [name, and, or]

theorem ofName?_eq_none_iff {chars : List Char} :
    ofName? (trim (String.ofList chars)) = none ↔ ∀ join : Join, ¬ join.SaidBy chars := by
  rw [Option.eq_none_iff_forall_ne_some]
  exact forall_congr' fun join => not_congr ofName?_eq_some_iff

end Join

namespace Kind

/-- The names that a term may give a kind. -/
def names : Kind → List String
  | .contains => ["include", "inc", "i"]
  | .lacks => ["exclude", "exc", "x"]
  | .startsWith => ["starts_with", "starts", "s"]
  | .endsWith => ["ends_with", "ends", "e"]
  | .regex => ["regex", "re", "r"]

theorem name_cons_shortNames (kind : Kind) : kind.name :: kind.shortNames = kind.names := by
  cases kind <;> rfl

theorem eq_of_mem_names {name : String} {kind other : Kind} (mem : name ∈ kind.names)
    (mem' : name ∈ other.names) : kind = other := by
  revert name
  cases kind <;> cases other <;> decide

theorem name_not_mem_names (join : Join) (kind : Kind) : join.name ∉ kind.names := by
  cases join <;> cases kind <;> decide

/-- A stretch of a term says a name of a kind. -/
def SaidBy (kind : Kind) (chars : List Char) : Prop := ∃ name ∈ kind.names, Says chars name

theorem saidBy_iff {kind : Kind} {chars : List Char} :
    kind.SaidBy chars ↔ lowerAscii (trim (String.ofList chars)) ∈ kind.names := by
  simp [SaidBy, says_iff]

theorem ofName?_eq_some_iff {chars : List Char} {kind : Kind} :
    ofName? (trim (String.ofList chars)) = some kind ↔ kind.SaidBy chars := by
  rw [saidBy_iff]
  unfold ofName?
  dsimp only
  generalize lowerAscii (trim (String.ofList chars)) = name
  have called (other : Kind) : (decide (name = other.name) || other.shortNames.contains name) =
      true ↔ name ∈ other.names := by
    simp [← name_cons_shortNames]
  constructor
  · intro found
    have held := List.find?_some found
    exact (called kind).mp held
  · intro mem
    cases found : all.find? fun other =>
        decide (name = other.name) || other.shortNames.contains name with
    | none =>
      have unknown := List.find?_eq_none.mp found kind (by cases kind <;> decide)
      exact absurd ((called kind).mpr mem) unknown
    | some other =>
      have held := List.find?_some found
      rw [eq_of_mem_names mem ((called other).mp held)]

theorem ofName?_eq_none_iff {chars : List Char} :
    ofName? (trim (String.ofList chars)) = none ↔ ∀ kind : Kind, ¬ kind.SaidBy chars := by
  rw [Option.eq_none_iff_forall_ne_some]
  exact forall_congr' fun kind => not_congr ofName?_eq_some_iff

end Kind

namespace Rule

/-- A term, cut into its parts. -/
structure Wording where
  join : Option (List Char)
  kind : List Char
  modifier : Option (List Char)
  pattern : List Char

namespace Wording

/-- The part from the kind to its colon. -/
def head (wording : Wording) : List Char :=
  wording.kind ++ match wording.modifier with
    | some modifier => '/' :: modifier
    | none => []

def chars (wording : Wording) : List Char :=
  (match wording.join with
    | some join => join ++ [':']
    | none => []) ++ wording.head ++ ':' :: wording.pattern

/-- A term is cut at the colons and the slash that belong to its form, not at later ones. -/
structure Cuts (wording : Wording) (term : List Char) : Prop where
  whole : term = wording.chars
  join : ∀ join ∈ wording.join, ':' ∉ join
  head : ':' ∉ wording.head
  kind : '/' ∉ wording.kind

/-- A modifier says that case counts. -/
def MarksCase (modifier : List Char) : Prop := Says modifier "c" ∨ Says modifier "cs"

/-- What the parts of a term must say, if it is to stand for a rule. -/
structure Means (wording : Wording) (rule : Rule) : Prop where
  join : match wording.join with
    | some word => ∃ join : Join, rule.join = some join ∧ join.SaidBy word
    | none => rule.join = none
  kind : rule.kind.SaidBy wording.kind
  modifier : match wording.modifier with
    | some modifier => rule.caseSensitive = true ∧ MarksCase modifier
    | none => rule.caseSensitive = false
  pattern : rule.pattern = String.ofList wording.pattern
  sounds : ∃ c ∈ wording.pattern, c ∉ Text.whiteSpace

/-- A term is cut as it is read: what stands before its first colon is a join if it says one. -/
structure ReadFrom (wording : Wording) (term : List Char) : Prop extends wording.Cuts term where
  joined : ∀ word ∈ wording.join, ∃ join : Join, join.SaidBy word
  unjoined : wording.join = none → ∀ join : Join, ¬ join.SaidBy wording.head

end Wording

/-- A term is of the grammar, and stands for a rule. -/
def Written (term : List Char) (rule : Rule) : Prop :=
  ∃ wording : Wording, wording.Cuts term ∧ wording.Means rule

/-- A term is refused with a fault. -/
inductive Refused : List Char → TermFault → Prop
  | noKind {term : List Char} (uncut : ':' ∉ term) : Refused term (.noKind (String.ofList term))
  | noKindAfterJoin {word rest : List Char} {join : Join} (whole : ':' ∉ word)
      (said : join.SaidBy word) (uncut : ':' ∉ rest) :
      Refused (word ++ ':' :: rest)
        (.noKindAfterJoin (String.ofList word) (String.ofList (word ++ ':' :: rest)))
  | unknownKind {term name : List Char} {wording : Wording} (read : wording.ReadFrom term)
      (unknown : ∀ kind : Kind, ¬ kind.SaidBy wording.kind) (trims : TrimsTo wording.kind name) :
      Refused term (.unknownKind (String.ofList name))
  | unknownModifier {term modifier name : List Char} {wording : Wording} {kind : Kind}
      (read : wording.ReadFrom term) (known : kind.SaidBy wording.kind)
      (marked : wording.modifier = some modifier) (unknown : ¬ Wording.MarksCase modifier)
      (trims : TrimsTo modifier name) : Refused term (.unknownModifier (String.ofList name))
  | emptyPattern {term : List Char} {wording : Wording} {kind : Kind}
      (read : wording.ReadFrom term) (known : kind.SaidBy wording.kind)
      (marked : ∀ modifier ∈ wording.modifier, Wording.MarksCase modifier)
      (blank : ∀ c ∈ wording.pattern, c ∈ Text.whiteSpace) : Refused term (.emptyPattern kind)

section Reading

variable {term : List Char} {wording : Wording} {kind : Kind}

/-- A kind has no name that a join has, and no name with a slash. -/
theorem Wording.head_not_join (known : kind.SaidBy wording.kind) (join : Join) :
    ¬ join.SaidBy wording.head := by
  intro said
  have unslashed : '/' ∉ wording.head :=
    (Join.saidBy_iff.mp said).not_mem (by decide) (by decide) (by cases join <;> decide)
  unfold head at said unslashed
  cases marked : wording.modifier with
  | some modifier => simp [marked] at unslashed
  | none =>
    rw [marked, List.append_nil, Join.saidBy_iff, says_iff] at said
    rw [Kind.saidBy_iff, said] at known
    exact Kind.name_not_mem_names join kind known

theorem Wording.Means.readFrom {rule : Rule} (means : wording.Means rule)
    (cuts : wording.Cuts term) : wording.ReadFrom term where
  toCuts := cuts
  joined := by
    intro word written
    have join := means.join
    rw [Option.mem_def.mp written] at join
    obtain ⟨join, -, said⟩ := join
    exact ⟨join, said⟩
  unjoined _ := Wording.head_not_join means.kind

theorem readKind_of_saidBy {chars : List Char} (known : kind.SaidBy chars) :
    readKind (trim (String.ofList chars)) = .ok kind := by
  simp [readKind, Kind.ofName?_eq_some_iff.mpr known]

theorem readKind_of_unknown {chars : List Char} (unknown : ∀ kind : Kind, ¬ kind.SaidBy chars) :
    readKind (trim (String.ofList chars)) = .error (.unknownKind (trim (String.ofList chars))) := by
  simp [readKind, Kind.ofName?_eq_none_iff.mpr unknown]

theorem readModifier_of_marksCase {modifier : List Char} (marks : Wording.MarksCase modifier) :
    readModifier modifier = .ok true := by
  simp only [Wording.MarksCase, says_iff] at marks
  simp [readModifier, marks]

theorem readModifier_of_unknown {modifier : List Char} (unknown : ¬ Wording.MarksCase modifier) :
    readModifier modifier = .error (.unknownModifier (trim (String.ofList modifier))) := by
  simp only [Wording.MarksCase, says_iff] at unknown
  simp [readModifier, unknown]

theorem readHead_of_none (unslashed : '/' ∉ wording.kind) (unmarked : wording.modifier = none) :
    readHead wording.head =
      (readKind (trim (String.ofList wording.kind))).bind fun kind => .ok (kind, false) := by
  unfold readHead Wording.head
  rw [unmarked, List.append_nil, splitOnce_eq_none_iff.mpr unslashed]
  rfl

theorem readHead_of_some (unslashed : '/' ∉ wording.kind) {modifier : List Char}
    (marked : wording.modifier = some modifier) :
    readHead wording.head =
      (readKind (trim (String.ofList wording.kind))).bind fun kind =>
        (readModifier modifier).bind fun caseSensitive => .ok (kind, caseSensitive) := by
  unfold readHead Wording.head
  rw [marked]
  dsimp only
  rw [splitOnce_append unslashed]
  rfl

/-- The join that is read from the parts of a term. -/
def Wording.join? (wording : Wording) : Option Join :=
  wording.join.bind fun word => Join.ofName? (trim (String.ofList word))

theorem Wording.ReadFrom.ofTerm_parts (read : wording.ReadFrom term) :
    TermParts.ofTerm (String.ofList term) = .ok ⟨wording.join?, wording.head, wording.pattern⟩ := by
  have unjoined := read.unjoined
  have whole := read.join
  have said := read.joined
  unfold TermParts.ofTerm Wording.join?
  rw [String.toList_ofList, read.whole, Wording.chars]
  cases joined : wording.join with
  | none =>
    have unread : Join.ofName? (trim (String.ofList wording.head)) = none :=
      Join.ofName?_eq_none_iff.mpr (unjoined joined)
    dsimp only
    rw [List.nil_append, splitOnce_append read.head]
    simp [unread]
  | some word =>
    rw [joined] at whole said
    obtain ⟨join, named⟩ := said word rfl
    have found : Join.ofName? (trim (String.ofList word)) = some join :=
      Join.ofName?_eq_some_iff.mpr named
    dsimp only
    rw [List.append_assoc, List.append_assoc, List.singleton_append,
      splitOnce_append (whole word rfl)]
    simp only [found]
    rw [splitOnce_append read.head]
    simp [found]

theorem ofTerm_of_unknownKind (read : wording.ReadFrom term)
    (unknown : ∀ kind : Kind, ¬ kind.SaidBy wording.kind) :
    ofTerm (String.ofList term) = .error (.unknownKind (trim (String.ofList wording.kind))) := by
  have refused : readHead wording.head =
      .error (.unknownKind (trim (String.ofList wording.kind))) := by
    cases marked : wording.modifier with
    | none =>
      rw [readHead_of_none read.kind marked, readKind_of_unknown unknown]
      rfl
    | some modifier =>
      rw [readHead_of_some read.kind marked, readKind_of_unknown unknown]
      rfl
  simp [ofTerm, read.ofTerm_parts, refused, bind, Except.bind]

theorem ofTerm_of_unknownModifier {modifier : List Char} (read : wording.ReadFrom term)
    (known : kind.SaidBy wording.kind) (marked : wording.modifier = some modifier)
    (unknown : ¬ Wording.MarksCase modifier) :
    ofTerm (String.ofList term) = .error (.unknownModifier (trim (String.ofList modifier))) := by
  have refused : readHead wording.head =
      .error (.unknownModifier (trim (String.ofList modifier))) := by
    rw [readHead_of_some read.kind marked, readKind_of_saidBy known,
      readModifier_of_unknown unknown]
    rfl
  simp [ofTerm, read.ofTerm_parts, refused, bind, Except.bind]

theorem readHead_of_known (unslashed : '/' ∉ wording.kind) (known : kind.SaidBy wording.kind)
    (marked : ∀ modifier ∈ wording.modifier, Wording.MarksCase modifier) :
    readHead wording.head = .ok (kind, wording.modifier.isSome) := by
  cases written : wording.modifier with
  | none =>
    rw [readHead_of_none unslashed written, readKind_of_saidBy known]
    rfl
  | some modifier =>
    rw [readHead_of_some unslashed written, readKind_of_saidBy known,
      readModifier_of_marksCase (marked modifier written)]
    rfl

theorem ofTerm_of_known (read : wording.ReadFrom term) (known : kind.SaidBy wording.kind)
    (marked : ∀ modifier ∈ wording.modifier, Wording.MarksCase modifier) :
    ofTerm (String.ofList term) =
      if (trim (String.ofList wording.pattern)).isEmpty then .error (.emptyPattern kind)
      else .ok ⟨wording.join?, kind, String.ofList wording.pattern, wording.modifier.isSome⟩ := by
  simp [ofTerm, read.ofTerm_parts, readHead_of_known read.kind known marked, bind, Except.bind]

namespace Wording

theorem Means.join?_eq {rule : Rule} (means : wording.Means rule) :
    wording.join? = rule.join := by
  have join := means.join
  unfold join?
  cases written : wording.join with
  | none =>
    rw [written] at join
    exact join.symm
  | some word =>
    rw [written] at join
    obtain ⟨join, joins, said⟩ := join
    simp [joins, Join.ofName?_eq_some_iff.mpr said]

theorem Means.marked {rule : Rule} (means : wording.Means rule) :
    (∀ modifier ∈ wording.modifier, MarksCase modifier) ∧
      wording.modifier.isSome = rule.caseSensitive := by
  have modifier := means.modifier
  cases written : wording.modifier with
  | none =>
    rw [written] at modifier
    simp [modifier]
  | some text =>
    rw [written] at modifier
    simp [modifier]

theorem ReadFrom.means (read : wording.ReadFrom term) (known : kind.SaidBy wording.kind)
    (marked : ∀ modifier ∈ wording.modifier, MarksCase modifier)
    (sounds : ∃ c ∈ wording.pattern, c ∉ Text.whiteSpace) :
    wording.Means
      ⟨wording.join?, kind, String.ofList wording.pattern, wording.modifier.isSome⟩ where
  join := by
    have said := read.joined
    unfold join?
    cases written : wording.join with
    | none => rfl
    | some word =>
      rw [written] at said
      obtain ⟨join, named⟩ := said word rfl
      have found : Join.ofName? (trim (String.ofList word)) = some join :=
        Join.ofName?_eq_some_iff.mpr named
      simp only [Option.bind_some, found]
      exact ⟨join, rfl, named⟩
  kind := known
  modifier := by
    cases written : wording.modifier with
    | none => rfl
    | some modifier => exact ⟨rfl, marked modifier written⟩
  pattern := rfl
  sounds := sounds

end Wording

theorem ofTerm_of_written {rule : Rule} (written : Written term rule) :
    ofTerm (String.ofList term) = .ok rule := by
  obtain ⟨wording, cuts, means⟩ := written
  obtain ⟨marked, cased⟩ := means.marked
  have sounds : (trim (String.ofList wording.pattern)).isEmpty = false := by
    rw [Bool.eq_false_iff, Ne, isEmpty_trim_iff]
    obtain ⟨c, mem, shown⟩ := means.sounds
    exact fun blank => shown (blank c mem)
  rw [ofTerm_of_known (means.readFrom cuts) means.kind marked, sounds, means.join?_eq, cased,
    ← means.pattern]
  rfl

theorem ofTerm_of_refused {fault : TermFault} (refused : Refused term fault) :
    ofTerm (String.ofList term) = .error fault := by
  cases refused with
  | noKind uncut =>
    simp [ofTerm, TermParts.ofTerm, splitOnce_eq_none_iff.mpr uncut, bind, Except.bind]
  | noKindAfterJoin whole said uncut =>
    simp [ofTerm, TermParts.ofTerm, splitOnce_append whole, Join.ofName?_eq_some_iff.mpr said,
      splitOnce_eq_none_iff.mpr uncut, bind, Except.bind]
  | unknownKind read unknown trims =>
    have name := ofTerm_of_unknownKind read unknown
    rwa [trim, String.toList_ofList, trimsTo_iff.mp trims] at name
  | unknownModifier read known marked unknown trims =>
    have name := ofTerm_of_unknownModifier read known marked unknown
    rwa [trim, String.toList_ofList, trimsTo_iff.mp trims] at name
  | emptyPattern read known marked blank =>
    rw [ofTerm_of_known read known marked, isEmpty_trim_iff.mpr blank]
    rfl

theorem exists_wording_of_head (join : Option (List Char)) (head pattern : List Char) :
    ∃ wording : Wording, wording.join = join ∧ wording.head = head ∧
      wording.pattern = pattern ∧ '/' ∉ wording.kind := by
  cases cut : splitOnce '/' head with
  | none =>
    have unslashed := splitOnce_eq_none_iff.mp cut
    exact ⟨⟨join, head, none, pattern⟩, rfl, List.append_nil head, rfl, unslashed⟩
  | some parts =>
    obtain ⟨kind, modifier⟩ := parts
    obtain ⟨unslashed, whole⟩ := splitOnce_eq_some_iff.mp cut
    exact ⟨⟨join, kind, some modifier, pattern⟩, rfl, whole.symm, rfl, unslashed⟩

theorem exists_readFrom (term : List Char) :
    (∃ fault, Refused term fault) ∨ ∃ wording : Wording, wording.ReadFrom term := by
  cases first : splitOnce ':' term with
  | none => exact .inl ⟨_, .noKind (splitOnce_eq_none_iff.mp first)⟩
  | some parts =>
    obtain ⟨word, rest⟩ := parts
    obtain ⟨whole, rfl⟩ := splitOnce_eq_some_iff.mp first
    by_cases joins : ∃ join : Join, join.SaidBy word
    · cases second : splitOnce ':' rest with
      | none =>
        obtain ⟨join, said⟩ := joins
        exact .inl ⟨_, .noKindAfterJoin whole said (splitOnce_eq_none_iff.mp second)⟩
      | some parts =>
        obtain ⟨head, pattern⟩ := parts
        obtain ⟨whole', rfl⟩ := splitOnce_eq_some_iff.mp second
        obtain ⟨wording, join, rfl, rfl, unslashed⟩ :=
          exists_wording_of_head (some word) head pattern
        refine .inr ⟨wording, ⟨⟨?_, ?_, whole', unslashed⟩, ?_, ?_⟩⟩
        · simp [Wording.chars, join]
        · simpa [join] using whole
        · simpa [join] using joins
        · simp [join]
    · obtain ⟨wording, join, rfl, rfl, unslashed⟩ := exists_wording_of_head none word rest
      refine .inr ⟨wording, ⟨⟨?_, ?_, whole, unslashed⟩, ?_, ?_⟩⟩
      · simp [Wording.chars, join]
      · simp [join]
      · simp [join]
      · intro _ join said
        exact joins ⟨join, said⟩

theorem written_or_refused (term : List Char) :
    (∃ rule, Written term rule) ∨ ∃ fault, Refused term fault := by
  obtain refused | ⟨wording, read⟩ := exists_readFrom term
  · exact .inr refused
  · by_cases known : ∃ kind : Kind, kind.SaidBy wording.kind
    · obtain ⟨kind, known⟩ := known
      by_cases marked : ∀ modifier ∈ wording.modifier, Wording.MarksCase modifier
      · by_cases sounds : ∃ c ∈ wording.pattern, c ∉ Text.whiteSpace
        · exact .inl ⟨_, wording, read.toCuts, read.means known marked sounds⟩
        · refine .inr ⟨_, .emptyPattern read known marked fun c mem => ?_⟩
          by_contra shown
          exact sounds ⟨c, mem, shown⟩
      · simp only [not_forall] at marked
        obtain ⟨modifier, written, unknown⟩ := marked
        exact .inr ⟨_, .unknownModifier read known written unknown (trimsTo_trim modifier)⟩
    · exact .inr ⟨_, .unknownKind read (not_exists.mp known) (trimsTo_trim wording.kind)⟩

end Reading

/--
Exactly the terms of the grammar are read, each as the rule that its parts say.  Every other term
is refused for the colon that it lacks, or else for a kind that is not known, or else for a
modifier that is not known, or else for a pattern that is blank.
-/
theorem ofTerm_reads_grammar (term : String) :
    (∀ rule, ofTerm term = .ok rule ↔ Written term.toList rule) ∧
      ∀ fault, ofTerm term = .error fault ↔ Refused term.toList fault := by
  have read (rule : Rule) (written : Written term.toList rule) : ofTerm term = .ok rule := by
    simpa using ofTerm_of_written written
  have fails (fault : TermFault) (refused : Refused term.toList fault) :
      ofTerm term = .error fault := by
    simpa using ofTerm_of_refused refused
  obtain ⟨rule, written⟩ | ⟨fault, refused⟩ := written_or_refused term.toList
  · have same := read rule written
    refine ⟨fun other => ⟨fun found => ?_, read other⟩,
      fun fault => ⟨fun failed => ?_, fails fault⟩⟩
    · rw [same] at found
      cases found
      exact written
    · rw [same] at failed
      cases failed
  · have same := fails fault refused
    refine ⟨fun rule => ⟨fun found => ?_, read rule⟩, fun other => ⟨fun failed => ?_, fails other⟩⟩
    · rw [same] at found
      cases found
    · rw [same] at failed
      cases failed
      exact refused

end Rule

end LogView
