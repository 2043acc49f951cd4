import LogView.Proofs.Token.Scan
import LogView.View.Levels
import Mathlib.Algebra.GroupWithZero.Nat
import Mathlib.Data.List.Nodup

/-!
# How severe the lines are

The counts of severities part the lines: every line is counted once, with the severity that it
names first or with those that name none.  So it makes no difference in which order lines come, and
counts of lines that are put together add up.  The report lists the counts under the words for the
severities, no two of which are the same.
-/

namespace LogView

/-- How many lines name a severity first, or none. -/
def naming (severity : Option Severity) (lines : List LogLine) : Nat :=
  lines.countP fun line => Token.firstLevel? line.text = severity

namespace Severity

/-- Counts of severities in their order, without those that count nothing. -/
def tally (counts : Severity → Nat) (severities : List Severity) : List (Severity × Nat) :=
  (severities.filter fun severity => counts severity ≠ 0).map fun severity =>
    (severity, counts severity)

theorem mem_all (severity : Severity) : severity ∈ all := by
  cases severity <;> decide

theorem all_ordered : all.Pairwise fun a b => a.rank < b.rank := by decide

theorem ne_of_rank_lt {first second : Severity} (before : first.rank < second.rank) :
    first ≠ second := by
  rintro rfl
  exact Nat.lt_irrefl _ before

theorem word_injective : Function.Injective word := by
  intro first second same
  have known := ofWord?_word first
  rw [same, ofWord?_word] at known
  exact (Option.some.inj known).symm

section Tally

variable {counts other : Severity → Nat} {severities : List Severity}

theorem mem_tally {severity : Severity} {count : Nat} :
    (severity, count) ∈ tally counts severities ↔
      severity ∈ severities ∧ counts severity ≠ 0 ∧ count = counts severity := by
  unfold tally
  constructor
  · intro mem
    obtain ⟨named, listed, same⟩ := List.mem_map.mp mem
    cases same
    obtain ⟨inside, counted⟩ := List.mem_filter.mp listed
    exact ⟨inside, of_decide_eq_true counted, rfl⟩
  · rintro ⟨inside, counted, rfl⟩
    exact List.mem_map.mpr ⟨severity, List.mem_filter.mpr ⟨inside, decide_eq_true counted⟩, rfl⟩

theorem map_fst_tally :
    (tally counts severities).map Prod.fst =
      severities.filter fun severity => counts severity ≠ 0 := by
  unfold tally
  rw [List.map_map]
  exact List.map_id _

theorem tally_cons (severity : Severity) :
    tally counts (severity :: severities) =
      if counts severity = 0 then tally counts severities
      else (severity, counts severity) :: tally counts severities := by
  unfold tally
  rw [List.filter_cons]
  by_cases zero : counts severity = 0 <;> simp [zero]

theorem tally_congr (same : ∀ severity ∈ severities, counts severity = other severity) :
    tally counts severities = tally other severities := by
  induction severities with
  | nil => rfl
  | cons severity severities ih =>
    obtain ⟨head, tail⟩ := List.forall_mem_cons.mp same
    rw [tally_cons, tally_cons, head, ih tail]

theorem countOne_of_lt {severity : Severity} {levels : List (Severity × Nat)}
    (before : ∀ entry ∈ levels, severity.rank < entry.1.rank) :
    severity.countOne levels = (severity, 1) :: levels := by
  cases levels with
  | nil => rfl
  | cons entry levels =>
    have less := before entry List.mem_cons_self
    rw [countOne, if_neg (ne_of_rank_lt less), if_pos less]

theorem countOne_tally (ordered : severities.Pairwise fun a b => a.rank < b.rank)
    {severity : Severity} (mem : severity ∈ severities) :
    severity.countOne (tally counts severities) =
      tally (fun other => counts other + if severity = other then 1 else 0) severities := by
  induction severities with
  | nil => cases mem
  | cons first severities ih =>
    obtain ⟨before, ordered⟩ := List.pairwise_cons.mp ordered
    rw [tally_cons, tally_cons]
    by_cases here : severity = first
    · subst here
      have rest : tally (fun other => counts other + if severity = other then 1 else 0)
          severities = tally counts severities := by
        refine tally_congr fun other mem => ?_
        rw [if_neg (ne_of_rank_lt (before other mem)), Nat.add_zero]
      rw [rest, if_pos rfl, if_neg (Nat.succ_ne_zero _)]
      split_ifs with zero
      · rw [countOne_of_lt, zero]
        intro entry mem
        exact before entry.1 (mem_tally.mp mem).1
      · rw [countOne, if_pos rfl]
    · have behind : severity ∈ severities := (List.mem_cons.mp mem).resolve_left here
      rw [if_neg here, Nat.add_zero, ← ih ordered behind]
      split_ifs with zero
      · rfl
      · have less := before severity behind
        rw [countOne, if_neg here, if_neg (by omega)]

theorem sum_tally : ((tally counts severities).map Prod.snd).sum = (severities.map counts).sum := by
  induction severities with
  | nil => rfl
  | cons severity severities ih =>
    rw [tally_cons, List.map_cons, List.sum_cons, ← ih]
    split_ifs with zero
    · rw [zero, Nat.zero_add]
    · rw [List.map_cons, List.sum_cons]

theorem lookup_tally {severity : Severity} :
    (tally counts severities).lookup severity =
      if severity ∈ severities ∧ counts severity ≠ 0 then some (counts severity) else none := by
  induction severities with
  | nil => rfl
  | cons first severities ih =>
    rw [tally_cons]
    by_cases here : severity = first
    · subst here
      by_cases zero : counts severity = 0
      · rw [if_pos zero, ih]
        simp [zero]
      · rw [if_neg zero, List.lookup_cons_self]
        simp [zero]
    · have differs : (severity == first) = false := beq_false_of_ne here
      rw [apply_ite (List.lookup severity), List.lookup_cons, differs, ite_self, ih]
      simp [here]

end Tally

end Severity

theorem naming_cons (severity : Option Severity) (line : LogLine) (lines : List LogLine) :
    naming severity (line :: lines) =
      naming severity lines + if Token.firstLevel? line.text = severity then 1 else 0 := by
  simp [naming, List.countP_cons]

theorem sum_naming (lines : List LogLine) :
    (Severity.all.map fun severity => naming (some severity) lines).sum + naming none lines =
      lines.length := by
  induction lines with
  | nil => rfl
  | cons line lines ih =>
    simp only [naming_cons, List.length_cons, ← ih]
    cases Token.firstLevel? line.text with
    | none => simp [Severity.all]; omega
    | some severity => cases severity <;> simp [Severity.all] <;> omega

namespace LevelCounts

/-- Counting lines adds to each count how many of them name its severity first. -/
theorem foldl_add {counts : LevelCounts} {known : Severity → Nat}
    (levels : counts.levels = Severity.tally known Severity.all) (lines : List LogLine) :
    lines.foldl add counts =
      { counts with
        levels := Severity.tally (fun severity => known severity + naming (some severity) lines)
          Severity.all
        unleveled := counts.unleveled + naming none lines } := by
  induction lines generalizing counts known with
  | nil =>
    cases counts
    cases levels
    rfl
  | cons line lines ih =>
    rw [List.foldl_cons]
    simp only [naming_cons]
    cases named : Token.firstLevel? line.text with
    | none =>
      have counted : counts.add line = { counts with unleveled := counts.unleveled + 1 } := by
        rw [add, named]
      have same : (counts.add line).levels = Severity.tally known Severity.all := by
        rw [counted, levels]
      rw [ih same, counted]
      simp [Nat.add_assoc, Nat.add_comm]
    | some severity =>
      have counted : counts.add line =
          { counts with levels := severity.countOne counts.levels } := by
        rw [add, named]
      have same : (counts.add line).levels = Severity.tally
          (fun other => known other + if severity = other then 1 else 0) Severity.all := by
        rw [counted, levels]
        exact Severity.countOne_tally Severity.all_ordered severity.mem_all
      rw [ih same, counted]
      simp [Nat.add_assoc, Nat.add_comm]

theorem ofLines_eq (total : Nat) (lines : List LogLine) :
    ofLines total lines =
      ⟨total, lines.length,
        Severity.tally (fun severity => naming (some severity) lines) Severity.all,
        naming none lines⟩ := by
  have empty : ([] : List (Severity × Nat)) = Severity.tally (fun _ => 0) Severity.all := by decide
  rw [ofLines, foldl_add empty]
  simp only [Nat.zero_add]

/--
There is one count for each severity that some line names first, in the order of severity, and it
tells how many lines name it first.
-/
structure CountEach (counts : LevelCounts) (lines : List LogLine) : Prop where
  ordered : (counts.levels.map Prod.fst).Pairwise fun a b => a.rank < b.rank
  levels : ∀ severity count, (severity, count) ∈ counts.levels ↔
    (∃ line ∈ lines, Token.firstLevel? line.text = some severity) ∧
      count = lines.countP fun line => Token.firstLevel? line.text = some severity
  unleveled : counts.unleveled =
    lines.countP fun line => Token.firstLevel? line.text = none

/-- Counts that are the sums of two others, entry by entry. -/
structure IsSum (counts first second : LevelCounts) : Prop where
  totalLines : counts.totalLines = first.totalLines + second.totalLines
  filteredLines : counts.filteredLines = first.filteredLines + second.filteredLines
  levels : ∀ severity, counts.levels.lookup severity =
    Option.merge (· + ·) (first.levels.lookup severity) (second.levels.lookup severity)
  unleveled : counts.unleveled = first.unleveled + second.unleveled

theorem naming_ne_zero {severity : Option Severity} {lines : List LogLine} :
    naming severity lines ≠ 0 ↔ ∃ line ∈ lines, Token.firstLevel? line.text = severity := by
  unfold naming
  rw [← Nat.pos_iff_ne_zero, List.countP_pos_iff]
  simp only [decide_eq_true_eq]

theorem countEach_ofLines (total : Nat) (lines : List LogLine) :
    (ofLines total lines).CountEach lines := by
  rw [ofLines_eq]
  constructor
  case ordered =>
    rw [Severity.map_fst_tally]
    exact Severity.all_ordered.filter _
  case levels =>
    intro severity count
    rw [Severity.mem_tally, naming_ne_zero]
    exact and_iff_right severity.mem_all
  case unleveled => rfl

theorem isSum_ofLines (total total' : Nat) (lines lines' : List LogLine) :
    (ofLines (total + total') (lines ++ lines')).IsSum (ofLines total lines)
      (ofLines total' lines') := by
  rw [ofLines_eq, ofLines_eq, ofLines_eq]
  constructor
  case totalLines => rfl
  case filteredLines => exact List.length_append
  case levels =>
    intro severity
    have added : naming (some severity) (lines ++ lines') =
        naming (some severity) lines + naming (some severity) lines' := List.countP_append
    simp only [Severity.lookup_tally, severity.mem_all, true_and, added]
    generalize naming (some severity) lines = count
    generalize naming (some severity) lines' = count'
    split_ifs <;> simp <;> omega
  case unleveled => exact List.countP_append

theorem ofLines_perm (total : Nat) {lines lines' : List LogLine} (same : lines.Perm lines') :
    ofLines total lines = ofLines total lines' := by
  have counts (severity : Option Severity) : naming severity lines = naming severity lines' :=
    same.countP_eq _
  rw [ofLines_eq, ofLines_eq, same.length_eq]
  simp only [counts]

/-- The counts under the words for their severities, in the order of the words. -/
def named (counts : LevelCounts) : List (String × Nat) :=
  (byWord counts.levels).map fun (severity, count) => (severity.word, count)

theorem quoted_word (severity : Severity) :
    Json.quoted severity.word = "\"" ++ severity.word ++ "\"" := by
  cases severity <;> decide +kernel

theorem renderFields_levels (depth : Nat) (levels : List (Severity × Nat)) :
    Json.renderFields depth (levels.map fun (severity, count) => (severity.word, .number count)) =
      levels.map fun (severity, count) =>
        "\"" ++ severity.word ++ "\": " ++ toString count := by
  induction levels with
  | nil => rw [List.map_nil, List.map_nil, Json.renderFields]
  | cons entry levels ih =>
    rw [List.map_cons, List.map_cons, Json.renderFields, ih, quoted_word, Json.render]
    simp [String.append_assoc]

/-- The text that lists the counts by name. -/
def listing (counts : LevelCounts) : String :=
  "\x7b\n  \"filtered_lines\": " ++ toString counts.filteredLines ++
    ",\n  \"levels\": " ++
    Json.enclose "\x7b" "\x7d" 1 (counts.named.map fun (word, count) =>
      "\"" ++ word ++ "\": " ++ toString count) ++
    ",\n  \"total_lines\": " ++ toString counts.totalLines ++
    ",\n  \"unleveled\": " ++ toString counts.unleveled ++ "\n\x7d"

theorem print_report (counts : LevelCounts) : counts.report.print = counts.listing := by
  have outer : Json.margin 1 = "\n  " := by decide +kernel
  have last : Json.margin 0 = "\n" := by decide +kernel
  unfold report Json.print listing named
  simp only [Json.render, Json.renderFields, renderFields_levels, List.map_map, Function.comp_def]
  generalize Json.enclose "\x7b" "\x7d" (0 + 1) _ = levels
  rw [← String.toList_inj]
  simp [Json.enclose, Json.quoted, Json.escapeChar, outer, last, String.intercalate_cons_cons]

/-- A report lists every count once, under the word for its severity. -/
structure ReportsEach (counts : LevelCounts) : Prop where
  entries : counts.named.Perm (counts.levels.map fun (severity, count) => (severity.word, count))
  names : (counts.named.map Prod.fst).Nodup
  text : counts.report.print = counts.listing

theorem CountEach.reportsEach {counts : LevelCounts} {lines : List LogLine}
    (each : counts.CountEach lines) : counts.ReportsEach := by
  have entries : counts.named.Perm
      (counts.levels.map fun (severity, count) => (severity.word, count)) :=
    (List.mergeSort_perm _ _).map _
  refine ⟨entries, ?_, print_report counts⟩
  have words : (counts.levels.map fun (severity, count) => (severity.word, count)).map Prod.fst =
      (counts.levels.map Prod.fst).map Severity.word := by
    simp [Function.comp_def]
  have keys : (counts.levels.map Prod.fst).Nodup :=
    each.ordered.imp Severity.ne_of_rank_lt
  rw [(entries.map Prod.fst).nodup_iff, words]
  exact keys.map Severity.word_injective

/--
Every line is counted once, and so the counts together are as many as the lines: a severity has a
count exactly if some line names it first, and then it is the number of such lines.  Counts of lines
that are put together add up, the order of lines makes no difference, and the report lists each
count under the word for its severity.
-/
theorem level_counts_partition (total : Nat) (lines : List LogLine) :
    (ofLines total lines).totalLines = total ∧
      (ofLines total lines).filteredLines = lines.length ∧
      ((ofLines total lines).levels.map Prod.snd).sum + (ofLines total lines).unleveled =
        lines.length ∧
      (ofLines total lines).CountEach lines ∧
      (∀ total' lines', (ofLines (total + total') (lines ++ lines')).IsSum (ofLines total lines)
        (ofLines total' lines')) ∧
      (∀ lines', lines.Perm lines' → ofLines total lines' = ofLines total lines) ∧
      (ofLines total lines).ReportsEach := by
  have each := countEach_ofLines total lines
  refine ⟨?_, ?_, ?_, each, fun total' => isSum_ofLines total total' lines,
    fun lines' same => (ofLines_perm total same).symm, each.reportsEach⟩
  · rw [ofLines_eq]
  · rw [ofLines_eq]
  · rw [ofLines_eq, Severity.sum_tally, sum_naming]

/-- Four lines in their order and in reverse; the second one counts for its first severity only. -/
theorem level_counts_reversed :
    ofLines 10 (logLines "INFO a\nERROR b WARN\nWARNING c\nnothing").reverse =
      ⟨10, 4, [(.info, 1), (.warning, 1), (.error, 1)], 1⟩ := by
  obtain ⟨-, -, -, -, -, reordered, -⟩ :=
    level_counts_partition 10 (logLines "INFO a\nERROR b WARN\nWARNING c\nnothing")
  rw [reordered _ (List.reverse_perm _).symm]
  decide +kernel

end LevelCounts
end LogView
