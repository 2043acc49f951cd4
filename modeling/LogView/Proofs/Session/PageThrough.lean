import LogView.Proofs.Annotation.Lossless
import LogView.Proofs.Document
import LogView.Proofs.Filter.Tests
import LogView.Proofs.Session.InSync

/-!
# Paging through a session

Going from the first page to the last one shows every kept line once, in order, with the number
that it has in the document and the number that it has among the kept lines, and shows it as it
stands in the document.
-/

namespace LogView

theorem getElem?_shownFrom (highlight : Option Pattern) (before : Nat) (lines : List LogLine)
    (i : Nat) :
    (shownFrom highlight before lines)[i]? =
      lines[i]?.map fun line =>
        ⟨line.number, before + i + 1, annotate line.text highlight⟩ := by
  induction lines generalizing before i with
  | nil => rfl
  | cons line lines ih =>
    cases i with
    | zero => rfl
    | succ i =>
      have place : before + (i + 1) + 1 = before + 1 + i + 1 := by omega
      rw [place]
      exact ih (before + 1) i

theorem length_shownFrom (highlight : Option Pattern) (before : Nat) (lines : List LogLine) :
    (shownFrom highlight before lines).length = lines.length := by
  induction lines generalizing before with
  | nil => rfl
  | cons line lines ih => rw [shownFrom, List.length_cons, List.length_cons, ih]

theorem map_number_shownFrom (highlight : Option Pattern) (before : Nat) (lines : List LogLine) :
    (shownFrom highlight before lines).map ShownLine.number = lines.map LogLine.number := by
  induction lines generalizing before with
  | nil => rfl
  | cons line lines ih => rw [shownFrom, List.map_cons, List.map_cons, ih]

theorem shownFrom_stretch (highlight : Option Pattern) (lines : List LogLine) (start size : Nat) :
    shownFrom highlight start ((lines.drop start).take size) =
      ((shownFrom highlight 0 lines).drop start).take size := by
  refine List.ext_getElem? fun i => ?_
  rw [getElem?_shownFrom, List.getElem?_take, List.getElem?_take]
  split_ifs with inside
  · rw [List.getElem?_drop, List.getElem?_drop, getElem?_shownFrom]
    simp
  · rfl

namespace Session

/-- All that is shown while pages are gone to, one after the other. -/
def leaf (session : Session) : List Int → List ShownLine
  | [] => []
  | page :: pages => (session.goTo page).shownLines ++ (session.goTo page).leaf pages

/-- All that is shown from the first page to the last one. -/
def pageThrough (session : Session) : List ShownLine :=
  session.leaf ((List.range session.page.totalPages).map fun k => ((k + 1 : Nat) : Int))

theorem goTo_goTo (session : Session) (page other : Int) :
    (session.goTo page).goTo other = session.goTo other := rfl

theorem leaf_eq (session : Session) (pages : List Int) :
    session.leaf pages = pages.flatMap fun page => (session.goTo page).shownLines := by
  induction pages generalizing session with
  | nil => rfl
  | cons page pages ih => simp only [leaf, ih, goTo_goTo, List.flatMap_cons]

/-- All kept lines, shown on one page. -/
def unpaged (session : Session) : List ShownLine :=
  shownFrom session.run.highlight 0 session.run.kept

theorem length_unpaged (session : Session) : session.unpaged.length = session.filteredLines :=
  length_shownFrom ..

theorem getElem_unpaged {session : Session} {i : Nat} (inside : i < session.unpaged.length) :
    ∃ line, session.run.kept[i]? = some line ∧
      session.unpaged[i] =
        ⟨line.number, i + 1, annotate line.text session.run.highlight⟩ := by
  have shown := getElem?_shownFrom session.run.highlight 0 session.run.kept i
  rw [Nat.zero_add] at shown
  obtain ⟨line, found, same⟩ :=
    Option.map_eq_some_iff.mp (shown.symm.trans (List.getElem?_eq_getElem inside))
  exact ⟨line, found, same.symm⟩

theorem shownLines_eq (session : Session) :
    session.shownLines = (session.unpaged.drop session.page.start).take session.page.size :=
  shownFrom_stretch ..

theorem start_page (session : Session) :
    session.page.start =
      min ((session.page.number - 1) * session.page.size) session.unpaged.length := by
  rw [length_unpaged]
  rfl

theorem number_goTo (session : Session) {page : Nat} (first : 1 ≤ page)
    (last : page ≤ session.page.totalPages) : (session.goTo page).page.number = page := by
  have gone : (session.goTo page).currentPage = page := clampPage_of_le first last
  change clampPage (session.goTo page).currentPage session.page.totalPages = page
  rw [gone]
  exact clampPage_of_le first last

theorem shownLines_goTo (session : Session) {k : Nat} (inside : k < session.page.totalPages) :
    (session.goTo (k + 1 : Nat)).shownLines =
      (session.unpaged.drop (k * session.page.size)).take session.page.size := by
  have number := session.number_goTo (Nat.le_add_left 1 k) inside
  have start := (session.goTo (k + 1 : Nat)).start_page
  rw [number, Nat.add_sub_cancel] at start
  rw [shownLines_eq, start]
  change (session.unpaged.drop (min (k * session.page.size) session.unpaged.length)).take
    session.page.size = _
  obtain within | beyond := Nat.le_total (k * session.page.size) session.unpaged.length
  · rw [Nat.min_eq_left within]
  · rw [Nat.min_eq_right beyond, List.drop_length, List.drop_eq_nil_of_le beyond]

/-- Paging through shows what one page for all would show. -/
theorem pageThrough_eq_unpaged (session : Session) : session.pageThrough = session.unpaged := by
  have enough : session.unpaged.length ≤ session.page.totalPages * session.page.size := by
    rw [length_unpaged]
    exact session.policy.length_le _
  calc session.pageThrough
      = (List.range session.page.totalPages).flatMap fun k =>
          (session.goTo (k + 1 : Nat)).shownLines := by
        rw [pageThrough, leaf_eq, List.flatMap_map]
    _ = (List.range session.page.totalPages).flatMap fun k =>
          (session.unpaged.drop (k * session.page.size)).take session.page.size :=
        List.flatMap_congr fun k mem => session.shownLines_goTo (List.mem_range.mp mem)
    _ = session.unpaged := by
        rw [flatMap_stretches, List.take_of_length_le enough]

theorem Reachable.kept_sublist {session : Session} (reached : Reachable session)
    {document : Document} (loaded : session.document = some document) :
    session.run.kept.Sublist document.lines := by
  rw [((inSync_of_some loaded).mp reached.inSync).1, Run.kept_ofRules]
  exact LogView.kept_sublist document.lines session.rules.rules

theorem Reachable.mem_lines_of_mem_page {session : Session}
    (reached : Reachable session) {name text : String}
    (loaded : session.document = some (.ofText name text)) {line : LogLine}
    (mem : line ∈ session.page.lines) : line.text ∈ Text.lines text := by
  have kept : line ∈ session.run.kept := List.mem_of_mem_drop (List.mem_of_mem_take mem)
  have found := (reached.kept_sublist loaded).subset kept
  rw [← map_text_logLines]
  exact List.mem_map_of_mem found

/--
Paging through a session shows every kept line once: the line at place `i` is the kept line at
place `i` and is numbered so, its number is that of a line of the document, and its pieces are the
text of that line.  Numbers grow from line to line.
-/
theorem paged_through_kept {session : Session} (reached : Reachable session) {name text : String}
    (loaded : session.document = some (.ofText name text)) :
    session.pageThrough.length = session.filteredLines ∧
      (∀ i (inside : i < session.pageThrough.length),
        session.pageThrough[i].displayIndex = i + 1 ∧
        session.run.kept[i]?.map LogLine.number = some session.pageThrough[i].number ∧
        1 ≤ session.pageThrough[i].number ∧
        (logLines text)[session.pageThrough[i].number - 1]?.map LogLine.text =
          some session.pageThrough[i].content.plain) ∧
      (session.pageThrough.map ShownLine.number).Pairwise (· < ·) := by
  have kept : session.run.kept.Sublist (logLines text) := reached.kept_sublist loaded
  rw [pageThrough_eq_unpaged]
  refine ⟨session.length_unpaged, fun i inside => ?_, ?_⟩
  · obtain ⟨line, found, shown⟩ := getElem_unpaged inside
    obtain ⟨first, stands⟩ := getElem?_of_mem_logLines (kept.subset (List.mem_of_getElem? found))
    rw [shown, found, stands, plain_annotate]
    exact ⟨rfl, rfl, first, rfl⟩
  · rw [unpaged, map_number_shownFrom, List.pairwise_map]
    exact (pairwise_logLines text).sublist kept

/-- A session that views a text two lines a page and looks for what holds an `e`. -/
def twoAPage (text : String) : Session :=
  (((withPaging ⟨true, some 2, 1⟩).perform (.load (.ofText "app.log" text))).1.perform
    (.addRule (.ofKind .contains "e"))).1

/-- Three of four lines on two pages, the last one shorter than the first. -/
theorem paged_through_three :
    (twoAPage "one\ntwo\nthree\r\nseven").pageThrough.length = 3 ∧
      ((twoAPage "one\ntwo\nthree\r\nseven").pageThrough.map ShownLine.number).Pairwise
        (· < ·) := by
  have reached : Reachable (twoAPage "one\ntwo\nthree\r\nseven") :=
    ((Reachable.fresh (.paging _)).step _).step _
  have paged := paged_through_kept reached rfl
  have three : (twoAPage "one\ntwo\nthree\r\nseven").filteredLines = 3 := by decide +kernel
  exact ⟨paged.1.trans three, paged.2.2⟩

end Session
end LogView
