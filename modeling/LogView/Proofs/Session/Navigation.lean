import LogView.Proofs.Number.Typed
import LogView.Proofs.Paging.Words
import LogView.Proofs.Session.PageThrough

/-!
# Turning pages

Where one goes to does not depend on where one was: a page that is asked for is held to the pages
that there are, and nothing but the page changes.  So turning to the next page and to the page
before it undo each other wherever there is such a page.  A page number may be typed with as many
digits as one likes, as long as there is a binary value near it.
-/

namespace LogView

namespace Session

/-- An operation gives the number of a page and leads there. -/
structure LandsOn (session : Session) (operation : Operation) (number : Int) : Prop where
  answers : ∃ shown : Nat, (session.perform operation).2 = .ok (.page shown) ∧ shown = number
  shows : (session.perform operation).1.page.number = number

theorem landsOn_of_perform_eq {session : Session} {operation other : Operation} {number : Int}
    (same : session.perform operation = session.perform other)
    (lands : session.LandsOn other number) : session.LandsOn operation number where
  answers := by
    rw [same]
    exact lands.answers
  shows := by
    rw [same]
    exact lands.shows

theorem currentPage_goTo (session : Session) (page : Int) :
    ((session.goTo page).currentPage : Int) = max 1 (min page session.page.totalPages) := by
  have pages := session.one_le_totalPages
  change ((clampPage page session.page.totalPages : Nat) : Int) = _
  unfold clampPage
  omega

theorem number_page_goTo (session : Session) (page : Int) :
    (session.goTo page).page.number = (session.goTo page).currentPage :=
  clampPage_of_le (one_le_clampPage _ _) (clampPage_le _ session.one_le_totalPages)

theorem one_le_number (session : Session) : 1 ≤ session.page.number := one_le_clampPage _ _

theorem number_le (session : Session) : session.page.number ≤ session.page.totalPages :=
  clampPage_le _ session.one_le_totalPages

theorem landsOn_goTo (session : Session) (page : Int) :
    session.LandsOn (.goTo page) (max 1 (min page session.page.totalPages)) where
  answers := ⟨_, rfl, session.currentPage_goTo page⟩
  shows := by
    rw [← currentPage_goTo]
    exact congrArg Nat.cast (session.number_page_goTo page)

theorem landsOn_nextPage (session : Session) :
    session.LandsOn .nextPage (min (session.page.number + 1) session.page.totalPages) := by
  have same : session.perform .nextPage = session.perform (.goTo (session.page.number + 1)) := rfl
  have lands := session.landsOn_goTo (session.page.number + 1)
  have first := session.one_le_number
  have last := session.number_le
  have number : max 1 (min ((session.page.number : Int) + 1) session.page.totalPages) =
      min ((session.page.number : Int) + 1) session.page.totalPages := by omega
  rw [number] at lands
  exact landsOn_of_perform_eq same lands

theorem landsOn_previousPage (session : Session) :
    session.LandsOn .previousPage (max (session.page.number - 1) 1) := by
  have same : session.perform .previousPage = session.perform (.goTo (session.page.number - 1)) :=
    rfl
  have lands := session.landsOn_goTo (session.page.number - 1)
  have last := session.number_le
  have number : max 1 (min ((session.page.number : Int) - 1) session.page.totalPages) =
      max ((session.page.number : Int) - 1) 1 := by omega
  rw [number] at lands
  exact landsOn_of_perform_eq same lands

/-- Without a document there is no page but the first to go to. -/
def AtMostFirst (session : Session) : Prop := session.document = none → session.currentPage ≤ 1

theorem Outcome.atMostFirst {session : Session} {turns : Bool}
    {result : Session × Except SessionFault Answer} (outcome : Outcome session turns result)
    (sync : session.InSync) (first : session.AtMostFirst) : result.1.AtMostFirst := by
  cases outcome with
  | refused status fault => exact first
  | edited document rules paging status answer stays =>
    intro unloaded
    rw [document_refilter] at unloaded
    cases unloaded
    rw [refilter_of_none _ rfl]
    apply first
    cases before : session.document with
    | none => rfl
    | some document => simp [before] at stays
  | turned page answer =>
    intro unloaded
    have unloaded : session.document = none := unloaded
    have vacant := page_of_idle unloaded ((inSync_of_none unloaded).mp sync)
    change clampPage page session.page.totalPages ≤ 1
    rw [vacant]
    exact clampPage_le page (Nat.le_refl 1)
  | stayed answer => exact first

theorem Fresh.atMostFirst {session : Session} (fresh : Fresh session) : session.AtMostFirst := by
  intro _
  cases fresh with
  | blank => exact Nat.zero_le 1
  | paging settings => exact Nat.le_refl 1
  | @rules settings rules _ made =>
    unfold withRules at made
    cases list : RuleList.ofRules rules with
    | error fault => simp [list, bind, Except.bind] at made
    | ok list =>
      rw [list] at made
      cases made
      exact Nat.le_refl 1

theorem Reachable.atMostFirst {session : Session} (reached : Reachable session) :
    session.AtMostFirst := by
  induction reached with
  | fresh start => exact start.atMostFirst
  | step reached operation ih => exact (outcome_perform _ operation).atMostFirst reached.inSync ih

theorem Reachable.currentPage_le {session : Session} (reached : Reachable session) :
    session.currentPage ≤ session.page.totalPages := by
  cases loaded : session.document with
  | none => exact Nat.le_trans (reached.atMostFirst loaded) session.one_le_totalPages
  | some document => exact ((inSync_of_some loaded).mp reached.inSync).2.2

theorem Reachable.totalPages_le {session : Session} (reached : Reachable session) :
    session.page.totalPages ≤ max 1 session.totalLines := by
  have pages : session.page.totalPages ≤ max 1 session.run.kept.length :=
    session.policy.totalPages_le _
  refine Nat.le_trans pages (max_le_max_left 1 ?_)
  cases loaded : session.document with
  | none =>
    rw [(inSync_of_none loaded).mp reached.inSync]
    exact Nat.zero_le _
  | some document =>
    have lines : session.totalLines = document.lines.length := by
      simp [totalLines, loaded, Document.length]
    rw [lines]
    exact (reached.kept_sublist loaded).length_le

theorem Reachable.goTo_number {session : Session} (reached : Reachable session)
    (several : session.page.totalPages ≠ 1) : session.goTo session.page.number = session := by
  have sync := reached.inSync
  cases loaded : session.document with
  | none =>
    rw [page_of_idle loaded ((inSync_of_none loaded).mp sync)] at several
    contradiction
  | some document =>
    obtain ⟨-, first, last⟩ := (inSync_of_some loaded).mp sync
    have shown : session.page.number = session.currentPage := clampPage_of_le first last
    have same : clampPage session.page.number session.page.totalPages = session.currentPage := by
      rw [shown]
      exact clampPage_of_le first last
    unfold goTo
    rw [same]

theorem Reachable.previousPage_nextPage {session : Session} (reached : Reachable session)
    (further : session.page.number ≠ session.page.totalPages) :
    session.nextPage.previousPage = session := by
  have last := session.number_le
  have first := session.one_le_number
  have lands : ((session.nextPage.page.number : Nat) : Int) = session.page.number + 1 := by
    have shows := session.landsOn_nextPage.shows
    rw [min_eq_left (by omega)] at shows
    exact shows
  calc session.nextPage.previousPage
      = session.goTo (session.nextPage.page.number - 1) := rfl
    _ = session.goTo session.page.number := by rw [lands, Int.add_sub_cancel]
    _ = session := reached.goTo_number (by omega)

theorem Reachable.nextPage_previousPage {session : Session} (reached : Reachable session)
    (further : session.page.number ≠ 1) : session.previousPage.nextPage = session := by
  have last := session.number_le
  have first := session.one_le_number
  have lands : ((session.previousPage.page.number : Nat) : Int) = session.page.number - 1 := by
    have shows := session.landsOn_previousPage.shows
    rw [max_eq_left (by omega)] at shows
    exact shows
  calc session.previousPage.nextPage
      = session.goTo (session.previousPage.page.number + 1) := rfl
    _ = session.goTo session.page.number := by rw [lands, Int.sub_add_cancel]
    _ = session := reached.goTo_number (by omega)

theorem perform_jumpTo (session : Session) (text : String) :
    session.perform (.jumpTo text) =
      match typedPageRequest? text with
      | some page => session.perform (.goTo page)
      | none => (session, .ok (.page session.page.number)) := by
  change ((session.jumpTo text).1, Except.ok (Answer.page (session.jumpTo text).2)) = _
  unfold jumpTo
  cases typedPageRequest? text <;> rfl

theorem Outcome.all_but_page {session : Session} {result : Session × Except SessionFault Answer}
    (outcome : Outcome session true result) :
    result.1 = { session with currentPage := result.1.currentPage } := by
  cases outcome with
  | turned page answer => rfl
  | stayed answer => rfl

/--
Where one goes to does not depend on where one was, and it is the page asked for if there is such
a page, else the first or the last one; the next page and the one before lie beside the page that
is shown, no number on the way to them leaves the 64-bit integers, and they undo each other.
Typing a number is going to it, and typing anything else is nothing.  Nothing but the page changes.
-/
theorem navigation_of_reachable {session : Session} (reached : Reachable session)
    (short : session.totalLines < 2 ^ 62) :
    (∀ page : Int, session.LandsOn (.goTo page) (max 1 (min page session.page.totalPages)) ∧
      ∀ other, (session.perform (.goTo page)).1.perform (.goTo other) =
        session.perform (.goTo other)) ∧
    session.LandsOn .nextPage (min (session.page.number + 1) session.page.totalPages) ∧
    session.LandsOn .previousPage (max (session.page.number - 1) 1) ∧
    (FitsInt64 session.currentPage ∧ FitsInt64 session.page.number ∧
      FitsInt64 (session.page.number + 1) ∧ FitsInt64 (session.page.number - 1)) ∧
    (session.page.number ≠ session.page.totalPages →
      ((session.perform .nextPage).1.perform .previousPage).1 = session) ∧
    (session.page.number ≠ 1 →
      ((session.perform .previousPage).1.perform .nextPage).1 = session) ∧
    (∀ text, session.perform (.jumpTo text) =
      match typedPageRequest? text with
      | some page => session.perform (.goTo page)
      | none => (session, .ok (.page session.page.number))) ∧
    ∀ operation, operation.turnsPage = true →
      (session.perform operation).1 =
        { session with currentPage := (session.perform operation).1.currentPage } := by
  have stored := reached.currentPage_le
  have pages := reached.totalPages_le
  have last := session.number_le
  refine ⟨fun page => ⟨session.landsOn_goTo page, fun other => rfl⟩, session.landsOn_nextPage,
    session.landsOn_previousPage, ?_, reached.previousPage_nextPage, reached.nextPage_previousPage,
    session.perform_jumpTo, ?_⟩
  · unfold FitsInt64 minInt64 maxInt64
    omega
  · intro operation turns
    exact (turns ▸ outcome_perform session operation).all_but_page

/-- A session that shows the first of two pages. -/
def firstOfTwo : Session := twoAPage "one\ntwo\nthree\r\nseven"

theorem reachable_firstOfTwo : Reachable firstOfTwo := ((Reachable.fresh (.paging _)).step _).step _

theorem totalPages_firstOfTwo : firstOfTwo.page.totalPages = 2 := by decide +kernel

theorem number_firstOfTwo : firstOfTwo.page.number = 1 := by decide +kernel

/-- A request far beyond two pages, and two that undo each other. -/
theorem navigation_of_two_pages :
    firstOfTwo.totalLines < 2 ^ 62 ∧ firstOfTwo.LandsOn (.goTo maxInt64) 2 ∧
      ((firstOfTwo.perform .nextPage).1.perform .previousPage).1 = firstOfTwo := by
  have short : firstOfTwo.totalLines < 2 ^ 62 := by decide +kernel
  have further : firstOfTwo.page.number ≠ firstOfTwo.page.totalPages := by
    rw [number_firstOfTwo, totalPages_firstOfTwo]
    decide
  obtain ⟨lands, -, -, -, undone, -⟩ := navigation_of_reachable reachable_firstOfTwo short
  have far := (lands maxInt64).1
  rw [totalPages_firstOfTwo] at far
  exact ⟨short, far, undone further⟩

/--
Digits lead to the page that they write, held to the pages that there are, and with any white space
around them, as long as the number that they write is not beyond the range of binary values; else
nothing happens.
-/
theorem jumpTo_digits (session : Session) (few : session.page.totalPages ≤ 2 ^ 53)
    (before digits after : List Char) (nonempty : digits ≠ [])
    (all : ∀ c ∈ digits, c.isDigit = true)
    (blank : ∀ c ∈ before, Text.isBlank c = true) (blank' : ∀ c ∈ after, Text.isBlank c = true) :
    (Nat.ofDigitChars 10 digits 0 < Binary64.leastBeyond →
      session.LandsOn (.jumpTo (String.ofList (before ++ digits ++ after)))
        (max 1 (min (Nat.ofDigitChars 10 digits 0 : Nat) session.page.totalPages))) ∧
      (Binary64.leastBeyond ≤ Nat.ofDigitChars 10 digits 0 →
        session.perform (.jumpTo (String.ofList (before ++ digits ++ after))) =
          (session, .ok (.page session.page.number))) := by
  obtain ⟨inside, beyond⟩ := typedNumber?_whole before digits after nonempty all blank blank'
  have typed := session.perform_jumpTo (String.ofList (before ++ digits ++ after))
  unfold typedPageRequest? at typed
  constructor
  · intro within
    obtain ⟨number, found, near⟩ := inside within
    rw [found] at typed
    have lands := session.landsOn_goTo number
    have same : max 1 (min number session.page.totalPages) =
        max 1 (min (Nat.ofDigitChars 10 digits 0 : Int) session.page.totalPages) := by
      omega
    rw [same] at lands
    exact landsOn_of_perform_eq typed lands
  · intro large
    rw [beyond large] at typed
    exact typed

/-- Page seven of two, typed with zeros before it and white space around it. -/
theorem jumpTo_seven : firstOfTwo.LandsOn (.jumpTo "\t007 \n") 2 := by
  have few : firstOfTwo.page.totalPages ≤ 2 ^ 53 := by
    rw [totalPages_firstOfTwo]
    decide
  have seven : Nat.ofDigitChars 10 ['0', '0', '7'] 0 = 7 := by decide +kernel
  have digits : ∀ c ∈ ['0', '0', '7'], c.isDigit = true := by simp
  have before : ∀ c ∈ ['\t'], Text.isBlank c = true := by simp [Text.isBlank]
  have after : ∀ c ∈ [' ', '\n'], Text.isBlank c = true := by simp [Text.isBlank]
  have lands := (firstOfTwo.jumpTo_digits few ['\t'] ['0', '0', '7'] [' ', '\n'] (by simp) digits
    before after).1 (by decide +kernel)
  rw [totalPages_firstOfTwo, seven] at lands
  exact lands

/-- The first of two pages stays although 309 nines are typed. -/
theorem nines_ignored :
    Reachable firstOfTwo ∧ firstOfTwo.page.totalPages = 2 ∧
      firstOfTwo.perform (.jumpTo (String.ofList (List.replicate 309 '9'))) =
        (firstOfTwo, .ok (.page 1)) ∧
      ¬ firstOfTwo.LandsOn (.jumpTo (String.ofList (List.replicate 309 '9')))
        (max 1 (min (Nat.ofDigitChars 10 (List.replicate 309 '9') 0 : Nat) 2)) := by
  have nonempty : List.replicate 309 '9' ≠ [] := List.cons_ne_nil _ _
  have digits : ∀ c ∈ List.replicate 309 '9', c.isDigit = true := by
    intro c mem
    rw [List.eq_of_mem_replicate mem]
    rfl
  have large : Binary64.leastBeyond ≤ Nat.ofDigitChars 10 (List.replicate 309 '9') 0 := by
    decide +kernel
  have ignored := (typedNumber?_whole [] (List.replicate 309 '9') [] nonempty digits
    (List.forall_mem_nil _) (List.forall_mem_nil _)).2 large
  rw [List.nil_append, List.append_nil] at ignored
  have typed := firstOfTwo.perform_jumpTo (String.ofList (List.replicate 309 '9'))
  rw [typedPageRequest?, ignored, number_firstOfTwo] at typed
  refine ⟨reachable_firstOfTwo, totalPages_firstOfTwo, typed, fun lands => ?_⟩
  have shows := lands.shows
  rw [typed, number_firstOfTwo] at shows
  have reach := Binary64.two_pow_le_leastBeyond
  omega

end Session
end LogView
