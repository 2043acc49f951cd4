import LogView.Document
import LogView.Number.Typed

/-!
# Pages

The lines that were kept are shown one page at a time.  A short document, or any document when
paging is off, is shown on a single page; else pages have a fixed size, and the last one may be
shorter.  A page that is asked for outside the range is the nearest one in it.
-/

namespace LogView

/-- The page size where none, or none that can be used, is asked for. -/
def defaultPageSize : Nat := 200

structure PagingSettings where
  enabled : Bool
  pageSize : Option Int
  /-- Documents with at most this many lines are shown on a single page. -/
  singlePageThreshold : Nat
  deriving Repr, DecidableEq, Inhabited

/-- How lines are cut into pages. -/
inductive PagePolicy where
  | single
  | fixed (size : Nat)
  deriving Repr, DecidableEq, Inhabited

namespace PagingSettings

def standard : PagingSettings := ⟨true, some defaultPageSize, 2000⟩

def effectivePageSize (settings : PagingSettings) : Nat :=
  match settings.pageSize with
  | some size => if 0 < size then size.toNat else defaultPageSize
  | none => defaultPageSize

/-- How a document of a length is cut.  All its lines count, kept or not. -/
def policyFor (settings : PagingSettings) (documentLength : Nat) : PagePolicy :=
  if !settings.enabled || documentLength ≤ settings.singlePageThreshold then .single
  else .fixed settings.effectivePageSize

end PagingSettings

/-- A page size as typed, if it can be used. -/
def typedPageSize? (text : String) : Option Int :=
  (typedNumber? text).filter fun size => 0 < size

def typedPageRequest? (text : String) : Option Int := typedNumber? text

/-- The page in range that is nearest to the one asked for. -/
def clampPage (requested : Int) (totalPages : Nat) : Nat :=
  max 1 (min requested.toNat totalPages)

/-- A stretch of the lines that were kept. -/
structure Page where
  /-- Counted from one. -/
  number : Nat
  size : Nat
  totalPages : Nat
  /-- How many kept lines come before the page. -/
  start : Nat
  lines : List LogLine
  deriving Repr, DecidableEq

namespace PagePolicy

def sizeFor (policy : PagePolicy) (length : Nat) : Nat :=
  match policy with
  | .single => max length 1
  | .fixed size => max size 1

def totalPages (policy : PagePolicy) (length : Nat) : Nat :=
  match policy with
  | .single => 1
  | .fixed size => max 1 ((length + max size 1 - 1) / max size 1)

end PagePolicy

/-- The page of kept lines that is nearest to the one asked for. -/
def paginate (kept : List LogLine) (policy : PagePolicy) (requested : Int) : Page :=
  let size := policy.sizeFor kept.length
  let total := policy.totalPages kept.length
  let number := clampPage requested total
  let start := min ((number - 1) * size) kept.length
  ⟨number, size, total, start, (kept.drop start).take size⟩

namespace Page

/-- The place, counted from one, of a line of the page among all kept lines. -/
def displayIndex (page : Page) (index : Nat) : Nat := page.start + index + 1

def text (page : Page) : String :=
  Text.joinLines (page.lines.map LogLine.text)

end Page

end LogView
