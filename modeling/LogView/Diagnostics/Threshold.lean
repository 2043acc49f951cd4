import LogView.Diagnostics.Event
import LogView.Text.Blank
import LogView.Unicode.Property

/-!
# Which records are shown

A threshold lets events through up to a weight, which may differ for parts of the program: of all
entries that speak about a part, the one with the longest name decides.  Thresholds are written as
entries such as `info` or `log_lens::session=debug`, separated by commas.
-/

namespace LogView

structure ThresholdEntry where
  /-- How the names of the parts begin that it speaks about. -/
  part : String
  /-- The greatest rank of the weights that it lets through. -/
  rank : Nat
  deriving Repr, DecidableEq

/-- The entries that decide which events are shown. -/
structure Threshold where
  entries : List ThresholdEntry
  deriving Repr, DecidableEq

namespace Threshold

/-- The threshold that lets through everything up to a rank. -/
def upTo (rank : Nat) : Threshold := ⟨[⟨"", rank⟩]⟩

/-- The rank that a word stands for: a weight, `off`, or a number. -/
def rank? (word : String) : Option Nat :=
  let plain := Text.lowerAscii word
  if plain = "off" then some 0
  else if word.length = 1 && word.all fun c => '0' ≤ c && c ≤ '5' then word.toNat?
  else (Weight.all.find? fun weight => Text.lowerAscii weight.word = plain).map Weight.rank

def isNameChar (c : Char) : Bool :=
  c = '-' || c = ':' || Unicode.wordTable.contains c

/-- Reads an entry: a rank, a part, or both. -/
def readEntry? (text : List Char) : Option ThresholdEntry :=
  let named (name : List Char) (rank : Nat) : Option ThresholdEntry :=
    if name.isEmpty || !name.all isNameChar then none else some ⟨String.ofList name, rank⟩
  match Text.splitOnce '=' text with
  | some (name, []) => named name Weight.trace.rank
  | some (name, word) => (rank? (String.ofList word)).bind (named name)
  | none =>
    match rank? (String.ofList text) with
    | some rank => some ⟨"", rank⟩
    | none => named text Weight.trace.rank

/-- Reads entries; without any, errors are let through. -/
def read? (text : String) : Option Threshold :=
  let words := (text.toList.splitOn ',').filter fun word => !word.isEmpty
  (words.mapM readEntry?).map fun entries =>
    if entries.isEmpty then upTo Weight.error.rank else ⟨entries⟩

/-- The better of two entries: the one with the longer name, and of equal names the later. -/
def better (best : Option ThresholdEntry) (entry : ThresholdEntry) : Option ThresholdEntry :=
  match best with
  | some other =>
    if entry.part.utf8ByteSize < other.part.utf8ByteSize then some other else some entry
  | none => some entry

def shows (threshold : Threshold) (event : Event) : Bool :=
  let entries := threshold.entries.filter fun entry => event.part.startsWith entry.part
  match entries.foldl better none with
  | some entry => event.weight.rank ≤ entry.rank
  | none => false

end Threshold

end LogView
