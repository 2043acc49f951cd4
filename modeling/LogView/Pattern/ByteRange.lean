import LogView.Pattern.CharSet

/-!
# Sets of characters byte by byte

An automaton reads a character as the bytes of its UTF-8 form.  A set of characters falls apart
into forms: ranges of bytes, one for each byte, any of whose combinations is a character of the
set.  Read forwards, all forms whose remaining ranges are the same share their states; read
backwards, forms share states as far as their first ranges are the same.
-/

namespace LogView
namespace Pattern

/-- Ranges of bytes, first and last, one for each byte of a character. -/
abbrev ByteForm := List (Nat × Nat)

/-- Code points whose forms have the same length: how many bytes follow the first, and its base. -/
structure Utf8Band where
  first : Nat
  last : Nat
  following : Nat
  base : Nat

namespace Utf8Band

/-- All code points that are characters. -/
def all : List Utf8Band :=
  [⟨0, 0x7F, 0, 0⟩, ⟨0x80, 0x7FF, 1, 0xC0⟩, ⟨0x800, 0xD7FF, 2, 0xE0⟩, ⟨0xE000, 0xFFFF, 2, 0xE0⟩,
    ⟨0x10000, 0x10FFFF, 3, 0xF0⟩]

/-- The form of a first byte in a range before any following ones, if the range is not empty. -/
def between (following first last : Nat) : List ByteForm :=
  if first ≤ last then [(first, last) :: List.replicate following (0x80, 0xBF)] else []

/--
The forms of the numbers from `low` to `high`, written with `following` digits to base 64 behind
the first digit, to which `base` is added.
-/
def split (base : Nat) : (following low high : Nat) → List ByteForm
  | 0, low, high => [[(base + low, base + high)]]
  | following + 1, low, high =>
    let unit := Nat.pow 64 (following + 1)
    let behind (digit low high : Nat) : List ByteForm :=
      (split 0x80 following low high).map ((base + digit, base + digit) :: ·)
    let (a, b) := (low / unit, high / unit)
    if a = b then behind a (low % unit) (high % unit)
    else
      -- A first digit that not all digits may follow has forms of its own, and so has a last one.
      let front := if low % unit = 0 then [] else behind a (low % unit) (unit - 1)
      let back := if high % unit = unit - 1 then [] else behind b 0 (high % unit)
      let a' := if low % unit = 0 then a else a + 1
      let b' := if high % unit = unit - 1 then b else b - 1
      front ++ between (following + 1) (base + a') (base + b') ++ back

/-- The forms of the code points of a range that have the length of the band. -/
def forms (range : Nat × Nat) (band : Utf8Band) : List ByteForm :=
  let (low, high) := (max range.1 band.first, min range.2 band.last)
  if low ≤ high then split band.base band.following low high else []

end Utf8Band

/-- Puts neighbours together that begin with the same range: that range, and what follows it. -/
def branches : List ByteForm → List ((Nat × Nat) × List ByteForm)
  | [] => []
  | [] :: forms => branches forms
  | (range :: tail) :: forms =>
    match branches forms with
    | [] => [(range, [tail])]
    | (next, tails) :: rest =>
      if next = range then (range, tail :: tails) :: rest
      else (range, [tail]) :: (next, tails) :: rest

/-- What remains to be read of forms after any number of bytes up to `steps`. -/
def remainders : (steps : Nat) → List ByteForm → List (List ByteForm)
  | 0, forms => [forms]
  | steps + 1, forms =>
    forms :: (branches forms).flatMap fun branch => remainders steps branch.2

/-- How many beginnings forms have, the empty one apart, of at most `steps` bytes. -/
def beginnings : (steps : Nat) → List ByteForm → Nat
  | 0, _ => 0
  | steps + 1, forms =>
    (branches forms).foldr (fun branch count => beginnings steps branch.2 + 1 + count) 0

def CharSet.forms (s : CharSet) : List ByteForm :=
  s.ranges.flatMap fun range => Utf8Band.all.flatMap (Utf8Band.forms range)

end Pattern
end LogView
