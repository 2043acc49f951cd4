/-!
# Reading bytes as text

A byte sequence that is not well-formed UTF-8 is still read: each maximal part that could
begin a character but does not go on as one, and each byte that can begin none, becomes one
replacement character.
-/

namespace LogView
namespace Text

def replacement : Char := '\uFFFD'

def isContinuation (b : UInt8) : Bool := 0x80 ≤ b && b ≤ 0xBF

/-- The low six bits of a continuation byte. -/
def payload (b : UInt8) : Nat := b.toNat % 64

/--
The bytes that may follow the first byte of a character of three or four bytes: the first
one excludes over-long forms, surrogates and numbers beyond the last code point.
-/
def secondByteOk (first second : UInt8) : Bool :=
  if first = 0xE0 then 0xA0 ≤ second && second ≤ 0xBF
  else if first = 0xED then 0x80 ≤ second && second ≤ 0x9F
  else if first = 0xF0 then 0x90 ≤ second && second ≤ 0xBF
  else if first = 0xF4 then 0x80 ≤ second && second ≤ 0x8F
  else isContinuation second

/-- The character that begins with `first`, and how many of the bytes after it belong to it. -/
def decodeStep (first : UInt8) (rest : List UInt8) : Char × Nat :=
  if first < 0x80 then (Char.ofNat first.toNat, 0)
  else if 0xC2 ≤ first && first ≤ 0xDF then
    match rest with
    | b :: _ =>
      if isContinuation b then (Char.ofNat ((first.toNat % 32) * 64 + payload b), 1)
      else (replacement, 0)
    | [] => (replacement, 0)
  else if 0xE0 ≤ first && first ≤ 0xEF then
    match rest with
    | b :: c :: _ =>
      if !secondByteOk first b then (replacement, 0)
      else if !isContinuation c then (replacement, 1)
      else (Char.ofNat (((first.toNat % 16) * 64 + payload b) * 64 + payload c), 2)
    | [b] => (replacement, if secondByteOk first b then 1 else 0)
    | [] => (replacement, 0)
  else if 0xF0 ≤ first && first ≤ 0xF4 then
    match rest with
    | b :: c :: d :: _ =>
      if !secondByteOk first b then (replacement, 0)
      else if !isContinuation c then (replacement, 1)
      else if !isContinuation d then (replacement, 2)
      else
        (Char.ofNat ((((first.toNat % 8) * 64 + payload b) * 64 + payload c) * 64 + payload d), 3)
    | [b, c] =>
      (replacement, if !secondByteOk first b then 0 else if isContinuation c then 2 else 1)
    | [b] => (replacement, if secondByteOk first b then 1 else 0)
    | [] => (replacement, 0)
  else (replacement, 0)

def decodeBytes (rev : List Char) : List UInt8 → List Char
  | [] => rev.reverse
  | first :: rest =>
    let (c, used) := decodeStep first rest
    decodeBytes (c :: rev) (rest.drop used)
termination_by bytes => bytes.length
decreasing_by simp only [List.length_drop, List.length_cons]; omega

/-- The text of a file's bytes: exact where they are UTF-8, patched up otherwise. -/
def decodeLossy (bytes : ByteArray) : String :=
  (String.fromUTF8? bytes).getD (String.ofList (decodeBytes [] bytes.toList))

end Text
end LogView
