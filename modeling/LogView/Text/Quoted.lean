import LogView.Unicode.Property

/-!
# Quoted texts

A message that shows a text from outside puts it between quotes and writes in escapes what cannot
be seen: controls, marks that join the character before them, characters without a meaning, and
white space other than the blank.
-/

namespace LogView
namespace Text

/-- The characters that a message does not show as they are. -/
def unseen : Unicode.RangeTable :=
  .join [Unicode.graphemeExtend, Unicode.categories ["cc", "cf", "cn", "co", "zl", "zp", "zs"]]

/-- A code point in hexadecimal digits between braces. -/
def escapeCodePoint (c : Char) : List Char :=
  ['\\', 'u', '\x7b'] ++ Nat.toDigits 16 c.toNat ++ ['\x7d']

def quoteChar (c : Char) : List Char :=
  if c = '\x00' then ['\\', '0']
  else if c = '\t' then ['\\', 't']
  else if c = '\r' then ['\\', 'r']
  else if c = '\n' then ['\\', 'n']
  else if c = '"' then ['\\', '"']
  else if c = '\\' then ['\\', '\\']
  else if c ≠ ' ' && unseen.contains c then escapeCodePoint c
  else [c]

def quoted (text : String) : String :=
  String.ofList ('"' :: text.toList.flatMap quoteChar ++ ['"'])

end Text
end LogView
