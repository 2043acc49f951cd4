import LogView.Pattern.Expr
import LogView.Pattern.Fault
import LogView.Pattern.Node
import LogView.Unicode.Query

/-!
# What a pattern means

Flags hold from where they are set to the end of the group, through later alternatives too.  With
the Unicode flag a class holds characters of all scripts and case is ignored by simple case
folding; without it a class holds ASCII characters, and whatever could match a part of a character
is refused.  Case is ignored before a class is negated, and on both sides of an operator.
-/

namespace LogView
namespace Pattern

structure Mode where
  ignoreCase : Bool := false
  multiLine : Bool := false
  dotMatchesNewline : Bool := false
  swapGreed : Bool := false
  unicode : Bool := true
  crlf : Bool := false
  deriving Repr, DecidableEq

namespace Mode

def set (mode : Mode) (setting : Flag × Bool) : Mode :=
  match setting with
  | (.ignoreCase, on) => { mode with ignoreCase := on }
  | (.multiLine, on) => { mode with multiLine := on }
  | (.dotMatchesNewline, on) => { mode with dotMatchesNewline := on }
  | (.swapGreed, on) => { mode with swapGreed := on }
  | (.unicode, on) => { mode with unicode := on }
  | (.crlf, on) => { mode with crlf := on }
  | (.verbose, _) => mode

def setAll (mode : Mode) (settings : FlagSettings) : Mode :=
  settings.foldl set mode

/-- A set closed under case, where case is ignored. -/
def closeCase (mode : Mode) (set : CharSet) : CharSet :=
  if !mode.ignoreCase then set
  else if mode.unicode then set.foldCase
  else set.foldAsciiCase

/-- A set or its negation.  Without the Unicode flag the negation holds parts of characters. -/
def negate (mode : Mode) (negated : Bool) (set : CharSet) : Except Fault CharSet :=
  if !negated then .ok set
  else if mode.unicode then .ok set.compl
  else .error .invalidUtf8

/-- The character of a literal, which may not be a byte beyond ASCII. -/
def charOf (mode : Mode) (literal : Literal) : Except Fault Char :=
  if !mode.unicode && literal.asByte && 0x80 ≤ literal.char.toNat then .error .invalidUtf8
  else .ok literal.char

/-- The character of a literal in a class, which must be ASCII without the Unicode flag. -/
def memberOf (mode : Mode) (literal : Literal) : Except Fault Char := do
  let c ← mode.charOf literal
  if !mode.unicode && 0x80 ≤ c.toNat then .error .unicodeNotAllowed else .ok c

end Mode

namespace CharSet

def ofBounds (bounds : List (Char × Char)) : CharSet :=
  .ofRanges (bounds.map fun (first, last) => (first.toNat, last.toNat))

end CharSet

def AsciiClass.set : AsciiClass → CharSet
  | .alnum => .ofBounds [('0', '9'), ('A', 'Z'), ('a', 'z')]
  | .alpha => .ofBounds [('A', 'Z'), ('a', 'z')]
  | .ascii => .ofBounds [('\x00', '\x7f')]
  | .blank => .ofBounds [('\t', '\t'), (' ', ' ')]
  | .cntrl => .ofBounds [('\x00', '\x1f'), ('\x7f', '\x7f')]
  | .digit => .ofBounds [('0', '9')]
  | .graph => .ofBounds [('!', '~')]
  | .lower => .ofBounds [('a', 'z')]
  | .print => .ofBounds [(' ', '~')]
  | .punct => .ofBounds [('!', '/'), (':', '@'), ('[', '\x60'), ('\x7b', '~')]
  | .space => .ofBounds [('\t', '\r'), (' ', ' ')]
  | .upper => .ofBounds [('A', 'Z')]
  | .word => .ofBounds [('0', '9'), ('A', 'Z'), ('_', '_'), ('a', 'z')]
  | .xdigit => .ofBounds [('0', '9'), ('A', 'F'), ('a', 'f')]

def ShortClass.set (unicode : Bool) : ShortClass → CharSet
  | .digit => if unicode then .ofTable Unicode.digitTable else AsciiClass.digit.set
  | .space => if unicode then .ofTable (Unicode.listed "wspace") else AsciiClass.space.set
  | .word => if unicode then .ofTable Unicode.wordTable else AsciiClass.word.set

def PropertyQuery.set (mode : Mode) (query : PropertyQuery) (negated : Bool) :
    Except Fault CharSet :=
  if !mode.unicode then .error .unicodeNotAllowed
  else
    let found := match query with
      | .named name => Unicode.named name
      | .valued name value => Unicode.valued name value
    match found with
    | .ok table => mode.negate negated (mode.closeCase (.ofTable table))
    | .error .property => .error .propertyNotFound
    | .error .value => .error .propertyValueNotFound

def SetOperator.apply : SetOperator → CharSet → CharSet → CharSet
  | .intersection => CharSet.inter
  | .difference => CharSet.diff
  | .symmetricDifference => CharSet.symmDiff

def SetExpr.set (mode : Mode) : SetExpr → Except Fault CharSet
  | .empty => .ok .empty
  | .literal l => do .ok (.single (← mode.memberOf l))
  | .range first last => do
    let first ← mode.memberOf first
    let last ← mode.memberOf last
    .ok (.range first last)
  | .ascii name negated => mode.negate negated (mode.closeCase name.set)
  | .short name negated => mode.negate negated (name.set mode.unicode)
  | .property query negated => query.set mode negated
  | .bracketed negated inner => do
    let set ← inner.set mode
    mode.negate negated (mode.closeCase set)
  | .union left right => do
    let left ← left.set mode
    let right ← right.set mode
    .ok (left.union right)
  | .combined operator left right => do
    let left ← left.set mode
    let right ← right.set mode
    .ok (operator.apply (mode.closeCase left) (mode.closeCase right))

def Mark.condition (mode : Mode) : Mark → Condition
  | .lineStart =>
    if !mode.multiLine then .textStart else if mode.crlf then .crlfLineStart else .lineStart
  | .lineEnd =>
    if !mode.multiLine then .textEnd else if mode.crlf then .crlfLineEnd else .lineEnd
  | .textStart => .textStart
  | .textEnd => .textEnd
  | .wordBoundary => .word .boundary mode.unicode
  | .notWordBoundary => .word .notBoundary mode.unicode
  | .wordStart => .word .wordStart mode.unicode
  | .wordEnd => .word .wordEnd mode.unicode
  | .wordStartHalf => .word .wordStartHalf mode.unicode
  | .wordEndHalf => .word .wordEndHalf mode.unicode

def Literal.node (mode : Mode) (literal : Literal) : Except Fault Node := do
  let c ← mode.charOf literal
  if !mode.ignoreCase then .ok (.chars (.single c))
  else if mode.unicode then .ok (.chars (.alikeTo c))
  else .ok (.chars (CharSet.single c).foldAsciiCase)

def dotNode (mode : Mode) : Except Fault Node :=
  if !mode.unicode then .error .invalidUtf8
  else if mode.dotMatchesNewline then .ok (.chars CharSet.empty.compl)
  else if mode.crlf then .ok (.chars (CharSet.ofBounds [('\n', '\n'), ('\r', '\r')]).compl)
  else .ok (.chars (CharSet.single '\n').compl)

/-- What an expression matches, and the flags in force after it. -/
def Expr.meaning (mode : Mode) : Expr → Except Fault (Node × Mode)
  | .empty => .ok (.empty, mode)
  | .flags settings => .ok (.empty, mode.setAll settings)
  | .literal l => do .ok (← l.node mode, mode)
  | .dot => do .ok (← dotNode mode, mode)
  | .mark m => .ok (.place (m.condition mode), mode)
  | .short name negated => do
    .ok (.chars (← mode.negate negated (name.set mode.unicode)), mode)
  | .property query negated => do .ok (.chars (← query.set mode negated), mode)
  | .bracketed negated inner => do
    let set ← inner.set mode
    .ok (.chars (← mode.negate negated (mode.closeCase set)), mode)
  | .repeated body least most greedy => do
    let (body, mode) ← body.meaning mode
    .ok (body.repetition least most (greedy != mode.swapGreed), mode)
  | .group none body => do
    let (body, _) ← body.meaning mode
    .ok (.capture body, mode)
  | .group (some settings) body => do
    let (body, _) ← body.meaning (mode.setAll settings)
    .ok (body, mode)
  | .seq left right => do
    let (left, mode) ← left.meaning mode
    let (right, mode) ← right.meaning mode
    .ok (.seq left right, mode)
  | .choice left right => do
    let (left, mode) ← left.meaning mode
    let (right, mode) ← right.meaning mode
    .ok (.choice left right, mode)

end Pattern
end LogView
