/-!
# Markup

Text is escaped before it is put between tags: the five characters that mean something in markup
are written as entities.  Reading entities back and leaving out tags recover the text.
-/

namespace LogView
namespace Markup

def escapeChar : Char → List Char
  | '&' => ['&', 'a', 'm', 'p', ';']
  | '<' => ['&', 'l', 't', ';']
  | '>' => ['&', 'g', 't', ';']
  | '"' => ['&', 'q', 'u', 'o', 't', ';']
  | '\'' => ['&', '#', '3', '9', ';']
  | c => [c]

/-- Writes a text so that it holds no markup. -/
def escape (text : String) : String :=
  String.ofList (text.toList.flatMap escapeChar)

/-- Reads the five entities back, from left to right; any other text stays. -/
def unescapeChars : List Char → List Char
  | '&' :: 'a' :: 'm' :: 'p' :: ';' :: rest => '&' :: unescapeChars rest
  | '&' :: 'l' :: 't' :: ';' :: rest => '<' :: unescapeChars rest
  | '&' :: 'g' :: 't' :: ';' :: rest => '>' :: unescapeChars rest
  | '&' :: 'q' :: 'u' :: 'o' :: 't' :: ';' :: rest => '"' :: unescapeChars rest
  | '&' :: '#' :: '3' :: '9' :: ';' :: rest => '\'' :: unescapeChars rest
  | c :: rest => c :: unescapeChars rest
  | [] => []

def unescape (text : String) : String :=
  String.ofList (unescapeChars text.toList)

/-- Leaves out tags, `inTag` telling whether one is open. -/
def stripTagChars (inTag : Bool) : List Char → List Char
  | [] => []
  | c :: rest =>
    if c = '<' then stripTagChars true rest
    else if inTag then stripTagChars (c ≠ '>') rest
    else c :: stripTagChars false rest

def stripTags (text : String) : String :=
  String.ofList (stripTagChars false text.toList)

end Markup
end LogView
