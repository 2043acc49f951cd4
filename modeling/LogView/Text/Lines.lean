/-!
# Lines of a text

A line feed ends a line, and one carriage return directly before it belongs to the line end.
A text that does not end in a line feed has an unterminated last line, which keeps whatever
carriage returns it ends in.  A final line feed opens no further line.
-/

namespace LogView
namespace Text

/-- Drops one carriage return from the front of a reversed line. -/
def dropReturn : List Char → List Char
  | '\r' :: rest => rest
  | rest => rest

/-- The lines of `rev.reverse ++ text`, where `rev` holds the line read so far, last first. -/
def linesFrom (rev : List Char) : List Char → List (List Char)
  | [] => if rev.isEmpty then [] else [rev.reverse]
  | c :: rest =>
    if c = '\n' then (dropReturn rev).reverse :: linesFrom [] rest
    else linesFrom (c :: rev) rest

/-- The lines of a text, without their ends. -/
def lines (text : String) : List String :=
  (linesFrom [] text.toList).map String.ofList

/-- Texts joined by line feeds, with none at the end. -/
def joinLines (texts : List String) : String :=
  String.intercalate "\n" texts

end Text
end LogView
