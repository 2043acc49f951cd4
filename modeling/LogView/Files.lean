import LogView.Document
import LogView.Text.Utf8

/-!
# Files

A run sees one directory with files in it.  Reading and writing name a file by a path, whose
parts are separated by slashes; a part `.` stays where it is, and `..` leaves the directory.
-/

namespace LogView

inductive FileFault where
  | notFound
  | isDirectory
  | notDirectory
  | notText
  /-- A fault of the system that has no name here. -/
  | other (message : String)
  deriving Repr, DecidableEq

def FileFault.message : FileFault → String
  | notFound => "No such file or directory (os error 2)"
  | isDirectory => "Is a directory (os error 21)"
  | notDirectory => "Not a directory (os error 20)"
  | notText => "stream did not contain valid UTF-8"
  | other message => message

structure Files where
  entries : List (String × ByteArray)

namespace Files

def find? (files : Files) (name : String) : Option ByteArray :=
  (files.entries.find? fun entry => entry.1 = name).map (·.2)

/-- Puts a file in place of any other with its name. -/
def insert (files : Files) (name : String) (content : ByteArray) : Files :=
  ⟨(name, content) :: files.entries.filter fun entry => entry.1 ≠ name⟩

/-- What a path leads to. -/
inductive Target where
  | nowhere
  | directory
  | throughFile
  | name (name : String)
  /-- A name with slashes after it, which asks for a directory of that name. -/
  | slashed (name : String)
  deriving Repr, DecidableEq

def pathParts (path : String) : List String :=
  (path.toList.splitOn '/').map String.ofList

/-- Whether a part of a path names a directory whatever the files are. -/
def namesDirectory (part : String) : Bool :=
  part.isEmpty || part = "." || part = ".."

/-- What the parts of a path lead to from the directory. -/
def follow (files : Files) : List String → Target
  | [] => .directory
  | part :: rest =>
    if part.isEmpty || part = "." then follow files rest
    else if part = ".." then if rest.all namesDirectory then .directory else .nowhere
    else if rest.isEmpty then .name part
    else if rest.all String.isEmpty then .slashed part
    else if (files.find? part).isSome then .throughFile
    else .nowhere

def resolve (files : Files) (path : String) : Target :=
  if path.isEmpty then .nowhere
  else if path.startsWith "/" then
    if (pathParts path).all namesDirectory then .directory else .nowhere
  else follow files (pathParts path)

def read (files : Files) (path : String) : Except FileFault ByteArray :=
  match files.resolve path with
  | .nowhere => .error .notFound
  | .directory => .error .isDirectory
  | .throughFile => .error .notDirectory
  | .name name =>
    match files.find? name with
    | some content => .ok content
    | none => .error .notFound
  | .slashed name =>
    match files.find? name with
    | some _ => .error .notDirectory
    | none => .error .notFound

def write (files : Files) (path : String) (content : ByteArray) : Except FileFault Files :=
  match files.resolve path with
  | .nowhere => .error .notFound
  | .directory => .error .isDirectory
  | .throughFile => .error .notDirectory
  | .name name => .ok (files.insert name content)
  | .slashed _ => .error .isDirectory

end Files

structure UnreadDocument where
  path : String
  fault : FileFault
  deriving Repr, DecidableEq

def UnreadDocument.message (unread : UnreadDocument) : String :=
  "Failed to read file '" ++ unread.path ++ "': " ++ unread.fault.message

def fileName (path : String) : String :=
  ((Files.pathParts path).filter fun part => !part.isEmpty && part ≠ ".").getLast?.getD path

def Document.ofContent (path : String) (content : Except FileFault ByteArray) :
    Except UnreadDocument Document :=
  match content with
  | .ok bytes => .ok (.ofText (fileName path) (Text.decodeLossy bytes))
  | .error fault => .error ⟨path, fault⟩

def Document.read (files : Files) (path : String) : Except UnreadDocument Document :=
  Document.ofContent path (files.read path)

end LogView
