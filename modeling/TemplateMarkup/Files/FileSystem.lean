import TemplateMarkup.Files.ReadFailure

namespace TemplateMarkup

-- What reading a path gives: the bytes of a regular file, or why there are none.
abbrev FileSystem := String → Except ReadFailure ByteArray

namespace FileSystem

def isFile (files : FileSystem) (path : String) : Bool :=
  match files path with
  | .ok _ => true
  | .error _ => false

def readText (files : FileSystem) (path : String) : Except ReadFailure String :=
  match files path with
  | .error failure => .error failure
  | .ok bytes =>
    match String.fromUTF8? bytes with
    | some text => .ok text
    | none => .error .notUtf8

end FileSystem

-- Paths are texts. They are joined as they are written.
namespace Path

def isAbsolute (path : String) : Bool :=
  path.toList.head? == some '/'

-- A path relative to a directory. Nothing is normalized.
def join (directory path : String) : String :=
  if isAbsolute path then path
  else if directory.isEmpty || directory.toList.getLast? == some '/' then directory ++ path
  else directory ++ "/" ++ path

end Path

end TemplateMarkup
