import TemplateMarkup.Files.FileSystem
import TemplateMarkup.Text.Blank

namespace TemplateMarkup

-- What stands at a place of a tree.
inductive FileNode where
  | file (bytes : ByteArray)
  | directory

-- Files and directories below a working directory, each with the names that lead to it. The
-- directories on the way need no entry of their own.
structure FileTree where
  entries : List (List String × FileNode)

namespace FileTree

-- The names in a relative path, without the parts that lead nowhere.
def names (path : String) : List String :=
  ((Text.segments '/' path.toList).map String.ofList).filter fun name =>
    !name.isEmpty && name != "."

def ofList (entries : List (String × FileNode)) : FileTree :=
  ⟨entries.map fun entry => (names entry.1, entry.2)⟩

def node? (tree : FileTree) (place : List String) : Option FileNode :=
  match tree.entries.find? (·.1 == place) with
  | some entry => some entry.2
  | none =>
    if place.isEmpty || tree.entries.any (fun entry => place.isPrefixOf entry.1) then
      some .directory
    else
      none

-- Where a walk along a path stands: at a place of the tree, or somewhere around the tree.
inductive Spot where
  | inside (place : List String) (node : FileNode)
  | around

-- How many bytes a name in a path may have.
def maxName : Nat :=
  255

-- How many bytes a path may have.
def maxPath : Nat :=
  4095

-- Goes on by one part of a path. An empty part asks for a directory and stays there. How long
-- a name is matters only where there is a directory to look it up in.
def advance (tree : FileTree) (spot : Spot) (part : String) : Except ReadFailure Spot :=
  match spot with
  | .inside _ (.file _) => .error .notDirectory
  | .inside place .directory =>
    if part.isEmpty || part == "." then
      .ok spot
    else if part == ".." then
      if place.isEmpty then
        .ok .around
      else
        .ok (.inside place.dropLast .directory)
    else if maxName < part.utf8ByteSize then
      .error .nameTooLong
    else
      match tree.node? (place ++ [part]) with
      | some node => .ok (.inside (place ++ [part]) node)
      | none => .error .notFound
  | .around =>
    if part.isEmpty || part == "." || part == ".." then .ok .around
    else if maxName < part.utf8ByteSize then .error .nameTooLong
    else .error .notFound

def read (tree : FileTree) (path : String) : Except ReadFailure ByteArray :=
  if path.toList.contains '\x00' then
    .error .nulInPath
  else if maxPath < path.utf8ByteSize then
    .error .nameTooLong
  else if path.isEmpty then
    .error .notFound
  else
    let start := if Path.isAbsolute path then .around else .inside [] .directory
    match ((Text.segments '/' path.toList).map String.ofList).foldlM tree.advance start with
    | .error failure => .error failure
    | .ok (.inside _ (.file bytes)) => .ok bytes
    | .ok _ => .error .directory

def fileSystem (tree : FileTree) : FileSystem :=
  tree.read

end FileTree

end TemplateMarkup
