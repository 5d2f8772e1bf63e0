/-!
# Files

Why a file cannot be read, and reading in a tree of files.  A path is followed
name by name from the root, or from the working directory if it does not start
with a slash.  Every name but the last has to be that of a directory, and so has
the last if a slash follows it.
-/

namespace NestedQuery

inductive FileFlaw
  | missing
  | denied
  | notDirectory
  | isDirectory
  | nameTooLong
  /-- The path holds a character that ends texts of the system. -/
  | nulInPath
  /-- A reason given in words. -/
  | stated (reason : String)
  deriving DecidableEq

def FileFlaw.message : FileFlaw → String
  | .missing => "No such file or directory (os error 2)"
  | .denied => "Permission denied (os error 13)"
  | .notDirectory => "Not a directory (os error 20)"
  | .isDirectory => "Is a directory (os error 21)"
  | .nameTooLong => "File name too long (os error 36)"
  | .nulInPath => "file name contained an unexpected NUL byte"
  | .stated reason => reason

inductive FileTree
  | file (content : ByteArray)
  | directory (entries : List (String × FileTree))

namespace FileTree

/-- The longest path, and the longest name in it, in bytes. -/
def pathLimit : Nat := 4095
def nameLimit : Nat := 255

/-- Follows names; `above` holds the directories above the tree, the nearest
first. -/
def follow : List FileTree → FileTree → List String → Except FileFlaw FileTree
  | _, tree, [] => .ok tree
  | _, .file _, _ :: _ => .error .notDirectory
  | above, .directory entries, name :: names =>
      if name = "" ∨ name = "." then follow above (.directory entries) names
      else if name = ".." then
        match above with
        | parent :: rest => follow rest parent names
        | [] => follow [] (.directory entries) names
      else if nameLimit < name.utf8ByteSize then .error .nameTooLong
      else
        match entries.lookup name with
        | some tree => follow (.directory entries :: above) tree names
        | none => .error .missing

def names (path : String) : List String :=
  (path.toList.splitOn '/').map String.ofList

/-- The content of the file a path leads to. -/
def read (root : FileTree) (workingDirectory path : String) :
    Except FileFlaw ByteArray :=
  if path.toList.contains '\x00' then .error .nulInPath
  else if path.isEmpty then .error .missing
  else if pathLimit < path.utf8ByteSize then .error .nameTooLong
  else
    let start := if path.startsWith "/" then [] else names workingDirectory
    match follow [] root (start ++ names path) with
    | .error flaw => .error flaw
    | .ok (.directory _) => .error .isDirectory
    | .ok (.file content) => .ok content

end FileTree

end NestedQuery
