/-!
# File trees

The files below the current directory, and how a path is followed through them. What lies outside is treated
as absent.
-/

namespace PodRunner

/-- Files and directories by the names on the way to them. The directories above a file or directory exist
without being listed. -/
structure FileTree where
  files : List (List String × ByteArray)
  directories : List (List String)

namespace FileTree

/-- The names that a path is made of. Empty names and dots lead nowhere else. -/
def names (path : String) : List String :=
  (path.splitOn "/").filter fun name => name != "" && name != "."

def isDirectory (tree : FileTree) (here : List String) : Bool :=
  here.isEmpty || tree.directories.any here.isPrefixOf ||
    tree.files.any fun file => here.isPrefixOf file.1 && here != file.1

def file? (tree : FileTree) (here : List String) : Option ByteArray :=
  (tree.files.find? fun file => file.1 == here).map (·.2)

/-- Follows the steps of a path from a directory. A file may only come last. -/
def follow? (tree : FileTree) : (here steps : List String) → Option (List String)
  | here, [] => some here
  | here, step :: steps =>
    if step = "" ∨ step = "." then follow? tree here steps
    else if step = ".." then (if here.isEmpty then none else follow? tree here.dropLast steps)
    else
      let there := here ++ [step]
      if tree.isDirectory there then follow? tree there steps
      else if steps.isEmpty ∧ (tree.file? there).isSome then some there
      else none

/-- A path of so many octets is too long to be followed. -/
def tooLong : Nat := 4096

def read? (tree : FileTree) (path : String) : Option ByteArray :=
  if path.startsWith "/" || tooLong ≤ path.utf8ByteSize then none
  else (tree.follow? [] (path.splitOn "/")).bind tree.file?

end FileTree

end PodRunner
