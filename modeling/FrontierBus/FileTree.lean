/-!
# File trees

Which paths lead to regular files is known to the bus only as a predicate. Here it comes from a
tree of directories and files that is known beforehand, below the directory in which the program
runs.
-/

namespace FrontierBus

/-- A place in a tree, by the names on the way to it. -/
abbrev Place := List String

/-- Directories and regular files below the present directory. -/
structure FileTree where
  files : List Place
  /-- The directories that need not hold a file. -/
  directories : List Place

namespace FileTree

/-- The place that a plain path names. -/
def placeOf (path : String) : Place :=
  (path.splitOn "/").filter fun name => name ≠ "" && name ≠ "."

/-- The tree with given files and directories. -/
def ofPaths (files directories : List String) : FileTree :=
  ⟨files.map placeOf, directories.map placeOf⟩

/-- A place is a directory: the present one, a given one, or one on the way to what is given. -/
def isDirectory (tree : FileTree) (place : Place) : Bool :=
  place.isEmpty || tree.directories.any (place.isPrefixOf ·) ||
    tree.files.any fun file => place.isPrefixOf file && place ≠ file

/-- Where a walk through directories ends; it may not leave the tree. -/
def walk (tree : FileTree) : Place → List String → Option Place
  | here, [] => some here
  | here, name :: names =>
    if !tree.isDirectory here then none
    else if name = "" || name = "." then tree.walk here names
    else if name = ".." then
      if here.isEmpty then none else tree.walk here.dropLast names
    else tree.walk (here ++ [name]) names

/-- A path leads to a regular file. A path that ends like that of a directory leads to none. -/
def isFile (tree : FileTree) (path : String) : Bool :=
  match path.splitOn "/" with
  | [] => false
  | first :: names =>
    if (first :: names).getLast? = some "" || (first :: names).getLast? = some "." then false
    else if first.isEmpty then false
    else match tree.walk [] (first :: names) with
      | some place => tree.files.contains place
      | none => false

end FileTree

end FrontierBus
