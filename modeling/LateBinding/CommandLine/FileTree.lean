import LateBinding.OrderedMap

/-!
# Files by path

A command line names its configuration file by a path. A file tree held in memory says what a
program finds there. It knows the files of the folder that the program runs in and, outside
that folder, the devices that read as empty; nothing else is there.

A path is followed name by name, from the root if it starts with a slash, else from the folder
of the program. A dot stays, as does the empty name that a doubled or a final slash leaves.
Two dots go up, and at the root they stay. Each of these steps has to start from a folder, so
nothing follows the name of a file, not even a slash. A path that is too long leads nowhere.
-/
namespace LateBinding.CommandLine

/-- Files with their contents. A file is known by the names on the way to it from the root. -/
structure FileTree where
  files : OrderedMap (List String) String
deriving DecidableEq, Repr

namespace FileTree

/-- The folder that the program runs in. It lies somewhere below the root; its own name is one
that no path can spell. -/
def workplace : List String := ["tmp", "/"]

/-- The files that are there wherever the program runs, all of them empty: the null device,
and the input of a program that is given none. -/
def devices : List (List String) := [["dev", "null"], ["dev", "stdin"]]

/-- A path of this many bytes is too long. -/
def lengthLimit : Nat := 4096

/-- What stands between the slashes of a path. -/
def names (path : String) : List String :=
  path.splitOn "/"

/-- Whether a name leads from a folder to the folder itself. -/
def stays (name : String) : Bool :=
  name = "" || name = "."

/-- The tree with the given files in the folder of the program, each under its path. -/
def ofFiles (files : List (String × String)) : FileTree :=
  ⟨.ofList (devices.map (·, "") ++ files.map fun (path, content) =>
    (workplace ++ (names path).filter (!stays ·), content))⟩

/-- Whether names lead to a folder: to that of the program, or to one on the way to it or to a
file. -/
def isFolder (tree : FileTree) (place : List String) : Bool :=
  place.isPrefixOf workplace || tree.files.keys.any fun file =>
    place.isPrefixOf file && place.length < file.length

/-- Follow names from a place. -/
def follow (tree : FileTree) : (place : List String) → List String → Option (List String)
  | place, [] => some place
  | place, name :: rest =>
    if !tree.isFolder place then none
    else if stays name then tree.follow place rest
    else if name = ".." then tree.follow place.dropLast rest
    else tree.follow (place ++ [name]) rest

/-- The content of the file at a path, if there is a file. -/
def read? (tree : FileTree) (path : String) : Option String :=
  let start := if path.startsWith "/" then [] else workplace
  if path.utf8ByteSize < lengthLimit then
    (tree.follow start (names path)).bind tree.files.get?
  else none

end FileTree

end LateBinding.CommandLine
