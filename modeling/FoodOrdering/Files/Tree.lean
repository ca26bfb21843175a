import FoodOrdering.Text.Segments

/-!
# What is found in files

The questions that the rest of the library puts to the files around it, and the answers where all
files and directories are known.
-/

/-!
## Paths

A path is a text with slashes between its parts.  A path that begins with a slash stands for
itself, wherever it is taken from.
-/

namespace FoodOrdering.Path

def isAbsolute (path : String) : Bool :=
  path.toList.head? == some '/'

/-- A path taken from a directory. -/
def join (directory path : String) : String :=
  if isAbsolute path then path
  else if directory.isEmpty || directory.toList.getLast? == some '/' then directory ++ path
  else directory ++ "/" ++ path

end FoodOrdering.Path

/-! ## Trees -/

namespace FoodOrdering

structure FileTree where
  /-- There is a file or a directory with this path. -/
  isPresent : String → Bool
  /-- There is a directory with this path, or it can be made. -/
  hasRoom : String → Bool
  /-- A file with this path can be opened for writing. -/
  canWrite : String → Bool
  /-- The content of the file with this path, if it can be read. -/
  content? : String → Option (List UInt8)

namespace FileTree

/-- Go one part further from a place; no part follows a file. -/
def follow (isFile : List String → Bool) (place : List String) (part : String) :
    Option (List String) :=
  if part = "" then some place
  else if isFile place then none
  else if part = "." then some place
  else if part = ".." then some place.dropLast
  else if 255 < part.utf8ByteSize || part.toList.any (fun c => c.toNat = 0) then none
  else some (place ++ [part])

/-- Where a path from the root leads. -/
def placeOf? (isFile : List String → Bool) (path : String) : Option (List String) :=
  ((Text.segments '/' path.toList).map String.ofList).foldlM (follow isFile) []

/-- The last part of a path is a name and no way to a directory. -/
def endsInName (path : String) : Bool :=
  match (Text.segments '/' path.toList).reverse with
  | [] => false
  | last :: _ => !last.isEmpty && last != ['.'] && last != ['.', '.']

/-- The tree that consists of files with their contents and of directories, each of them by the
parts of its path from the root. -/
def ofEntries (files : List (List String × List UInt8)) (directories : List (List String)) :
    FileTree :=
  let fileAt? (place : List String) : Option (List UInt8) :=
    (files.find? fun file => file.1 == place).map Prod.snd
  let isFile (place : List String) : Bool := (fileAt? place).isSome
  let placeOf? := placeOf? isFile
  { isPresent := fun path =>
      (placeOf? path).any fun place => isFile place || directories.contains place
    hasRoom := fun path => (placeOf? path).any fun place => !isFile place
    canWrite := fun path =>
      endsInName path && (placeOf? path).any fun place =>
        directories.contains place.dropLast && !directories.contains place
    content? := fun path => (placeOf? path).bind fileAt? }

end FileTree

end FoodOrdering
