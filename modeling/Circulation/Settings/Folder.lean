import Circulation.Json

/-!
# Folders with files of settings

The files that settings may come from lie in folders, each under a path with slashes. A file is looked for by a path
that may leave out the ending of its name. `Folder.find?` takes the file that is there under the very path, and else
the first one under the path with an ending. A path leads only through folders that are there.
-/

namespace Circulation

/-- Where a file or a folder is: the names on the way there from the folder that the program runs in. -/
abbrev Place := List String

/-- The files below a folder, with what they hold. -/
structure Folder where
  files : List (Place × Json) := []
  deriving Inhabited

namespace Folder

/-- One step of a path: nothing and a point stay, two points go up, a name goes down. -/
def step? (place : Place) : String → Option Place
  | "" => some place
  | "." => some place
  | ".." => if place.isEmpty then none else some place.dropLast
  | name => some (place ++ [name])

/-- Whether there is a folder at a place. -/
def hasFolder (f : Folder) (place : Place) : Bool :=
  place.isEmpty || f.files.any fun file => place.isPrefixOf file.1 && place ≠ file.1

/-- The file at the end of a path, if every step of the path starts in a folder. -/
def fileAt? (f : Folder) (path : List String) : Option Json := do
  let place ← path.foldlM (fun place name => if f.hasFolder place then step? place name else none) []
  f.files.lookup place

/-- The path with an ending after its last name, if it ends in a name. -/
def withEnding? (path : List String) (ending : String) : Option (List String) :=
  let names := path.filter fun name => name ≠ "" && name ≠ "."
  match names.getLast? with
  | none => none
  | some ".." => none
  | some name => some (names.dropLast ++ [name ++ "." ++ ending])

/-- The endings of files of settings. -/
def endings : List String := ["toml", "json"]

/-- The file with a path, or with the path and an ending. -/
def find? (f : Folder) (path : String) : Option Json :=
  let path := path.splitOn "/"
  f.fileAt? path <|> endings.findSome? fun ending => (withEnding? path ending).bind f.fileAt?

/-- The folder with one more file, in place of any other under its path. -/
def put (f : Folder) (path : String) (content : Json) : Folder :=
  match (path.splitOn "/").foldlM step? [] with
  | some place => { f with files := (place, content) :: f.files }
  | none => f

end Folder

end Circulation
