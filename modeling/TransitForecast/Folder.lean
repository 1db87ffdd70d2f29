import TransitForecast.Text.Split

/-!
# TransitForecast — files of a folder

Which file a path names. A path is a way through folders, read name by name: an
empty name and a single point stay where they are, two points lead back, and
every other name but the last must be that of a folder. A folder exists when a
file lies below it, and the folder in which a path starts always does.
-/

namespace TransitForecast

/-- The names on the way from the top, or from the folder in which a path starts, to a file. -/
abbrev FolderPath := List String

/-- A folder with all that lies below it: the contents of each file at its way. -/
structure Folder where
  files : List (FolderPath × String)
  deriving DecidableEq, Repr

namespace Folder

/-- What a way from the top starts with. -/
def top : String := "/"

/-- The names of a path. -/
def names (path : String) : List String :=
  let parts := (splitOnElement '/' path.toList).map String.ofList
  if path.startsWith top then top :: parts else parts

/-- A name that leads nowhere. -/
def isIdle (name : String) : Bool := name.isEmpty || name = "."

/-- A folder of files at paths. -/
def ofFiles (files : List (String × String)) : Folder :=
  ⟨files.map fun f => ((names f.1).filter fun n => !isIdle n, f.2)⟩

/-- Whether there is a folder at a way. -/
def holdsFolder (f : Folder) (way : FolderPath) : Bool :=
  way.isEmpty || f.files.any fun file => way.isPrefixOf file.1 && way.length < file.1.length

/-- The way after one more name. -/
def step? (f : Folder) (way : FolderPath) (name : String) : Option FolderPath :=
  if !f.holdsFolder way then none
  else if isIdle name then some way
  else if name ≠ ".." then some (way ++ [name])
  else if way = [top] then some way
  else if way.isEmpty then none
  else some way.dropLast

/-- The contents of the file that a path names. -/
def read? (f : Folder) (path : String) : Option String := do
  let way ← (names path).foldlM f.step? []
  f.files.lookup way

/-- The last name of a path that is not idle, with the names before it. -/
def lastName? (path : String) : Option (List String × String) :=
  match (names path).reverse.dropWhile isIdle with
  | [] => none
  | last :: before => some (before.reverse, last)

/-- Whether a path names a file whose name has a given ending after some other text. -/
def hasEnding (ending path : String) : Bool :=
  match lastName? path with
  | some (_, name) => name.endsWith ending && name ≠ ending
  | none => false

/-- The path with an ending put to its last name; none if the path leads to no name. -/
def withEnding? (ending path : String) : Option String :=
  match lastName? path with
  | some (before, name) =>
    if name = ".." || name = top then none
    else some ("/".intercalate (before.map (fun n => if n = top then "" else n) ++ [name ++ ending]))
  | none => none

end Folder

end TransitForecast
