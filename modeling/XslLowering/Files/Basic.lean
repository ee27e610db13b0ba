import XslLowering.Files.Fault

/-!
# Files

A set of files with the bytes they hold, and the directories around them. The names on a path stand
between slashes, and a directory is left again with two dots. A path that starts with a slash leads
from the top of all directories, any other one from the directory that a run is in.
-/

namespace XslLowering

/-- Where a file is: the names of the directories around it, from the outside in, and its own. The
list starts with a slash if it leads from the top, and otherwise with as many double dots as it takes
to get to a common directory. -/
abbrev Location := List String

namespace Location

/-- The top of all directories. -/
def top : Location := ["/"]

/-- Whether a location is the top, or reached from the directory of the run by going outwards only.
These directories are always there. -/
def isBase (here : Location) : Bool := here == top || here.all (· == "..")

/-- The directory around a location. -/
def outer (here : Location) : Location :=
  if here == top then top
  else if here.isBase then here ++ [".."]
  else here.dropLast

/-- Goes along one name of a path. -/
def enter (here : Location) (name : String) : Location :=
  if name.isEmpty || name == "." then here
  else if name == ".." then here.outer
  else here ++ [name]

end Location

/-- What there can be at a location. -/
inductive FileEntry where
  | directory
  | file (bytes : ByteArray)

/-- Files and directories by where they are. -/
structure Files where
  entries : List (Location × FileEntry)

namespace Files

def empty : Files := ⟨[]⟩

def entry? (fs : Files) (place : Location) : Option FileEntry :=
  if place.isBase then some .directory else fs.entries.lookup place

/-- The parts of a path between slashes. -/
def components : List Char → List (List Char)
  | [] => [[]]
  | c :: cs =>
    if c == '/' then [] :: components cs
    else
      match components cs with
      | [] => [[c]]
      | part :: rest => (c :: part) :: rest

/-- Where a path starts, and the names on it. -/
def pathSteps (path : String) : Location × List String :=
  match path.toList with
  | '/' :: rest => (.top, (components rest).map String.ofList)
  | cs => ([], (components cs).map String.ofList)

/-- Goes along the names of a path. Whatever is left again or looked into has to be a directory. -/
def walk (fs : Files) (here : Location) : List String → Except FileFault Location
  | [] => .ok here
  | name :: names =>
    match fs.entry? here with
    | none => .error .notFound
    | some (.file _) => .error .notDirectory
    | some .directory => fs.walk (here.enter name) names

/-- The file or directory that a path leads to, which need not exist. -/
def resolve (fs : Files) (path : String) : Except FileFault Location :=
  if path.isEmpty then .error .notFound
  else fs.walk (pathSteps path).1 (pathSteps path).2

/-- The bytes of a file. -/
def read (fs : Files) (path : String) : Except FileFault ByteArray := do
  let place ← fs.resolve path
  match fs.entry? place with
  | none => .error .notFound
  | some .directory => .error .isDirectory
  | some (.file bytes) => .ok bytes

/-- The text of a file. -/
def readText (fs : Files) (path : String) : Except FileFault String := do
  let bytes ← fs.read path
  match String.fromUTF8? bytes with
  | some text => .ok text
  | none => .error .notText

def isFile (fs : Files) (path : String) : Bool :=
  match fs.read path with
  | .ok _ => true
  | .error _ => false

/-- Puts an entry at a place. -/
def put (fs : Files) (place : Location) (entry : FileEntry) : Files :=
  ⟨(place, entry) :: fs.entries.filter (·.1 != place)⟩

/-- Writes a file, in place of one that is there. The directory around it has to exist. -/
def write (fs : Files) (path : String) (bytes : ByteArray) : Except FileFault Files := do
  let place ← fs.resolve path
  match fs.entry? place with
  | some .directory => .error .isDirectory
  | some (.file _) => .ok (fs.put place (.file bytes))
  | none =>
    match fs.entry? place.outer with
    | some .directory => .ok (fs.put place (.file bytes))
    | _ => .error .notFound

/-- Goes along the names of a path, and makes the directories that are missing. -/
def makeDirectories (fs : Files) (here : Location) : List String → Files × Location
  | [] => (fs, here)
  | name :: names =>
    let next := here.enter name
    let fs := match fs.entry? next with
      | some _ => fs
      | none => fs.put next .directory
    fs.makeDirectories next names

/-- Puts a directory at a path, with all directories around it. -/
def placeDirectory (fs : Files) (path : String) : Files :=
  (fs.makeDirectories (pathSteps path).1 (pathSteps path).2).1

/-- Puts a file at a path, with all directories that it takes. -/
def place (fs : Files) (path : String) (bytes : ByteArray) : Files :=
  let (start, names) := pathSteps path
  let (fs, around) := fs.makeDirectories start names.dropLast
  fs.put (around.enter (names.getLast?.getD "")) (.file bytes)

/-- Removes a file; directories stay. -/
def remove (fs : Files) (path : String) : Files :=
  match fs.resolve path with
  | .ok place => ⟨fs.entries.filter (·.1 != place)⟩
  | .error _ => fs

/-- The path of the directory around what a path leads to. -/
def directoryOf (path : String) : String :=
  match (components path.toList).dropLast with
  | [] => "."
  | [[]] => "/"
  | parts => String.ofList (List.intercalate ['/'] parts)

end Files

end XslLowering
