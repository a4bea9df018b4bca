import MotionJpeg.Files.Fault
import MotionJpeg.Files.Path

/-!
# File systems

A file system is a table of entries by location, and the contents of its files by number. A file
that has lost its entry keeps its number and its contents, as an open file does. What the program
may not do is told by location.

* `FileSystem.resolve` follows a path, links included, by the rules of the system.
-/

namespace MotionJpeg

/-- What a name in a directory stands for. -/
inductive Entry where
  /-- A regular file, by the number of its contents. -/
  | file (number : Nat)
  | directory
  | link (target : Path)
  /-- A pipe, a device or a socket, by the number of what it gives to read. It can be opened only if
  something answers behind it. -/
  | special (number : Option Nat)
  deriving DecidableEq, Repr

/-- The entries and contents of a file system. -/
structure FileSystem where
  /-- The entries below the root. The first one for a location counts. -/
  entries : List (Location × Entry) := []
  /-- The contents of the files, in the order of their numbers. -/
  contents : List (Array UInt8) := []
  /-- Where relative paths begin. -/
  workingDirectory : Location := []
  /-- The directories that the program may not search for names. -/
  locked : List Location := []
  /-- The files and directories that the program may not read. -/
  unreadable : List Location := []
  deriving Inhabited, Repr

/-- What a walk along some segments comes to. -/
inductive Walk where
  /-- The walk ends at an entry. -/
  | arrived (location : Location)
  /-- A name in `directory` is a link, and `rest` is still to go. -/
  | link (directory : Location) (target : Path) (rest : List Name)
  /-- There is no entry at `location`, and `rest` is still to go. -/
  | absent (location : Location) (rest : List Name)
  | failed (fault : FileFault)
  deriving DecidableEq, Repr

/-- Where a walk has arrived. -/
def Walk.location : Walk → Except FileFault Location
  | arrived location => .ok location
  | failed fault => .error fault
  | link .. | absent .. => .error .missing

namespace FileSystem

/-- The longest name of an entry. -/
def maxName : Nat := 255

/-- Paths are shorter than this. -/
def maxPath : Nat := 4096

/-- How many links are followed on the way along one path. -/
def maxLinks : Nat := 40

variable (files : FileSystem)

/-- The entry at a location. -/
def entry? (location : Location) : Option Entry :=
  if location = [] then some .directory else files.entries.lookup location

/-- No directory on the way to a location is locked. -/
def mayReach (location : Location) : Bool :=
  files.locked.all fun place => !(place.isPrefixOf location && place != location)

/-- The program may read what is at a location. -/
def mayRead (location : Location) : Bool := !files.unreadable.contains location

/-- The contents of the file with this number. -/
def content (number : Nat) : Array UInt8 := files.contents[number]?.getD #[]

/-- Goes from `here` along some segments, up to the first link. Whatever the segment, it needs a
directory to start from, and all but an empty one need leave to search it. -/
def walk (here : Location) : List Name → Walk
  | [] => .arrived here
  | name :: rest =>
    if files.entry? here ≠ some .directory then .failed .notDirectory
    else if name ≠ [] ∧ here ∈ files.locked then .failed .denied
    else if Path.staysPut name then walk here rest
    -- Above the root is the root.
    else if name = Path.dotDot then walk here.dropLast rest
    else if name.length > maxName then .failed .nameTooLong
    else
      match files.entry? (here ++ [name]) with
      | none => .absent (here ++ [name]) rest
      | some (.link target) => .link here target rest
      | some _ => walk (here ++ [name]) rest

/-- Where a path begins that is met in directory `here`. -/
def startOf (here : Location) (path : Path) : Location := if path.isAbsolute then [] else here

/-- Goes along some segments by a walk that stops at links, and follows up to `links` of them. -/
def follow (walk : Location → List Name → Walk) (links : Nat) (here : Location)
    (segments : List Name) : Walk :=
  match walk here segments with
  | .link directory target rest =>
    match links with
    | 0 => .failed .tooManyLinks
    -- What comes after the link is looked up where its target leads.
    | links + 1 => follow walk links (startOf directory target) (target.segments ++ rest)
  | outcome => outcome

/-- Why a path cannot even be looked at. -/
def pathFault? (path : Path) : Option FileFault :=
  if (0 : UInt8) ∈ path then some .nulByte
  else if path = [] then some .missing
  else none

/-- What the walk along a whole path comes to, which the system takes up to a certain length. -/
def trace (path : Path) : Walk :=
  match pathFault? path with
  | some fault => .failed fault
  | none =>
    if path.length ≥ maxPath then .failed .nameTooLong
    else follow files.walk maxLinks (startOf files.workingDirectory path) path.segments

/-- The location of the entry that a path leads to. -/
def resolve (path : Path) : Except FileFault Location := (files.trace path).location

end FileSystem

end MotionJpeg
