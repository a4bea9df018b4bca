import MotionJpeg.Bytes.Slice
import MotionJpeg.Files.FileSystem

/-!
# Reading and changing files

An open file remembers which contents it reads and how far it has got. It goes on reading after
its entry is gone, and sees at once what is written over its contents.
-/

namespace MotionJpeg

/-- A file that was opened for reading. -/
inductive OpenFile where
  /-- The contents with this number, from this place on. -/
  | file (number offset : Nat)
  /-- A directory, which can be opened but not read. -/
  | directory
  deriving DecidableEq, Repr

namespace FileSystem

variable (files : FileSystem)

/-- What a path leads to, the location and the entry there. -/
def stat (path : Path) : Except FileFault (Location × Entry) := do
  let location ← files.resolve path
  match files.entry? location with
  | some entry => return (location, entry)
  | none => throw .missing

/-- The path leads to a regular file. -/
def isFile (path : Path) : Bool :=
  match files.stat path with
  | .ok (_, .file _) => true
  | _ => false

/-- A path is that of a regular file if the entry that it leads to is one. -/
theorem isFile_iff {files : FileSystem} {path : Path} : files.isFile path = true ↔
    ∃ location number, files.stat path = .ok (location, .file number) := by
  rw [isFile]
  split
  next location number hstat => simp [hstat]
  next hother => simpa using hother

/-- The path leads to a directory. -/
def isDirectory (path : Path) : Bool :=
  match files.stat path with
  | .ok (_, .directory) => true
  | _ => false

/-- Opens what a path leads to, if the program may read it. -/
def openFile (path : Path) : Except FileFault OpenFile := do
  let (location, entry) ← files.stat path
  if files.mayRead location then
    match entry with
    | .file number | .special (some number) => return .file number 0
    | .special none => throw .noDevice
    | .directory | .link _ => return .directory
  else throw .denied

/-- At most `limit` of the next bytes of an open file, none at its end. -/
def readSome (limit : Nat) : OpenFile → Except FileFault Slice
  | .file number offset => .ok (((Slice.ofArray (files.content number)).drop offset).take limit)
  | .directory => .error .isDirectory

/-- All of a file. -/
def readFile (path : Path) : Except FileFault Bytes := do
  match ← files.openFile path with
  | .file number _ => return (files.content number).toList
  | .directory => throw .isDirectory

/-- What is read of a regular file are its contents. -/
theorem readFile_of_stat {files : FileSystem} {path : Path} {location : Location} {number : Nat}
    (hstat : files.stat path = .ok (location, .file number))
    (hread : files.mayRead location = true) :
    files.readFile path = .ok (files.content number).toList := by
  rw [readFile, openFile, hstat]
  simp only [bind, Except.bind, if_pos hread, pure, Except.pure]

/-- The location of the directory that a path leads to, if the program may read it. -/
def directoryAt (path : Path) : Except FileFault Location := do
  match ← files.stat path with
  | (location, .directory) =>
    if files.mayRead location then return location else throw .denied
  | _ => throw .notDirectory

/-- The names of the entries in the directory at a location, in the order of the table. -/
def namesAt (location : Location) : List Name :=
  (files.entries.map Prod.fst).filterMap fun place =>
    if place.dropLast = location then place.getLast? else none

/-- The names in a directory. -/
def namesIn (path : Path) : Except FileFault (List Name) :=
  (files.directoryAt path).map files.namesAt

/-- The file system with this entry at a location, in place of what was there. -/
def withEntry (location : Location) (entry : Entry) : FileSystem :=
  { files with
    entries := files.entries.filter (fun (place, _) => place != location) ++ [(location, entry)] }

/-- Makes the directories on the way along a path, and at its end, that are not there yet. -/
def makeDirectories (path : Path) : Except FileFault FileSystem :=
  go files [] path.segments
where
  /-- Goes on after the segments in `done`, last first. -/
  go (files : FileSystem) (done : List Name) : List Name → Except FileFault FileSystem
    | [] => .ok files
    | name :: rest =>
      let done := name :: done
      let path := (done.reverse.intersperse [Path.slash]).flatten
      match files.trace path with
      | .absent location [] => go (files.withEntry location .directory) done rest
      | _ => if path = [] ∨ files.isDirectory path then go files done rest else .error .notDirectory

/-- Writes a file, over its contents if it is there. -/
def writeFile (path : Path) (data : Bytes) : Except FileFault FileSystem :=
  match files.trace path with
  | .absent location [] =>
    -- The contents get the next number, so that open files keep theirs.
    let next := files.withEntry location (.file files.contents.length)
    .ok { next with contents := files.contents ++ [data.toArray] }
  | .arrived location =>
    match files.entry? location with
    | some (.file number) => .ok { files with contents := files.contents.set number data.toArray }
    | some (.special _) => .error .noDevice
    | _ => .error .isDirectory
  | .failed fault => .error fault
  | _ => .error .missing

/-- Makes a symbolic link. -/
def makeLink (path target : Path) : Except FileFault FileSystem :=
  match files.trace path with
  | .absent location [] => .ok (files.withEntry location (.link target))
  | .failed fault => .error fault
  | _ => .error .missing

/-- Removes the entry of a file or of a link. -/
def removeFile (path : Path) : Except FileFault FileSystem := do
  match path.segments.reverse with
  | [] => throw .missing
  | name :: above =>
    let parent := (above.reverse.intersperse [Path.slash]).flatten ++ [Path.slash]
    let location := (← files.resolve parent) ++ [name]
    match files.entry? location with
    | none => throw .missing
    | some .directory => throw .isDirectory
    | some _ =>
      return { files with entries := files.entries.filter fun (place, _) => place != location }

end FileSystem

namespace OpenFile

/-- The open file after `count` more bytes of it were taken. -/
def advance (count : Nat) : OpenFile → OpenFile
  | file number offset => file number (offset + count)
  | directory => directory

end OpenFile

end MotionJpeg
