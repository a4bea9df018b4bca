import MotionJpeg.Files.FileSystem

/-!
# Canonical paths

The canonical path of an entry has no links, dots and empty segments. It is found name by name:
the system is asked for every place on the way by the canonical path of that place. So a path may
be of any length, but none of those canonical paths is too long.

* `FileSystem.canonicalLocation` is where a path leads to, found in this way.
* `FileSystem.canonicalize` spells it out.
-/

namespace MotionJpeg

/-- The segments after a name tell that it is one of a directory: by a slash or a dot at the end,
or by a way up before the next name. -/
def Path.needsDirectory : List Name → Bool
  | [] => false
  | segment :: rest =>
    if staysPut segment then rest.isEmpty || needsDirectory rest else segment == dotDot

namespace FileSystem

variable (files : FileSystem)

/-- Why the system cannot be asked for a name in `here`. -/
def nameFault? (here : Location) (name : Name) : Option FileFault :=
  if (0 : UInt8) ∈ name then some .nulByte
  else if (Location.path (here ++ [name])).length ≥ maxPath then some .nameTooLong
  else if files.entry? here ≠ some .directory then some .notDirectory
  else if !files.mayReach (here ++ [name]) then some .denied
  else if name.length > maxName then some .nameTooLong
  else none

/-- Why a place is none for the segments after it. A directory is asked for with a slash behind its
path. -/
def placeFault? (place : Location) (rest : List Name) : Option FileFault :=
  if Path.needsDirectory rest && place.path.length + 1 ≥ maxPath then some .nameTooLong
  else
    match files.entry? place with
    | none => some .missing
    | some .directory => none
    | some _ => if Path.needsDirectory rest then some .notDirectory else none

/-- Goes from `here` along some segments, up to the first link. -/
def canonicalWalk (here : Location) : List Name → Walk
  | [] => .arrived here
  | name :: rest =>
    if Path.staysPut name then canonicalWalk here rest
    else if name = Path.dotDot then canonicalWalk here.dropLast rest
    else
      match files.nameFault? here name with
      | some fault => .failed fault
      | none =>
        match files.entry? (here ++ [name]) with
        | some (.link target) => .link here target rest
        | _ =>
          match files.placeFault? (here ++ [name]) rest with
          | some fault => .failed fault
          | none => canonicalWalk (here ++ [name]) rest

/-- The location that a path leads to, asked for place by place. -/
def canonicalLocation (path : Path) : Except FileFault Location :=
  match pathFault? path with
  | some fault => .error fault
  | none =>
    (follow files.canonicalWalk maxLinks (startOf files.workingDirectory path)
      path.segments).location

/-- The canonical path of what a path leads to. -/
def canonicalize (path : Path) : Except FileFault Path :=
  (files.canonicalLocation path).map Location.path

end FileSystem

end MotionJpeg
