import MotionJpeg.Bytes.Basic

/-!
# Paths

A path is what a program hands to the operating system, a byte string. A location is where a path
leads once all links, dots and empty segments are gone: the names from the file-system root down.
-/

namespace MotionJpeg

/-- A path as it is written. -/
abbrev Path := Bytes

/-- The name of an entry in its directory. -/
abbrev Name := Bytes

/-- The place of an entry, by names from the root down. The root itself is `[]`. -/
abbrev Location := List Name

namespace Path

/-- The byte `/` between two segments. -/
def slash : UInt8 := 47

/-- The segment that stays where it is. -/
def dot : Name := [46]

/-- The segment that leads to the parent. -/
def dotDot : Name := [46, 46]

/-- The segment stays where it is. An empty one does as well, as in `a//b` or `a/`. -/
def staysPut (segment : Name) : Bool := segment == [] || segment == dot

/-- The pieces of a path between its slashes. -/
def segments (path : Path) : List Name := Bytes.splitOn slash path

/-- The path begins at the root. -/
def isAbsolute (path : Path) : Bool := path.head? == some slash

/-- The names that a path spells out, with nothing resolved. -/
def names (path : Path) : List Name := path.segments.filter fun segment => !staysPut segment

end Path

namespace Location

/-- The path that spells out a location. -/
def path (location : Location) : Path :=
  if location.isEmpty then [Path.slash] else location.flatMap (Path.slash :: ·)

/-- The location is that of `root` or lies below it, name by name. Everything lies below an empty
path. -/
def isWithin (location : Location) (root : Path) : Bool :=
  root.isEmpty || root.isAbsolute && root.names.isPrefixOf location

end Location

end MotionJpeg
