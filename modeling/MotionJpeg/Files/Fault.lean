/-!
# File faults

The ways in which the operating system refuses to resolve, open or read a path.
-/

namespace MotionJpeg

/-- Why a file operation failed. -/
inductive FileFault where
  /-- A name on the way is not there. -/
  | missing
  /-- Something on the way, or at the end of it, ought to be a directory and is not. -/
  | notDirectory
  /-- A directory was read or written like a file. -/
  | isDirectory
  /-- A component or the whole path is too long. -/
  | nameTooLong
  /-- More symbolic links than the system follows. -/
  | tooManyLinks
  /-- The path contains a NUL byte, which no name can hold. -/
  | nulByte
  /-- The program may not search a directory on the way, or not read what it asks for. -/
  | denied
  /-- Nothing answers behind a special file. -/
  | noDevice
  deriving DecidableEq, Repr

/-- The words of the system for a fault. -/
def FileFault.message : FileFault → String
  | missing => "No such file or directory (os error 2)"
  | notDirectory => "Not a directory (os error 20)"
  | isDirectory => "Is a directory (os error 21)"
  | nameTooLong => "File name too long (os error 36)"
  | tooManyLinks => "Too many levels of symbolic links (os error 40)"
  | nulByte => "file name contained an unexpected NUL byte"
  | denied => "Permission denied (os error 13)"
  | noDevice => "No such device or address (os error 6)"

end MotionJpeg
