import MotionJpeg.Proofs.Files.Agreement

/-!
# Canonical paths in ordinary file systems

A relative path begins where the program runs. If this directory has a canonical path that leads
back to it, then every path that leads somewhere has one, and this is a fixed point: it leads to the
same place, however it is looked up.

* `FileSystem.IsOrdinary` says that the working directory has a canonical path.
* `FileSystem.Settled.resolves_path`: the path of a settled location leads there.
* `FileSystem.IsOrdinary.canonicalLocation_eq_ok_iff`: every path has the canonical location that
  the rules give it.
-/

namespace MotionJpeg.FileSystem

/-- The program runs in a directory that it can be led back to by its canonical path. So this
directory is still there, that path is not too long for the system, and the directories on the way
can be searched. -/
structure IsOrdinary (files : FileSystem) : Prop where
  settled_workingDirectory : files.Settled files.workingDirectory
  isDirectory_workingDirectory : files.entry? files.workingDirectory = some .directory

variable {files : FileSystem} {location : Location} {path : Path}

namespace Settled

/-- By the rules the path of a settled location leads there, and there are no links to follow. -/
theorem resolves_path (h : files.Settled location) :
    files.Resolves location.path location := by
  have hne : location.path ≠ [] := by
    cases location <;> exact List.cons_ne_nil _ _
  have hroot : startOf files.workingDirectory location.path = [] :=
    if_pos (isAbsolute_path location)
  refine ⟨?_, 0, Nat.zero_le _, ?_⟩
  · rw [pathFault?, if_neg h.nul_notMem_path, if_neg hne]
  · have hleads : files.Leads [] (location.path.segments ++ []) 0 location :=
      (h.leads_path_iff rfl).mpr (.arrive location)
    rwa [List.append_nil, ← hroot] at hleads

/-- No segment of the path of a settled location stays or leads up. -/
theorem not_mem_segments_path (h : files.Settled location) :
    Path.dot ∉ location.path.segments ∧ Path.dotDot ∉ location.path.segments := by
  have hplain := h.isPlain
  rcases segments_path_of_settled h with hsegments | ⟨rfl, hsegments⟩
  · rw [hsegments]
    constructor
    · intro hdot
      rcases List.mem_cons.mp hdot with hdot | hdot
      · cases hdot
      · exact absurd (hplain _ hdot).1 (by decide)
    · intro hup
      rcases List.mem_cons.mp hup with hup | hup
      · cases hup
      · exact (hplain _ hup).2.1 rfl
  · rw [hsegments]
    decide

end Settled

namespace IsOrdinary

variable (hfiles : files.IsOrdinary)

include hfiles

/-- A path begins in a settled directory, be it at the root or where the program runs. -/
theorem settled_startOf (path : Path) : files.Settled (startOf files.workingDirectory path) ∧
    files.entry? (startOf files.workingDirectory path) = some .directory := by
  rw [startOf]
  split
  · exact ⟨.root, if_pos rfl⟩
  · exact ⟨hfiles.settled_workingDirectory, hfiles.isDirectory_workingDirectory⟩

/-- Every path has the canonical location that the rules give it. -/
theorem canonicalLocation_eq_ok_iff :
    files.canonicalLocation path = .ok location ↔ files.Resolves path location := by
  obtain ⟨hstart, hdirectory⟩ := hfiles.settled_startOf path
  exact canonicalLocation_eq_ok_iff_of_start hstart hdirectory

/-- Nothing is left to resolve where a path leads. -/
theorem settled_of_resolves (h : files.Resolves path location) : files.Settled location :=
  settled_of_canonicalLocation (hfiles.settled_startOf path).1
    (hfiles.canonicalLocation_eq_ok_iff.mpr h)

end IsOrdinary

end MotionJpeg.FileSystem
