import MotionJpeg.Proofs.Files.Resolution

/-!
# Static files

What the static route serves, told by the rules for paths: the regular files within the root, each
under all the paths that lead to it, and nothing else. Where links, dots or a name that goes on
behind the root lead out of it there is no route.

* `FileSystem.exists_of_canonicalize_eq_self`: a canonical path spells out a settled location.
* `Router.Serves` says which file a request is for.
* `Router.staticRoute_eq_staticFile_iff`: this file is routed to, and nothing else is.
-/

namespace MotionJpeg

namespace FileSystem

variable {files : FileSystem}

/-- A canonical path spells out the settled location that it leads to. -/
theorem exists_of_canonicalize_eq_self {path : Path} (h : files.canonicalize path = .ok path) :
    files.Settled path.names ∧ path = Location.path path.names := by
  rw [canonicalize] at h
  cases hlocation : files.canonicalLocation path with
  | error fault =>
    rw [hlocation] at h
    cases h
  | ok location =>
    rw [hlocation] at h
    obtain rfl : location.path = path := Except.ok.inj h
    have hsettled := settled_canonicalLocation (isAbsolute_path location) hlocation
    rw [hsettled.names_path]
    exact ⟨hsettled, rfl⟩

/-- A canonical path begins at the root. -/
theorem isAbsolute_of_canonicalize_eq_self {path : Path}
    (h : files.canonicalize path = .ok path) : path.isAbsolute = true := by
  rw [(exists_of_canonicalize_eq_self h).2]
  exact isAbsolute_path _

end FileSystem

namespace Router

/-- The path that is looked up for a request: its text behind that of the root. Where it ends with a
slash the index of the directory is meant. -/
def candidate (root : Path) (asked : Bytes) : Path :=
  root ++ asked ++ if asked.getLast? = some Path.slash then indexFile else []

/-- The request is for the regular file with this number, which by the rules for paths lies at this
location, and that is within the root. -/
structure Serves (files : FileSystem) (root : Path) (asked : Bytes) (location : Location)
    (number : Nat) : Prop where
  resolves : files.Resolves (candidate root asked) location
  isWithin : root.names <+: location
  entry_eq : files.entry? location = some (.file number)

section Serves

variable {files : FileSystem} {root : Path} {asked : Bytes} {location : Location} {number : Nat}

theorem isAbsolute_candidate (habsolute : root.isAbsolute = true) :
    (candidate root asked).isAbsolute = true := by
  rw [candidate, List.append_assoc]
  exact Path.isAbsolute_append habsolute _

/-- A file that a request is for has nothing left to resolve in its path. -/
theorem Serves.settled (h : Serves files root asked location number)
    (habsolute : root.isAbsolute = true) : files.Settled location := by
  have hcandidate : (candidate root asked).isAbsolute = true := isAbsolute_candidate habsolute
  apply FileSystem.settled_canonicalLocation hcandidate
  exact (FileSystem.canonicalLocation_eq_ok_iff hcandidate).mpr h.resolves

/-- What is within an absolute root has the names of the root on the way. -/
theorem isWithin_iff (habsolute : root.isAbsolute = true) :
    location.isWithin root = true ↔ root.names <+: location := by
  have hne : root.isEmpty = false := by
    cases root with
    | nil => cases habsolute
    | cons => rfl
  rw [Location.isWithin, hne, habsolute, Bool.false_or, Bool.true_and,
    List.isPrefixOf_iff_prefix]

/-- The file that a request is for is routed to. -/
theorem staticRoute_of_serves (h : Serves files root asked location number)
    (habsolute : root.isAbsolute = true) : staticRoute files root asked =
      .staticFile location.path (files.content number).size (mediaTypeAt location) := by
  have hlocation :=
    (FileSystem.canonicalLocation_eq_ok_iff (isAbsolute_candidate habsolute)).mpr h.resolves
  rw [staticRoute, ← candidate, hlocation]
  dsimp only
  rw [if_pos ((isWithin_iff habsolute).mpr h.isWithin),
    (h.settled habsolute).stat_path h.entry_eq]

/-- There is no route to anything but the file that a request is for. -/
theorem staticRoute_cases (files : FileSystem) (habsolute : root.isAbsolute = true)
    (asked : Bytes) : staticRoute files root asked = .notFound ∨
      ∃ location number, Serves files root asked location number := by
  have hcandidate : (candidate root asked).isAbsolute = true := isAbsolute_candidate habsolute
  rw [staticRoute, ← candidate]
  cases hlocation : files.canonicalLocation (candidate root asked) with
  | error fault => exact Or.inl rfl
  | ok location =>
    dsimp only
    by_cases hwithin : location.isWithin root = true
    · -- The path of the location leads to the entry that is there.
      have hsettled := FileSystem.settled_canonicalLocation hcandidate hlocation
      obtain ⟨entry, hentry⟩ := hsettled.exists_entry
      rw [if_pos hwithin, hsettled.stat_path hentry]
      cases entry with
      | file number =>
        refine Or.inr ⟨location, number, ?_, (isWithin_iff habsolute).mp hwithin, hentry⟩
        exact (FileSystem.canonicalLocation_eq_ok_iff hcandidate).mp hlocation
      | directory | link | special => exact Or.inl rfl
    · rw [if_neg hwithin]
      exact Or.inl rfl

/-- A file has a name, and this settles its media type. -/
theorem Serves.exists_name (h : Serves files root asked location number) :
    ∃ name, location.getLast? = some name ∧ mediaTypeAt location =
      if Utf8.isValid name then Http.MediaType.ofName name else Http.MediaType.unknown := by
  cases hlast : location.getLast? with
  | none =>
    -- At the root there is a directory, and no file.
    have hentry := h.entry_eq
    rw [List.getLast?_eq_none_iff.mp hlast, FileSystem.entry?, if_pos rfl] at hentry
    cases hentry
  | some name =>
    refine ⟨name, rfl, ?_⟩
    rw [mediaTypeAt, hlast]

end Serves

/-- A request for a static file gets exactly the regular file within the root that its path leads to
by the rules for paths, whatever links there are and however the path is written. The file is known
by a path that has nothing left to resolve, and announced with its size and the media type of its
name. To all other requests the answer is that there is no such file. -/
theorem staticRoute_eq_staticFile_iff {files : FileSystem} {root : Path}
    (hroot : files.canonicalize root = .ok root) (asked : Bytes) :
    (∀ path length mediaType, staticRoute files root asked = .staticFile path length mediaType ↔
      ∃ location number name, Serves files root asked location number ∧
        location.getLast? = some name ∧ path = location.path ∧
        length = (files.content number).size ∧
        mediaType =
          if Utf8.isValid name then Http.MediaType.ofName name else Http.MediaType.unknown) ∧
    (∀ location number, Serves files root asked location number →
      location.path.names = location ∧ location.IsPlain ∧ files.IsLinkFree location) ∧
    ((∀ location number, ¬ Serves files root asked location number) →
      staticRoute files root asked = .notFound) := by
  have habsolute : root.isAbsolute = true := FileSystem.isAbsolute_of_canonicalize_eq_self hroot
  refine ⟨?_, ?_, ?_⟩
  · intro path length mediaType
    constructor
    · intro hroute
      rcases staticRoute_cases files habsolute asked with hnone | ⟨location, number, hserves⟩
      · rw [hnone] at hroute
        cases hroute
      · obtain ⟨name, hname, htype⟩ := hserves.exists_name
        rw [staticRoute_of_serves hserves habsolute, htype] at hroute
        cases hroute
        exact ⟨location, number, name, hserves, hname, rfl, rfl, rfl⟩
    · rintro ⟨location, number, name, hserves, hname, rfl, rfl, rfl⟩
      obtain ⟨name', hname', htype⟩ := hserves.exists_name
      rw [hname] at hname'
      cases hname'
      rw [staticRoute_of_serves hserves habsolute, htype]
  · intro location number hserves
    have hsettled := hserves.settled habsolute
    exact ⟨hsettled.names_path, hsettled.isPlain, hsettled.isLinkFree⟩
  · intro hnone
    rcases staticRoute_cases files habsolute asked with hroute | ⟨location, number, hserves⟩
    · exact hroute
    · exact absurd hserves (hnone location number)

section LinkedRoot

/-- A root next to a directory whose name goes on behind that of the root, with links to a file in
it, out of it, and to themselves. -/
def linkedFiles : FileSystem where
  entries := [
    ([[119]], .directory), ([[119], .ofString "a.html"], .file 0),
    ([[119], [107]], .link (.ofString "../w/./a.html")),
    ([[119], [108]], .link (.ofString "/w2/b")), ([[119], [111]], .link (.ofString "o")),
    ([[119, 50]], .directory), ([[119, 50], [98]], .file 1)]
  contents := [#[104, 105], #[33]]

/-- By way of a link that leaves the root and comes back the file is served under its own path. Not
served is what lies next to the root, be it asked for by name, by two dots or by a link. -/
theorem staticRoute_eq_staticFile_iff_linkedRoot :
    linkedFiles.canonicalize (.ofString "/w") = .ok (.ofString "/w") ∧
    (∃ location number name, Serves linkedFiles (.ofString "/w") (.ofString "/k") location number ∧
      location.getLast? = some name ∧ Bytes.ofString "/w/a.html" = location.path ∧
      2 = (linkedFiles.content number).size ∧
      "text/html" =
        if Utf8.isValid name then Http.MediaType.ofName name else Http.MediaType.unknown) ∧
    ∀ asked ∈ [Bytes.ofString "2/b", .ofString "/../w2/b", .ofString "/l", .ofString "/o"],
      ∀ location number, ¬ Serves linkedFiles (.ofString "/w") asked location number := by
  have hroot : linkedFiles.canonicalize (.ofString "/w") = .ok (.ofString "/w") := by
    decide +kernel
  refine ⟨hroot, ?_, ?_⟩
  · exact ((staticRoute_eq_staticFile_iff hroot (.ofString "/k")).1 _ _ _).mp (by decide +kernel)
  · have hnone : ∀ asked ∈ [Bytes.ofString "2/b", .ofString "/../w2/b", .ofString "/l",
        .ofString "/o"], staticRoute linkedFiles (.ofString "/w") asked = .notFound := by
      decide +kernel
    intro asked hasked location number hserves
    have hroute := staticRoute_of_serves hserves (by decide)
    rw [hnone asked hasked] at hroute
    cases hroute

end LinkedRoot

end Router

end MotionJpeg
