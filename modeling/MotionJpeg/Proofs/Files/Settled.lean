import Mathlib.Data.List.Basic
import MotionJpeg.Files.Access
import MotionJpeg.Router

/-!
# Settled locations

A canonical path has nothing left to resolve: every name on the way is that of an entry, and of no
link. The system goes along such a path name by name and arrives where the path says.

* `FileSystem.LooksUp` says that the system can be asked for a name in a directory.
* `FileSystem.Settled` says that a location is one that the system arrives at.
* `FileSystem.settled_canonicalLocation`: absolute paths have settled canonical locations.
* `FileSystem.resolve_path`: the path of a settled location leads there.
* `Router.openFile_of_staticRoute`: a file that is routed to is the file that is opened, as long as
  it can be opened at all.
-/

namespace MotionJpeg

namespace Bytes

variable {separator : UInt8}

/-- A piece ends at the first separator. -/
private theorem splitOn_go_append {first : Bytes} (hfirst : separator ∉ first)
    (piece rest : Bytes) : splitOn.go separator piece (first ++ separator :: rest) =
      (piece.reverse ++ first) :: splitOn separator rest := by
  induction first generalizing piece with
  | nil => simp [splitOn.go, splitOn]
  | cons c first ih =>
    have hne : ¬ c = separator := fun heq => hfirst (heq ▸ List.mem_cons_self)
    rw [List.cons_append, splitOn.go, if_neg hne, ih fun h => hfirst (List.mem_cons_of_mem _ h)]
    simp

/-- A text without separators is one piece. -/
private theorem splitOn_go_of_notMem {text : Bytes} (htext : separator ∉ text) (piece : Bytes) :
    splitOn.go separator piece text = [piece.reverse ++ text] := by
  induction text generalizing piece with
  | nil => simp [splitOn.go]
  | cons c text ih =>
    have hne : ¬ c = separator := fun heq => htext (heq ▸ List.mem_cons_self)
    rw [splitOn.go, if_neg hne, ih fun h => htext (List.mem_cons_of_mem _ h)]
    simp

/-- The pieces of a text that joins some pieces with separators before them. -/
theorem splitOn_append_flatMap {first : Bytes} (hfirst : separator ∉ first) {pieces : List Bytes}
    (hpieces : ∀ piece ∈ pieces, separator ∉ piece) :
    splitOn separator (first ++ pieces.flatMap (separator :: ·)) = first :: pieces := by
  induction pieces generalizing first with
  | nil => rw [List.flatMap_nil, List.append_nil, splitOn, splitOn_go_of_notMem hfirst]; rfl
  | cons piece pieces ih =>
    rw [List.forall_mem_cons] at hpieces
    rw [List.flatMap_cons, List.cons_append, splitOn, splitOn_go_append hfirst,
      ih hpieces.1 hpieces.2]
    rfl

/-- No piece has a separator in it. -/
theorem notMem_of_mem_splitOn {text piece : Bytes} (h : piece ∈ splitOn separator text) :
    separator ∉ piece := by
  suffices hgo : ∀ begun, separator ∉ begun → ∀ piece ∈ splitOn.go separator begun text,
      separator ∉ piece from hgo [] List.not_mem_nil piece h
  clear h
  induction text with
  | nil => simp [splitOn.go]
  | cons c text ih =>
    intro begun hbegun
    rw [splitOn.go]
    split
    · rw [List.forall_mem_cons]
      exact ⟨by simpa using hbegun, ih [] List.not_mem_nil⟩
    next hne => exact ih _ (by simpa [hbegun] using Ne.symm hne)

end Bytes

/-- A path goes on from the root if its beginning does. -/
theorem Path.isAbsolute_append {path : Path} (h : path.isAbsolute = true) (rest : Path) :
    Path.isAbsolute (path ++ rest) = true := by
  cases path with
  | nil => cases h
  | cons c path => exact h

namespace FileSystem

variable (files : FileSystem)

/-- A name can be looked up in `here`: that is a directory, the program may search it and all those
above it, and neither the name nor the path that the system is asked for is too long. -/
structure LooksUp (here : Location) (name : Name) : Prop where
  isDirectory : files.entry? here = some .directory
  mayReach : files.mayReach (here ++ [name]) = true
  isName : Path.staysPut name = false ∧ name ≠ Path.dotDot
  nul_notMem : (0 : UInt8) ∉ name
  length_name_le : name.length ≤ maxName
  length_path_lt : (Location.path (here ++ [name])).length < maxPath

/-- The location has nothing left to resolve. All places before it are directories, and all names on
the way are those of entries that are no links. -/
inductive Settled : Location → Prop where
  /-- The root is where it is. -/
  | root : Settled []
  /-- An entry of a settled directory is settled if it is no link. -/
  | enter {here : Location} {name : Name} {entry : Entry} (h : Settled here)
      (hlooks : files.LooksUp here name) (hslash : Path.slash ∉ name)
      (hentry : files.entry? (here ++ [name]) = some entry)
      (hlink : ∀ target, entry ≠ .link target) : Settled (here ++ [name])

variable {files}

/-- The root lies in no directory, and so in none that is locked. -/
theorem mayReach_nil (files : FileSystem) : files.mayReach [] = true := by
  rw [mayReach, List.all_eq_true]
  intro place _
  cases place <;> rfl

/-- The system can be asked for a name exactly if it finds no fault with it. -/
theorem nameFault?_eq_none_iff {here : Location} {name : Name}
    (hname : Path.staysPut name = false ∧ name ≠ Path.dotDot) :
    files.nameFault? here name = none ↔ files.LooksUp here name := by
  constructor
  · intro h
    simp only [nameFault?, ite_eq_iff, reduceCtorEq, and_false, false_or, ge_iff_le, Nat.not_le,
      gt_iff_lt, Nat.not_lt, Bool.not_eq_true', Bool.not_eq_false, ne_eq, not_not, and_true] at h
    obtain ⟨hnul, hpath, hdirectory, hreach, hlength⟩ := h
    exact ⟨hdirectory, hreach, hname, hnul, hlength, hpath⟩
  · intro h
    rw [nameFault?, if_neg h.nul_notMem, if_neg (Nat.not_le.mpr h.length_path_lt),
      if_neg (not_not_intro h.isDirectory), h.mayReach, if_neg (by decide),
      if_neg (Nat.not_lt.mpr h.length_name_le)]

/-- A directory that a name is looked up in is not locked. -/
theorem LooksUp.notMem_locked {here : Location} {name : Name} (h : files.LooksUp here name) :
    here ∉ files.locked := by
  intro hmem
  have hopen := List.all_eq_true.mp h.mayReach here hmem
  have habove : here.isPrefixOf (here ++ [name]) = true :=
    List.isPrefixOf_iff_prefix.mpr (List.prefix_append _ _)
  simp [habove] at hopen

namespace Settled

variable {here location : Location}

/-- There is an entry at a settled location. -/
theorem exists_entry (h : files.Settled location) :
    ∃ entry, files.entry? location = some entry := by
  cases h with
  | root => exact ⟨.directory, if_pos rfl⟩
  | enter _ _ _ hentry => exact ⟨_, hentry⟩

/-- No directory on the way to a settled location is locked. -/
theorem mayReach (h : files.Settled location) : files.mayReach location = true := by
  cases h with
  | root => exact mayReach_nil files
  | enter _ hlooks => exact hlooks.mayReach

/-- The directory above a settled place is settled. -/
theorem dropLast (h : files.Settled here) : files.Settled here.dropLast := by
  cases h with
  | root => exact .root
  | enter h => rwa [List.dropLast_concat]

/-- Names of a settled location hold no slashes. -/
theorem slash_notMem (h : files.Settled location) : ∀ name ∈ location, Path.slash ∉ name := by
  induction h with
  | root => simp
  | enter h hlooks hslash hentry hlink ih =>
    rw [List.forall_mem_append, List.forall_mem_singleton]
    exact ⟨ih, hslash⟩

/-- The path of a settled location can be handed to the system. -/
theorem nul_notMem_path (h : files.Settled location) : (0 : UInt8) ∉ location.path := by
  have hnames : ∀ name ∈ location, (0 : UInt8) ∉ name := by
    induction h with
    | root => simp
    | enter h hlooks hslash hentry hlink ih =>
      rw [List.forall_mem_append, List.forall_mem_singleton]
      exact ⟨ih, hlooks.nul_notMem⟩
  rw [Location.path]
  split
  · decide
  · intro hmem
    obtain ⟨name, hname, hmem⟩ := List.mem_flatMap.mp hmem
    rcases List.mem_cons.mp hmem with hslash | hmem
    · exact absurd hslash (by decide)
    · exact hnames name hname hmem

/-- The path of a settled location is not too long. -/
theorem length_path_lt (h : files.Settled location) : location.path.length < maxPath := by
  cases h with
  | root => decide
  | enter h hlooks => exact hlooks.length_path_lt

end Settled

/-- What a walk comes to is settled, as far as it goes, and the names after it hold no slashes. -/
def IsSettledWalk (files : FileSystem) : Walk → Prop
  | .arrived location => files.Settled location
  | .link directory _ rest => files.Settled directory ∧ ∀ name ∈ rest, Path.slash ∉ name
  | .absent .. | .failed _ => True

/-- There is an entry at a place that the system was asked for. -/
theorem exists_entry_of_placeFault?_eq_none {place : Location} {rest : List Name}
    (h : files.placeFault? place rest = none) : ∃ entry, files.entry? place = some entry := by
  rw [placeFault?] at h
  split at h
  · cases h
  · cases hentry : files.entry? place with
    | none => simp [hentry] at h
    | some entry => exact ⟨entry, rfl⟩

/-- To go along some segments place by place comes to settled places only. -/
theorem isSettledWalk_canonicalWalk {here : Location} (h : files.Settled here)
    {segments : List Name} (hsegments : ∀ name ∈ segments, Path.slash ∉ name) :
    files.IsSettledWalk (files.canonicalWalk here segments) := by
  induction segments generalizing here with
  | nil => exact h
  | cons name rest ih =>
    rw [List.forall_mem_cons] at hsegments
    obtain ⟨hslash, hrest⟩ := hsegments
    rw [canonicalWalk]
    split
    · exact ih h hrest
    next hstays =>
      split
      · exact ih h.dropLast hrest
      next hup =>
        cases hfault : files.nameFault? here name with
        | some fault => trivial
        | none =>
          have hlooks : files.LooksUp here name :=
            (nameFault?_eq_none_iff ⟨Bool.not_eq_true _ ▸ hstays, hup⟩).mp hfault
          dsimp only
          split
          · exact ⟨h, hrest⟩
          next hlink =>
            -- The name is that of an entry, and this is no link.
            cases hplace : files.placeFault? (here ++ [name]) rest with
            | some fault => trivial
            | none =>
              obtain ⟨entry, hentry⟩ := exists_entry_of_placeFault?_eq_none hplace
              exact ih (.enter h hlooks hslash hentry fun target heq =>
                hlink target (heq ▸ hentry)) hrest

/-- Segments of a path hold no slashes. -/
theorem slash_notMem_segments (path : Path) : ∀ name ∈ path.segments, Path.slash ∉ name :=
  fun _ hname => Bytes.notMem_of_mem_splitOn hname

/-- To follow links from a settled place comes to settled places only. -/
theorem isSettledWalk_follow (links : Nat) {here : Location} (h : files.Settled here)
    {segments : List Name} (hsegments : ∀ name ∈ segments, Path.slash ∉ name) :
    files.IsSettledWalk (follow files.canonicalWalk links here segments) := by
  induction links generalizing here segments with
  | zero =>
    have hwalk := isSettledWalk_canonicalWalk h hsegments
    rw [follow]
    split
    · trivial
    · exact hwalk
  | succ links ih =>
    have hwalk := isSettledWalk_canonicalWalk h hsegments
    rw [follow]
    split
    next directory target rest hlink =>
      rw [hlink] at hwalk
      refine ih ?_ ?_
      · -- The target begins at the root or in the directory of the link.
        rw [startOf]
        split
        · exact .root
        · exact hwalk.1
      · rw [List.forall_mem_append]
        exact ⟨slash_notMem_segments target, hwalk.2⟩
    · exact hwalk

/-- A path that begins at a settled place has a settled canonical location. -/
theorem settled_of_canonicalLocation {path : Path}
    (hstart : files.Settled (startOf files.workingDirectory path)) {location : Location}
    (h : files.canonicalLocation path = .ok location) : files.Settled location := by
  rw [canonicalLocation] at h
  split at h
  · cases h
  · have hwalk := isSettledWalk_follow maxLinks hstart (slash_notMem_segments path)
    generalize follow files.canonicalWalk maxLinks _ path.segments = walk at h hwalk
    cases walk with
    | arrived place =>
      cases h
      exact hwalk
    | link | absent | failed => cases h

/-- Absolute paths have settled canonical locations. -/
theorem settled_canonicalLocation {path : Path} (habsolute : path.isAbsolute = true)
    {location : Location} (h : files.canonicalLocation path = .ok location) :
    files.Settled location := by
  refine settled_of_canonicalLocation ?_ h
  rw [startOf, if_pos habsolute]
  exact .root

/-- A walk goes on where the walk along its first segments arrives. -/
theorem walk_append {here there : Location} {segments : List Name}
    (h : files.walk here segments = .arrived there) (rest : List Name) :
    files.walk here (segments ++ rest) = files.walk there rest := by
  induction segments generalizing here with
  | nil =>
    cases h
    rfl
  | cons name segments ih =>
    -- Both walks meet the same segment, and the shorter one does not end here.
    rw [walk] at h
    rw [List.cons_append, walk]
    by_cases hdirectory : files.entry? here ≠ some .directory
    · rw [if_pos hdirectory] at h
      cases h
    rw [if_neg hdirectory] at h ⊢
    by_cases hlocked : name ≠ [] ∧ here ∈ files.locked
    · rw [if_pos hlocked] at h
      cases h
    rw [if_neg hlocked] at h ⊢
    by_cases hstays : Path.staysPut name = true
    · rw [if_pos hstays] at h ⊢
      exact ih h
    rw [if_neg hstays] at h ⊢
    by_cases hup : name = Path.dotDot
    · rw [if_pos hup] at h ⊢
      exact ih h
    rw [if_neg hup] at h ⊢
    by_cases hname : name.length > maxName
    · rw [if_pos hname] at h
      cases h
    rw [if_neg hname] at h ⊢
    cases hentry : files.entry? (here ++ [name]) with
    | none =>
      rw [hentry] at h
      cases h
    | some entry =>
      rw [hentry] at h
      cases entry with
      | link target => cases h
      | file number => exact ih h
      | directory => exact ih h
      | special number => exact ih h

/-- The names of a settled location lead there. -/
theorem walk_of_settled {location : Location} (h : files.Settled location) :
    files.walk [] location = .arrived location := by
  induction h with
  | root => rfl
  | @enter here name entry h hlooks hslash hentry hlink ih =>
    have hopen : ¬ (name ≠ [] ∧ here ∈ files.locked) := fun hlocked => hlooks.notMem_locked hlocked.2
    rw [walk_append ih, walk, if_neg (not_not_intro hlooks.isDirectory), if_neg hopen,
      if_neg (by simp [hlooks.isName.1]), if_neg hlooks.isName.2,
      if_neg (Nat.not_lt.mpr hlooks.length_name_le), hentry]
    cases entry with
    | link target => exact absurd rfl (hlink target)
    | file number => rfl
    | directory => rfl
    | special number => rfl

/-- The segments of a canonical path are an empty one and the names on the way. The path of the
root has one more empty segment. -/
theorem segments_path_of_settled {location : Location} (h : files.Settled location) :
    location.path.segments = [] :: location ∨
      location = [] ∧ location.path.segments = [[], []] := by
  cases location with
  | nil => exact Or.inr ⟨rfl, rfl⟩
  | cons name rest =>
    have hempty : Path.slash ∉ ([] : Bytes) := List.not_mem_nil
    exact Or.inl (Bytes.splitOn_append_flatMap hempty h.slash_notMem)

/-- An empty segment leads nowhere. -/
theorem walk_nil_cons (segments : List Name) : files.walk [] ([] :: segments) =
    files.walk [] segments := by
  have hroot : files.entry? [] = some .directory := if_pos rfl
  have hempty : Path.staysPut [] = true := rfl
  rw [walk, if_neg (not_not_intro hroot), if_neg (fun hlocked => hlocked.1 rfl), if_pos hempty]

/-- The path of a settled location leads there. -/
theorem resolve_path {location : Location} (h : files.Settled location) :
    files.resolve location.path = .ok location := by
  have hwalk : files.walk [] location.path.segments = .arrived location := by
    rcases segments_path_of_settled h with hsegments | ⟨rfl, hsegments⟩
    · rw [hsegments, walk_nil_cons, walk_of_settled h]
    · rw [hsegments, walk_nil_cons, walk_nil_cons]
      rfl
  have habsolute : location.path.isAbsolute = true := by
    cases location <;> rfl
  have hne : location.path ≠ [] := by
    cases location <;> exact List.cons_ne_nil _ _
  rw [resolve, trace, pathFault?, if_neg h.nul_notMem_path, if_neg hne]
  dsimp only
  rw [if_neg (Nat.not_le.mpr h.length_path_lt), startOf, if_pos habsolute, follow, hwalk]
  rfl

/-- The system finds the entry of a settled location by its path. -/
theorem Settled.stat_path {location : Location} (h : files.Settled location) {entry : Entry}
    (hentry : files.entry? location = some entry) :
    files.stat location.path = .ok (location, entry) := by
  simp only [stat, resolve_path h, bind, Except.bind, hentry]
  rfl

/-- The system takes the path of a settled location for that of a directory if it is one. -/
theorem Settled.isDirectory_path {location : Location} (h : files.Settled location) :
    files.isDirectory location.path = decide (files.entry? location = some .directory) := by
  obtain ⟨entry, hentry⟩ := h.exists_entry
  rw [isDirectory, h.stat_path hentry, hentry]
  cases entry <;> rfl

end FileSystem

namespace Router

/-- What is routed to is the path of a regular file, with the size that it has. To every other
request the answer is that there is no such file. -/
theorem staticRoute_eq_or (files : FileSystem) (root : Path) (asked : Bytes) :
    staticRoute files root asked = .notFound ∨
      ∃ path location number mediaType, files.stat path = .ok (location, .file number) ∧
        staticRoute files root asked =
          .staticFile path (files.content number).size mediaType := by
  rw [staticRoute]
  split
  · exact Or.inl rfl
  next location hlocation =>
    split
    · split
      next place number hstat => exact Or.inr ⟨_, place, number, _, hstat, rfl⟩
      · exact Or.inl rfl
    · exact Or.inl rfl

/-- A file that is routed to is the file that is opened, if it can be opened at all. -/
theorem openFile_of_staticRoute {files : FileSystem} {root : Path} {asked : Bytes} {path : Path}
    {length : Nat} {mediaType : String}
    (h : staticRoute files root asked = .staticFile path length mediaType) {file : OpenFile}
    (hopen : files.openFile path = .ok file) :
    ∃ number, file = .file number 0 ∧ length = (files.content number).size := by
  rcases staticRoute_eq_or files root asked with
    hnone | ⟨found, location, number, _, hstat, hroute⟩
  · rw [hnone] at h
    cases h
  · rw [hroute] at h
    cases h
    refine ⟨number, ?_, rfl⟩
    rw [FileSystem.openFile, hstat] at hopen
    simp only [bind, Except.bind] at hopen
    -- It may be a file that the program cannot read.
    split at hopen
    · cases hopen
      rfl
    · cases hopen

/-- A request that is routed to a file is routed to one below the root. -/
theorem exists_staticRoute_of_route {router : Router} {files : FileSystem} {request : Http.Request}
    {sources : Nat} {path : Path} {length : Nat} {mediaType : String}
    (h : router.route files request sources = .staticFile path length mediaType) :
    ∃ root, staticRoute files root request.path = .staticFile path length mediaType := by
  have hsource (route : Nat → Route) (hroute : ∀ source, route source ≠ .staticFile path length
      mediaType) (text : Bytes) : sourceRoute route text sources ≠ .staticFile path length
        mediaType := by
    rw [sourceRoute]
    split
    · exact hroute _
    · exact Route.noConfusion
  rw [route] at h
  split at h
  · cases h
  split at h
  · cases h
  rw [resource] at h
  split at h
  · split at h
    · cases h
    · exact absurd h (hsource .stream (fun _ => Route.noConfusion) _)
  split at h
  · exact absurd h (hsource .still (fun _ => Route.noConfusion) _)
  split at h
  next root _ => exact ⟨root, h⟩
  · cases h

end Router

end MotionJpeg
