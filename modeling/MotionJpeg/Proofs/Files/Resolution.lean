import MotionJpeg.Proofs.Files.Settled

/-!
# Where a path leads

The rules by which a path is resolved, stated apart from any way to compute it: one segment after
the other, each in a directory, and the target of a link in place of its name.

* `FileSystem.Leads` are the rules for the segments of a path, `FileSystem.Resolves` those for the
  path as a whole.
* `FileSystem.canonicalLocation_eq_ok_iff`: absolute paths have the canonical locations that the
  rules give them.
* `FileSystem.Settled.isPlain` and `FileSystem.Settled.isLinkFree`: nothing is left to resolve at
  these locations.
-/

namespace MotionJpeg

/-- The names are those of entries, and no path joined of them has empty segments or dots. -/
def Location.IsPlain (location : Location) : Prop :=
  ∀ name ∈ location, Path.staysPut name = false ∧ name ≠ Path.dotDot ∧ Path.slash ∉ name

namespace FileSystem

variable (files : FileSystem)

/-- No name on the way to a place, the last one included, is that of a link. -/
def IsLinkFree (location : Location) : Prop :=
  ∀ place, place <+: location → ∀ target, files.entry? place ≠ some (.link target)

/-- From `here` some segments lead to `there`, by way of this number of links. Each segment, also
an empty one, is one of a directory. -/
inductive Leads : Location → List Name → Nat → Location → Prop where
  | arrive (here : Location) : Leads here [] 0 here
  /-- Empty segments and dots lead nowhere. -/
  | stay {here there : Location} {name : Name} {rest : List Name} {links : Nat}
      (hdirectory : files.entry? here = some .directory) (hstays : Path.staysPut name = true)
      (h : Leads here rest links there) : Leads here (name :: rest) links there
  /-- Two dots lead to the directory above, and from the root to the root. -/
  | leave {here there : Location} {rest : List Name} {links : Nat}
      (hdirectory : files.entry? here = some .directory)
      (h : Leads here.dropLast rest links there) : Leads here (Path.dotDot :: rest) links there
  /-- A name leads to its entry. A directory that is asked for as such has a slash behind its
  path. -/
  | enter {here there : Location} {name : Name} {rest : List Name} {links : Nat} {entry : Entry}
      (hlooks : files.LooksUp here name) (hentry : files.entry? (here ++ [name]) = some entry)
      (hlink : ∀ target, entry ≠ .link target)
      (hslash : Path.needsDirectory rest = true →
        (Location.path (here ++ [name])).length + 1 < maxPath)
      (h : Leads (here ++ [name]) rest links there) : Leads here (name :: rest) links there
  /-- The name of a link stands for the target of the link. -/
  | follow {here there : Location} {name : Name} {target : Path} {rest : List Name} {links : Nat}
      (hlooks : files.LooksUp here name)
      (hentry : files.entry? (here ++ [name]) = some (.link target))
      (h : Leads (startOf here target) (target.segments ++ rest) links there) :
      Leads here (name :: rest) (links + 1) there

/-- A path leads to a location, by way of no more links than the system follows. -/
def Resolves (path : Path) (location : Location) : Prop :=
  pathFault? path = none ∧ ∃ links ≤ maxLinks,
    files.Leads (startOf files.workingDirectory path) path.segments links location

variable {files}

section Steps

variable {here : Location} {name : Name} {rest : List Name}

/-- The system refuses no name that can be looked up. -/
theorem LooksUp.nameFault?_eq_none (h : files.LooksUp here name) :
    files.nameFault? here name = none :=
  (nameFault?_eq_none_iff h.isName).mpr h

/-- A place is one for the segments after it if there is an entry, and if this is a directory in
case it has to be one. -/
theorem placeFault?_eq_none_iff {place : Location} :
    files.placeFault? place rest = none ↔
      (∃ entry, files.entry? place = some entry) ∧
        (Path.needsDirectory rest = true →
          files.entry? place = some .directory ∧ place.path.length + 1 < maxPath) := by
  rw [placeFault?]
  cases hneeds : Path.needsDirectory rest with
  | false => cases hentry : files.entry? place with
    | none => simp
    | some entry => cases entry <;> simp
  | true =>
    by_cases hlength : place.path.length + 1 < maxPath
    · cases hentry : files.entry? place with
      | none => simp [Nat.not_le.mpr hlength]
      | some entry => cases entry <;> simp [hlength, Nat.not_le.mpr hlength]
    · have hlong : place.path.length + 1 ≥ maxPath := Nat.not_lt.mp hlength
      simp [hlength, hlong]

theorem canonicalWalk_of_staysPut (hstays : Path.staysPut name = true) :
    files.canonicalWalk here (name :: rest) = files.canonicalWalk here rest := by
  rw [canonicalWalk, if_pos hstays]

theorem canonicalWalk_dotDot :
    files.canonicalWalk here (Path.dotDot :: rest) = files.canonicalWalk here.dropLast rest := by
  have hstays : ¬ Path.staysPut Path.dotDot = true := by decide
  rw [canonicalWalk, if_neg hstays, if_pos rfl]

/-- A walk stops at a link. -/
theorem canonicalWalk_of_link (hlooks : files.LooksUp here name) {target : Path}
    (hentry : files.entry? (here ++ [name]) = some (.link target)) :
    files.canonicalWalk here (name :: rest) = .link here target rest := by
  have hstays : ¬ Path.staysPut name = true := Bool.not_eq_true _ ▸ hlooks.isName.1
  rw [canonicalWalk, if_neg hstays, if_neg hlooks.isName.2, hlooks.nameFault?_eq_none]
  simp only [hentry]

/-- A walk goes on from an entry that is no link, if nothing is asked of the entry that it is
not. -/
theorem canonicalWalk_of_entry (hlooks : files.LooksUp here name) {entry : Entry}
    (hentry : files.entry? (here ++ [name]) = some entry) (hlink : ∀ target, entry ≠ .link target)
    (hplace : files.placeFault? (here ++ [name]) rest = none) :
    files.canonicalWalk here (name :: rest) = files.canonicalWalk (here ++ [name]) rest := by
  have hstays : ¬ Path.staysPut name = true := Bool.not_eq_true _ ▸ hlooks.isName.1
  rw [canonicalWalk, if_neg hstays, if_neg hlooks.isName.2, hlooks.nameFault?_eq_none]
  simp only [hentry, hplace]
  cases entry with
  | link target => exact absurd rfl (hlink target)
  | file => rfl
  | directory => rfl
  | special => rfl

/-- All that a walk can do with a segment: pass it over, go up, fail, stop at a link, or go on from
the entry of a name. -/
theorem canonicalWalk_cases (here : Location) (name : Name) (rest : List Name) :
    Path.staysPut name = true ∨ name = Path.dotDot ∨
      (∃ fault, files.canonicalWalk here (name :: rest) = .failed fault) ∨
      files.LooksUp here name ∧
        ((∃ target, files.entry? (here ++ [name]) = some (.link target)) ∨
          ∃ entry, files.entry? (here ++ [name]) = some entry ∧ (∀ target, entry ≠ .link target) ∧
            files.placeFault? (here ++ [name]) rest = none) := by
  by_cases hstays : Path.staysPut name = true
  · exact Or.inl hstays
  by_cases hup : name = Path.dotDot
  · exact Or.inr (Or.inl hup)
  refine Or.inr (Or.inr ?_)
  rw [canonicalWalk, if_neg hstays, if_neg hup]
  cases hfault : files.nameFault? here name with
  | some fault => exact Or.inl ⟨fault, rfl⟩
  | none =>
    have hlooks : files.LooksUp here name :=
      (nameFault?_eq_none_iff ⟨Bool.not_eq_true _ ▸ hstays, hup⟩).mp hfault
    dsimp only
    split
    next target hentry => exact Or.inr ⟨hlooks, Or.inl ⟨target, hentry⟩⟩
    next hlink =>
      cases hplace : files.placeFault? (here ++ [name]) rest with
      | some fault => exact Or.inl ⟨fault, rfl⟩
      | none =>
        obtain ⟨entry, hentry⟩ := exists_entry_of_placeFault?_eq_none hplace
        refine Or.inr ⟨hlooks, Or.inr ⟨entry, hentry, ?_, rfl⟩⟩
        intro target heq
        exact hlink target (heq ▸ hentry)

/-- To follow links begins with a walk, whatever it is along. -/
theorem follow_congr {walk : Location → List Name → Walk} {there : Location}
    {segments others : List Name} (h : walk here segments = walk there others) (links : Nat) :
    follow walk links here segments = follow walk links there others := by
  rw [follow.eq_def, follow.eq_def walk links there, h]

end Steps

/-- The directory above a settled place is a directory indeed, as the root is. -/
theorem Settled.entry?_dropLast {here : Location} (h : files.Settled here) :
    files.entry? here.dropLast = some .directory := by
  cases h with
  | root => exact if_pos rfl
  | enter h hlooks =>
    rw [List.dropLast_concat]
    exact hlooks.isDirectory

/-- Whatever is asked of a place after it was reached, it has to be a directory. -/
theorem Leads.isDirectory {here there : Location} {segments : List Name} {links : Nat}
    (h : files.Leads here segments links there) (hne : segments ≠ []) :
    files.entry? here = some .directory := by
  cases h with
  | arrive => exact absurd rfl hne
  | stay hdirectory => exact hdirectory
  | leave hdirectory => exact hdirectory
  | enter hlooks => exact hlooks.isDirectory
  | follow hlooks => exact hlooks.isDirectory

section Sound

/-- A place where a walk does not fail is a directory if segments follow. Those that lead nowhere
need no look-up, but then a name comes that does. -/
theorem isDirectory_of_canonicalWalk {here : Location} {segments : List Name} (hne : segments ≠ [])
    (hhere : Path.needsDirectory segments = true → files.entry? here = some .directory)
    (hwalk : ¬ ∃ fault, files.canonicalWalk here segments = .failed fault) :
    files.entry? here = some .directory := by
  -- Induction on the segments, as any number of them may lead nowhere before a name comes.
  induction segments with
  | nil => exact absurd rfl hne
  | cons name rest ih =>
    rcases files.canonicalWalk_cases here name rest with hstays | hup | hfails | ⟨hlooks, -⟩
    · rw [canonicalWalk_of_staysPut hstays] at hwalk
      rw [Path.needsDirectory, if_pos hstays] at hhere
      cases rest with
      | nil => exact hhere rfl
      | cons next rest =>
        apply ih (List.cons_ne_nil _ _) _ hwalk
        intro hneeds
        exact hhere hneeds
    · rw [hup] at hhere
      exact hhere rfl
    · exact absurd hfails hwalk
    · exact hlooks.isDirectory

/-- What a walk along some segments tells of where they lead: the place that it arrives at, or, if
it comes to a link, the place that the target of the link and the rest lead to. -/
def LeadsTo (files : FileSystem) (here : Location) (segments : List Name) : Walk → Prop
  | .arrived there => files.Leads here segments 0 there
  | .link directory target rest => files.entry? directory = some .directory ∧
      ∀ links there, files.Leads (startOf directory target) (target.segments ++ rest) links there →
        files.Leads here segments (links + 1) there
  | .absent .. | .failed _ => True

/-- What is told of some segments is told of others that lead to the same places. -/
theorem LeadsTo.imp {here there : Location} {segments others : List Name} {walk : Walk}
    (h : files.LeadsTo here segments walk)
    (himp : ∀ links last, files.Leads here segments links last →
      files.Leads there others links last) : files.LeadsTo there others walk := by
  cases walk with
  | arrived last => exact himp 0 last h
  | link directory target rest =>
    refine ⟨h.1, ?_⟩
    intro links last hlast
    exact himp _ last (h.2 links last hlast)
  | absent => trivial
  | failed => trivial

/-- A walk goes by the rules. -/
theorem leadsTo_canonicalWalk {here : Location} (hsettled : files.Settled here)
    {segments : List Name} (hsegments : ∀ name ∈ segments, Path.slash ∉ name)
    (hhere : Path.needsDirectory segments = true → files.entry? here = some .directory) :
    files.LeadsTo here segments (files.canonicalWalk here segments) := by
  -- Induction on the segments from every settled place, with one rule for each way to go on.
  induction segments generalizing here with
  | nil => exact .arrive here
  | cons name rest ih =>
    rw [List.forall_mem_cons] at hsegments
    obtain ⟨hslash, hrest⟩ := hsegments
    by_cases hfails : ∃ fault, files.canonicalWalk here (name :: rest) = .failed fault
    · obtain ⟨fault, hfails⟩ := hfails
      rw [hfails]
      trivial
    have hdirectory := isDirectory_of_canonicalWalk (List.cons_ne_nil _ _) hhere hfails
    rcases files.canonicalWalk_cases here name rest with
      hstays | hup | hfails' | ⟨hlooks, ⟨target, hentry⟩ | ⟨entry, hentry, hlink, hplace⟩⟩
    · rw [canonicalWalk_of_staysPut hstays]
      apply (ih hsettled hrest fun _ => hdirectory).imp
      intro links last
      exact .stay hdirectory hstays
    · rw [hup, canonicalWalk_dotDot]
      apply (ih hsettled.dropLast hrest fun _ => hsettled.entry?_dropLast).imp
      intro links last
      exact .leave hdirectory
    · exact absurd hfails' hfails
    · rw [canonicalWalk_of_link hlooks hentry]
      refine ⟨hdirectory, ?_⟩
      intro links last
      exact .follow hlooks hentry
    · rw [canonicalWalk_of_entry hlooks hentry hlink hplace]
      obtain ⟨-, hneeds⟩ := placeFault?_eq_none_iff.mp hplace
      have hnext : files.Settled (here ++ [name]) := .enter hsettled hlooks hslash hentry hlink
      apply (ih hnext hrest fun hneeded => (hneeds hneeded).1).imp
      intro links last
      exact .enter hlooks hentry hlink fun hneeded => (hneeds hneeded).2

/-- Links are followed by the rules. -/
theorem leads_of_follow {here there : Location} (hsettled : files.Settled here)
    (hdirectory : files.entry? here = some .directory) {segments : List Name}
    (hsegments : ∀ name ∈ segments, Path.slash ∉ name) {limit : Nat}
    (h : follow files.canonicalWalk limit here segments = .arrived there) :
    ∃ links ≤ limit, files.Leads here segments links there := by
  -- Induction on the links that may still be followed; between two of them there is one walk.
  induction limit generalizing here segments with
  | zero =>
    have hwalk := leadsTo_canonicalWalk hsettled hsegments fun _ => hdirectory
    rw [follow] at h
    split at h
    · cases h
    · rw [h] at hwalk
      exact ⟨0, Nat.le_refl 0, hwalk⟩
  | succ limit ih =>
    have hwalk := leadsTo_canonicalWalk hsettled hsegments fun _ => hdirectory
    have hnext := isSettledWalk_canonicalWalk hsettled hsegments
    rw [follow] at h
    split at h
    next directory target rest hlink =>
      rw [hlink] at hwalk hnext
      obtain ⟨hdirectory, hfollow⟩ := hwalk
      -- The target begins at the root or in the directory of the link.
      have hstart : files.Settled (startOf directory target) ∧
          files.entry? (startOf directory target) = some .directory := by
        rw [startOf]
        split
        · exact ⟨.root, if_pos rfl⟩
        · exact ⟨hnext.1, hdirectory⟩
      have hslashes : ∀ name ∈ target.segments ++ rest, Path.slash ∉ name :=
        List.forall_mem_append.mpr ⟨slash_notMem_segments target, hnext.2⟩
      obtain ⟨links, hle, hleads⟩ := ih hstart.1 hstart.2 hslashes h
      exact ⟨links + 1, Nat.succ_le_succ hle, hfollow links there hleads⟩
    · rw [h] at hwalk
      exact ⟨0, Nat.zero_le _, hwalk⟩

end Sound

/-- Whatever the rules lead to is found, if the limit allows for that many links. -/
theorem follow_of_leads {here there : Location} {segments : List Name} {links limit : Nat}
    (h : files.Leads here segments links there) (hle : links ≤ limit) :
    follow files.canonicalWalk limit here segments = .arrived there := by
  -- Every rule is one step of the walk, and only that for links uses up one of the limit.
  induction h generalizing limit with
  | arrive => rw [follow.eq_def, canonicalWalk]
  | stay hdirectory hstays h ih =>
    rw [follow_congr (canonicalWalk_of_staysPut hstays), ih hle]
  | leave hdirectory h ih =>
    rw [follow_congr canonicalWalk_dotDot, ih hle]
  | @enter here there name rest links entry hlooks hentry hlink hslash h ih =>
    have hplace : files.placeFault? (here ++ [name]) rest = none := by
      refine placeFault?_eq_none_iff.mpr ⟨⟨entry, hentry⟩, ?_⟩
      intro hneeds
      -- More is asked of the place, so something follows.
      have hne : rest ≠ [] := by
        rintro rfl
        cases hneeds
      exact ⟨h.isDirectory hne, hslash hneeds⟩
    rw [follow_congr (canonicalWalk_of_entry hlooks hentry hlink hplace), ih hle]
  | follow hlooks hentry h ih =>
    obtain ⟨limit, rfl⟩ := Nat.exists_eq_succ_of_ne_zero (Nat.ne_zero_of_lt hle)
    rw [follow, canonicalWalk_of_link hlooks hentry]
    exact ih (Nat.le_of_succ_le_succ hle)

/-- The canonical location of a path that begins in a settled directory is the one that the path
leads to by the rules. -/
theorem canonicalLocation_eq_ok_iff_of_start {path : Path}
    (hstart : files.Settled (startOf files.workingDirectory path))
    (hdirectory : files.entry? (startOf files.workingDirectory path) = some .directory)
    {location : Location} :
    files.canonicalLocation path = .ok location ↔ files.Resolves path location := by
  rw [canonicalLocation, Resolves]
  cases hfault : pathFault? path with
  | some fault => simp
  | none =>
    simp only [true_and]
    constructor
    · intro h
      apply leads_of_follow hstart hdirectory (slash_notMem_segments path)
      generalize follow files.canonicalWalk maxLinks _ path.segments = walk at h
      cases walk with
      | arrived place => exact congrArg Walk.arrived (Except.ok.inj h)
      | link => cases h
      | absent => cases h
      | failed => cases h
    · rintro ⟨links, hle, h⟩
      rw [follow_of_leads h hle]
      rfl

/-- The canonical location of an absolute path is the one that the path leads to by the rules. -/
theorem canonicalLocation_eq_ok_iff {path : Path} (habsolute : path.isAbsolute = true)
    {location : Location} :
    files.canonicalLocation path = .ok location ↔ files.Resolves path location := by
  have hroot : startOf files.workingDirectory path = [] := if_pos habsolute
  apply canonicalLocation_eq_ok_iff_of_start
  · rw [hroot]
    exact .root
  · rw [hroot]
    exact if_pos rfl

/-- Nothing is left to resolve in a settled location. -/
theorem Settled.isPlain {location : Location} (h : files.Settled location) : location.IsPlain := by
  induction h with
  | root => exact fun name hname => absurd hname List.not_mem_nil
  | enter h hlooks hslash hentry hlink ih =>
    intro name hmem
    rcases List.mem_append.mp hmem with hmem | hmem
    · exact ih name hmem
    · rw [List.mem_singleton.mp hmem]
      exact ⟨hlooks.isName.1, hlooks.isName.2, hslash⟩

/-- No link is on the way to a settled location. -/
theorem Settled.isLinkFree {location : Location} (h : files.Settled location) :
    files.IsLinkFree location := by
  induction h with
  | root =>
    intro place hplace target hentry
    rw [List.prefix_nil.mp hplace, entry?, if_pos rfl] at hentry
    cases hentry
  | enter h hlooks hslash hentry hlink ih =>
    intro place hplace target htarget
    rcases List.prefix_concat_iff.mp hplace with rfl | hplace
    · rw [hentry] at htarget
      exact hlink target (Option.some.inj htarget)
    · exact ih place hplace target htarget

/-- Paths of locations begin at the root. -/
theorem isAbsolute_path (location : Location) : location.path.isAbsolute = true := by
  cases location <;> rfl

/-- The names in the path of a settled location are those of the location. -/
theorem Settled.names_path {location : Location} (h : files.Settled location) :
    location.path.names = location := by
  rw [Path.names]
  rcases segments_path_of_settled h with hsegments | ⟨rfl, hsegments⟩
  · rw [hsegments, List.filter_cons_of_neg (by decide), List.filter_eq_self]
    intro name hname
    rw [(h.isPlain name hname).1]
    rfl
  · rw [hsegments]
    rfl

end FileSystem

end MotionJpeg
