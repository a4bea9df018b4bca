import MotionJpeg.Proofs.Files.Listing
import MotionJpeg.Proofs.Files.Resolution

/-!
# File systems that agree below a place

Two file systems may have the same below some place and differ everywhere else. Where there are no
links and no way up is taken, a path that enters this place leads to the same in both.

* `FileSystem.AgreeBelow` says what it is to have the same below a place.
* `FileSystem.AgreeBelow.leads`: from there the same segments lead to the same place.
* `FileSystem.Settled.leads_path_iff`: a path that begins with the path of a settled location goes
  on there.
-/

namespace MotionJpeg

/-- What there is at a location for a program to find, with the contents of a file and not their
number. -/
inductive Node where
  | file (data : Array UInt8)
  | directory
  | link (target : Path)
  | special (data : Option (Array UInt8))
  /-- There is something, in a directory that the program may not search. -/
  | hidden
  deriving DecidableEq, Repr

/-- There is a link. -/
def Node.isLink : Node → Bool
  | link _ => true
  | file _ | directory | special _ | hidden => false

namespace FileSystem

/-- What there is behind an entry. -/
def nodeOf (files : FileSystem) : Entry → Node
  | .file number => .file (files.content number)
  | .directory => .directory
  | .link target => .link target
  | .special number => .special (number.map files.content)

/-- What there is at a location. -/
def node? (files : FileSystem) (location : Location) : Option Node :=
  (files.entry? location).map fun entry =>
    if files.mayReach location then files.nodeOf entry else .hidden

/-- Two file systems have the same at a place and everywhere below it. -/
def AgreeBelow (left right : FileSystem) (base : Location) : Prop :=
  ∀ location, base <+: location → left.node? location = right.node? location

/-- There is no link at a place and none below it. -/
def NoLinkBelow (files : FileSystem) (base : Location) : Prop :=
  ∀ location, base <+: location → ∀ node ∈ files.node? location, node.isLink = false

section Node

variable {files : FileSystem} {location : Location}

/-- What is not hidden is an entry that can be reached. -/
theorem node?_eq_some_iff {node : Node} (hnode : node ≠ .hidden) :
    files.node? location = some node ↔ files.mayReach location = true ∧
      ∃ entry, files.entry? location = some entry ∧ files.nodeOf entry = node := by
  rw [node?, Option.map_eq_some_iff]
  cases files.mayReach location with
  | true => simp
  | false => simp [hnode.symm]

theorem nodeOf_ne_hidden (files : FileSystem) (entry : Entry) : files.nodeOf entry ≠ .hidden := by
  cases entry <;> exact Node.noConfusion

theorem isLink_nodeOf_eq_false_iff {entry : Entry} :
    (files.nodeOf entry).isLink = false ↔ ∀ target, entry ≠ .link target := by
  cases entry <;> simp [nodeOf, Node.isLink]

theorem node?_eq_directory_iff : files.node? location = some .directory ↔
    files.mayReach location = true ∧ files.entry? location = some .directory := by
  rw [node?_eq_some_iff Node.noConfusion]
  refine and_congr_right fun _ => ⟨?_, fun hentry => ⟨.directory, hentry, rfl⟩⟩
  rintro ⟨entry, hentry, hnode⟩
  cases entry <;> cases hnode
  exact hentry

theorem node?_eq_file_iff {data : Array UInt8} : files.node? location = some (.file data) ↔
    files.mayReach location = true ∧
      ∃ number, files.entry? location = some (.file number) ∧ files.content number = data := by
  rw [node?_eq_some_iff Node.noConfusion]
  refine and_congr_right fun _ => ⟨?_, ?_⟩
  · rintro ⟨entry, hentry, hnode⟩
    cases entry <;> cases hnode
    exact ⟨_, hentry, rfl⟩
  · rintro ⟨number, hentry, rfl⟩
    exact ⟨.file number, hentry, rfl⟩

/-- The root is there for every program. -/
theorem node?_nil (files : FileSystem) : files.node? [] = some .directory :=
  node?_eq_directory_iff.mpr ⟨mayReach_nil files, if_pos rfl⟩

/-- Where the table has no entry there is nothing, but for the root. -/
theorem node?_eq_none (hroot : location ≠ []) (h : location ∉ files.entries.map Prod.fst) :
    files.node? location = none := by
  rw [node?, Option.map_eq_none_iff, Option.eq_none_iff_forall_ne_some]
  intro entry hentry
  exact h ((exists_entry?_iff hroot).mp ⟨entry, hentry⟩)

end Node

section Decide

variable {left right files : FileSystem} {base : Location}

/-- It is enough to compare what the tables have entries for. -/
theorem agreeBelow_iff : AgreeBelow left right base ↔
    ∀ location ∈ (left.entries ++ right.entries).map Prod.fst,
      base <+: location → left.node? location = right.node? location := by
  constructor
  · intro h location _
    exact h location
  · intro h location hbase
    by_cases hmem : location ∈ (left.entries ++ right.entries).map Prod.fst
    · exact h location hmem hbase
    · -- Without an entry in either table there is nothing but the root, and that is everywhere.
      rw [List.map_append, List.mem_append, not_or] at hmem
      by_cases hroot : location = []
      · rw [hroot, node?_nil, node?_nil]
      · rw [node?_eq_none hroot hmem.1, node?_eq_none hroot hmem.2]

instance : Decidable (AgreeBelow left right base) := decidable_of_iff _ agreeBelow_iff.symm

/-- It is enough to look at what the table has entries for. -/
theorem noLinkBelow_iff : files.NoLinkBelow base ↔ ∀ location ∈ files.entries.map Prod.fst,
    base <+: location → ∀ node ∈ files.node? location, node.isLink = false := by
  constructor
  · intro h location _
    exact h location
  · intro h location hbase node hnode
    by_cases hmem : location ∈ files.entries.map Prod.fst
    · exact h location hmem hbase node hnode
    · by_cases hroot : location = []
      · rw [hroot, node?_nil] at hnode
        cases hnode
        rfl
      · rw [node?_eq_none hroot hmem] at hnode
        cases hnode

instance : Decidable (files.NoLinkBelow base) := decidable_of_iff _ noLinkBelow_iff.symm

end Decide

section Agree

variable {left right : FileSystem} {base here there : Location} {segments : List Name} {links : Nat}

theorem AgreeBelow.symm (h : AgreeBelow left right base) : AgreeBelow right left base := by
  intro location hbase
  exact (h location hbase).symm

/-- Links are missing in both of two file systems that agree, or in none. -/
theorem NoLinkBelow.congr (h : left.NoLinkBelow base) (hagree : AgreeBelow left right base) :
    right.NoLinkBelow base := by
  intro location hbase node hnode
  rw [← hagree location hbase] at hnode
  exact h location hbase node hnode

/-- There is no link to follow below such a place. -/
theorem NoLinkBelow.entry?_ne (h : left.NoLinkBelow base) (hhere : base <+: here)
    (hreach : left.mayReach here = true) (target : Path) :
    left.entry? here ≠ some (.link target) := by
  intro hentry
  have hnode : left.node? here = some (.link target) :=
    (node?_eq_some_iff Node.noConfusion).mpr ⟨hreach, .link target, hentry, rfl⟩
  cases h here hhere _ hnode

/-- A place where there is a directory in one file system has one in the other. -/
theorem AgreeBelow.isDirectory (hagree : AgreeBelow left right base) (hhere : base <+: here)
    (hreach : left.mayReach here = true) (h : left.entry? here = some .directory) :
    right.entry? here = some .directory := by
  have hnode := hagree here hhere
  rw [node?_eq_directory_iff.mpr ⟨hreach, h⟩] at hnode
  exact (node?_eq_directory_iff.mp hnode.symm).2

/-- A name that leads to an entry below the place from which on two file systems agree leads to one
in both, if it is one of a directory in both. -/
theorem AgreeBelow.enter (hagree : AgreeBelow left right base) {name : Name} {rest : List Name}
    {entry : Entry} (hlooks : left.LooksUp here name)
    (hdirectory : right.entry? here = some .directory) (hnext : base <+: here ++ [name])
    (hentry : left.entry? (here ++ [name]) = some entry) (hlink : ∀ target, entry ≠ .link target)
    (hslash : Path.needsDirectory rest = true →
      (Location.path (here ++ [name])).length + 1 < maxPath)
    (h : right.Leads (here ++ [name]) rest links there) :
    right.Leads here (name :: rest) links there := by
  -- What is found in the one, and so is not hidden, is found in the other.
  have hnode := hagree _ hnext
  rw [(node?_eq_some_iff (left.nodeOf_ne_hidden entry)).mpr ⟨hlooks.mayReach, entry, hentry, rfl⟩]
    at hnode
  obtain ⟨hreach, other, hother, hsame⟩ :=
    (node?_eq_some_iff (left.nodeOf_ne_hidden entry)).mp hnode.symm
  have hnone : (right.nodeOf other).isLink = false := by
    rw [hsame]
    exact isLink_nodeOf_eq_false_iff.mpr hlink
  have hlink' := isLink_nodeOf_eq_false_iff.mp hnone
  exact .enter { hlooks with isDirectory := hdirectory, mayReach := hreach } hother hlink' hslash h

/-- Segments that do not lead up stay below the place from which on two file systems agree, and so
they lead to the same in both. -/
theorem AgreeBelow.leads (hagree : AgreeBelow left right base) (hlinks : left.NoLinkBelow base)
    (h : left.Leads here segments links there) (hhere : base <+: here)
    (hreach : left.mayReach here = true) (hup : Path.dotDot ∉ segments) :
    right.Leads here segments links there ∧ base <+: there ∧ left.mayReach there = true := by
  induction h with
  | arrive here => exact ⟨.arrive here, hhere, hreach⟩
  | stay hdirectory hstays h ih =>
    obtain ⟨hleads, hthere⟩ := ih hhere hreach fun hmem => hup (List.mem_cons_of_mem _ hmem)
    exact ⟨.stay (hagree.isDirectory hhere hreach hdirectory) hstays hleads, hthere⟩
  | leave hdirectory h ih =>
    -- The only rule that leads up needs two dots.
    exact absurd List.mem_cons_self hup
  | @enter here there name rest links entry hlooks hentry hlink hslash h ih =>
    have hnext : base <+: here ++ [name] := hhere.trans (List.prefix_append _ _)
    obtain ⟨hleads, hthere⟩ := ih hnext hlooks.mayReach fun hmem =>
      hup (List.mem_cons_of_mem _ hmem)
    have hdirectory := hagree.isDirectory hhere hreach hlooks.isDirectory
    exact ⟨hagree.enter hlooks hdirectory hnext hentry hlink hslash hleads, hthere⟩
  | @follow here there name target rest links hlooks hentry h ih =>
    -- The only other way out is a link, and there is none.
    have hnext : base <+: here ++ [name] := hhere.trans (List.prefix_append _ _)
    exact absurd hentry (hlinks.entry?_ne hnext hlooks.mayReach target)

end Agree

section Beginning

variable {files : FileSystem} {here there : Location} {rest : List Name} {links : Nat}

/-- An empty segment of a directory can be left out. -/
theorem leads_nil_cons_iff (hdirectory : files.entry? here = some .directory) :
    files.Leads here ([] :: rest) links there ↔ files.Leads here rest links there := by
  constructor
  · intro h
    cases h with
    | stay _ _ h => exact h
    | enter hlooks => cases hlooks.isName.1
    | follow hlooks => cases hlooks.isName.1
  · intro h
    exact .stay hdirectory rfl h

/-- A name of which nothing more is asked leads to its entry, if that is no link. -/
theorem leads_cons_iff {name : Name} (hlooks : files.LooksUp here name) {entry : Entry}
    (hentry : files.entry? (here ++ [name]) = some entry) (hlink : ∀ target, entry ≠ .link target)
    (hneeds : Path.needsDirectory rest = false) :
    files.Leads here (name :: rest) links there ↔
      files.Leads (here ++ [name]) rest links there := by
  constructor
  · intro h
    cases h with
    | stay _ hstays _ =>
      rw [hlooks.isName.1] at hstays
      cases hstays
    | leave => exact absurd rfl hlooks.isName.2
    | enter _ _ _ _ h => exact h
    | follow _ htarget _ =>
      rw [hentry] at htarget
      exact absurd (Option.some.inj htarget) (hlink _)
  · intro h
    refine .enter hlooks hentry hlink ?_ h
    intro hneeded
    rw [hneeds] at hneeded
    cases hneeded

/-- The names of a settled location lead there, and what follows goes on from there. -/
theorem Settled.leads_append_iff {location : Location} (h : files.Settled location)
    (hneeds : Path.needsDirectory rest = false) :
    files.Leads [] (location ++ rest) links there ↔ files.Leads location rest links there := by
  -- Name by name from the root; more than the last name is asked of every name before it.
  induction h generalizing rest with
  | root => exact Iff.rfl
  | @enter here name entry h hlooks hslash hentry hlink ih =>
    have hplain : Path.needsDirectory (name :: rest) = false := by
      rw [Path.needsDirectory, hlooks.isName.1]
      exact beq_eq_false_iff_ne.mpr hlooks.isName.2
    rw [List.append_assoc]
    exact (ih hplain).trans (leads_cons_iff hlooks hentry hlink hneeds)

/-- A path that begins with the path of a settled location goes on there. -/
theorem Settled.leads_path_iff {location : Location} (h : files.Settled location)
    (hneeds : Path.needsDirectory rest = false) :
    files.Leads [] (location.path.segments ++ rest) links there ↔
      files.Leads location rest links there := by
  have hroot : files.entry? [] = some .directory := if_pos rfl
  rcases segments_path_of_settled h with hsegments | ⟨rfl, hsegments⟩
  · rw [hsegments, List.cons_append, leads_nil_cons_iff hroot]
    exact h.leads_append_iff hneeds
  · rw [hsegments, List.cons_append, List.cons_append, leads_nil_cons_iff hroot,
      leads_nil_cons_iff hroot, List.nil_append]

end Beginning

end FileSystem

end MotionJpeg
