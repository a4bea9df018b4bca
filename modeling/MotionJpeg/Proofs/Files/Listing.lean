import Mathlib.Data.List.Nodup
import Mathlib.Data.List.Perm.Basic
import MotionJpeg.Files.Access

/-!
# What a directory lists

A directory lists the names of its entries in no particular order. Where each entry stands in the
table once, the order of the table shows in listings alone: paths lead to the same places and files
have the same contents whatever it is.

* `FileSystem.Lists` says that a directory lists a name.
* `FileSystem.Reordered` relates two file systems that have the same entries in another order.
* `FileSystem.Reordered.stat_eq`, `FileSystem.Reordered.perm_namesAt`: what depends on the order and
  what does not.
-/

namespace MotionJpeg.FileSystem

section Names

/-- The path leads to a directory that the program may read and that has an entry with this name. -/
def Lists (files : FileSystem) (directory : Path) (name : Name) : Prop :=
  ∃ location entry, files.stat directory = .ok (location, .directory) ∧
    files.mayRead location = true ∧ files.entry? (location ++ [name]) = some entry

variable {files : FileSystem} {location : Location} {directory : Path} {name : Name}

/-- Below the root there is what the table has an entry for. -/
theorem exists_entry?_iff (hroot : location ≠ []) :
    (∃ entry, files.entry? location = some entry) ↔ location ∈ files.entries.map Prod.fst := by
  rw [FileSystem.entry?, if_neg hroot]
  constructor
  · rintro ⟨entry, hentry⟩
    obtain ⟨before, after, heq, -⟩ := List.lookup_eq_some_iff.mp hentry
    rw [heq, List.map_append, List.map_cons]
    exact List.mem_append_right _ List.mem_cons_self
  · intro hmem
    -- What the table lists is found in it.
    by_contra hnone
    rw [← Option.ne_none_iff_exists', not_not, List.lookup_eq_none_iff] at hnone
    obtain ⟨pair, hpair, rfl⟩ := List.mem_map.mp hmem
    exact absurd (hnone pair hpair) (by simp)

/-- A name is one of a directory if the table has an entry for it there. -/
theorem mem_namesAt_iff :
    name ∈ files.namesAt location ↔ ∃ entry, files.entry? (location ++ [name]) = some entry := by
  rw [exists_entry?_iff (List.append_ne_nil_of_right_ne_nil _ (List.cons_ne_nil _ _)), namesAt,
    List.mem_filterMap]
  constructor
  · rintro ⟨place, hplace, hname⟩
    obtain ⟨rfl, hlast⟩ := Option.ite_none_right_eq_some.mp hname
    rwa [List.dropLast_append_getLast? name hlast]
  · intro hplace
    exact ⟨_, hplace, by simp⟩

/-- Where the table has each location once, a directory lists each name once. -/
theorem nodup_namesAt (hunique : (files.entries.map Prod.fst).Nodup) :
    (files.namesAt location).Nodup := by
  apply List.Nodup.filterMap _ hunique
  intro place other name hplace hother
  obtain ⟨hparent, hlast⟩ := Option.ite_none_right_eq_some.mp hplace
  obtain ⟨hparent', hlast'⟩ := Option.ite_none_right_eq_some.mp hother
  rw [← List.dropLast_append_getLast? name hlast, ← List.dropLast_append_getLast? name hlast',
    hparent, hparent']

/-- The location of a directory is where its path leads to, if the program may read it. -/
theorem directoryAt_eq_ok_iff : files.directoryAt directory = .ok location ↔
    files.stat directory = .ok (location, .directory) ∧ files.mayRead location = true := by
  rw [directoryAt]
  cases files.stat directory with
  | error fault => simp [bind, Except.bind]
  | ok found =>
    obtain ⟨place, entry⟩ := found
    cases entry with
    | directory =>
      by_cases hread : files.mayRead place = true
      · simp only [bind, Except.bind, if_pos hread]
        constructor
        · intro h
          cases h
          exact ⟨rfl, hread⟩
        · rintro ⟨h, -⟩
          cases h
          rfl
      · simp only [bind, Except.bind, if_neg hread]
        refine iff_of_false nofun ?_
        rintro ⟨h, hplace⟩
        cases h
        exact hread hplace
    | file number => exact iff_of_false nofun nofun
    | link target => exact iff_of_false nofun nofun
    | special number => exact iff_of_false nofun nofun

end Names

/-- Where each key occurs once, what is looked up is what stands with it. -/
theorem lookup_eq_some_iff {entries : List (Location × Entry)}
    (hunique : (entries.map Prod.fst).Nodup) {location : Location} {entry : Entry} :
    entries.lookup location = some entry ↔ (location, entry) ∈ entries := by
  rw [List.lookup_eq_some_iff]
  constructor
  · rintro ⟨before, after, rfl, -⟩
    simp
  · intro hmem
    obtain ⟨before, after, rfl⟩ := List.append_of_mem hmem
    refine ⟨before, after, rfl, ?_⟩
    intro pair hpair
    rw [bne_iff_ne]
    rintro rfl
    -- The key would stand before the pair as well.
    rw [List.map_append, List.map_cons, List.nodup_append] at hunique
    exact hunique.2.2 _ (List.mem_map_of_mem hpair) _ List.mem_cons_self rfl

/-- The entries of two file systems are the same and stand in tables of any order. -/
structure Reordered (files others : FileSystem) : Prop where
  perm_entries : others.entries.Perm files.entries
  contents_eq : others.contents = files.contents
  workingDirectory_eq : others.workingDirectory = files.workingDirectory
  locked_eq : others.locked = files.locked
  unreadable_eq : others.unreadable = files.unreadable

namespace Reordered

variable {files others : FileSystem} (h : files.Reordered others)

include h

/-- The names of a directory are the same in another order. -/
theorem perm_namesAt (location : Location) :
    (others.namesAt location).Perm (files.namesAt location) :=
  (h.perm_entries.map Prod.fst).filterMap _

/-- The contents are those with the same number. -/
theorem content_eq (number : Nat) : others.content number = files.content number := by
  rw [content, content, h.contents_eq]

/-- The same may be read. -/
theorem mayRead_eq (location : Location) : others.mayRead location = files.mayRead location := by
  rw [mayRead, mayRead, h.unreadable_eq]

variable (hunique : (files.entries.map Prod.fst).Nodup)

include hunique

/-- An entry is found wherever it stands in the table. -/
theorem entry?_eq (location : Location) : others.entry? location = files.entry? location := by
  rw [FileSystem.entry?, FileSystem.entry?]
  split
  · rfl
  · have hunique' : (others.entries.map Prod.fst).Nodup :=
      (h.perm_entries.map Prod.fst).nodup_iff.mpr hunique
    ext entry
    rw [lookup_eq_some_iff hunique, lookup_eq_some_iff hunique', h.perm_entries.mem_iff]

/-- A walk goes the same way. -/
theorem walk_eq (here : Location) (segments : List Name) :
    others.walk here segments = files.walk here segments := by
  induction segments generalizing here with
  | nil => rfl
  | cons name rest ih => simp only [walk, h.entry?_eq hunique, h.locked_eq, ih]

/-- A path leads to the same entry. -/
theorem stat_eq (path : Path) : others.stat path = files.stat path := by
  have htrace : others.trace path = files.trace path := by
    have hwalk : others.walk = files.walk := funext₂ (h.walk_eq hunique)
    rw [trace, trace, hwalk, h.workingDirectory_eq]
  rw [stat, stat, resolve, resolve, htrace]
  simp only [h.entry?_eq hunique]

/-- A path leads to a regular file in both or in none. -/
theorem isFile_eq (path : Path) : others.isFile path = files.isFile path := by
  rw [isFile, isFile, h.stat_eq hunique]

/-- A file has the same contents. -/
theorem readFile_eq (path : Path) : others.readFile path = files.readFile path := by
  rw [readFile, readFile, openFile, openFile, h.stat_eq hunique]
  simp only [h.content_eq, h.mayRead_eq]

/-- A directory is at the same location, and where there is none the fault is the same. -/
theorem directoryAt_eq (path : Path) : others.directoryAt path = files.directoryAt path := by
  rw [directoryAt, directoryAt, h.stat_eq hunique]
  simp only [h.mayRead_eq]

end Reordered

end MotionJpeg.FileSystem
