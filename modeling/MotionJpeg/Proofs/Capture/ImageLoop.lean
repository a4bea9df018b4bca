import Mathlib.Data.List.Forall2
import MotionJpeg.Capture.ImageLoop
import MotionJpeg.Proofs.Files.Listing

/-!
# The images of a directory in turn

A directory makes a loop of all its JPEG files and of nothing else, in the order of their names. How
the directory lists them has no part in it.

* `ImageLoop.IsImage` says which names of a directory are those of images, and what their data are.
* `ImageLoop.IsLoopOf` says what the loop of a directory holds and gives.
* `ImageLoop.load_reordered`: what is loaded does not depend on the order of a listing.
* `ImageLoop.after_eq`: the place in the loop after any number of captures.
* `ImageLoop.load_exact`: a directory with an image is loaded as its loop. All others are refused,
  with a fault if the directory cannot be listed.
-/

namespace MotionJpeg.ImageLoop

section Definitions

/-- The name goes on after a dot with `jpg` or `jpeg`, in any letter case. The dot is the last one
and not the first character. -/
def IsJpegName (name : Name) : Prop :=
  ∃ stem extension : Bytes, name = stem ++ 46 :: extension ∧ stem ≠ [] ∧ 46 ∉ extension ∧
    extension.map Ascii.toLower ∈ [Bytes.ofString "jpg", Bytes.ofString "jpeg"]

/-- The directory lists the name of an image, links followed, with these data. -/
structure IsImage (files : FileSystem) (directory : Path) (name : Name) (data : Bytes) : Prop where
  isListed : files.Lists directory name
  isJpegName : IsJpegName name
  isFile : ∃ location number, files.stat (pathIn directory name) = .ok (location, .file number) ∧
    data = (files.content number).toList
  isJpeg : [0xFF, 0xD8] <+: data

/-- The program may read all files that a directory lists under the names of images. -/
def CanReadAll (files : FileSystem) (directory : Path) : Prop :=
  ∀ name, files.Lists directory name → IsJpegName name → ∀ location number,
    files.stat (pathIn directory name) = .ok (location, .file number) →
      files.mayRead location = true

/-- The source after this many captures. -/
def after (source : ImageLoop) : Nat → ImageLoop
  | 0 => source
  | count + 1 => (source.after count).capture.2

/-- The source gives the images of a directory in turn. -/
structure IsLoopOf (files : FileSystem) (directory : Path) (source : ImageLoop) : Prop where
  directory_eq : source.directory = directory
  /-- Every image has a place, and these are in the order of the names. -/
  frames_eq : ∃ names : List Name, names.Pairwise (· < ·) ∧
    (∀ name, name ∈ names ↔ ∃ data, IsImage files directory name data) ∧
    List.Forall₂ (IsImage files directory) names source.frames
  /-- The size is that of the first image, or none. -/
  size_eq : (source.width, source.height) =
    (source.frames.head?.bind Jpeg.dimensions?).getD (0, 0)
  /-- After the last image comes the first one. -/
  capture_eq : ∀ count, ∃ frame, source.frames[count % source.frames.length]? = some frame ∧
    (source.after count).capture.1 = .ok frame

/-- The data of a file, or none if it cannot be read. -/
def dataAt (files : FileSystem) (path : Path) : Bytes := (files.readFile path).toOption.getD []

/-- The names of the images in a directory, in order. -/
def usableNames (files : FileSystem) (directory : Path) (location : Location) : List Name :=
  (((files.namesAt location).filter fun name =>
      hasJpegName name && files.isFile (pathIn directory name)).mergeSort precedes).filter
    fun name => Jpeg.isJpeg (dataAt files (pathIn directory name))

end Definitions

section Names

/-- The text before the first dot. -/
private theorem takeWhile_dot {first : Bytes} (hfirst : 46 ∉ first) (rest : Bytes) :
    (first ++ 46 :: rest).takeWhile (· != 46) = first := by
  have hpass : ∀ c ∈ first, (c != 46) = true := by
    intro c hc
    rw [bne_iff_ne]
    rintro rfl
    exact hfirst hc
  rw [List.takeWhile_append_of_pos hpass, List.takeWhile_cons_of_neg (by simp), List.append_nil]

/-- Where the text before the first dot is this, if there is a dot. -/
private theorem takeWhile_eq_iff {text first : Bytes} :
    46 ∈ text ∧ text.takeWhile (· != 46) = first ↔
      ∃ rest, text = first ++ 46 :: rest ∧ 46 ∉ first := by
  constructor
  · rintro ⟨hdot, rfl⟩
    obtain ⟨before, rest, rfl, hbefore⟩ := List.eq_append_cons_of_mem hdot
    rw [takeWhile_dot hbefore]
    exact ⟨rest, rfl, hbefore⟩
  · rintro ⟨rest, rfl, hfirst⟩
    exact ⟨by simp, takeWhile_dot hfirst rest⟩

/-- The text after the last dot of a name begins behind a dot that is not the first character. -/
theorem extension?_eq_some_iff {name : Name} {extension : Bytes} :
    extension? name = some extension ↔
      ∃ stem : Bytes, name = stem ++ 46 :: extension ∧ stem ≠ [] ∧ 46 ∉ extension := by
  cases name with
  | nil => simp [extension?]
  | cons c name =>
    -- The last dot is the first one from the end.
    have hlast : extension? (c :: name) = some extension ↔
        46 ∈ name.reverse ∧ name.reverse.takeWhile (· != 46) = extension.reverse := by
      rw [extension?, Option.ite_none_right_eq_some, Option.some.injEq, List.mem_reverse,
        List.reverse_eq_iff]
    rw [hlast, takeWhile_eq_iff]
    constructor
    · rintro ⟨rest, hname, hdot⟩
      refine ⟨c :: rest.reverse, ?_, List.cons_ne_nil _ _, ?_⟩
      · rw [List.reverse_eq_iff] at hname
        simp [hname]
      · rwa [List.mem_reverse] at hdot
    · rintro ⟨stem, hname, hne, hdot⟩
      obtain ⟨d, stem, rfl⟩ := List.exists_cons_of_ne_nil hne
      obtain ⟨rfl, rfl⟩ := List.cons_eq_cons.mp hname
      exact ⟨stem.reverse, by simp, by rwa [List.mem_reverse]⟩

/-- What the check of a name looks for. -/
theorem hasJpegName_iff {name : Name} : hasJpegName name = true ↔ IsJpegName name := by
  have hletters (extension : Bytes) : (Ascii.equalsIgnoreCase extension (.ofString "jpg") ||
        Ascii.equalsIgnoreCase extension (.ofString "jpeg")) = true ↔
      extension.map Ascii.toLower ∈ [Bytes.ofString "jpg", Bytes.ofString "jpeg"] := by
    -- Both extensions are in lower case themselves.
    have hjpg : (Bytes.ofString "jpg").map Ascii.toLower = Bytes.ofString "jpg" := by decide
    have hjpeg : (Bytes.ofString "jpeg").map Ascii.toLower = Bytes.ofString "jpeg" := by decide
    simp [Ascii.equalsIgnoreCase, hjpg, hjpeg]
  rw [hasJpegName]
  cases hextension : extension? name with
  | none =>
    constructor
    · intro h
      cases h
    · rintro ⟨stem, extension, hname, hne, hdot, -⟩
      rw [extension?_eq_some_iff.mpr ⟨stem, hname, hne, hdot⟩] at hextension
      cases hextension
  | some extension =>
    rw [hletters]
    constructor
    · intro h
      obtain ⟨stem, hname, hne, hdot⟩ := extension?_eq_some_iff.mp hextension
      exact ⟨stem, extension, hname, hne, hdot, h⟩
    · rintro ⟨stem, other, hname, hne, hdot, h⟩
      rw [extension?_eq_some_iff.mpr ⟨stem, hname, hne, hdot⟩] at hextension
      rwa [← Option.some.inj hextension]

/-- The order of names is the lexicographic one. -/
theorem precedes_iff {first second : Name} : precedes first second = true ↔ first ≤ second := by
  induction first generalizing second with
  | nil => simp [precedes]
  | cons a first ih =>
    cases second with
    | nil => simp [precedes]
    | cons b second =>
      rw [precedes, List.cons_le_cons_iff, ← ih]
      by_cases heq : a = b
      · simp [heq]
      · simp [heq]

/-- Names are put in ascending order. -/
theorem pairwise_mergeSort_precedes (names : List Name) :
    (names.mergeSort precedes).Pairwise (· ≤ ·) := by
  have hsorted : (names.mergeSort precedes).Pairwise fun first second =>
      precedes first second = true := by
    apply List.pairwise_mergeSort
    · intro first second third
      rw [precedes_iff, precedes_iff, precedes_iff]
      exact List.le_trans
    · intro first second
      rw [Bool.or_eq_true, precedes_iff, precedes_iff]
      exact List.le_total first second
  exact hsorted.imp precedes_iff.mp

/-- Names come to the same order, whatever the order was before. -/
theorem mergeSort_precedes_congr {names others : List Name} (h : names.Perm others) :
    names.mergeSort precedes = others.mergeSort precedes := by
  refine List.Perm.eq_of_pairwise ?_ (pairwise_mergeSort_precedes names)
    (pairwise_mergeSort_precedes others) ?_
  · intro first second _ _
    exact List.le_antisymm
  · exact ((List.mergeSort_perm names _).trans h).trans (List.mergeSort_perm others _).symm

end Names

section Load

variable {files : FileSystem} {directory : Path} {location : Location} {name : Name}

/-- The data of a file are its contents, if the program may read it. -/
theorem dataAt_of_stat {path : Path} {number : Nat}
    (hstat : files.stat path = .ok (location, .file number))
    (hread : files.mayRead location = true) :
    dataAt files path = (files.content number).toList := by
  rw [dataAt, FileSystem.readFile_of_stat hstat hread]
  rfl

/-- It is enough to look at the names that a directory lists. -/
theorem canReadAll_of_forall (h : files.directoryAt directory = .ok location)
    (hnames : ∀ name ∈ files.namesAt location, hasJpegName name = true →
      ∀ found ∈ (files.stat (pathIn directory name)).toOption, files.mayRead found.1 = true) :
    CanReadAll files directory := by
  rintro name ⟨other, entry, hstat, hlist, hentry⟩ hname place number hfile
  have hother := FileSystem.directoryAt_eq_ok_iff.mpr ⟨hstat, hlist⟩
  rw [h] at hother
  cases hother
  refine hnames name (FileSystem.mem_namesAt_iff.mpr ⟨entry, hentry⟩) (hasJpegName_iff.mpr hname)
    (place, .file number) ?_
  rw [hfile]
  rfl

/-- The files with the names of images that a directory lists can be read. -/
theorem CanReadAll.readFile_eq (hread : CanReadAll files directory)
    (h : files.directoryAt directory = .ok location) (hname : name ∈ files.namesAt location)
    (hjpeg : hasJpegName name = true) (hfile : files.isFile (pathIn directory name) = true) :
    files.readFile (pathIn directory name) = .ok (dataAt files (pathIn directory name)) := by
  obtain ⟨place, number, hstat⟩ := FileSystem.isFile_iff.mp hfile
  obtain ⟨hdirectory, hlist⟩ := FileSystem.directoryAt_eq_ok_iff.mp h
  obtain ⟨entry, hentry⟩ := FileSystem.mem_namesAt_iff.mp hname
  have hplace : files.mayRead place = true :=
    hread name ⟨location, entry, hdirectory, hlist, hentry⟩ (hasJpegName_iff.mp hjpeg) place number
      hstat
  rw [dataAt_of_stat hstat hplace, FileSystem.readFile_of_stat hstat hplace]

/-- What each step gives is the result of all of them. -/
private theorem mapM_eq_ok {α β ε : Type} {step : α → Except ε β} {result : α → β} {items : List α}
    (h : ∀ item ∈ items, step item = .ok (result item)) :
    items.mapM step = .ok (items.map result) := by
  induction items with
  | nil => rfl
  | cons item items ih =>
    rw [List.forall_mem_cons] at h
    rw [List.mapM_cons, h.1, ih h.2]
    rfl

/-- A directory that cannot be listed is refused with the fault. -/
theorem load_of_fault {fault : FileFault} (h : files.directoryAt directory = .error fault) :
    load files directory = .error (.io fault.message) := by
  have hnames : files.namesIn directory = .error fault := by
    rw [FileSystem.namesIn, h]
    rfl
  rw [load, imageNames, hnames]
  rfl

/-- What comes of a directory that can be listed. -/
theorem load_of_directoryAt (hread : CanReadAll files directory)
    (h : files.directoryAt directory = .ok location) :
    load files directory =
      match (usableNames files directory location).map (dataAt files ∘ pathIn directory) with
      | [] => .error (.noImages (Bytes.toText directory))
      | first :: others =>
        let size := (Jpeg.dimensions? first).getD (0, 0)
        .ok {
          directory, frames := first :: others, next := 0, width := size.1, height := size.2 } := by
  have hnames : files.namesIn directory = .ok (files.namesAt location) := by
    rw [FileSystem.namesIn, h]
    rfl
  -- The candidates are put in order before they are read, and those that are read are sifted.
  generalize hlisted : ((files.namesAt location).filter fun name =>
    hasJpegName name && files.isFile (pathIn directory name)).mergeSort precedes = listed
  have himages : imageNames files directory = .ok listed := by
    rw [imageNames, hnames, ← hlisted]
    rfl
  have hcontents : listed.mapM (fun name => files.readFile (pathIn directory name)) =
      .ok (listed.map (dataAt files ∘ pathIn directory)) := by
    apply mapM_eq_ok
    intro name hname
    rw [← hlisted, List.mem_mergeSort, List.mem_filter, Bool.and_eq_true] at hname
    exact hread.readFile_eq h hname.1 hname.2.1 hname.2.2
  rw [usableNames, hlisted, load, himages]
  show (Except.mapError _ (listed.mapM _) >>= _) = _
  rw [hcontents]
  show (match (listed.map (dataAt files ∘ pathIn directory)).filter Jpeg.isJpeg with
    | [] => _ | first :: others => _) = _
  rw [List.filter_map]
  rfl

/-- The images are what the usable names lead to. -/
theorem isImage_iff (hread : CanReadAll files directory)
    (h : files.directoryAt directory = .ok location) {data : Bytes} :
    IsImage files directory name data ↔
      name ∈ usableNames files directory location ∧
        data = dataAt files (pathIn directory name) := by
  rw [usableNames, List.mem_filter, List.mem_mergeSort, List.mem_filter, Bool.and_eq_true,
    hasJpegName_iff, FileSystem.isFile_iff, FileSystem.mem_namesAt_iff, Jpeg.isJpeg,
    List.isPrefixOf_iff_prefix]
  constructor
  · intro himage
    obtain ⟨hlisted, hname, ⟨target, number, hfile, rfl⟩, hjpeg⟩ := himage
    rw [dataAt_of_stat hfile (hread name hlisted hname target number hfile)]
    obtain ⟨place, entry, hstat, hlist, hentry⟩ := hlisted
    have hplace := FileSystem.directoryAt_eq_ok_iff.mpr ⟨hstat, hlist⟩
    rw [h] at hplace
    cases hplace
    exact ⟨⟨⟨⟨entry, hentry⟩, hname, target, number, hfile⟩, hjpeg⟩, rfl⟩
  · rintro ⟨⟨⟨⟨entry, hentry⟩, hname, target, number, hfile⟩, hjpeg⟩, rfl⟩
    obtain ⟨hstat, hlist⟩ := FileSystem.directoryAt_eq_ok_iff.mp h
    have hlisted : files.Lists directory name := ⟨location, entry, hstat, hlist, hentry⟩
    rw [dataAt_of_stat hfile (hread name hlisted hname target number hfile)] at hjpeg ⊢
    exact {
      isListed := hlisted
      isJpegName := hname
      isFile := ⟨target, number, hfile, rfl⟩
      isJpeg := hjpeg }

/-- The usable names stand in ascending order, each one once. -/
theorem pairwise_usableNames (hunique : (files.entries.map Prod.fst).Nodup) :
    (usableNames files directory location).Pairwise (· < ·) := by
  rw [usableNames]
  generalize (fun name => hasJpegName name && files.isFile (pathIn directory name)) = isCandidate
  apply List.Pairwise.filter
  have hnodup : (((files.namesAt location).filter isCandidate).mergeSort precedes).Nodup := by
    rw [(List.mergeSort_perm _ _).nodup_iff]
    exact (FileSystem.nodup_namesAt hunique).filter _
  exact (pairwise_mergeSort_precedes _).imp₂ (fun _ _ => Std.lt_of_le_of_ne) hnodup

/-- The loop of a directory does not depend on the order in which the directory is listed. -/
theorem load_reordered {others : FileSystem} (h : files.Reordered others)
    (hunique : (files.entries.map Prod.fst).Nodup) (directory : Path) :
    load others directory = load files directory := by
  have himages : imageNames others directory = imageNames files directory := by
    rw [imageNames, imageNames, FileSystem.namesIn, FileSystem.namesIn, h.directoryAt_eq hunique]
    cases files.directoryAt directory with
    | error fault => rfl
    | ok location =>
      simp only [Except.map, bind, Except.bind, pure, Except.pure, h.isFile_eq hunique]
      rw [mergeSort_precedes_congr ((h.perm_namesAt location).filter _)]
  simp only [load, himages, h.readFile_eq hunique]

end Load

section Capture

variable {source : ImageLoop}

/-- The place in the loop after any number of captures. -/
theorem after_eq (hnext : source.next < source.frames.length) (count : Nat) :
    source.after count =
      { source with next := (source.next + count) % source.frames.length } := by
  -- Every capture moves on by one image, and the images stay what they are.
  induction count with
  | zero => rw [after, Nat.add_zero, Nat.mod_eq_of_lt hnext]
  | succ count ih =>
    have hplace : (source.next + count) % source.frames.length < source.frames.length :=
      Nat.mod_lt _ (Nat.zero_lt_of_lt hnext)
    rw [after, ih, capture]
    simp only [List.getElem?_eq_getElem hplace]
    rw [Nat.mod_add_mod, Nat.add_assoc]

/-- A loop that starts at its first image gives one after the other, and begins anew behind the
last. -/
theorem capture_after (hnext : source.next = 0) (hne : source.frames ≠ []) (count : Nat) :
    ∃ frame, source.frames[count % source.frames.length]? = some frame ∧
      (source.after count).capture.1 = .ok frame := by
  have hpos : 0 < source.frames.length := List.length_pos_of_ne_nil hne
  have hplace : count % source.frames.length < source.frames.length := Nat.mod_lt _ hpos
  refine ⟨source.frames[count % source.frames.length], List.getElem?_eq_getElem hplace, ?_⟩
  rw [after_eq (by rwa [hnext]), hnext, Nat.zero_add, capture]
  simp only [List.getElem?_eq_getElem hplace]

end Capture

section Exact

variable {files : FileSystem} {directory : Path} {source : ImageLoop}
  (hread : CanReadAll files directory)

include hread

/-- What is loaded is the loop of the directory. -/
theorem isLoopOf_of_load (hunique : (files.entries.map Prod.fst).Nodup)
    (h : load files directory = .ok source) : IsLoopOf files directory source := by
  cases hlocation : files.directoryAt directory with
  | error fault =>
    rw [load_of_fault hlocation] at h
    cases h
  | ok location =>
    rw [load_of_directoryAt hread hlocation] at h
    cases hframes : (usableNames files directory location).map
        (dataAt files ∘ pathIn directory) with
    | nil =>
      rw [hframes] at h
      cases h
    | cons first others =>
      rw [hframes] at h
      cases h
      have himages (name : Name) : name ∈ usableNames files directory location ↔
          ∃ data, IsImage files directory name data := by
        simp [isImage_iff hread hlocation]
      refine ⟨rfl, ⟨_, pairwise_usableNames hunique, himages, ?_⟩, rfl,
        capture_after rfl (List.cons_ne_nil _ _)⟩
      show List.Forall₂ _ _ (first :: others)
      rw [← hframes, List.forall₂_map_right_iff, List.forall₂_same]
      intro name hname
      exact (isImage_iff hread hlocation).mpr ⟨hname, rfl⟩

/-- A directory is loaded if there is an image in it. -/
theorem exists_load_iff : (∃ source, load files directory = .ok source) ↔
    ∃ name data, IsImage files directory name data := by
  cases hlocation : files.directoryAt directory with
  | error fault =>
    rw [load_of_fault hlocation]
    constructor
    · rintro ⟨source, h⟩
      cases h
    · rintro ⟨name, data, ⟨place, entry, hstat, hlist, -⟩, -⟩
      have hplace := FileSystem.directoryAt_eq_ok_iff.mpr ⟨hstat, hlist⟩
      rw [hlocation] at hplace
      cases hplace
  | ok location =>
    rw [load_of_directoryAt hread hlocation]
    simp only [isImage_iff hread hlocation]
    cases hnames : usableNames files directory location with
    | nil => simp
    | cons name names => simp

/-- What is told of a directory that is not loaded. -/
theorem failure_of_load {failure : CaptureFailure} (h : load files directory = .error failure) :
    failure = match files.namesIn directory with
      | .error fault => .io fault.message
      | .ok _ => .noImages (Bytes.toText directory) := by
  rw [FileSystem.namesIn]
  cases hlocation : files.directoryAt directory with
  | error fault =>
    rw [load_of_fault hlocation] at h
    exact (Except.error.inj h).symm
  | ok location =>
    rw [load_of_directoryAt hread hlocation] at h
    split at h
    · exact (Except.error.inj h).symm
    · cases h

/-- Where the table has each location once and the program may read what is listed, a directory is
loaded exactly if there is an image in it, and what is loaded gives its images in the order of their
names, again and again. Otherwise it is told that there are no images, or why the directory cannot
be listed. The order of the listing makes no difference. -/
theorem load_exact (hunique : (files.entries.map Prod.fst).Nodup) :
    ((∃ source, load files directory = .ok source) ↔
      ∃ name data, IsImage files directory name data) ∧
    (∀ source, load files directory = .ok source → IsLoopOf files directory source) ∧
    (∀ failure, load files directory = .error failure →
      failure = match files.namesIn directory with
        | .error fault => .io fault.message
        | .ok _ => .noImages (Bytes.toText directory)) ∧
    ∀ others, files.Reordered others → load others directory = load files directory := by
  refine ⟨exists_load_iff hread, ?_, ?_, ?_⟩
  · intro source
    exact isLoopOf_of_load hread hunique
  · intro failure
    exact failure_of_load hread
  · intro others h
    exact load_reordered h hunique directory

end Exact

section Album

/-- Three images, one of them by way of a link, among names and files that are no images. A file that
is none by its name cannot be read, and one that looks like an image is a pipe. -/
def album : FileSystem where
  entries := [
    ([.ofString "d"], .directory), ([.ofString "d", .ofString "b.JPG"], .file 1),
    ([.ofString "d", .ofString ".jpg"], .file 1), ([.ofString "d", .ofString "notes.txt"], .file 1),
    ([.ofString "d", .ofString "z.jpeg.jpG"], .link (.ofString "../c")),
    ([.ofString "d", .ofString "a.jpeg"], .file 0),
    ([.ofString "d", .ofString "x.jpg"], .directory),
    ([.ofString "d", .ofString "live.jpg"], .special (some 0)),
    ([.ofString "d", .ofString "broken.jpg"], .file 3), ([.ofString "c"], .file 2)]
  contents := [#[0xFF, 0xD8, 1], #[0xFF, 0xD8, 2], #[0xFF, 0xD8], #[0xFF]]
  unreadable := [[.ofString "d", .ofString "notes.txt"]]

/-- The images are found in whatever order the directory is listed. A directory with no image and
one that is not there are refused. -/
theorem load_exact_album :
    let source : ImageLoop :=
      { directory := .ofString "/d", frames := [[0xFF, 0xD8, 1], [0xFF, 0xD8, 2], [0xFF, 0xD8]]
        next := 0, width := 0, height := 0 }
    (album.entries.map Prod.fst).Nodup ∧ CanReadAll album (.ofString "/d") ∧
    load album (.ofString "/d") = .ok source ∧
    (∃ name data, IsImage album (.ofString "/d") name data) ∧
    IsLoopOf album (.ofString "/d") source ∧
    load { album with entries := album.entries.reverse } (.ofString "/d") = .ok source ∧
    load album (.ofString "/") = .error (.noImages "/") ∧
    load album (.ofString "/e") = .error (.io FileFault.missing.message) := by
  intro source
  have hunique : (album.entries.map Prod.fst).Nodup := by decide +kernel
  have hlocation : album.directoryAt (.ofString "/d") = .ok [.ofString "d"] := by decide +kernel
  have hread : CanReadAll album (.ofString "/d") := canReadAll_of_forall hlocation (by decide +kernel)
  have hlisted : ((album.namesAt [.ofString "d"]).filter fun name =>
        hasJpegName name && album.isFile (pathIn (.ofString "/d") name)).Perm
      [.ofString "a.jpeg", .ofString "b.JPG", .ofString "broken.jpg", .ofString "z.jpeg.jpG"] := by
    decide +kernel
  have hload : load album (.ofString "/d") = .ok source := by
    rw [load_of_directoryAt hread hlocation, usableNames, mergeSort_precedes_congr hlisted,
      List.mergeSort_of_pairwise (by decide +kernel)]
    decide +kernel
  have hreordered : album.Reordered { album with entries := album.entries.reverse } :=
    ⟨List.reverse_perm _, rfl, rfl, rfl, rfl⟩
  obtain ⟨hloads, hloop, -, horder⟩ := load_exact hread hunique
  exact ⟨hunique, hread, hload, hloads.mp ⟨source, hload⟩, hloop source hload,
    (horder _ hreordered).trans hload, by decide +kernel, by decide +kernel⟩

end Album

end MotionJpeg.ImageLoop
