import MotionJpeg.Proofs.Files.Agreement
import MotionJpeg.Proofs.Router.StaticFiles
import MotionJpeg.Proofs.Session.Noninterference

/-!
# Public files

Without credentials a request can ask for the files in one directory of the static root, and for
nothing else. However its path is written, the answer does not depend on any other file, so not
even whether there is one can be found out.

* `Router.exists_segments_candidate`: the path that is looked up for a public request goes through
  the public directory and does not lead up again.
* `Router.SharePublicFiles` relates file systems that may differ everywhere else.
* `Router.route_eq_of_sharePublicFiles`: without credentials the route is the same in both.
-/

namespace MotionJpeg

namespace Bytes

variable {separator : UInt8}

/-- To continue a piece goes on to the next separator, and starts anew behind it. -/
private theorem splitOn_go_append_cons (piece first rest : Bytes) :
    splitOn.go separator piece (first ++ separator :: rest) =
      splitOn.go separator piece first ++ splitOn separator rest := by
  induction first generalizing piece with
  | nil => simp [splitOn.go, splitOn]
  | cons c first ih =>
    rw [List.cons_append, splitOn.go, splitOn.go]
    split
    · rw [ih, List.cons_append]
    · rw [ih]

/-- The pieces of two texts with a separator between them are those of the one and of the other. -/
theorem splitOn_append_cons (first rest : Bytes) : splitOn separator (first ++ separator :: rest) =
    splitOn separator first ++ splitOn separator rest :=
  splitOn_go_append_cons [] first rest

/-- Every text has a piece. -/
theorem splitOn_ne_nil (text : Bytes) : splitOn separator text ≠ [] := by
  suffices hgo : ∀ piece, splitOn.go separator piece text ≠ [] from hgo []
  induction text with
  | nil => exact fun piece => List.cons_ne_nil _ _
  | cons c text ih =>
    intro piece
    rw [splitOn.go]
    split
    · exact List.cons_ne_nil _ _
    · exact ih _

end Bytes

namespace FileSystem

/-- A path is the canonical one of a directory. -/
def IsCanonicalDirectory (files : FileSystem) (path : Path) : Prop :=
  files.canonicalize path = .ok path ∧ files.isDirectory path = true

instance (files : FileSystem) (path : Path) : Decidable (files.IsCanonicalDirectory path) :=
  inferInstanceAs (Decidable (_ ∧ _))

variable {files : FileSystem}

/-- The canonical path of a directory spells out its settled location. -/
theorem IsCanonicalDirectory.settled {path : Path} (h : files.IsCanonicalDirectory path) :
    files.Settled path.names ∧ path = Location.path path.names ∧
      files.entry? path.names = some .directory := by
  obtain ⟨hcanonical, hdirectory⟩ := h
  obtain ⟨hsettled, hpath⟩ := exists_of_canonicalize_eq_self hcanonical
  rw [hpath, hsettled.isDirectory_path, decide_eq_true_iff] at hdirectory
  exact ⟨hsettled, hpath, hdirectory⟩

end FileSystem

namespace Router

/-- The directory of the public files, in the static root. -/
def publicDirectory : Name := .ofString "img"

/-- A text that does not lead up does not do so with the index behind it either. -/
theorem dotDot_notMem_segments_index {text : Bytes} (hup : Path.dotDot ∉ Path.segments text)
    (hlast : text = [] ∨ ∃ front, text = front ++ [Path.slash]) :
    Path.dotDot ∉ Path.segments (text ++ indexFile) := by
  have hindex : Path.dotDot ∉ Path.segments indexFile := by decide
  rcases hlast with rfl | ⟨front, rfl⟩
  · exact hindex
  · -- The index comes in place of the empty segment at the end.
    rw [Path.segments, Bytes.splitOn_append_cons, List.mem_append, not_or] at hup
    rw [List.append_assoc, Path.segments, List.singleton_append, Bytes.splitOn_append_cons,
      List.mem_append, not_or]
    exact ⟨hup.1, hindex⟩

/-- The path that is looked up for a public request goes from the root to the public directory and
then along some segments that do not lead up. -/
theorem exists_segments_candidate (root : Path) {asked : Bytes} (h : isPublic asked = true) :
    ∃ below, below ≠ [] ∧ Path.dotDot ∉ below ∧
      (candidate root asked).segments = root.segments ++ publicDirectory :: below := by
  obtain ⟨rest, rfl, hup⟩ := isPublic_iff.mp h
  -- Behind the public directory comes the rest of the text, and perhaps the index.
  have hsegments (tail : Bytes) : Path.segments (root ++ (publicPaths ++ tail)) =
      root.segments ++ publicDirectory :: Path.segments tail := by
    have hpaths : publicPaths ++ tail = Path.slash :: (publicDirectory ++ Path.slash :: tail) := rfl
    rw [hpaths, Path.segments, Bytes.splitOn_append_cons, Bytes.splitOn_append_cons]
    rfl
  rw [candidate, List.append_assoc, List.append_assoc, hsegments]
  refine ⟨_, Bytes.splitOn_ne_nil _, ?_, rfl⟩
  split
  next hlast =>
    apply dotDot_notMem_segments_index hup
    rcases rest.eq_nil_or_concat' with rfl | ⟨front, last, rfl⟩
    · exact Or.inl rfl
    · rw [← List.append_assoc, List.getLast?_concat] at hlast
      exact Or.inr ⟨front, by rw [Option.some.inj hlast]⟩
  next => rwa [List.append_nil]

/-- Two file systems in both of which the root is a directory by its canonical path, with the same
in the public directory and no links there. Everything else may differ. -/
structure SharePublicFiles (left right : FileSystem) (root : Path) : Prop where
  isRoot_left : left.IsCanonicalDirectory root
  isRoot_right : right.IsCanonicalDirectory root
  agree : left.AgreeBelow right (root.names ++ [publicDirectory])
  noLink : left.NoLinkBelow (root.names ++ [publicDirectory])

/-- The location is one strictly below the public directory. -/
def IsBelowPublic (root : Path) (location : Location) : Prop :=
  ∃ below, below ≠ [] ∧ location = root.names ++ publicDirectory :: below ∧ location.IsPlain

section Share

variable {left right : FileSystem} {root : Path} {asked : Bytes}

theorem SharePublicFiles.symm (h : SharePublicFiles left right root) :
    SharePublicFiles right left root :=
  ⟨h.isRoot_right, h.isRoot_left, h.agree.symm, h.noLink.congr h.agree⟩

/-- A file that a public request is for is found by way of the public directory in both of two file
systems that share the public files, and lies below it. -/
theorem SharePublicFiles.resolves (h : SharePublicFiles left right root)
    (hpublic : isPublic asked = true) {location : Location} {number : Nat}
    (hserves : Serves left root asked location number) :
    right.Resolves (candidate root asked) location ∧
      root.names ++ [publicDirectory] <+: location ∧
      location ≠ root.names ++ [publicDirectory] := by
  obtain ⟨hleft, hpath, -⟩ := h.isRoot_left.settled
  obtain ⟨hright, -, hdirectory⟩ := h.isRoot_right.settled
  obtain ⟨below, hne, hup, hsegments⟩ := exists_segments_candidate root hpublic
  have habsolute : (candidate root asked).isAbsolute = true :=
    isAbsolute_candidate (FileSystem.isAbsolute_of_canonicalize_eq_self h.isRoot_left.1)
  obtain ⟨hfault, links, hle, hleads⟩ := hserves.resolves
  have hplain : Path.needsDirectory (publicDirectory :: below) = false := rfl
  have hroot : root.segments = (Location.path root.names).segments := congrArg Path.segments hpath
  rw [FileSystem.startOf, if_pos habsolute, hsegments, hroot, hleft.leads_path_iff hplain] at hleads
  rw [FileSystem.Resolves, FileSystem.startOf, if_pos habsolute, hsegments, hroot]
  simp only [hright.leads_path_iff hplain]
  -- Only an entry that is no link is met on the way to the public directory.
  cases hleads with
  | stay _ hstays => cases hstays
  | enter hlooks hentry hlink hslash hleads =>
    obtain ⟨hsame, hbelow, -⟩ :=
      h.agree.leads h.noLink hleads List.prefix_rfl hlooks.mayReach hup
    refine ⟨⟨hfault, links, hle, ?_⟩, hbelow, ?_⟩
    · exact h.agree.enter hlooks hdirectory List.prefix_rfl hentry hlink hslash hsame
    · -- More is asked of the public directory, so it is no file.
      rintro rfl
      have hfile := hserves.entry_eq
      rw [hleads.isDirectory hne] at hfile
      cases hfile
  | follow hlooks hentry =>
    exact absurd hentry (h.noLink.entry?_ne List.prefix_rfl hlooks.mayReach _)

/-- A file that a public request is for in one of two file systems that share the public files is
one with the same contents in the other, and lies strictly below the public directory. -/
theorem SharePublicFiles.serves (h : SharePublicFiles left right root)
    (hpublic : isPublic asked = true) {location : Location} {number : Nat}
    (hserves : Serves left root asked location number) :
    IsBelowPublic root location ∧ ∃ other, Serves right root asked location other ∧
      right.content other = left.content number := by
  obtain ⟨hresolves, hbelow, hne⟩ := h.resolves hpublic hserves
  have habsolute := FileSystem.isAbsolute_of_canonicalize_eq_self h.isRoot_left.1
  constructor
  · obtain ⟨below, rfl⟩ := hbelow
    refine ⟨below, ?_, List.append_assoc _ _ _, (hserves.settled habsolute).isPlain⟩
    rintro rfl
    exact hne (List.append_nil _)
  · have hreach : left.mayReach location = true := (hserves.settled habsolute).mayReach
    have hnode : left.node? location = some (.file (left.content number)) :=
      FileSystem.node?_eq_file_iff.mpr ⟨hreach, number, hserves.entry_eq, rfl⟩
    rw [h.agree location hbelow] at hnode
    obtain ⟨-, other, hentry, hcontent⟩ := FileSystem.node?_eq_file_iff.mp hnode
    exact ⟨other, ⟨hresolves, hserves.isWithin, hentry⟩, hcontent⟩

/-- A public request gets the same answer from two file systems that share the public files, and a
file only from strictly below the public directory. -/
theorem SharePublicFiles.staticRoute_congr (h : SharePublicFiles left right root)
    (hpublic : isPublic asked = true) :
    staticRoute left root asked = staticRoute right root asked ∧
      ∀ path length mediaType, staticRoute left root asked = .staticFile path length mediaType →
        ∃ location, path = location.path ∧ IsBelowPublic root location := by
  have habsolute := FileSystem.isAbsolute_of_canonicalize_eq_self h.isRoot_left.1
  rcases staticRoute_cases left habsolute asked with hleft | ⟨location, number, hserves⟩
  · rw [hleft]
    refine ⟨?_, fun path length mediaType hroute => Route.noConfusion hroute⟩
    rcases staticRoute_cases right habsolute asked with hright | ⟨location, number, hserves⟩
    · exact hright.symm
    · -- What is there in one file system is there in the other.
      obtain ⟨-, other, hother, -⟩ := h.symm.serves hpublic hserves
      rw [staticRoute_of_serves hother habsolute] at hleft
      cases hleft
  · obtain ⟨hbelow, other, hother, hcontent⟩ := h.serves hpublic hserves
    rw [staticRoute_of_serves hserves habsolute, staticRoute_of_serves hother habsolute, hcontent]
    refine ⟨rfl, ?_⟩
    intro path length mediaType hroute
    cases hroute
    exact ⟨location, rfl, hbelow⟩

end Share

/-- A request without the credentials that the router asks for gets the same answer from all file
systems that share the public files, so it tells nothing of any other file. The only files that it
can get lie strictly below the public directory. -/
theorem route_eq_of_sharePublicFiles {router : Router} {root : Path}
    (hroot : router.staticRoot = some root) {left right : FileSystem}
    (h : SharePublicFiles left right root) {request : Http.Request}
    (hauth : Http.BasicAuth.permits router.secret request.authorization = false) (sources : Nat) :
    router.route left request sources = router.route right request sources ∧
      ∀ path length mediaType,
        router.route left request sources = .staticFile path length mediaType →
          ∃ location, path = location.path ∧ IsBelowPublic root location := by
  rw [route, route, hauth]
  split
  · exact ⟨rfl, fun path length mediaType hroute => Route.noConfusion hroute⟩
  · cases hpublic : isPublic request.path with
    | false => exact ⟨rfl, fun path length mediaType hroute => Route.noConfusion hroute⟩
    | true =>
      simp only [Bool.not_true, Bool.false_and, Bool.false_eq_true, if_false,
        router.resource_of_isPublic _ hpublic, hroot, Option.elim_some]
      exact h.staticRoute_congr hpublic

section GuardedRoot

/-- A root with a public file, a private one, and a private directory. -/
def guardedFiles : FileSystem where
  entries := [
    ([[119]], .directory), ([[119], [112]], .file 1), ([[119], [100]], .directory),
    ([[119], publicDirectory], .directory), ([[119], publicDirectory, [97]], .file 0)]
  contents := #[104, 105] :: [#[1]]

/-- Another root with the same public file, without the private ones. -/
def bareFiles : FileSystem where
  entries := [
    ([[119], publicDirectory, [97]], .file 0), ([[119], publicDirectory], .directory),
    ([[119]], .directory), ([[120]], .link (.ofString "w"))]
  contents := [#[104, 105]]

/-- The public file is found under a path with dots and empty segments, whatever else there is. -/
theorem route_eq_of_sharePublicFiles_bareFiles :
    let request := Http.Request.parse (.ofString "GET /img//./a HTTP/1.1")
    Exchange.guarded.staticRoot = some (.ofString "/w") ∧
    SharePublicFiles guardedFiles bareFiles (.ofString "/w") ∧
    Http.BasicAuth.permits Exchange.guarded.secret request.authorization = false ∧
    Exchange.guarded.route guardedFiles request 1 = .staticFile (.ofString "/w/img/a") 2 "application/octet" ∧
    Exchange.guarded.route guardedFiles request 1 = Exchange.guarded.route bareFiles request 1 ∧
      ∀ path length mediaType,
        Exchange.guarded.route guardedFiles request 1 = .staticFile path length mediaType →
          ∃ location, path = location.path ∧ IsBelowPublic (.ofString "/w") location := by
  intro request
  have hshare : SharePublicFiles guardedFiles bareFiles (.ofString "/w") :=
    ⟨by decide +kernel, by decide +kernel, by decide +kernel, by decide +kernel⟩
  have hauth : Http.BasicAuth.permits Exchange.guarded.secret request.authorization = false := by
    decide +kernel
  refine ⟨rfl, hshare, hauth, by decide +kernel, ?_⟩
  exact route_eq_of_sharePublicFiles rfl hshare hauth 1

end GuardedRoot

end Router

end MotionJpeg
