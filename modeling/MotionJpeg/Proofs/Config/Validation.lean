import MotionJpeg.Proofs.Files.Ordinary
import MotionJpeg.Server.Basic

/-!
# The check of a configuration

A server starts only with settings that can be met. What is required of them is looked at in a fixed
order, and the first requirement that is not met is the one that the operator is told of. The static
root is kept in canonical form, which is what requests are compared with later on.

* `Config.Requirement` are the requirements, and `Config.Requirement.IsMet` says what each of them
  asks for.
* `Config.check_eq`: the check comes to the first fault that is found, if there is any.
* `Config.Resolved` relates a configuration to its checked form.
* `Config.check_exact`: the check accepts what meets all requirements, resolves the static root and
  changes nothing else, accepts its own result unchanged, and else names the first requirement that
  is not met.
-/

namespace MotionJpeg

namespace FileSystem

/-- The system finds a regular file where the path leads. -/
def HasFile (files : FileSystem) (path : Path) : Prop :=
  ∃ location number, files.stat path = .ok (location, .file number)

/-- By the rules the path leads to a directory. -/
def HasDirectory (files : FileSystem) (path : Path) : Prop :=
  ∃ location, files.Resolves path location ∧ files.entry? location = some .directory

/-- The second path is a canonical one for the directory that the first one leads to. -/
structure IsCanonicalFor (files : FileSystem) (path canonical : Path) : Prop where
  isAbsolute : canonical.isAbsolute = true
  dot_notMem : Path.dot ∉ canonical.segments
  dotDot_notMem : Path.dotDot ∉ canonical.segments
  isLinkFree : files.IsLinkFree canonical.names
  /-- Both lead to one directory, and the system finds it there. -/
  same_directory : ∃ location, files.Resolves path location ∧ files.Resolves canonical location ∧
    files.stat canonical = .ok (location, .directory)

end FileSystem

namespace Config

/-- What is required of the settings of a server. -/
inductive Requirement where
  | staticRoot
  | certificate
  | key
  | credentials
  | frameBuffer
  deriving DecidableEq, Repr

namespace Requirement

/-- The requirements, in the order in which they are looked at. -/
def inOrder : List Requirement := [staticRoot, certificate, key, credentials, frameBuffer]

/-- What a requirement asks for. Settings that are not given meet it. -/
def IsMet (files : FileSystem) (config : Config) : Requirement → Prop
  | staticRoot => ∀ root ∈ config.staticRoot, files.HasDirectory root
  | certificate => ∀ tls ∈ config.tls, files.HasFile tls.certificate
  | key => ∀ tls ∈ config.tls, files.HasFile tls.key
  | credentials => ∀ credentials ∈ config.credentials, ':' ∈ credentials.toList
  | frameBuffer => 1 ≤ config.frameBufferLength

/-- The faults that tell of a requirement. A static root is named as it was given if it leads
nowhere, and by the place that it leads to if this is no directory. -/
inductive IsNamedBy (files : FileSystem) (config : Config) : Requirement → Fault → Prop where
  | missing {root : Path} {reason : FileFault} (hroot : root ∈ config.staticRoot)
      (hnowhere : ∀ location, ¬ files.Resolves root location)
      (hreason : files.canonicalize root = .error reason) :
      IsNamedBy files config staticRoot (.staticRootMissing root reason)
  | notDirectory {root : Path} {location : Location} (hroot : root ∈ config.staticRoot)
      (hresolves : files.Resolves root location)
      (hentry : files.entry? location ≠ some .directory) :
      IsNamedBy files config staticRoot (.staticRootNotDirectory location.path)
  | certificate {tls : TlsFiles} (htls : tls ∈ config.tls) :
      IsNamedBy files config certificate (.tlsFileMissing tls.certificate)
  | key {tls : TlsFiles} (htls : tls ∈ config.tls) :
      IsNamedBy files config key (.tlsFileMissing tls.key)
  | credentials : IsNamedBy files config credentials .malformedCredentials
  | frameBuffer : IsNamedBy files config frameBuffer .noFrameBuffer

/-- The requirement is not met, and all those before it are. -/
def IsFirstUnmet (files : FileSystem) (config : Config) (requirement : Requirement) : Prop :=
  ∃ before after, inOrder = before ++ requirement :: after ∧
    (∀ earlier ∈ before, earlier.IsMet files config) ∧ ¬ requirement.IsMet files config

/-- What is found to be wrong with a static root. -/
def rootFault? (files : FileSystem) (root : Path) : Option Fault :=
  match checkRoot files root with
  | .error fault => some fault
  | .ok _ => none

/-- What is found to be wrong with the path of a file for TLS. -/
def fileFault? (files : FileSystem) (path : Path) : Option Fault :=
  if files.isFile path then none else some (.tlsFileMissing path)

/-- What is found when a requirement is looked at by itself. -/
def fault? (files : FileSystem) (config : Config) : Requirement → Option Fault
  | staticRoot => config.staticRoot.bind (rootFault? files)
  | certificate => config.tls.bind fun tls => fileFault? files tls.certificate
  | key => config.tls.bind fun tls => fileFault? files tls.key
  | credentials => config.credentials.bind fun credentials =>
    if ':' ∈ credentials.toList then none else some .malformedCredentials
  | frameBuffer => if config.frameBufferLength = 0 then some .noFrameBuffer else none

/-- No requirement is left out. -/
theorem mem_inOrder (requirement : Requirement) : requirement ∈ inOrder := by
  cases requirement <;> decide

end Requirement

/-- A checked configuration differs from the given one in its static root alone, and there only by
being in canonical form. -/
structure Resolved (files : FileSystem) (config checked : Config) : Prop where
  others_eq : checked = { config with staticRoot := checked.staticRoot }
  staticRoot : Option.Rel files.IsCanonicalFor config.staticRoot checked.staticRoot

section Root

variable {files : FileSystem} (hfiles : files.IsOrdinary) {root : Path} {location : Location}

include hfiles

/-- What comes of a static root that leads somewhere. -/
theorem checkRoot_of_resolves (h : files.Resolves root location) : checkRoot files root =
    if files.entry? location = some .directory then .ok location.path
    else .error (.staticRootNotDirectory location.path) := by
  have hcanonical : files.canonicalize root = .ok location.path := by
    rw [FileSystem.canonicalize, hfiles.canonicalLocation_eq_ok_iff.mpr h]
    rfl
  rw [checkRoot, hcanonical]
  dsimp only
  rw [(hfiles.settled_of_resolves h).isDirectory_path]
  by_cases hentry : files.entry? location = some .directory
  · rw [if_pos hentry, decide_eq_true hentry]
    rfl
  · rw [if_neg hentry, decide_eq_false hentry]
    rfl

/-- A static root leads somewhere, or it leads nowhere and is told of with the reason for that. -/
theorem resolves_or_checkRoot_eq (root : Path) : (∃ location, files.Resolves root location) ∨
    ∃ reason, (∀ location, ¬ files.Resolves root location) ∧
      files.canonicalize root = .error reason ∧
      checkRoot files root = .error (.staticRootMissing root reason) := by
  cases hcanonical : files.canonicalLocation root with
  | ok location => exact Or.inl ⟨location, hfiles.canonicalLocation_eq_ok_iff.mp hcanonical⟩
  | error reason =>
    have hnone : files.canonicalize root = .error reason := by
      rw [FileSystem.canonicalize, hcanonical]
      rfl
    refine Or.inr ⟨reason, ?_, hnone, ?_⟩
    · intro location h
      rw [← hfiles.canonicalLocation_eq_ok_iff, hcanonical] at h
      cases h
    · rw [checkRoot, hnone]
      rfl

/-- A static root passes if it leads to a directory, and what is kept is the canonical path of
that. -/
theorem checkRoot_eq_ok_iff {canonical : Path} : checkRoot files root = .ok canonical ↔
    ∃ location, files.Resolves root location ∧ files.entry? location = some .directory ∧
      canonical = location.path := by
  constructor
  · intro h
    rcases resolves_or_checkRoot_eq hfiles root with ⟨location, hresolves⟩ | ⟨reason, -, -, hfails⟩
    · rw [checkRoot_of_resolves hfiles hresolves] at h
      split at h
      next hentry => exact ⟨location, hresolves, hentry, (Except.ok.inj h).symm⟩
      · cases h
    · rw [hfails] at h
      cases h
  · rintro ⟨location, hresolves, hentry, rfl⟩
    rw [checkRoot_of_resolves hfiles hresolves, if_pos hentry]

/-- The static roots that pass are those that lead to a directory. -/
theorem exists_checkRoot_iff :
    (∃ canonical, checkRoot files root = .ok canonical) ↔ files.HasDirectory root := by
  constructor
  · rintro ⟨canonical, h⟩
    obtain ⟨location, hresolves, hentry, -⟩ := (checkRoot_eq_ok_iff hfiles).mp h
    exact ⟨location, hresolves, hentry⟩
  · rintro ⟨location, hresolves, hentry⟩
    exact ⟨location.path, (checkRoot_eq_ok_iff hfiles).mpr ⟨location, hresolves, hentry, rfl⟩⟩

/-- A static root that does not pass is told of by a fault that names it. -/
theorem isNamedBy_of_checkRoot {config : Config} (hroot : root ∈ config.staticRoot) {fault : Fault}
    (h : checkRoot files root = .error fault) :
    Requirement.IsNamedBy files config .staticRoot fault := by
  rcases resolves_or_checkRoot_eq hfiles root with
    ⟨location, hresolves⟩ | ⟨reason, hnowhere, hreason, hfails⟩
  · rw [checkRoot_of_resolves hfiles hresolves] at h
    split at h
    · cases h
    next hentry =>
      cases h
      exact .notDirectory hroot hresolves hentry
  · rw [hfails] at h
    cases h
    exact .missing hroot hnowhere hreason

/-- What is kept of a static root is a canonical path for the same directory. -/
theorem isCanonicalFor_of_checkRoot {canonical : Path} (h : checkRoot files root = .ok canonical) :
    files.IsCanonicalFor root canonical := by
  obtain ⟨location, hresolves, hentry, rfl⟩ := (checkRoot_eq_ok_iff hfiles).mp h
  have hsettled := hfiles.settled_of_resolves hresolves
  exact {
    isAbsolute := FileSystem.isAbsolute_path location
    dot_notMem := hsettled.not_mem_segments_path.1
    dotDot_notMem := hsettled.not_mem_segments_path.2
    isLinkFree := by
      rw [hsettled.names_path]
      exact hsettled.isLinkFree
    same_directory := ⟨location, hresolves, hsettled.resolves_path,
      hsettled.stat_path hentry⟩ }

/-- What is kept of a static root is kept as it is the next time. -/
theorem checkRoot_idempotent {canonical : Path} (h : checkRoot files root = .ok canonical) :
    checkRoot files canonical = .ok canonical := by
  obtain ⟨location, hresolves, hentry, rfl⟩ := (checkRoot_eq_ok_iff hfiles).mp h
  have hsettled := hfiles.settled_of_resolves hresolves
  exact (checkRoot_eq_ok_iff hfiles).mpr ⟨location, hsettled.resolves_path, hentry, rfl⟩

end Root

/-- The check of the files for TLS comes to what is found of the one or else of the other. -/
theorem checkTls_eq (files : FileSystem) (tls : TlsFiles) : checkTls files tls =
    match (Requirement.fileFault? files tls.certificate).or
      (Requirement.fileFault? files tls.key) with
    | some fault => .error fault
    | none => .ok () := by
  rw [checkTls, Requirement.fileFault?, Requirement.fileFault?]
  cases files.isFile tls.certificate with
  | false => rfl
  | true =>
    cases files.isFile tls.key with
    | false => rfl
    | true => rfl

/-- The check comes to the first fault that is found, if there is any. -/
theorem check_eq (files : FileSystem) (config : Config) : config.check files =
    match Requirement.inOrder.findSome? (Requirement.fault? files config) with
    | some fault => .error fault
    | none => .ok { config with
        staticRoot := config.staticRoot.bind fun root => (checkRoot files root).toOption } := by
  have hroot : config.staticRoot.mapM (checkRoot files) =
      match Requirement.fault? files config .staticRoot with
      | some fault => .error fault
      | none => .ok (config.staticRoot.bind fun root => (checkRoot files root).toOption) := by
    rw [Requirement.fault?]
    cases config.staticRoot with
    | none => rfl
    | some root =>
      rw [Option.bind_some, Option.bind_some, Requirement.rootFault?]
      show (checkRoot files root >>= fun canonical => pure (some canonical)) = _
      cases checkRoot files root with
      | error fault => rfl
      | ok canonical => rfl
  rw [check, hroot, Requirement.inOrder, List.findSome?_cons]
  cases Requirement.fault? files config .staticRoot with
  | some fault => rfl
  | none =>
    simp only [List.findSome?_cons, List.findSome?_nil, Requirement.fault?]
    generalize config.staticRoot.bind (fun root => (checkRoot files root).toOption) = staticRoot
    -- What is looked at after the files for TLS is the same with and without them.
    cases config.tls with
    | none => cases config.credentials <;> dsimp only [Option.bind] <;> split_ifs <;> rfl
    | some tls =>
      show (checkTls files tls >>= fun _ => _) = _
      rw [checkTls_eq, Option.bind_some, Option.bind_some]
      cases Requirement.fileFault? files tls.certificate with
      | some fault => rfl
      | none =>
        cases Requirement.fileFault? files tls.key with
        | some fault => rfl
        | none => cases config.credentials <;> dsimp only [Option.bind] <;> split_ifs <;> rfl

section Requirement

variable {files : FileSystem}

/-- No fault is found in a path that leads to a regular file. -/
theorem Requirement.fileFault?_eq_none_iff {path : Path} :
    fileFault? files path = none ↔ files.HasFile path := by
  rw [fileFault?, FileSystem.HasFile, ← FileSystem.isFile_iff]
  simp

/-- The fault that is found in any other path names it. -/
theorem Requirement.eq_of_fileFault? {path : Path} {fault : Fault}
    (h : fileFault? files path = some fault) : fault = .tlsFileMissing path := by
  rw [fileFault?] at h
  split at h
  · cases h
  · exact (Option.some.inj h).symm

/-- The fault that is found in a static root is that of its check. -/
theorem Requirement.checkRoot_of_rootFault? {root : Path} {fault : Fault}
    (h : rootFault? files root = some fault) : checkRoot files root = .error fault := by
  rw [rootFault?] at h
  split at h
  next hcheck => rw [hcheck, Option.some.inj h]
  · cases h

variable (hfiles : files.IsOrdinary) {config : Config}

include hfiles

/-- No fault is found in a static root that leads to a directory. -/
theorem Requirement.rootFault?_eq_none_iff {root : Path} :
    rootFault? files root = none ↔ files.HasDirectory root := by
  rw [← exists_checkRoot_iff hfiles, rootFault?]
  cases checkRoot files root <;> simp

/-- No fault is found where a requirement is met, and only there. -/
theorem Requirement.fault?_eq_none_iff {requirement : Requirement} :
    requirement.fault? files config = none ↔ requirement.IsMet files config := by
  cases requirement with
  | staticRoot =>
    rw [fault?, IsMet, Option.bind_eq_none_iff]
    exact forall₂_congr fun root _ => rootFault?_eq_none_iff hfiles
  | certificate =>
    rw [fault?, IsMet, Option.bind_eq_none_iff]
    exact forall₂_congr fun tls _ => fileFault?_eq_none_iff
  | key =>
    rw [fault?, IsMet, Option.bind_eq_none_iff]
    exact forall₂_congr fun tls _ => fileFault?_eq_none_iff
  | credentials =>
    rw [fault?, IsMet, Option.bind_eq_none_iff]
    simp
  | frameBuffer =>
    rw [fault?, IsMet]
    simp [Nat.one_le_iff_ne_zero]

/-- What is found tells of the requirement that is looked at. -/
theorem Requirement.isNamedBy_of_fault? {requirement : Requirement} {fault : Fault}
    (h : requirement.fault? files config = some fault) :
    requirement.IsNamedBy files config fault := by
  cases requirement with
  | staticRoot =>
    obtain ⟨root, hroot, hfault⟩ := Option.bind_eq_some_iff.mp h
    exact isNamedBy_of_checkRoot hfiles hroot (checkRoot_of_rootFault? hfault)
  | certificate =>
    obtain ⟨tls, htls, hfault⟩ := Option.bind_eq_some_iff.mp h
    rw [eq_of_fileFault? hfault]
    exact .certificate htls
  | key =>
    obtain ⟨tls, htls, hfault⟩ := Option.bind_eq_some_iff.mp h
    rw [eq_of_fileFault? hfault]
    exact .key htls
  | credentials =>
    obtain ⟨credentials, -, hfault⟩ := Option.bind_eq_some_iff.mp h
    obtain ⟨-, hsome⟩ := Option.ite_none_left_eq_some.mp hfault
    cases hsome
    exact .credentials
  | frameBuffer =>
    obtain ⟨-, hsome⟩ := Option.ite_none_right_eq_some.mp h
    cases hsome
    exact .frameBuffer

/-- The first fault that is found is that of the first requirement that is not met. -/
theorem Requirement.isFirstUnmet_of_findSome? {fault : Fault}
    (h : inOrder.findSome? (fault? files config) = some fault) :
    ∃ requirement : Requirement, requirement.IsFirstUnmet files config ∧
      requirement.IsNamedBy files config fault := by
  obtain ⟨before, requirement, after, horder, hfault, hbefore⟩ := List.findSome?_eq_some_iff.mp h
  refine ⟨requirement, ⟨before, after, horder, ?_, ?_⟩, isNamedBy_of_fault? hfiles hfault⟩
  · intro earlier hearlier
    exact (fault?_eq_none_iff hfiles).mp (hbefore earlier hearlier)
  · rw [← fault?_eq_none_iff hfiles, hfault]
    exact Option.some_ne_none fault

/-- No fault is found if all requirements are met. -/
theorem Requirement.findSome?_eq_none_iff : inOrder.findSome? (fault? files config) = none ↔
    ∀ requirement : Requirement, requirement.IsMet files config := by
  rw [List.findSome?_eq_none_iff]
  constructor
  · intro h requirement
    exact (fault?_eq_none_iff hfiles).mp (h requirement requirement.mem_inOrder)
  · intro h requirement _
    exact (fault?_eq_none_iff hfiles).mpr (h requirement)

/-- A configuration passes if it meets all requirements, and all that changes is the static root. -/
theorem check_eq_ok_iff {checked : Config} : config.check files = .ok checked ↔
    (∀ requirement : Requirement, requirement.IsMet files config) ∧
      checked = { config with
        staticRoot := config.staticRoot.bind fun root => (checkRoot files root).toOption } := by
  rw [check_eq, ← Requirement.findSome?_eq_none_iff hfiles]
  cases Requirement.inOrder.findSome? (Requirement.fault? files config) with
  | some fault => simp
  | none => simp [eq_comm]

end Requirement

section Result

variable {files : FileSystem} {config checked : Config}

/-- The static root that is kept is one that passed. -/
theorem mem_keptRoot_iff {canonical : Path} :
    canonical ∈ config.staticRoot.bind (fun root => (checkRoot files root).toOption) ↔
      ∃ root ∈ config.staticRoot, checkRoot files root = .ok canonical := by
  refine Option.bind_eq_some_iff.trans (exists_congr fun root => and_congr_right fun _ => ?_)
  cases checkRoot files root <;> simp [Except.toOption]

variable (hfiles : files.IsOrdinary)

include hfiles

/-- What passes is resolved. -/
theorem resolved_of_check (h : config.check files = .ok checked) :
    Resolved files config checked := by
  obtain ⟨hmet, rfl⟩ := (check_eq_ok_iff hfiles).mp h
  refine ⟨rfl, ?_⟩
  show Option.Rel _ config.staticRoot (config.staticRoot.bind _)
  cases hroot : config.staticRoot with
  | none => exact .none
  | some root =>
    obtain ⟨canonical, hpasses⟩ := (exists_checkRoot_iff hfiles).mpr (hmet .staticRoot root hroot)
    rw [Option.bind_some, hpasses]
    exact .some (isCanonicalFor_of_checkRoot hfiles hpasses)

/-- What has passed passes again, and nothing changes any more. -/
theorem check_idempotent (h : config.check files = .ok checked) :
    checked.check files = .ok checked := by
  obtain ⟨hmet, rfl⟩ := (check_eq_ok_iff hfiles).mp h
  have hkept : ∀ canonical ∈ config.staticRoot.bind (fun root => (checkRoot files root).toOption),
      checkRoot files canonical = .ok canonical := by
    intro canonical hcanonical
    obtain ⟨root, -, hpasses⟩ := mem_keptRoot_iff.mp hcanonical
    exact checkRoot_idempotent hfiles hpasses
  refine (check_eq_ok_iff hfiles).mpr ⟨?_, ?_⟩
  · intro requirement
    cases requirement with
    | staticRoot =>
      intro canonical hcanonical
      exact (exists_checkRoot_iff hfiles).mp ⟨canonical, hkept canonical hcanonical⟩
    -- The other requirements are about settings that stay as they are.
    | certificate => exact hmet .certificate
    | key => exact hmet .key
    | credentials => exact hmet .credentials
    | frameBuffer => exact hmet .frameBuffer
  · dsimp only
    generalize config.staticRoot.bind (fun root => (checkRoot files root).toOption) = kept at hkept ⊢
    cases kept with
    | none => rfl
    | some canonical =>
      rw [Option.bind_some, hkept canonical rfl]
      rfl

end Result

/-- A server is refused with the words for what the check finds. -/
theorem bind_eq_error {files : FileSystem} {config : Config} {fault : Fault}
    (h : config.check files = .error fault) (network : Network) (engine : TlsEngine)
    (sources : List Source) :
    Server.bind network engine files config sources = .error (.config fault.message) := by
  rw [Server.bind, h]
  rfl

/-- The check accepts a configuration exactly if all requirements are met. It resolves the static
root, leaves everything else alone and accepts its own result as it is. Otherwise it names the first
requirement that is not met, and no server is made. -/
theorem check_exact {files : FileSystem} (hfiles : files.IsOrdinary) (config : Config) :
    ((∃ checked, config.check files = .ok checked) ↔
      ∀ requirement : Requirement, requirement.IsMet files config) ∧
    (∀ checked, config.check files = .ok checked →
      Resolved files config checked ∧ checked.check files = .ok checked) ∧
    ∀ fault, config.check files = .error fault →
      (∃ requirement : Requirement, requirement.IsFirstUnmet files config ∧
        requirement.IsNamedBy files config fault) ∧
      ∀ network engine sources,
        Server.bind network engine files config sources = .error (.config fault.message) := by
  refine ⟨?_, ?_, ?_⟩
  · constructor
    · rintro ⟨checked, h⟩
      exact ((check_eq_ok_iff hfiles).mp h).1
    · intro hmet
      exact ⟨_, (check_eq_ok_iff hfiles).mpr ⟨hmet, rfl⟩⟩
  · intro checked h
    exact ⟨resolved_of_check hfiles h, check_idempotent hfiles h⟩
  · intro fault h
    refine ⟨?_, bind_eq_error h⟩
    apply Requirement.isFirstUnmet_of_findSome? hfiles
    rw [check_eq] at h
    split at h
    next found hfound => rw [hfound, Except.error.inj h]
    · cases h

section Site

/-- Files for TLS, and a directory with a link to it that takes a detour. -/
def siteFiles : FileSystem where
  entries := [
    ([.ofString "srv"], .directory), ([.ofString "srv", .ofString "site"], .directory),
    ([.ofString "srv", .ofString "www"], .link (.ofString "./site/..//site")),
    ([.ofString "srv", .ofString "tls"], .directory),
    ([.ofString "srv", .ofString "tls", .ofString "cert"], .file 0),
    ([.ofString "srv", .ofString "tls", .ofString "key"], .file 1)]
  contents := [#[], #[]]
  workingDirectory := [.ofString "srv"]

/-- The static root is given by way of the link. -/
def siteConfig : Config where
  staticRoot := some (.ofString "tls/../www/.")
  credentials := some "user:pass:word"
  tls := some ⟨.ofString "tls/cert", .ofString "/srv/tls/key"⟩

/-- The key is a directory, the credentials have no colon and no frame would be kept. -/
def brokenConfig : Config :=
  { siteConfig with
    tls := some ⟨.ofString "tls/cert", .ofString "tls"⟩
    credentials := some "user"
    frameBufferLength := 0 }

/-- One configuration passes with its static root resolved. The other one is refused because of its
key, which is the first of three things that are wrong. -/
theorem check_exact_site :
    let checked : Config := { siteConfig with staticRoot := some (.ofString "/srv/site") }
    siteFiles.IsOrdinary ∧ siteConfig.check siteFiles = .ok checked ∧
    (∀ requirement : Requirement, requirement.IsMet siteFiles siteConfig) ∧
    Resolved siteFiles siteConfig checked ∧ checked.check siteFiles = .ok checked ∧
    brokenConfig.check siteFiles = .error (.tlsFileMissing (.ofString "tls")) ∧
    ∃ requirement : Requirement, requirement.IsFirstUnmet siteFiles brokenConfig ∧
      requirement.IsNamedBy siteFiles brokenConfig (.tlsFileMissing (.ofString "tls")) := by
  intro checked
  have hdirectory : siteFiles.entry? [.ofString "srv"] = some .directory := by decide +kernel
  have hlooks : siteFiles.LooksUp [] (.ofString "srv") :=
    (FileSystem.nameFault?_eq_none_iff (by decide +kernel)).mp (by decide +kernel)
  have hordinary : siteFiles.IsOrdinary := {
    settled_workingDirectory := .enter .root hlooks (by decide +kernel) hdirectory (by simp)
    isDirectory_workingDirectory := hdirectory }
  have hpasses : siteConfig.check siteFiles = .ok checked := by decide +kernel
  have hfails : brokenConfig.check siteFiles = .error (.tlsFileMissing (.ofString "tls")) := by
    decide +kernel
  obtain ⟨haccepts, hresolves, -⟩ := check_exact hordinary siteConfig
  obtain ⟨-, -, hnames⟩ := check_exact hordinary brokenConfig
  exact ⟨hordinary, hpasses, haccepts.mp ⟨checked, hpasses⟩, (hresolves checked hpasses).1,
    (hresolves checked hpasses).2, hfails, (hnames _ hfails).1⟩

end Site

end Config

end MotionJpeg
