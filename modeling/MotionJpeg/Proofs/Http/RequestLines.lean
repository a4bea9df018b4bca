import MotionJpeg.Proofs.Http.Folding
import MotionJpeg.Proofs.Http.RoundTrip

/-!
# The grammar of request lines

No request line is refused while it is read, but only the lines of one grammar are read as those of
a request that a server answers: `GET`, a target and `HTTP/` with a version, apart by blanks. The
target is a path, or a path that may be empty, a `?`, blanks that are skipped, and a query.

* `RequestLine.IsTarget` and `RequestLine.IsGet` are the grammar.
* `RequestLine.withProtocol_iff`, `RequestLine.withQuery_iff` and `RequestLine.withTarget_iff` are
  about the parts of a line, from its end to its front.
* `RequestLine.parse_iff`: the lines of the grammar, and no others, are read so.
* `IsFirstLine` is the line at the front of a head, with the folded ones put to it.
* `Request.toRequestLine_parse`: a request is read from that line of its head.
-/

namespace MotionJpeg.Http

/-- Spaces and tabs, any number of them. -/
def AreBlanks (bytes : Bytes) : Prop := ∀ c ∈ bytes, Ascii.isSpaceOrTab c = true

instance (bytes : Bytes) : Decidable (AreBlanks bytes) := List.decidableBAll _ bytes

/-- The blanks between two words, of which there is at least one. -/
structure IsGap (bytes : Bytes) : Prop where
  ne_nil : bytes ≠ []
  areBlanks : AreBlanks bytes

/-- Blanks are taken off the front of any bytes. -/
theorem exists_blanks (bytes : Bytes) :
    ∃ blanks, AreBlanks blanks ∧ bytes = blanks ++ bytes.dropWhile Ascii.isSpaceOrTab :=
  ⟨_, fun _ => List.mem_takeWhile_imp, List.takeWhile_append_dropWhile.symm⟩

/-- Blanks before something that begins with none are a gap if the whole begins with one. -/
theorem AreBlanks.isGap {blanks rest other : Bytes} {c : UInt8} (h : AreBlanks blanks)
    (hc : Ascii.isSpaceOrTab c = true) (hother : ∀ d ∈ other.head?, Ascii.isSpaceOrTab d = false)
    (heq : c :: rest = blanks ++ other) : IsGap blanks where
  ne_nil := by
    rintro rfl
    rw [List.nil_append] at heq
    have hfalse := hother c (by rw [← heq]; rfl)
    rw [hc] at hfalse
    cases hfalse
  areBlanks := h

/-- What is left after bytes of one kind begins with a byte of another kind. -/
theorem exists_eq_takeWhile_append {p : UInt8 → Bool} {bytes rest : Bytes} {c : UInt8}
    (h : bytes.dropWhile p = c :: rest) : bytes = bytes.takeWhile p ++ c :: rest ∧ p c = false := by
  have hhead := List.head?_dropWhile_not p bytes
  rw [h] at hhead
  exact ⟨by rw [← h, List.takeWhile_append_dropWhile], hhead⟩

namespace RequestLine

/-- The targets of a request, with the path and the query of each. -/
inductive IsTarget : Bytes → Bytes → Bytes → Prop where
  | path {path : Bytes} (hne : path ≠ []) (hpath : ∀ c ∈ path, isPathByte c = true) :
      IsTarget path path []
  | query {path blanks query : Bytes} (hpath : ∀ c ∈ path, isPathByte c = true)
      (hblanks : AreBlanks blanks) (hne : query ≠ []) (hquery : ∀ c ∈ query, isTokenByte c = true) :
      IsTarget (path ++ questionMark :: (blanks ++ query)) path query

/-- No blank comes first in a path, nor in its place if that is empty and the `?` follows. -/
theorem isSpaceOrTab_of_mem_head?_path {path rest : Bytes}
    (hpath : ∀ c ∈ path, isPathByte c = true)
    (hmark : path = [] → rest.head? = some questionMark) :
    ∀ c ∈ (path ++ rest).head?, Ascii.isSpaceOrTab c = false := by
  by_cases hnil : path = []
  · rw [hnil, List.nil_append, hmark hnil]
    rintro c ⟨⟩
    decide
  · rw [List.head?_append_of_ne_nil _ hnil]
    intro c hc
    have hbyte := hpath c (List.mem_of_mem_head? hc)
    simp only [isPathByte, isTokenByte, Bool.and_eq_true, Bool.not_eq_true'] at hbyte
    exact hbyte.1

/-- No blank comes first in a target. -/
theorem IsTarget.isSpaceOrTab_of_mem_head? {target path query : Bytes}
    (h : IsTarget target path query) (rest : Bytes) :
    ∀ c ∈ (target ++ rest).head?, Ascii.isSpaceOrTab c = false := by
  cases h with
  | path hne hpath => exact isSpaceOrTab_of_mem_head?_path hpath fun hnil => absurd hnil hne
  | query hpath =>
    rw [List.append_assoc]
    exact isSpaceOrTab_of_mem_head?_path hpath fun _ => rfl

/-- The lines that ask for something in the way that a server answers to, with the path, the query
and the version of each. -/
inductive IsGet : Bytes → Bytes → Bytes → Bytes → Prop where
  | get {before target after path query version : Bytes} (hbefore : IsGap before)
      (htarget : IsTarget target path query) (hafter : IsGap after) :
      IsGet (Bytes.ofString "GET" ++ (before ++ (target ++ (after ++
        (Bytes.ofString "HTTP/" ++ version))))) path query version

variable (line : RequestLine) (rest : Bytes)

section Fields

@[simp]
theorem method_withProtocol : (line.withProtocol rest).method = line.method := by
  rw [withProtocol]
  split <;> rfl

@[simp]
theorem path_withProtocol : (line.withProtocol rest).path = line.path := by
  rw [withProtocol]
  split <;> rfl

@[simp]
theorem query_withProtocol : (line.withProtocol rest).query = line.query := by
  rw [withProtocol]
  split <;> rfl

@[simp]
theorem method_withQuery : (line.withQuery rest).method = line.method := by
  rw [withQuery]
  split <;> simp

@[simp]
theorem path_withQuery : (line.withQuery rest).path = line.path := by
  rw [withQuery]
  split <;> simp

@[simp]
theorem method_withTarget : (line.withTarget rest).method = line.method := by
  rw [withTarget]
  split
  · rfl
  · split <;> simp

end Fields

/-- No blank comes before the protocol. -/
theorem isSpaceOrTab_of_mem_head?_protocol (version : Bytes) :
    ∀ c ∈ (Bytes.ofString "HTTP/" ++ version).head?, Ascii.isSpaceOrTab c = false := by
  have hbytes : Bytes.ofString "HTTP/" = [72, 84, 84, 80, 47] := by decide
  rw [hbytes]
  rintro c ⟨⟩
  decide

variable {line rest} {path query version : Bytes}

/-- The protocol and the slash after it, taken apart. -/
theorem ofString_protocol : Bytes.ofString "HTTP/" = .ofString "HTTP" ++ [slash] := by decide

/-- After blanks the protocol and its version are read. -/
theorem withProtocol_append {blanks : Bytes} (hblanks : AreBlanks blanks) (text : Bytes) :
    line.withProtocol (blanks ++ (Bytes.ofString "HTTP/" ++ text)) =
      { line with
        protocol := .ofString "HTTP"
        version := some (Ascii.trimBlanks text) } := by
  have hskip := dropWhile_blanks_append hblanks (isSpaceOrTab_of_mem_head?_protocol text)
  have hbytes : ∀ c ∈ Bytes.ofString "HTTP", (c != slash) = true := by decide +kernel
  rw [withProtocol, hskip, ofString_protocol, List.append_assoc, List.singleton_append]
  simp only [takeWhile_append_cons hbytes (bne_self_eq_false slash),
    dropWhile_append_cons hbytes (bne_self_eq_false slash)]

/-- The protocol is `HTTP` and has a version exactly if the end of the line says so. -/
theorem withProtocol_iff (hnone : line.version = none) :
    (line.withProtocol rest).protocol = .ofString "HTTP" ∧
        (line.withProtocol rest).version = some version ↔
      ∃ blanks text, AreBlanks blanks ∧ rest = blanks ++ (Bytes.ofString "HTTP/" ++ text) ∧
        version = Ascii.trimBlanks text := by
  constructor
  · rintro ⟨hprotocol, hversion⟩
    obtain ⟨blanks, hblanks, hrest⟩ := exists_blanks rest
    rw [withProtocol] at hprotocol hversion
    split at hversion
    next =>
      rw [hnone] at hversion
      cases hversion
    next c text htext =>
      obtain ⟨heq, hc⟩ := exists_eq_takeWhile_append htext
      rw [htext] at hprotocol
      dsimp only at hprotocol hversion
      have hc : c = slash := by simpa using hc
      refine ⟨blanks, text, hblanks, ?_, (Option.some.inj hversion).symm⟩
      rw [hrest, heq, hprotocol, hc, ofString_protocol, List.append_assoc, List.singleton_append]
  · rintro ⟨blanks, text, hblanks, rfl, rfl⟩
    rw [withProtocol_append hblanks]
    exact ⟨rfl, rfl⟩

/-- A query goes up to the first blank after it. -/
theorem withQuery_append {blanks : Bytes} {c : UInt8} (hblanks : AreBlanks blanks)
    (hne : query ≠ []) (hquery : ∀ d ∈ query, isTokenByte d = true) (hc : isTokenByte c = false)
    (line : RequestLine) (tail : Bytes) : line.withQuery (blanks ++ (query ++ c :: tail)) =
      { line with query }.withProtocol (c :: tail) := by
  have hstart : ∀ d ∈ (query ++ c :: tail).head?, Ascii.isSpaceOrTab d = false := by
    rw [List.head?_append_of_ne_nil _ hne]
    exact fun d hd => by simpa [isTokenByte] using hquery d (List.mem_of_mem_head? hd)
  rw [withQuery, dropWhile_blanks_append hblanks hstart]
  simp only [takeWhile_append_cons hquery hc, dropWhile_append_cons hquery hc]

/-- A path goes up to the first blank after it or up to a `?`. It is empty only before a `?`. -/
theorem withTarget_append {blanks : Bytes} {c : UInt8} (hblanks : AreBlanks blanks)
    (hmark : path = [] → c = questionMark) (hpath : ∀ d ∈ path, isPathByte d = true)
    (hc : isPathByte c = false) (line : RequestLine) (tail : Bytes) :
    line.withTarget (blanks ++ (path ++ c :: tail)) =
      if c = questionMark then { line with path }.withQuery tail
      else { line with path }.withProtocol (c :: tail) := by
  have hstart : ∀ d ∈ (path ++ c :: tail).head?, Ascii.isSpaceOrTab d = false :=
    isSpaceOrTab_of_mem_head?_path hpath fun hnil => congrArg some (hmark hnil)
  rw [withTarget, dropWhile_blanks_append hblanks hstart]
  simp only [takeWhile_append_cons hpath hc, dropWhile_append_cons hpath hc]

/-- What follows the `?` is read as a query and the right protocol exactly if it consists of them,
with blanks between the two. -/
theorem withQuery_iff (hnone : line.version = none) :
    (line.withQuery rest).query = query ∧ (line.withQuery rest).protocol = .ofString "HTTP" ∧
        (line.withQuery rest).version = some version ↔
      ∃ blanks after text, AreBlanks blanks ∧ query ≠ [] ∧ (∀ c ∈ query, isTokenByte c = true) ∧
        IsGap after ∧ rest = blanks ++ (query ++ (after ++ (Bytes.ofString "HTTP/" ++ text))) ∧
        version = Ascii.trimBlanks text := by
  constructor
  · rintro ⟨hquery, hprotocol, hversion⟩
    obtain ⟨blanks, hblanks, hrest⟩ := exists_blanks rest
    have hstart := List.head?_dropWhile_not Ascii.isSpaceOrTab rest
    rw [withQuery] at hquery hprotocol hversion
    generalize rest.dropWhile Ascii.isSpaceOrTab = other at hquery hprotocol hversion hrest hstart
    cases hother : other.dropWhile isTokenByte with
    | nil =>
      simp only [hother, hnone] at hversion
      cases hversion
    | cons c tail =>
      simp only [hother, query_withProtocol] at hquery hprotocol hversion
      obtain ⟨heq, hc⟩ := exists_eq_takeWhile_append hother
      rw [hquery] at heq
      have hblank : Ascii.isSpaceOrTab c = true := by simpa [isTokenByte] using hc
      obtain ⟨after, text, hafter, htail, htrim⟩ :=
        (withProtocol_iff (by exact hnone)).mp ⟨hprotocol, hversion⟩
      refine ⟨blanks, after, text, hblanks, ?_, ?_, ?_, ?_, htrim⟩
      · -- The blanks before the query were skipped, so it does not end where it begins.
        rintro rfl
        rw [heq] at hstart
        exact Bool.false_ne_true (hstart.symm.trans hblank)
      · rw [← hquery]
        exact fun _ => List.mem_takeWhile_imp
      · exact hafter.isGap hblank (isSpaceOrTab_of_mem_head?_protocol text) htail
      · rw [hrest, heq, htail]
  · rintro ⟨blanks, after, text, hblanks, hne, hquery, hafter, rfl, rfl⟩
    obtain ⟨c, gap, rfl⟩ := List.exists_cons_of_ne_nil hafter.ne_nil
    have hend : isTokenByte c = false := by
      simp [isTokenByte, hafter.areBlanks c List.mem_cons_self]
    rw [List.cons_append, withQuery_append hblanks hne hquery hend, query_withProtocol]
    refine ⟨rfl, (withProtocol_iff (by exact hnone)).mpr ?_⟩
    exact ⟨c :: gap, text, hafter.areBlanks, rfl, rfl⟩

/-- What follows the method is read as a target and the right protocol exactly if it consists of
them, after blanks and with blanks between the two. -/
theorem withTarget_iff (hnil : line.query = []) (hnone : line.version = none) :
    (line.withTarget rest).path = path ∧ (line.withTarget rest).query = query ∧
        (line.withTarget rest).protocol = .ofString "HTTP" ∧
        (line.withTarget rest).version = some version ↔
      ∃ blanks target after text, AreBlanks blanks ∧ IsTarget target path query ∧ IsGap after ∧
        rest = blanks ++ (target ++ (after ++ (Bytes.ofString "HTTP/" ++ text))) ∧
        version = Ascii.trimBlanks text := by
  constructor
  · rintro ⟨hpath, hquery, hprotocol, hversion⟩
    obtain ⟨blanks, hblanks, hrest⟩ := exists_blanks rest
    have hstart := List.head?_dropWhile_not Ascii.isSpaceOrTab rest
    rw [withTarget] at hpath hquery hprotocol hversion
    generalize rest.dropWhile Ascii.isSpaceOrTab = other
      at hpath hquery hprotocol hversion hrest hstart
    cases hother : other.dropWhile isPathByte with
    | nil =>
      simp only [hother, hnone] at hversion
      cases hversion
    | cons c tail =>
      simp only [hother] at hpath hquery hprotocol hversion
      obtain ⟨heq, hc⟩ := exists_eq_takeWhile_append hother
      by_cases hmark : c = questionMark
      · simp only [hmark, if_true, path_withQuery] at hpath hquery hprotocol hversion
        obtain ⟨skipped, after, text, hskipped, hne, htoken, hafter, htail, htrim⟩ :=
          (withQuery_iff (by exact hnone)).mp ⟨hquery, hprotocol, hversion⟩
        rw [hpath] at heq
        refine ⟨blanks, _, after, text, hblanks, .query ?_ hskipped hne htoken, hafter, ?_, htrim⟩
        · rw [← hpath]
          exact fun _ => List.mem_takeWhile_imp
        · rw [hrest, heq, htail, hmark]
          simp only [List.append_assoc, List.cons_append]
      · simp only [if_neg hmark, path_withProtocol, query_withProtocol, hnil]
          at hpath hquery hprotocol hversion
        rw [hpath] at heq
        have hblank : Ascii.isSpaceOrTab c = true := by
          simpa [isPathByte, isTokenByte, hmark] using hc
        obtain ⟨after, text, hafter, htail, htrim⟩ :=
          (withProtocol_iff (by exact hnone)).mp ⟨hprotocol, hversion⟩
        subst hquery
        refine ⟨blanks, path, after, text, hblanks, .path ?_ ?_, ?_, ?_, htrim⟩
        · -- The blanks before the target were skipped, so it does not end where it begins.
          rintro rfl
          rw [heq] at hstart
          exact Bool.false_ne_true (hstart.symm.trans hblank)
        · rw [← hpath]
          exact fun _ => List.mem_takeWhile_imp
        · exact hafter.isGap hblank (isSpaceOrTab_of_mem_head?_protocol text) htail
        · rw [hrest, heq, htail]
  · rintro ⟨blanks, target, after, text, hblanks, htarget, hafter, rfl, rfl⟩
    cases htarget with
    | path hne hpath =>
      obtain ⟨c, gap, rfl⟩ := List.exists_cons_of_ne_nil hafter.ne_nil
      have hblank := hafter.areBlanks c List.mem_cons_self
      have hend : isPathByte c = false := by simp [isPathByte, isTokenByte, hblank]
      have hmark : c ≠ questionMark := by
        rintro rfl
        cases hblank
      rw [List.cons_append, withTarget_append hblanks (absurd · hne) hpath hend, if_neg hmark,
        path_withProtocol, query_withProtocol]
      refine ⟨rfl, hnil, (withProtocol_iff (by exact hnone)).mpr ?_⟩
      exact ⟨c :: gap, text, hafter.areBlanks, rfl, rfl⟩
    | query hpath hskipped hne hquery =>
      rw [List.append_assoc, List.cons_append, withTarget_append hblanks (fun _ => rfl) hpath
        (by decide), if_pos rfl, path_withQuery, List.append_assoc]
      refine ⟨rfl, (withQuery_iff (by exact hnone)).mpr ?_⟩
      exact ⟨_, after, text, hskipped, hne, hquery, hafter, rfl, rfl⟩

/-- The lines of the grammar, and no others, are read as those of a request that a server answers,
each with its parts. The version is read without the blanks around it. -/
theorem parse_iff {text : Bytes} : (parse text).method = .ofString "GET" ∧
      (parse text).path = path ∧ (parse text).query = query ∧
      (parse text).protocol = .ofString "HTTP" ∧ (parse text).version = some version ↔
    ∃ named, IsGet text path query named ∧ version = Ascii.trimBlanks named := by
  constructor
  · rintro ⟨hmethod, hpath, hquery, hprotocol, hversion⟩
    rw [parse] at hmethod hpath hquery hprotocol hversion
    cases htext : text.dropWhile isTokenByte with
    | nil =>
      simp only [htext] at hversion
      cases hversion
    | cons c tail =>
      simp only [htext, method_withTarget] at hmethod hpath hquery hprotocol hversion
      obtain ⟨heq, hc⟩ := exists_eq_takeWhile_append htext
      have hblank : Ascii.isSpaceOrTab c = true := by simpa [isTokenByte] using hc
      obtain ⟨blanks, target, after, named, hblanks, htarget, hafter, htail, htrim⟩ :=
        (withTarget_iff (by rfl) (by rfl)).mp ⟨hpath, hquery, hprotocol, hversion⟩
      refine ⟨named, ?_, htrim⟩
      rw [heq, hmethod, htail]
      exact .get (hblanks.isGap hblank (htarget.isSpaceOrTab_of_mem_head? _) htail) htarget hafter
  · rintro ⟨named, @⟨before, target, after, _, _, _, hbefore, htarget, hafter⟩, rfl⟩
    obtain ⟨c, gap, rfl⟩ := List.exists_cons_of_ne_nil hbefore.ne_nil
    have hend : isTokenByte c = false := by
      simp [isTokenByte, hbefore.areBlanks c List.mem_cons_self]
    have hget : ∀ d ∈ Bytes.ofString "GET", isTokenByte d = true := by decide +kernel
    rw [parse, List.cons_append]
    simp only [takeWhile_append_cons hget hend, dropWhile_append_cons hget hend,
      method_withTarget, true_and]
    refine (withTarget_iff (by rfl) (by rfl)).mpr ?_
    exact ⟨c :: gap, target, after, named, hbefore.areBlanks, htarget, hafter, rfl, rfl⟩

end RequestLine

/-- The line at the front of a head: the first one, and the lines right after it that continue it,
without the blanks that these begin with. -/
inductive IsFirstLine : Bytes → Bytes → Prop where
  | first {line : Bytes} {continuations others : List Bytes}
      (huncut : ∀ piece ∈ line :: (continuations ++ others), Bytes.IsUncut piece)
      (hcontinuations : ∀ piece ∈ continuations, isContinuation piece = true)
      (hothers : ∀ piece ∈ others.head?, isContinuation piece = false) :
      IsFirstLine (Bytes.joinLines line (continuations ++ others))
        (line ++ continuations.flatMap (List.dropWhile Ascii.isSpaceOrTab))

/-- Lines are merged up to the first one that continues none. -/
theorem mergeContinuations_append {continuations others : List Bytes}
    (hcontinuations : ∀ piece ∈ continuations, isContinuation piece = true)
    (hothers : ∀ piece ∈ others.head?, isContinuation piece = false) :
    (mergeContinuations (continuations ++ others)).1 =
      continuations.flatMap (List.dropWhile Ascii.isSpaceOrTab) := by
  induction continuations with
  | nil =>
    cases others with
    | nil => rfl
    | cons piece others =>
      rw [List.nil_append, mergeContinuations, hothers piece rfl]
      rfl
  | cons piece continuations ih =>
    rw [List.forall_mem_cons] at hcontinuations
    rw [List.cons_append, List.flatMap_cons, ← ih hcontinuations.2, mergeContinuations,
      hcontinuations.1]
    rfl

/-- The line at the front of a head is the first of its logical lines. -/
theorem isFirstLine_iff {head line : Bytes} :
    IsFirstLine head line ↔ (logicalLines head).head? = some line := by
  constructor
  · rintro @⟨line, continuations, others, huncut, hcontinuations, hothers⟩
    rw [logicalLines_of_crlfLines (Bytes.crlfLines_joinLines_of_isUncut huncut),
      mergeContinuations_append hcontinuations hothers]
    rfl
  · intro h
    obtain ⟨line, lines, rfl, huncut⟩ := Bytes.exists_eq_joinLines head
    rw [← List.takeWhile_append_dropWhile (p := isContinuation) (l := lines)] at huncut h ⊢
    have hcontinuations : ∀ piece ∈ lines.takeWhile isContinuation, isContinuation piece = true :=
      fun _ => List.mem_takeWhile_imp
    have hothers : ∀ piece ∈ (lines.dropWhile isContinuation).head?,
        isContinuation piece = false := by
      intro piece hpiece
      have hhead := List.head?_dropWhile_not isContinuation lines
      rwa [Option.mem_def.mp hpiece] at hhead
    rw [logicalLines_of_crlfLines (Bytes.crlfLines_joinLines_of_isUncut huncut),
      mergeContinuations_append hcontinuations hothers] at h
    cases h
    exact .first huncut hcontinuations hothers

/-- Every head has a line at its front. -/
theorem exists_isFirstLine (head : Bytes) : ∃ line, IsFirstLine head line := by
  obtain ⟨line, lines, rfl, huncut⟩ := Bytes.exists_eq_joinLines head
  have hlines := logicalLines_of_crlfLines (Bytes.crlfLines_joinLines_of_isUncut huncut)
  exact ⟨_, isFirstLine_iff.mpr (congrArg List.head? hlines)⟩

namespace Request

/-- A head that is no text is read as an empty request. -/
theorem parse_of_not_isValid {data : Bytes} (h : ¬ Utf8.isValid (headOf data) = true) :
    parse data = {} := by
  rw [parse]
  exact if_neg h

/-- A request is read from the line at the front of its head. -/
theorem toRequestLine_parse {data line : Bytes} (hvalid : Utf8.isValid (headOf data) = true)
    (hline : IsFirstLine (headOf data) line) :
    (parse data).toRequestLine = RequestLine.parse line := by
  rw [isFirstLine_iff] at hline
  rw [parse]
  simp only [hvalid, if_true]
  cases hlines : logicalLines (headOf data) with
  | nil =>
    rw [hlines] at hline
    cases hline
  | cons first headers =>
    rw [hlines] at hline
    cases hline
    rfl

end Request

end MotionJpeg.Http
