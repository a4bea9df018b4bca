import MotionJpeg.Proofs.Http.RequestLines

/-!
# Queries

A query takes nothing from the rest of a request line: the line is read as it is without the query,
and the query comes to it. An empty query is the exception. The blank after a bare `?` is skipped
like blanks before a query, so the protocol and the version are read as the query, and the request
is left without both.

* `TargetText` is a request line that may get a query.
* `TargetText.IsWellFormed.parse_plain` and `TargetText.IsWellFormed.parse_asking`: what is read of
  the line.
* `Request.parse_query`: what a query changes.
-/

namespace MotionJpeg.Http

/-- A text on one line that no blank of a request line cuts. -/
structure IsWord (word : Bytes) : Prop where
  isTokenByte : ∀ c ∈ word, RequestLine.isTokenByte c = true
  isLine : Bytes.IsLine word
  isText : ∃ string, word = .ofString string

/-- The parts of a request line around its query. -/
structure TargetText where
  method : Bytes
  path : Bytes
  version : Bytes

namespace TargetText

variable (text : TargetText)

/-- The line with this target. -/
def lineOf (target : Bytes) : Bytes :=
  text.method ++ 32 :: (target ++ 32 :: (Bytes.ofString "HTTP/" ++ text.version))

/-- The line without a query. -/
def plain : Bytes := text.lineOf text.path

/-- The line with this query. -/
def asking (query : Bytes) : Bytes := text.lineOf (text.path ++ RequestLine.questionMark :: query)

/-- The parts are words, and no `?` is in the path. -/
structure IsWellFormed (text : TargetText) : Prop where
  method : IsWord text.method
  path : IsWord text.path
  path_ne_nil : text.path ≠ []
  questionMark_not_mem : RequestLine.questionMark ∉ text.path
  version : IsWord text.version

end TargetText

namespace RequestLine

/-- A method goes up to the first blank after it. -/
theorem parse_append {method : Bytes} (hmethod : ∀ c ∈ method, isTokenByte c = true)
    (rest : Bytes) : parse (method ++ 32 :: rest) = withTarget { method } (32 :: rest) := by
  have hspace : isTokenByte 32 = false := by decide
  rw [parse]
  simp only [takeWhile_append_cons hmethod hspace, dropWhile_append_cons hmethod hspace]

/-- A query that is not followed by a blank is the end of the line. -/
theorem withQuery_blanks_append (line : RequestLine) {blanks query : Bytes}
    (hblanks : AreBlanks blanks) (hquery : ∀ c ∈ query, isTokenByte c = true) :
    line.withQuery (blanks ++ query) = { line with query } := by
  have hstart : ∀ c ∈ query.head?, Ascii.isSpaceOrTab c = false := fun c hc => by
    simpa [isTokenByte] using hquery c (List.mem_of_mem_head? hc)
  rw [withQuery, dropWhile_blanks_append hblanks hstart]
  simp only [List.takeWhile_eq_self_iff.mpr hquery, List.dropWhile_eq_nil_iff.mpr hquery]

theorem areBlanks_space : AreBlanks [32] := by decide

end RequestLine

namespace TargetText.IsWellFormed

open RequestLine

variable {text : TargetText} (h : text.IsWellFormed)

include h

theorem isPathByte : ∀ c ∈ text.path, RequestLine.isPathByte c = true := fun c hc => by
  have hne : c ≠ questionMark := fun heq => h.questionMark_not_mem (heq ▸ hc)
  simp [RequestLine.isPathByte, h.path.isTokenByte c hc, hne]

/-- Without a query the path goes up to the blank. -/
theorem parse_plain : parse text.plain =
    { method := text.method
      path := text.path
      protocol := .ofString "HTTP"
      version := some (Ascii.trimBlanks text.version) } := by
  have htarget := withTarget_append areBlanks_space (absurd · h.path_ne_nil)
    h.isPathByte (by decide : RequestLine.isPathByte 32 = false) { method := text.method }
  rw [TargetText.plain, TargetText.lineOf, parse_append h.method.isTokenByte,
    ← List.singleton_append, htarget, if_neg (by decide)]
  exact withProtocol_append areBlanks_space _

/-- With a query the path goes up to the `?`. -/
theorem parse_asking (query : Bytes) : parse (text.asking query) =
    withQuery { method := text.method, path := text.path }
      (query ++ 32 :: (Bytes.ofString "HTTP/" ++ text.version)) := by
  have htarget := withTarget_append areBlanks_space (fun _ => rfl)
    h.isPathByte (by decide : RequestLine.isPathByte questionMark = false) { method := text.method }
  rw [TargetText.asking, TargetText.lineOf, parse_append h.method.isTokenByte,
    List.append_assoc, List.cons_append, ← List.singleton_append, htarget, if_pos rfl]

/-- A query that is not empty comes to the line, and nothing else of it changes. -/
theorem parse_asking_of_ne_nil {query : Bytes} (hquery : IsWord query) (hne : query ≠ []) :
    parse (text.asking query) = { parse text.plain with query } := by
  have hparts := withQuery_append (List.forall_mem_nil _) hne hquery.isTokenByte
    (by decide : isTokenByte 32 = false) { method := text.method, path := text.path }
  simp only [List.nil_append] at hparts
  rw [h.parse_asking, hparts, h.parse_plain, ← List.singleton_append]
  exact withProtocol_append areBlanks_space _

/-- After a bare `?` the protocol and the version are read as the query. -/
theorem parse_asking_nil : parse (text.asking []) =
    { method := text.method
      path := text.path
      query := Bytes.ofString "HTTP/" ++ text.version } := by
  have hprotocol : ∀ c ∈ Bytes.ofString "HTTP/", isTokenByte c = true := by decide +kernel
  rw [h.parse_asking, List.nil_append, ← List.singleton_append]
  exact withQuery_blanks_append _ areBlanks_space
    (List.forall_mem_append.mpr ⟨hprotocol, h.version.isTokenByte⟩)

/-- A line with these parts is a head of its own. -/
theorem isHead_lineOf {target : Bytes} (hline : Bytes.IsLine target)
    (htext : ∃ string, target = .ofString string) : IsHead (text.lineOf target) [] where
  isLine := by
    simp only [TargetText.lineOf, Bytes.isLine_append, Bytes.isLine_cons]
    exact ⟨h.method.isLine, by decide, hline, by decide, by decide, h.version.isLine⟩
  isHeader := nofun
  isText := by
    obtain ⟨method, hmethod⟩ := h.method.isText
    obtain ⟨version, hversion⟩ := h.version.isText
    obtain ⟨target, rfl⟩ := htext
    have hspace : Bytes.ofString " " = [32] := by decide
    refine ⟨method ++ (" " ++ (target ++ (" " ++ ("HTTP/" ++ version)))), ?_⟩
    rw [Bytes.joinLines_nil, TargetText.lineOf, hmethod, hversion]
    simp only [Bytes.ofString_append, hspace, List.singleton_append]

end TargetText.IsWellFormed

/-- A query that is not empty comes to the request, and nothing else of it changes. An empty query
takes the place of the protocol and the version, which the request is then without. -/
theorem Request.parse_query {text : TargetText} (h : text.IsWellFormed) {query : Bytes}
    (hquery : IsWord query) (rest : Bytes) :
    let plain := Request.parse (text.plain ++ blankLine ++ rest)
    let asking := Request.parse (text.asking query ++ blankLine ++ rest)
    plain.toRequestLine =
        { method := text.method
          path := text.path
          protocol := .ofString "HTTP"
          version := some (Ascii.trimBlanks text.version) } ∧
      (query ≠ [] → asking = { plain with query }) ∧
      (query = [] → asking =
        { plain with
          query := Bytes.ofString "HTTP/" ++ text.version
          protocol := []
          version := none }) := by
  obtain ⟨path, hpath⟩ := h.path.isText
  obtain ⟨string, hstring⟩ := hquery.isText
  have hmark : [RequestLine.questionMark] = Bytes.ofString "?" := by decide
  have htext : text.path ++ RequestLine.questionMark :: query =
      .ofString (path ++ ("?" ++ string)) := by
    rw [Bytes.ofString_append, Bytes.ofString_append, ← hpath, ← hstring, ← hmark,
      List.singleton_append]
  have hline : Bytes.IsLine (text.path ++ RequestLine.questionMark :: query) := by
    simp only [Bytes.isLine_append, Bytes.isLine_cons]
    exact ⟨h.path.isLine, by decide, hquery.isLine⟩
  have hplain := (h.isHead_lineOf h.path.isLine h.path.isText).parse_eq rest
  have hasking := (h.isHead_lineOf hline ⟨_, htext⟩).parse_eq rest
  rw [Bytes.joinLines_nil] at hplain hasking
  intro plain asking
  have hplain : plain = { RequestLine.parse text.plain with } := hplain
  have hasking : asking = { RequestLine.parse (text.asking query) with } := hasking
  rw [hplain, hasking]
  refine ⟨h.parse_plain, fun hne => ?_, ?_⟩
  · rw [h.parse_asking_of_ne_nil hquery hne]
  · rintro rfl
    rw [h.parse_asking_nil, h.parse_plain]

section Put

/-- A request line with a method that this server does not answer. -/
def putText : TargetText where
  method := .ofString "PUT"
  path := .ofString "/a/b"
  version := .ofString "1.1"

/-- A query that looks like a protocol leaves the request as it is, and a bare `?` does not. -/
theorem Request.parse_query_put :
    let plain := Request.parse (Bytes.ofString "PUT /a/b HTTP/1.1\x0d\n\x0d\n" ++ [255])
    plain.isWellFormed = true ∧
      Request.parse (Bytes.ofString "PUT /a/b?HTTP/1.0?é HTTP/1.1\x0d\n\x0d\n" ++ [255]) =
        { plain with query := .ofString "HTTP/1.0?é" } ∧
      Request.parse (Bytes.ofString "PUT /a/b? HTTP/1.1\x0d\n\x0d\n" ++ [255]) =
        { plain with query := .ofString "HTTP/1.1", protocol := [], version := none } := by
  have hwellFormed : putText.IsWellFormed :=
    { method := ⟨by decide +kernel, by decide +kernel, _, rfl⟩
      path := ⟨by decide +kernel, by decide +kernel, _, rfl⟩
      path_ne_nil := by decide +kernel
      questionMark_not_mem := by decide +kernel
      version := ⟨by decide +kernel, by decide +kernel, _, rfl⟩ }
  have hnil : IsWord [] := ⟨by decide +kernel, by decide, "", by decide⟩
  have hquery : IsWord (.ofString "HTTP/1.0?é") := ⟨by decide +kernel, by decide +kernel, _, rfl⟩
  have hplain : putText.plain ++ blankLine ++ [255] =
      Bytes.ofString "PUT /a/b HTTP/1.1\x0d\n\x0d\n" ++ [255] := by decide +kernel
  have hasking : putText.asking (.ofString "HTTP/1.0?é") ++ blankLine ++ [255] =
      Bytes.ofString "PUT /a/b?HTTP/1.0?é HTTP/1.1\x0d\n\x0d\n" ++ [255] := by decide +kernel
  have hbare : putText.asking [] ++ blankLine ++ [255] =
      Bytes.ofString "PUT /a/b? HTTP/1.1\x0d\n\x0d\n" ++ [255] := by decide +kernel
  have hversion : Bytes.ofString "HTTP/" ++ putText.version = .ofString "HTTP/1.1" := by
    decide +kernel
  obtain ⟨-, hcomes, -⟩ := Request.parse_query hwellFormed hquery [255]
  obtain ⟨-, -, hmissing⟩ := Request.parse_query hwellFormed hnil [255]
  rw [hplain] at hcomes hmissing
  rw [hasking] at hcomes
  rw [hbare, hversion] at hmissing
  exact ⟨by decide +kernel, hcomes (by decide +kernel), hmissing rfl⟩

/-- With a bare `?` the request is read as one without a version. -/
theorem Request.parse_bareQuery :
    let plain := Request.parse (.ofString "GET /a HTTP/1.1\x0d\n\x0d\n")
    let asking := Request.parse (.ofString "GET /a? HTTP/1.1\x0d\n\x0d\n")
    plain.version = some (.ofString "1.1") ∧ plain.isWellFormed = true ∧ asking.version = none ∧
      asking.isWellFormed = false ∧ asking.query = .ofString "HTTP/1.1" := by
  decide +kernel

end Put

end MotionJpeg.Http
