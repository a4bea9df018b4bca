import MotionJpeg.Proofs.Http.RequestLines
import MotionJpeg.Router

/-!
# The requests that are answered

A request is turned away as malformed, or as none that this server answers, by its first line alone.
What the server is asked for, the credentials, the sources and the files have no part in it.

* `Router.route_ne_badRequest_iff`: what is asked of a request that was read.
* `Router.route_parse_ne_badRequest_iff`: which bytes are such a request, and what is read of them.
-/

namespace MotionJpeg

open Http (IsFirstLine RequestLine)

namespace Router

/-- A path leads to a source, to a file or to nothing, so what is true of all these is true of where
it leads. -/
theorem resource_of_each {P : Route → Prop} (router : Router) (files : FileSystem) (path : Bytes)
    (sources : Nat) (hnotFound : P .notFound) (hstreamInfo : P .streamInfo)
    (hstream : ∀ source, P (.stream source)) (hstill : ∀ source, P (.still source))
    (hstaticFile : ∀ path length mediaType, P (.staticFile path length mediaType)) :
    P (router.resource files path sources) := by
  have hsource {route : Nat → Route} (hroute : ∀ source, P (route source)) (text : Bytes) :
      P (sourceRoute route text sources) := by
    rw [sourceRoute]
    split
    · exact hroute _
    · exact hnotFound
  have hfile (root : Path) : P (staticRoute files root path) := by
    rw [staticRoute]
    split
    · exact hnotFound
    · split
      · split
        · exact hstaticFile _ _ _
        · exact hnotFound
      · exact hnotFound
  rw [resource]
  split
  · split
    · exact hstreamInfo
    · exact hsource hstream _
  · split
    · exact hsource hstill _
    · split
      · exact hfile _
      · exact hnotFound

/-- A request is turned away unless its method and its protocol are the right ones and it names a
version. -/
theorem route_ne_badRequest_iff (router : Router) (files : FileSystem) (request : Http.Request)
    (sources : Nat) : router.route files request sources ≠ .badRequest ↔
      request.method = .ofString "GET" ∧ request.protocol = .ofString "HTTP" ∧
        ∃ version, request.version = some version := by
  have hresource : router.resource files request.path sources ≠ .badRequest :=
    router.resource_of_each (P := (· ≠ .badRequest)) files _ sources Route.noConfusion
      Route.noConfusion (fun _ => Route.noConfusion) (fun _ => Route.noConfusion)
      fun _ _ _ => Route.noConfusion
  rw [← Option.isSome_iff_exists, route]
  split
  next hrefused =>
    simp only [Bool.or_eq_true, Bool.not_eq_true', bne_iff_ne] at hrefused
    refine iff_of_false (fun hne => hne rfl) ?_
    rintro ⟨hmethod, hprotocol, hversion⟩
    rcases hrefused with (hversion' | hmethod') | hprotocol'
    · exact Bool.false_ne_true (hversion'.symm.trans hversion)
    · exact hmethod' hmethod
    · exact hprotocol' hprotocol
  next haccepted =>
    simp only [Bool.or_eq_true, Bool.not_eq_true', bne_iff_ne, not_or, not_not,
      Bool.not_eq_false] at haccepted
    obtain ⟨⟨hversion, hmethod⟩, hprotocol⟩ := haccepted
    refine iff_of_true ?_ ⟨hmethod, hprotocol, hversion⟩
    split
    · exact Route.noConfusion
    · exact hresource

/-- A request is answered exactly if its head is a text whose first line, with the folded ones put
to it, is a line of the grammar. It is read with the path, the query and the version of that line,
the blanks around the version apart. -/
theorem route_parse_ne_badRequest_iff (router : Router) (files : FileSystem) (data : Bytes)
    (sources : Nat) :
    (router.route files (.parse data) sources ≠ .badRequest ↔
      Utf8.isValid (Http.headOf data) = true ∧ ∃ line path query version,
        IsFirstLine (Http.headOf data) line ∧ RequestLine.IsGet line path query version) ∧
    ∀ line path query version, Utf8.isValid (Http.headOf data) = true →
      IsFirstLine (Http.headOf data) line → RequestLine.IsGet line path query version →
        (Http.Request.parse data).path = path ∧ (Http.Request.parse data).query = query ∧
          (Http.Request.parse data).version = some (Ascii.trimBlanks version) := by
  rw [route_ne_badRequest_iff]
  refine ⟨⟨?_, ?_⟩, ?_⟩
  · rintro ⟨hmethod, hprotocol, version, hversion⟩
    have hvalid : Utf8.isValid (Http.headOf data) = true := by
      by_contra hinvalid
      rw [Http.Request.parse_of_not_isValid hinvalid] at hversion
      cases hversion
    obtain ⟨line, hline⟩ := Http.exists_isFirstLine (Http.headOf data)
    rw [Http.Request.toRequestLine_parse hvalid hline] at hmethod hprotocol hversion
    obtain ⟨named, hget, -⟩ :=
      RequestLine.parse_iff.mp ⟨hmethod, rfl, rfl, hprotocol, hversion⟩
    exact ⟨hvalid, line, _, _, named, hline, hget⟩
  · rintro ⟨hvalid, line, path, query, version, hline, hget⟩
    rw [Http.Request.toRequestLine_parse hvalid hline]
    obtain ⟨hmethod, -, -, hprotocol, hversion⟩ :=
      RequestLine.parse_iff.mpr ⟨version, hget, rfl⟩
    exact ⟨hmethod, hprotocol, _, hversion⟩
  · intro line path query version hvalid hline hget
    rw [Http.Request.toRequestLine_parse hvalid hline]
    obtain ⟨-, hpath, hquery, -, hversion⟩ := RequestLine.parse_iff.mpr ⟨version, hget, rfl⟩
    exact ⟨hpath, hquery, hversion⟩

section Skipped

/-- A request whose first line is folded, and has blanks before its query and around its version.
What follows the head is no text. -/
def skippedData : Bytes :=
  Bytes.ofString "GET \t/stream/0?  fps=\x0d\n 5\tHTTP/ 1.1\t\x0d\nHost: cam\x0d\n\x0d\n" ++
    [255]

/-- The request is answered, and read without the blanks and the fold. -/
theorem route_parse_ne_badRequest_iff_skipped :
    ({} : Router).route {} (.parse skippedData) 1 ≠ .badRequest ∧
      (Http.Request.parse skippedData).path = .ofString "/stream/0" ∧
      (Http.Request.parse skippedData).query = .ofString "fps=5" ∧
      (Http.Request.parse skippedData).version = some (.ofString "1.1") := by
  obtain ⟨hanswered, hread⟩ := route_parse_ne_badRequest_iff {} {} skippedData 1
  have hvalid : Utf8.isValid (Http.headOf skippedData) = true := by decide +kernel
  have hline : IsFirstLine (Http.headOf skippedData)
      (.ofString "GET \t/stream/0?  fps=5\tHTTP/ 1.1\t") := by
    rw [Http.isFirstLine_iff]
    decide +kernel
  have hget : RequestLine.IsGet (.ofString "GET \t/stream/0?  fps=5\tHTTP/ 1.1\t")
      (.ofString "/stream/0") (.ofString "fps=5") (.ofString " 1.1\t") := by
    have htext : Bytes.ofString "GET \t/stream/0?  fps=5\tHTTP/ 1.1\t" =
        Bytes.ofString "GET" ++ ([32, 9] ++ ((Bytes.ofString "/stream/0" ++
          RequestLine.questionMark :: ([32, 32] ++ Bytes.ofString "fps=5")) ++ ([9] ++
            (Bytes.ofString "HTTP/" ++ Bytes.ofString " 1.1\t")))) := by decide +kernel
    rw [htext]
    refine .get ⟨?_, ?_⟩ (.query ?_ ?_ ?_ ?_) ⟨?_, ?_⟩
    all_goals decide +kernel
  refine ⟨hanswered.mpr ⟨hvalid, _, _, _, _, hline, hget⟩, ?_⟩
  obtain ⟨hpath, hquery, hversion⟩ := hread _ _ _ _ hvalid hline hget
  refine ⟨hpath, hquery, ?_⟩
  rw [hversion]
  decide +kernel

end Skipped

end Router

end MotionJpeg
