import MotionJpeg.Proofs.Bytes.Base64
import MotionJpeg.Proofs.Http.HeaderValue
import MotionJpeg.Proofs.Router.Acceptance

/-!
# Exactly the right credentials

A server with a secret answers a request for a path that is not public only if the request carries
the secret. The credentials are written and compared in Base64; what lies between, from the head of
the request to the token, neither takes anything of the token nor adds to it.

* `CredentialText` is a request with an `Authorization` header, as it is written.
* `CredentialText.IsWellFormed.token?_eq`: the token of the header is read as it was written.
* `Router.route_eq_authRequired_iff`: who is refused.
-/

namespace MotionJpeg

open Http (HeaderName IsHead IsHeader headerValue?)

/-- A request with an `Authorization` header, as it is to be written. -/
structure CredentialText where
  /-- The first line. -/
  line : Bytes
  earlier : List Bytes
  /-- The name of the header with its colon. -/
  name : Bytes
  before : Bytes
  /-- The word before the token. -/
  scheme : Bytes
  gap : Bytes
  /-- What the token is made of. -/
  credentials : String
  after : Bytes
  later : List Bytes

namespace CredentialText

variable (text : CredentialText)

/-- The value of the header, blanks at its end included. -/
def value : Bytes := text.scheme ++ (text.gap ++ Http.BasicAuth.secret text.credentials)

/-- The line of the header. -/
def header : Bytes := text.name ++ (text.before ++ text.value ++ text.after)

/-- The head, up to the blank line. -/
def bytes : Bytes := Bytes.joinLines text.line (text.earlier ++ text.header :: text.later)

/-- The first line asks for a path that is not public, the header is one of the scheme `Basic`, and
no other line is a header of this name. Together they are a text. -/
structure IsWellFormed (text : CredentialText) : Prop where
  isLine : Bytes.IsLine text.line
  method_eq : (Http.RequestLine.parse text.line).method = .ofString "GET"
  protocol_eq : (Http.RequestLine.parse text.line).protocol = .ofString "HTTP"
  version_isSome : (Http.RequestLine.parse text.line).version.isSome = true
  isPublic : Router.isPublic (Http.RequestLine.parse text.line).path = false
  name : Ascii.equalsIgnoreCase text.name HeaderName.authorization.bytes = true
  scheme : Ascii.equalsIgnoreCase text.scheme Http.BasicAuth.scheme = true
  before : ∀ c ∈ text.before, Ascii.isSpaceOrTab c = true
  gap : ∀ c ∈ text.gap, Ascii.isSpaceOrTab c = true
  after : ∀ c ∈ text.after, Ascii.isSpaceOrTab c = true
  isHeader : ∀ other ∈ text.earlier ++ text.later, IsHeader other
  other : ∀ other ∈ text.earlier ++ text.later, Ascii.equalsIgnoreCase
    (other.take HeaderName.authorization.bytes.length) HeaderName.authorization.bytes = false
  isText : ∃ string, text.bytes = .ofString string

end CredentialText

namespace Http.BasicAuth

/-- Different credentials have different secrets. -/
theorem secret_injective : Function.Injective secret :=
  Base64.encode_injective.comp Bytes.ofString_injective

/-- A secret holds no blank. -/
theorem isToken_secret (credentials : String) : IsToken (secret credentials) :=
  Base64.isBlank_of_mem_encode _

/-- The word before a token holds no blank. -/
theorem isToken_of_equalsIgnoreCase {word : Bytes}
    (h : Ascii.equalsIgnoreCase word scheme = true) : IsToken word := by
  intro c hmem
  rw [Bool.eq_false_iff]
  intro hblank
  simp only [Ascii.isBlank, Ascii.isSpaceOrTab, Bool.or_eq_true, beq_iff_eq] at hblank
  rcases hblank with (((rfl | rfl) | rfl) | rfl) | rfl <;>
    exact Ascii.not_mem_of_equalsIgnoreCase h (by decide) hmem

/-- The token is what follows the word and the blanks after it. -/
theorem token?_append {word gap token : Bytes}
    (hword : Ascii.equalsIgnoreCase word scheme = true)
    (hgap : ∀ c ∈ gap, Ascii.isSpaceOrTab c = true) (htoken : IsToken token) :
    token? (word ++ (gap ++ token)) = some token := by
  have hlength := Ascii.length_eq_of_equalsIgnoreCase hword
  have hstays : token.dropWhile Ascii.isSpaceOrTab = token :=
    Ascii.dropWhile_eq_self fun c hc =>
      Ascii.isSpaceOrTab_of_not_isBlank (htoken c (List.mem_of_mem_head? hc))
  rw [token?, ← hlength, List.take_left, List.drop_left, if_pos hword,
    List.dropWhile_append_of_pos hgap, hstays]

/-- The value of a header is read so that its token is found, also if the token is empty and the
blanks before it are trimmed off. -/
theorem exists_headerValue?_eq {header name before word gap token after : Bytes}
    (hname : Ascii.equalsIgnoreCase name header = true)
    (hword : Ascii.equalsIgnoreCase word scheme = true)
    (hbefore : ∀ c ∈ before, Ascii.isSpaceOrTab c = true)
    (hgap : ∀ c ∈ gap, Ascii.isSpaceOrTab c = true)
    (hafter : ∀ c ∈ after, Ascii.isSpaceOrTab c = true) (htoken : IsToken token) :
    ∃ value, headerValue? header (name ++ (before ++ (word ++ (gap ++ token)) ++ after)) =
      some value ∧ token? value = some token := by
  have hletters := isToken_of_equalsIgnoreCase hword
  have hne : word ≠ [] := by
    rintro rfl
    cases hword
  by_cases hnil : token = []
  · -- The value ends with the word.
    subst hnil
    have hend : ∀ c ∈ gap ++ after, Ascii.isSpaceOrTab c = true :=
      List.forall_mem_append.mpr ⟨hgap, hafter⟩
    have hvalue := headerValue?_known hname hbefore hend
      (fun c hc => hletters c (List.mem_of_mem_head? hc))
      (fun c hc => hletters c (List.mem_of_getLast? hc))
    refine ⟨word, ?_, ?_⟩
    · simpa using hvalue
    · simpa using token?_append hword (List.forall_mem_nil _) htoken
  · refine ⟨word ++ (gap ++ token), headerValue?_known hname hbefore hafter ?_ ?_,
      token?_append hword hgap htoken⟩
    · rw [List.head?_append_of_ne_nil _ hne]
      exact fun c hc => hletters c (List.mem_of_mem_head? hc)
    · rw [List.getLast?_append_of_ne_nil _ (by simp [hnil]), List.getLast?_append_of_ne_nil _ hnil]
      exact fun c hc => htoken c (List.mem_of_getLast? hc)

end Http.BasicAuth

namespace CredentialText.IsWellFormed

variable {text : CredentialText} (h : text.IsWellFormed)

include h

/-- The lines of the text make a head. -/
theorem isHead : IsHead text.line (text.earlier ++ text.header :: text.later) where
  isLine := h.isLine
  isHeader := by
    have hvalue : Bytes.IsLine text.value := by
      simp only [CredentialText.value, Bytes.isLine_append]
      exact ⟨(Http.BasicAuth.isToken_of_equalsIgnoreCase h.scheme).isLine,
        Http.isLine_of_isSpaceOrTab h.gap, (Http.BasicAuth.isToken_secret _).isLine⟩
    have hothers := List.forall_mem_append.mp h.isHeader
    rw [List.forall_mem_append, List.forall_mem_cons]
    exact ⟨hothers.1, Http.isHeader_known h.name h.before h.after hvalue, hothers.2⟩
  isText := h.isText

/-- The request is read with its first line and with its own token. -/
theorem parse_eq (rest : Bytes) :
    let request := Http.Request.parse (text.bytes ++ Http.blankLine ++ rest)
    request.toRequestLine = .parse text.line ∧
      request.authorization.bind Http.BasicAuth.token? =
        some (Http.BasicAuth.secret text.credentials) := by
  intro request
  have hrequest : request = .ofLines (text.line :: (text.earlier ++ text.header :: text.later)) :=
    h.isHead.parse_eq rest
  obtain ⟨value, hvalue, htoken⟩ := Http.BasicAuth.exists_headerValue?_eq h.name h.scheme h.before
    h.gap h.after (Http.BasicAuth.isToken_secret text.credentials)
  -- No line before the header has its name.
  have hearlier : text.earlier.findSome? (headerValue? HeaderName.authorization.bytes) = none :=
    List.findSome?_eq_none_iff.mpr fun other hmem => by
      rw [headerValue?, h.other other (List.mem_append_left _ hmem)]
      rfl
  have hauthorization : request.authorization = some value := by
    have hfound : (text.earlier ++ text.header :: text.later).findSome?
        (headerValue? HeaderName.authorization.bytes) = some value := by
      rw [List.findSome?_append, hearlier, Option.none_or, List.findSome?_cons,
        CredentialText.header, CredentialText.value, hvalue]
    rw [hrequest]
    exact hfound
  rw [hauthorization, hrequest]
  exact ⟨rfl, htoken⟩

end CredentialText.IsWellFormed

namespace Router

/-- Those who were let in are not refused any more. -/
theorem resource_ne_authRequired (router : Router) (files : FileSystem) (path : Bytes)
    (sources : Nat) : router.resource files path sources ≠ .authRequired :=
  router.resource_of_each (P := (· ≠ .authRequired)) files path sources Route.noConfusion
    Route.noConfusion (fun _ => Route.noConfusion) (fun _ => Route.noConfusion)
    fun _ _ _ => Route.noConfusion

/-- A server with a secret refuses a request for a path that is not public exactly if the
credentials are others than its own, whatever the letters of the header and of its scheme, the
blanks around the token, the other lines and the bytes after the blank line are. -/
theorem route_eq_authRequired_iff (root : Option Path) (credentials : String)
    {text : CredentialText} (h : text.IsWellFormed) (rest : Bytes) (files : FileSystem)
    (sources : Nat) :
    let router : Router :=
      { staticRoot := root, secret := some (Http.BasicAuth.secret credentials) }
    router.route files (.parse (text.bytes ++ Http.blankLine ++ rest)) sources = .authRequired ↔
      text.credentials ≠ credentials := by
  intro router
  obtain ⟨hline, htoken⟩ := h.parse_eq rest
  generalize Http.Request.parse (text.bytes ++ Http.blankLine ++ rest) = request at hline htoken
  have hpermits : Http.BasicAuth.permits router.secret request.authorization =
      decide (text.credentials = credentials) := by
    rw [Http.BasicAuth.permits, htoken, Bool.eq_iff_iff, beq_iff_eq, Option.some.injEq,
      Http.BasicAuth.secret_injective.eq_iff, decide_eq_true_iff]
  -- The first line passes and its path is not public, so the credentials alone decide.
  have haccepted : (!request.isWellFormed || request.method != .ofString "GET" ||
      request.protocol != .ofString "HTTP") = false := by
    rw [Http.Request.isWellFormed, hline, h.method_eq, h.protocol_eq, h.version_isSome]
    simp
  have hprivate : isPublic request.path = false := by
    rw [hline]
    exact h.isPublic
  rw [route, haccepted, hprivate, hpermits]
  by_cases hsame : text.credentials = credentials
  · simp [hsame, resource_ne_authRequired]
  · simp [hsame]

section Password

/-- A request for a stream with a password, in letters of both cases and with blanks around the
token. -/
def passwordText : CredentialText where
  line := .ofString "GET /stream/0 HTTP/1.1"
  earlier := [.ofString "Host: cam.local", .ofString "Accept: */*"]
  name := .ofString "AUTHORIZATION:"
  before := [9]
  scheme := .ofString "bASIC"
  gap := [32, 9, 32]
  credentials := "user:pass"
  after := [32]
  later := [.ofString "Connection: close"]

/-- The lines of the request, as they are sent. -/
def passwordLines : String :=
  "GET /stream/0 HTTP/1.1\x0d\nHost: cam.local\x0d\nAccept: */*\x0d\n" ++
    "AUTHORIZATION:\tbASIC \t dXNlcjpwYXNz \x0d\nConnection: close"

/-- The request with the password is let in where that is the right one, and refused elsewhere. -/
theorem route_eq_authRequired_iff_password :
    let right : Router := { secret := some (Http.BasicAuth.secret "user:pass") }
    let wrong : Router := { secret := some (Http.BasicAuth.secret "user:word") }
    let request := Http.Request.parse (passwordText.bytes ++ Http.blankLine ++ [1, 2, 3])
    passwordText.IsWellFormed ∧ passwordText.bytes = .ofString passwordLines ∧
      right.route {} request 1 ≠ .authRequired ∧ wrong.route {} request 1 = .authRequired := by
  intro right wrong request
  have hbytes : passwordText.bytes = .ofString passwordLines := by decide +kernel
  have hothers : ∀ other ∈ passwordText.earlier ++ passwordText.later, IsHeader other := by
    simp only [passwordText, List.cons_append, List.nil_append, List.forall_mem_cons]
    refine ⟨?_, ?_, ?_, nofun⟩
    all_goals
      constructor <;> decide +kernel
  have hwellFormed : passwordText.IsWellFormed :=
    { isLine := by decide +kernel
      method_eq := by decide +kernel
      protocol_eq := by decide +kernel
      version_isSome := by decide +kernel
      isPublic := by decide +kernel
      name := by decide +kernel
      scheme := by decide +kernel
      before := by decide +kernel
      gap := by decide +kernel
      after := by decide +kernel
      isHeader := hothers
      other := by decide +kernel
      isText := ⟨_, hbytes⟩ }
  refine ⟨hwellFormed, hbytes, fun hrefused => ?_, ?_⟩
  · exact (route_eq_authRequired_iff none "user:pass" hwellFormed [1, 2, 3] {} 1).mp hrefused rfl
  · exact (route_eq_authRequired_iff none "user:word" hwellFormed [1, 2, 3] {} 1).mpr (by decide)

end Password

end Router

end MotionJpeg
