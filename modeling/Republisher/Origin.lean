import Republisher.Access
import Republisher.HeaderText

/-!
# The origin check

A request names the page it comes from in `Origin` and the daemon it is meant for in `Host`,
or in its URI under HTTP/2. The check compares the texts of the two fields, skips a field
that has no text, and answers a request that it rejects without going on.
-/

namespace Republisher

variable {Disk : Type}

/-- The methods that the origin check lets pass. -/
def Method.Exempt (method : Method) : Prop :=
  method = .get ∨ method = .head ∨ method = .options

instance (method : Method) : Decidable method.Exempt :=
  inferInstanceAs (Decidable (_ ∨ _ ∨ _))

/-- The authority an `Origin` field names: what follows the scheme, if it is a known one. -/
def HeaderValue.originAuthority (origin : HeaderValue) : HeaderValue :=
  match origin.bytes.dropPrefix? (asciiBytes "https://") with
  | some authority => ⟨authority⟩
  | none =>
      match origin.bytes.dropPrefix? (asciiBytes "http://") with
      | some authority => ⟨authority⟩
      | none => origin

/-- What follows a scheme in the text is the text of what follows it in the field. -/
theorem dropPrefix?_toStr {value : HeaderValue} {text scheme : String}
    (h : value.toStr = some text) (hscheme : (asciiBytes scheme).map byteChar = scheme.toList) :
    text.toList.dropPrefix? scheme.toList =
      (value.bytes.dropPrefix? (asciiBytes scheme)).map (List.map byteChar) := by
  rw [HeaderValue.toList_toStr h, ← hscheme, dropPrefix?_map byteChar_injective]

/-- What follows a scheme in a field that has a text has one too. -/
theorem toStr_dropPrefix? {value : HeaderValue} {text scheme : String} {rest : List UInt8}
    (h : value.toStr = some text)
    (hrest : value.bytes.dropPrefix? (asciiBytes scheme) = some rest) :
    (HeaderValue.mk rest).toStr = some (String.ofList (rest.map byteChar)) :=
  HeaderValue.toStr_eq_some.mpr ⟨fun b hb =>
    (HeaderValue.toStr_eq_some.mp h).1 b (mem_of_dropPrefix? hrest hb), rfl⟩

/-- The authority of a text is the text of the authority. -/
theorem HeaderValue.toStr_originAuthority {origin : HeaderValue} {text : String}
    (h : origin.toStr = some text) : origin.originAuthority.toStr = some (originHost text) := by
  unfold originAuthority originHost
  rw [dropPrefix?_toStr h (by decide), dropPrefix?_toStr h (by decide)]
  cases hhttps : origin.bytes.dropPrefix? (asciiBytes "https://") with
  | some rest => exact toStr_dropPrefix? h hhttps
  | none =>
    cases hhttp : origin.bytes.dropPrefix? (asciiBytes "http://") with
    | some rest => exact toStr_dropPrefix? h hhttp
    | none => exact h

/-- An origin has a text when its authority has one. -/
theorem HeaderValue.isSome_toStr_of_authority {origin : HeaderValue}
    (h : origin.originAuthority.toStr.isSome = true) : origin.toStr.isSome = true := by
  have hscheme {scheme : String} {rest : List UInt8}
      (hascii : ∀ b ∈ asciiBytes scheme, visibleByte b = true)
      (hrest : origin.bytes.dropPrefix? (asciiBytes scheme) = some rest)
      (htext : (HeaderValue.mk rest).toStr.isSome = true) : origin.toStr.isSome = true := by
    obtain ⟨start, hbytes, hstart⟩ := List.dropPrefix?_eq_some_iff.mp hrest
    obtain ⟨text, htext⟩ := Option.isSome_iff_exists.mp htext
    have hvisible := (toStr_eq_some.mp htext).1
    refine Option.isSome_iff_exists.mpr ⟨_, toStr_eq_some.mpr ⟨fun b hb => ?_, rfl⟩⟩
    rw [hbytes, beq_iff_eq.mp hstart] at hb
    exact (List.mem_append.mp hb).elim (hascii b) (hvisible b)
  unfold originAuthority at h
  split at h
  · rename_i rest hrest
    exact hscheme (by decide +kernel) hrest h
  · split at h
    · rename_i rest hrest
      exact hscheme (by decide +kernel) hrest h
    · exact h

/-- The text of the host is the authority of the origin exactly when the fields agree. -/
theorem host_eq_originHost {host : Option HeaderValue} {origin : HeaderValue} {text : String}
    (h : origin.toStr = some text) :
    host.bind HeaderValue.toStr = some (originHost text) ↔ host = some origin.originAuthority := by
  have hauthority := HeaderValue.toStr_originAuthority h
  constructor
  · intro hhost
    obtain ⟨value, rfl, hvalue⟩ := Option.bind_eq_some_iff.mp hhost
    exact congrArg some (HeaderValue.eq_of_toStr hvalue hauthority)
  · rintro rfl
    exact hauthority

/-- A request is rejected for its origin exactly when its method is checked, its origin has a
text and is not the host it names. -/
theorem HttpRequest.crossOrigin_iff (req : HttpRequest) :
    req.crossOrigin = true ↔ ¬ req.method.Exempt ∧ ∃ origin, req.header "origin" = some origin ∧
      origin.toStr.isSome = true ∧ req.header "host" ≠ some origin.originAuthority := by
  have hexempt : ([.get, .head, .options] : List Method).contains req.method = true ↔
      req.method.Exempt := by simp [Method.Exempt]
  unfold crossOrigin
  rw [Bool.and_eq_true, Bool.not_eq_true', ← Bool.not_eq_true, hexempt]
  refine and_congr_right fun _ => ?_
  cases horigin : req.header "origin" with
  | none => simp
  | some origin =>
    cases htext : origin.toStr with
    | none => simp [htext]
    | some text =>
      rw [Option.bind_some, htext]
      simp only [bne_iff_ne, ne_eq, host_eq_originHost htext, Option.some.injEq, exists_eq_left',
        htext, Option.isSome_some, true_and]

/-! ## Requests with their address -/

/-- The versions of HTTP that the daemon serves. -/
inductive HttpVersion
  | http1
  | http2
  deriving DecidableEq

/-- The authority of a URI. It is a text. -/
structure UriAuthority where
  field : HeaderValue
  isText : field.toStr.isSome = true
  deriving DecidableEq

/-- A request with its version and the authority of its URI. -/
structure AddressedRequest where
  request : HttpRequest
  version : HttpVersion
  authority : Option UriAuthority
  deriving DecidableEq

/-- The authority that the request is addressed to: the `Host` field, or under HTTP/2 that of
the URI when there is none. -/
def AddressedRequest.addressee (req : AddressedRequest) : Option HeaderValue :=
  match req.request.header "host" with
  | some host => some host
  | none => if req.version = .http2 then req.authority.map UriAuthority.field else none

/-- The request changes nothing, names no origin, or comes from what it is addressed to. -/
def AddressedRequest.SameOrigin (req : AddressedRequest) : Prop :=
  req.request.method.Exempt ∨ req.request.header "origin" = none ∨
    ∃ origin, req.request.header "origin" = some origin ∧
      req.addressee = some origin.originAuthority

/-- The answer is that of the inner handler, with the security headers. -/
def ForwardedTo (next : HttpState Disk → Response × HttpState Disk) (s : HttpState Disk)
    (outcome : Response × HttpState Disk) : Prop :=
  outcome = ((next s).1.withSecurityHeaders, (next s).2)

/-- The response has every security header. -/
def Response.Secured (response : Response) : Prop :=
  ∀ header ∈ securityHeaders, header ∈ response.headers

/-- `security_middleware` goes on with a request exactly when it is of the same origin, and its
response has every security header. -/
def SecuredByOrigin (req : AddressedRequest) (next : HttpState Disk → Response × HttpState Disk)
    (s : HttpState Disk) : Prop :=
  (ForwardedTo next s (securityMiddleware req.request next s) ↔ req.SameOrigin) ∧
    (securityMiddleware req.request next s).1.Secured

/-- Setting a header keeps those of other names. -/
theorem Response.mem_insertHeader {name value : String} {response : Response}
    {header : String × String} (h : header ∈ response.headers) (hname : header.1 ≠ name) :
    header ∈ (response.insertHeader name value).headers :=
  List.mem_append_left _ (List.mem_filter.mpr ⟨h, by simpa using hname⟩)

/-- Setting several headers keeps those of other names. -/
theorem Response.mem_insertHeaders {headers : List (String × String)} {response : Response}
    {header : String × String} (h : header ∈ response.headers)
    (hnames : ∀ other ∈ headers, header.1 ≠ other.1) :
    header ∈ (headers.foldl (fun response header => response.insertHeader header.1 header.2)
      response).headers := by
  induction headers generalizing response with
  | nil => exact h
  | cons first headers ih =>
    exact ih (mem_insertHeader h (hnames first List.mem_cons_self)) fun other hother =>
      hnames other (List.mem_cons_of_mem _ hother)

/-- Headers of different names are all there once they are set. -/
theorem Response.insertHeaders_mem {headers : List (String × String)}
    (hnames : headers.Pairwise fun header other => header.1 ≠ other.1) (response : Response) :
    ∀ header ∈ headers, header ∈ (headers.foldl
      (fun response header => response.insertHeader header.1 header.2) response).headers := by
  induction hnames generalizing response with
  | nil => simp
  | @cons first headers hfirst _ ih =>
    intro header hheader
    rcases List.mem_cons.mp hheader with rfl | hheader
    · rw [List.foldl_cons]
      exact mem_insertHeaders (List.mem_append_right _ (List.mem_singleton.mpr rfl)) hfirst
    · exact ih _ header hheader

/-- Whatever the response is, the layer adds the security headers. -/
theorem Response.withSecurityHeaders_secured (response : Response) :
    response.withSecurityHeaders.Secured :=
  insertHeaders_mem (by decide) response

/-- A request whose origin passes the check is forwarded. -/
theorem securityMiddleware_forwarded {req : HttpRequest} (h : req.crossOrigin = false)
    (next : HttpState Disk → Response × HttpState Disk) (s : HttpState Disk) :
    ForwardedTo next s (securityMiddleware req next s) := by
  unfold ForwardedTo securityMiddleware
  rw [if_neg (by simp [h])]

/-- The response to a request that is rejected has none of the security headers. -/
theorem securityMiddleware_rejected {req : HttpRequest} (h : req.crossOrigin = true)
    (next : HttpState Disk → Response × HttpState Disk) (s : HttpState Disk) :
    ¬ (securityMiddleware req next s).1.Secured := by
  unfold securityMiddleware
  rw [if_pos h]
  intro hsecured
  exact List.not_mem_nil (hsecured _ List.mem_cons_self)

/-- A checked request with an origin is forwarded for its host, or because its origin has no
text. -/
theorem AddressedRequest.host_of_addressee {req : AddressedRequest} {origin : HeaderValue}
    (hcross : req.request.crossOrigin = false) (hchecked : ¬ req.request.method.Exempt)
    (horigin : req.request.header "origin" = some origin)
    (haddressee : req.addressee = some origin.originAuthority) :
    req.request.header "host" = some origin.originAuthority := by
  unfold addressee at haddressee
  cases hhost : req.request.header "host" with
  | some host => rwa [hhost] at haddressee
  | none =>
    simp only [hhost, Option.ite_none_right_eq_some, Option.map_eq_some_iff] at haddressee
    obtain ⟨-, authority, -, hauthority⟩ := haddressee
    have htext : origin.toStr.isSome = true := by
      refine HeaderValue.isSome_toStr_of_authority ?_
      rw [← hauthority]
      exact authority.isText
    rw [← Bool.not_eq_true, HttpRequest.crossOrigin_iff] at hcross
    refine absurd ⟨hchecked, origin, horigin, htext, ?_⟩ hcross
    rw [hhost]
    simp

/-- The decision is right and the headers are set exactly for the requests whose method is not
checked, that name no origin, or whose `Host` field is the authority of their origin. -/
theorem securedByOrigin_iff (req : AddressedRequest)
    (next : HttpState Disk → Response × HttpState Disk) (s : HttpState Disk) :
    SecuredByOrigin req next s ↔
      req.request.method.Exempt ∨ req.request.header "origin" = none ∨
        ∃ origin, req.request.header "origin" = some origin ∧
          req.request.header "host" = some origin.originAuthority := by
  constructor
  · rintro ⟨hforwarded, hsecured⟩
    have hcross : req.request.crossOrigin = false :=
      Bool.eq_false_iff.mpr fun hcross => securityMiddleware_rejected hcross next s hsecured
    by_cases hexempt : req.request.method.Exempt
    · exact .inl hexempt
    · rcases hforwarded.mp (securityMiddleware_forwarded hcross next s) with
        hexempt | hnone | ⟨origin, horigin, haddressee⟩
      · exact .inl hexempt
      · exact .inr (.inl hnone)
      · exact .inr (.inr ⟨origin, horigin,
          AddressedRequest.host_of_addressee hcross hexempt horigin haddressee⟩)
  · intro h
    have hcross : req.request.crossOrigin = false := by
      rw [← Bool.not_eq_true, HttpRequest.crossOrigin_iff]
      rintro ⟨hchecked, origin, horigin, -, hne⟩
      rcases h with hexempt | hnone | ⟨other, hother, hhost⟩
      · exact hchecked hexempt
      · rw [hnone] at horigin
        cases horigin
      · obtain rfl := Option.some.inj (horigin.symm.trans hother)
        exact hne hhost
    have hforwarded := securityMiddleware_forwarded hcross next s
    refine ⟨iff_of_true hforwarded (h.imp_right (Or.imp_right ?_)), ?_⟩
    · rintro ⟨origin, horigin, hhost⟩
      exact ⟨origin, horigin, by rw [AddressedRequest.addressee, hhost]⟩
    · rw [show securityMiddleware req.request next s = _ from hforwarded]
      exact (next s).1.withSecurityHeaders_secured

/-- A login over HTTP/2 from the daemon's own page: there is no `Host` field. -/
def ownLogin : AddressedRequest :=
  { request :=
      { method := .post
        path := "/api/session"
        headers := [("origin", ⟨asciiBytes "https://gui.local:8443"⟩)]
        peer := .v4 0
        body := [] }
    version := .http2
    authority := some ⟨⟨asciiBytes "gui.local:8443"⟩, by decide⟩ }

/-- The login is addressed to its own origin and is rejected, without the security headers. -/
theorem ownLogin_rejected :
    ownLogin.SameOrigin ∧
      (securityMiddleware ownLogin.request (memoryState.route withoutBody 0 "t" ownLogin.request)
        lockedState).1 = ⟨403, [], .error "cross-origin request rejected"⟩ ∧
      ¬ SecuredByOrigin ownLogin (memoryState.route withoutBody 0 "t" ownLogin.request)
        lockedState := by
  refine ⟨.inr (.inr ⟨_, rfl, by decide⟩), rfl, fun h => ?_⟩
  exact List.not_mem_nil (h.2 _ List.mem_cons_self)

end Republisher
