import Republisher.Http
import Republisher.Instance

/-!
# What a visitor without a session reaches

A request without a live session is turned away, or it asks for one of the public
paths. The handlers behind these read and change the sessions alone, so their
responses say nothing about the server behind the lock.
-/

namespace Republisher

variable {Disk : Type}

/-! ## Handlers that leave the server alone -/

/-- With these sessions, the server behind the lock stays as it is, and the response and
the sessions that follow are the same whatever the server is. -/
def IgnoresServer (auth : Auth) (serve : HttpState Disk → Response × HttpState Disk) : Prop :=
  ∀ server other, serve ⟨other, auth⟩ =
    ((serve ⟨server, auth⟩).1, { (serve ⟨server, auth⟩).2 with server := other })

/-- What ignores the server does not change it. -/
theorem IgnoresServer.server_eq {s : HttpState Disk}
    {serve : HttpState Disk → Response × HttpState Disk} (h : IgnoresServer s.auth serve) :
    (serve s).2.server = s.server := by
  have hserve : serve s = ((serve s).1, { (serve s).2 with server := s.server }) :=
    h s.server s.server
  rw [hserve]

/-- What ignores the server responds alike whatever the server is. -/
theorem IgnoresServer.response_eq {s : HttpState Disk}
    {serve : HttpState Disk → Response × HttpState Disk} (h : IgnoresServer s.auth serve)
    (server : Server Disk) : (serve { s with server }).1 = (serve s).1 := by
  rw [h s.server server]

/-- A fixed response ignores the server. -/
theorem ignoresServer_const (auth : Auth) (response : Response) :
    IgnoresServer auth fun s : HttpState Disk => (response, s) :=
  fun _ _ => rfl

/-- Changing the response does not look at the server. -/
theorem IgnoresServer.mapResponse {auth : Auth}
    {serve : HttpState Disk → Response × HttpState Disk} (h : IgnoresServer auth serve)
    (change : Response → Response) :
    IgnoresServer auth fun s => (change (serve s).1, (serve s).2) := by
  intro server other
  simp only [h server other]

/-- Extracting from the request does not look at the server. -/
theorem ignoresServer_withExtracted {auth : Auth} {α : Type} (extracted : Except Response α)
    {next : α → HttpState Disk → Response × HttpState Disk}
    (h : ∀ a, IgnoresServer auth (next a)) :
    IgnoresServer auth (withExtracted extracted next) := by
  cases extracted with
  | error response => exact ignoresServer_const auth response
  | ok a => exact h a

/-- `session_info` ignores the server. -/
theorem sessionInfo_ignoresServer (now : Instant) (req : HttpRequest) (auth : Auth) :
    IgnoresServer auth (sessionInfo now req : HttpState Disk → _) := by
  intro server other
  unfold sessionInfo
  by_cases hrequired : auth.required = true
  · rw [if_pos hrequired, if_pos hrequired]
  · rw [if_neg hrequired, if_neg hrequired]

/-- `login` ignores the server. -/
theorem login_ignoresServer (verifyHash : String → String → Bool) (now : Instant)
    (token : String) (peer : IpAddr) (password : String) (auth : Auth) :
    IgnoresServer auth (login verifyHash now token peer password : HttpState Disk → _) := by
  intro server other
  unfold login
  by_cases hrequired : auth.required = true
  · cases hthrottled : (auth.throttled now peer).1 with
    | true => simp [hrequired, hthrottled]
    | false =>
      cases hpassword : (auth.throttled now peer).2.verifyPassword verifyHash password with
      | true => simp [hrequired, hthrottled, hpassword]
      | false => simp [hrequired, hthrottled, hpassword]
  · simp [hrequired]

/-- `logout` ignores the server. -/
theorem logout_ignoresServer (req : HttpRequest) (auth : Auth) :
    IgnoresServer auth (logout req : HttpState Disk → _) :=
  fun _ _ => rfl

/-! ## Public paths -/

/-- The handlers that serve the login page, the sessions and the probe. -/
def Endpoint.IsOpen : Endpoint → Prop
  | .health | .asset .. | .sessionInfo | .login | .logout => True
  | _ => False

/-- The open handlers ignore the server. -/
theorem WebState.run_ignoresServer (w : WebState Disk) (x : Extractors) (now : Instant)
    (token : String) (req : HttpRequest) (auth : Auth) {endpoint : Endpoint}
    (h : endpoint.IsOpen) : IgnoresServer auth fun s => w.run x now token req s endpoint := by
  cases endpoint with
  | health => exact ignoresServer_const auth _
  | asset contentType file => exact ignoresServer_const auth _
  | sessionInfo => exact sessionInfo_ignoresServer now req auth
  | login =>
    exact ignoresServer_withExtracted _ fun password =>
      login_ignoresServer x.verifyHash now token req.peer password auth
  | logout => exact logout_ignoresServer req auth
  | _ => exact h.elim

/-- The paths that are public for some method. -/
def publicPaths : List String :=
  ["/", "/app.js", "/style.css", "/favicon.svg", "/favicon.png", "/logo.png", "/logo-dark.png",
    "/glyph.png", "/healthz", "/api/session"]

/-- A path that is public for some method is one of them. -/
theorem mem_publicPaths {path : String} {method : Method} (h : isPublic path method = true) :
    path ∈ publicPaths := by
  simp only [isPublic, Bool.or_eq_true, List.contains_eq_mem, decide_eq_true_eq,
    Bool.and_eq_true, beq_iff_eq] at h
  rcases h with h | ⟨rfl, -⟩
  · exact List.mem_append_left ["/api/session"] h
  · decide

/-- Each public path has a route, and all of its methods lead to open handlers. -/
theorem routes_publicPaths :
    ∀ path ∈ publicPaths, ∃ router, routes path = some router ∧
      ∀ entry ∈ router, entry.2.IsOpen := by
  simp only [publicPaths, List.forall_mem_cons, List.not_mem_nil, false_implies, implies_true,
    and_true]
  refine ⟨⟨_, rfl, ?_⟩, ⟨_, rfl, ?_⟩, ⟨_, rfl, ?_⟩, ⟨_, rfl, ?_⟩, ⟨_, rfl, ?_⟩, ⟨_, rfl, ?_⟩,
    ⟨_, rfl, ?_⟩, ⟨_, rfl, ?_⟩, ⟨_, rfl, ?_⟩, ⟨_, rfl, ?_⟩⟩ <;>
  simp [Endpoint.IsOpen]

/-- The handler of a method is one of the handlers of its route. -/
theorem MethodRouter.endpoint_mem {router : MethodRouter} {method : Method}
    {endpoint : Endpoint} (h : router.endpoint method = some endpoint) :
    ∃ entry ∈ router, entry.2 = endpoint := by
  obtain ⟨entry, hentry, hendpoint⟩ := Option.map_eq_some_iff.mp h
  exact ⟨entry, List.mem_of_find?_eq_some hentry, hendpoint⟩

/-- The router ignores the server on the public paths. -/
theorem WebState.route_ignoresServer (w : WebState Disk) (x : Extractors) (now : Instant)
    (token : String) {req : HttpRequest} (h : isPublic req.path req.method = true)
    (auth : Auth) : IgnoresServer auth (w.route x now token req) := by
  obtain ⟨router, hrouter, hopen⟩ := routes_publicPaths req.path (mem_publicPaths h)
  cases hendpoint : router.endpoint req.method with
  | none =>
    have hroute : w.route x now token req = fun s => (⟨405, [], .empty⟩, s) := by
      funext s
      unfold route
      rw [hrouter]
      simp only [hendpoint]
    rw [hroute]
    exact ignoresServer_const auth _
  | some endpoint =>
    have hroute : w.route x now token req = fun s =>
        (if req.method = .head then { (w.run x now token req s endpoint).1 with body := .empty }
          else (w.run x now token req s endpoint).1, (w.run x now token req s endpoint).2) := by
      funext s
      unfold route
      rw [hrouter]
      simp only [hendpoint]
    obtain ⟨entry, hentry, rfl⟩ := MethodRouter.endpoint_mem hendpoint
    rw [hroute]
    exact (w.run_ignoresServer x now token req auth (hopen entry hentry)).mapResponse
      fun response => if req.method = .head then { response with body := .empty } else response

/-! ## Requests without a live session -/

/-- A cookie header of the request sets the session cookie to this token. -/
def HttpRequest.Presents (req : HttpRequest) (token : String) : Prop :=
  ∃ header ∈ req.headers, header.1 = "cookie" ∧ ∃ text, header.2.toStr = some text ∧
    ∃ pair ∈ cookiePairs text, splitOnce '=' pair = some (sessionCookie.toList, token.toList)

/-- The request carries a session token that is stored and has not expired. -/
def HttpRequest.CarriesLive (req : HttpRequest) (now : Instant) (auth : Auth) : Prop :=
  ∃ token, req.Presents token ∧ auth.Live now token

/-- The token that is looked up is one that the request presents. -/
theorem HttpRequest.presents_sessionToken {req : HttpRequest} {token : String}
    (h : req.sessionToken = some token) : req.Presents token := by
  obtain ⟨text, htext, hsession⟩ := Option.bind_eq_some_iff.mp h
  obtain ⟨value, hvalue, htoStr⟩ := Option.bind_eq_some_iff.mp htext
  obtain ⟨header, hheader, rfl⟩ := Option.map_eq_some_iff.mp hvalue
  obtain ⟨pair, hpair, hsome⟩ := List.exists_of_findSome?_eq_some hsession
  obtain ⟨⟨name, found⟩, hsplit, hname⟩ := Option.bind_eq_some_iff.mp hsome
  refine ⟨header, List.mem_of_find?_eq_some hheader, ?_, text, htoStr, pair, hpair, ?_⟩
  · simpa using List.find?_some hheader
  · by_cases hcookie : name = sessionCookie.toList
    · simp only [hcookie, if_true, Option.some.injEq] at hname
      rw [hsplit, hcookie, ← hname, String.toList_ofList]
    · simp [hcookie] at hname

/-- A request without a live session is not authenticated. -/
theorem HttpRequest.checkSession_fst {req : HttpRequest} {now : Instant} {auth : Auth}
    (h : ¬ req.CarriesLive now auth) : (req.checkSession now auth).1 = false := by
  unfold checkSession
  cases htoken : req.sessionToken with
  | none => rfl
  | some token =>
    rw [Bool.eq_false_iff, Ne, Auth.checkSession_fst]
    exact fun hlive => h ⟨token, presents_sessionToken htoken, hlive⟩

/-- The check changes nothing but the stored sessions. -/
theorem HttpRequest.checkSession_rest (req : HttpRequest) (now : Instant) (auth : Auth) :
    ∃ sessions, (req.checkSession now auth).2 = { auth with sessions } := by
  unfold checkSession
  cases req.sessionToken with
  | none => exact ⟨auth.sessions, rfl⟩
  | some token => exact Auth.checkSession_rest now token auth

/-- The check ends no session that is live and makes none live. -/
theorem HttpRequest.checkSession_live (req : HttpRequest) {now later : Instant}
    (hlater : now ≤ later) (auth : Auth) (token : String) :
    (req.checkSession now auth).2.Live later token ↔ auth.Live later token := by
  unfold checkSession
  cases req.sessionToken with
  | none => exact Iff.rfl
  | some presented => exact Auth.checkSession_live hlater presented token auth

/-- The layer that sets the headers ignores the server when what it wraps does. -/
theorem securityMiddleware_ignoresServer (req : HttpRequest) {auth : Auth}
    {next : HttpState Disk → Response × HttpState Disk} (h : IgnoresServer auth next) :
    IgnoresServer auth (securityMiddleware req next) := by
  by_cases horigin : req.crossOrigin = true
  · have hrejected : securityMiddleware req next =
        fun s => (⟨403, [], .error "cross-origin request rejected"⟩, s) := by
      funext s
      rw [securityMiddleware, if_pos horigin]
    rw [hrejected]
    exact ignoresServer_const auth _
  · have hserved : securityMiddleware req next =
        fun s => ((next s).1.withSecurityHeaders, (next s).2) := by
      funext s
      rw [securityMiddleware, if_neg horigin]
    rw [hserved]
    exact h.mapResponse Response.withSecurityHeaders

/-- The session layer turns a request without a live session away, or the path is public. -/
theorem authMiddleware_eq {now : Instant} {req : HttpRequest} {s : HttpState Disk}
    (next : HttpState Disk → Response × HttpState Disk) (hrequired : s.auth.required = true)
    (hcookie : ¬ req.CarriesLive now s.auth) :
    authMiddleware now req next s =
      if isPublic req.path req.method then next s
      else (⟨401, [], .error "authentication required"⟩,
        { s with auth := (req.checkSession now s.auth).2 }) := by
  have hcheck := HttpRequest.checkSession_fst hcookie
  cases hpublic : isPublic req.path req.method with
  | true => simp [authMiddleware, hpublic]
  | false => simp [authMiddleware, hrequired, hpublic, hcheck]

/-- The session layer ignores the server when the public paths behind it do. -/
theorem authMiddleware_ignoresServer {now : Instant} {req : HttpRequest} {auth : Auth}
    {next : HttpState Disk → Response × HttpState Disk} (hrequired : auth.required = true)
    (hcookie : ¬ req.CarriesLive now auth)
    (hnext : isPublic req.path req.method = true → IgnoresServer auth next) :
    IgnoresServer auth (authMiddleware now req next) := by
  intro server other
  have heq (server : Server Disk) := authMiddleware_eq (s := ⟨server, auth⟩) next hrequired hcookie
  rw [heq, heq]
  by_cases hpublic : isPublic req.path req.method = true
  · rw [if_pos hpublic, if_pos hpublic]
    exact hnext hpublic server other
  · rw [if_neg hpublic, if_neg hpublic]

/-- The service ignores the server for every request without a live session. -/
theorem WebState.service_ignoresServer (w : WebState Disk) (x : Extractors) (now : Instant)
    (token : String) {req : HttpRequest} {auth : Auth} (hrequired : auth.required = true)
    (hcookie : ¬ req.CarriesLive now auth) :
    IgnoresServer auth (w.service x now token req) :=
  securityMiddleware_ignoresServer req
    (authMiddleware_ignoresServer hrequired hcookie fun hpublic =>
      w.route_ignoresServer x now token hpublic auth)

/-- A request that was turned away: the server behind the lock and the login failures are
as before, and the same sessions are live from now on. -/
structure TurnedAway (now : Instant) (s : HttpState Disk)
    (outcome : Response × HttpState Disk) : Prop where
  status : outcome.1.status = 401 ∨ outcome.1.status = 403
  server : outcome.2.server = s.server
  failures : outcome.2.auth.failures = s.auth.failures
  sessions : ∀ later, now ≤ later → ∀ token,
    outcome.2.auth.Live later token ↔ s.auth.Live later token

/-- A request without a live session for a path that is not public is turned away. -/
theorem WebState.service_turnedAway (w : WebState Disk) (x : Extractors) (now : Instant)
    (token : String) {req : HttpRequest} {s : HttpState Disk}
    (hrequired : s.auth.required = true) (hcookie : ¬ req.CarriesLive now s.auth)
    (hprivate : isPublic req.path req.method = false) :
    TurnedAway now s (w.service x now token req s) := by
  unfold service securityMiddleware
  by_cases horigin : req.crossOrigin = true
  · rw [if_pos horigin]
    exact ⟨Or.inr rfl, rfl, rfl, fun later _ token => Iff.rfl⟩
  · rw [if_neg horigin, authMiddleware_eq _ hrequired hcookie, hprivate]
    obtain ⟨sessions, hsessions⟩ := req.checkSession_rest now s.auth
    refine ⟨Or.inl rfl, rfl, ?_, fun later hlater token => ?_⟩
    · show (req.checkSession now s.auth).2.failures = s.auth.failures
      rw [hsessions]
    · exact req.checkSession_live hlater s.auth token

/-- Without a live session, a request for a path that is not public is turned away, and
one for a public path leaves the server as it is and is answered alike whatever the
server holds. -/
theorem WebState.unauthenticated_request (w : WebState Disk) (x : Extractors) (now : Instant)
    (token : String) (req : HttpRequest) (s : HttpState Disk)
    (hrequired : s.auth.required = true) (hcookie : ¬ req.CarriesLive now s.auth) :
    (isPublic req.path req.method = false →
      TurnedAway now s (w.service x now token req s)) ∧
    (isPublic req.path req.method = true →
      (w.service x now token req s).2.server = s.server ∧
        ∀ server : Server Disk,
          (w.service x now token req { s with server }).1 = (w.service x now token req s).1) := by
  have hignores := w.service_ignoresServer x now token hrequired hcookie
  exact ⟨fun hprivate => w.service_turnedAway x now token hrequired hcookie hprivate,
    fun _ => ⟨hignores.server_eq, hignores.response_eq⟩⟩

/-- The extractors on requests that declare no body type. -/
def withoutBody : Extractors :=
  let rejected {α : Type} : HttpRequest → Except Response α := fun _ =>
    .error ⟨415, [], .text "Expected request with `Content-Type: application/json`"⟩
  { index := fun segment =>
      match segment.toNat? with
      | some index => .ok index
      | none => .error ⟨400, [], .text "Invalid URL"⟩
    protocolReq := rejected
    connectionReq := rejected
    pointReq := rejected
    toggleReq := rejected
    settingsReq := rejected
    loginReq := rejected
    verifyHash := fun _ _ => false }

/-- A request with a session cookie of the given value. -/
def forgedRequest (method : Method) (path token : String) : HttpRequest :=
  { method
    path
    headers := [("cookie", ⟨(sessionCookie ++ "=" ++ token).toUTF8.toList⟩)]
    peer := .v4 0
    body := [] }

/-- The in-memory daemon with a password and no session yet. -/
def lockedState : HttpState MemoryDisk :=
  { server := memoryServer [] true
    auth := ⟨true, false, some (.plain "secret"), fun _ => none, fun _ => none⟩ }

/-- With a forged session the state is refused, and the session is reported alike on
every server. -/
theorem forged_session_turnedAway :
    TurnedAway 0 lockedState
        (memoryState.service withoutBody 0 "" (forgedRequest .get "/api/state" "x") lockedState) ∧
      ∀ server : Server MemoryDisk,
        (memoryState.service withoutBody 0 "" (forgedRequest .get "/api/session" "x")
          { lockedState with server }).1 =
        (memoryState.service withoutBody 0 "" (forgedRequest .get "/api/session" "x")
          lockedState).1 := by
  have hcookie (path : String) :
      ¬ (forgedRequest .get path "x").CarriesLive 0 lockedState.auth := by
    rintro ⟨token, -, expiry, hstored, -⟩
    cases hstored
  exact ⟨(memoryState.unauthenticated_request withoutBody 0 "" _ lockedState rfl
      (hcookie "/api/state")).1 (by decide),
    ((memoryState.unauthenticated_request withoutBody 0 "" _ lockedState rfl
      (hcookie "/api/session")).2 (by decide)).2⟩

/-! ## Runs -/

/-- Extracting from the request keeps whether sessions are required when what follows does. -/
theorem withExtracted_required {α : Type} (extracted : Except Response α)
    {next : α → HttpState Disk → Response × HttpState Disk} (s : HttpState Disk)
    (h : ∀ a, (next a s).2.auth.required = s.auth.required) :
    (withExtracted extracted next s).2.auth.required = s.auth.required := by
  cases extracted with
  | error response => rfl
  | ok a => exact h a

/-- The check keeps whether sessions are required. -/
theorem HttpRequest.checkSession_required (req : HttpRequest) (now : Instant) (auth : Auth) :
    (req.checkSession now auth).2.required = auth.required := by
  obtain ⟨sessions, hsessions⟩ := req.checkSession_rest now auth
  rw [hsessions]

/-- `login` keeps whether sessions are required. -/
theorem login_required (verifyHash : String → String → Bool) (now : Instant) (token : String)
    (peer : IpAddr) (password : String) (s : HttpState Disk) :
    (login verifyHash now token peer password s).2.auth.required = s.auth.required := by
  have hthrottled : (s.auth.throttled now peer).2.required = s.auth.required := by
    unfold Auth.throttled
    split <;> rfl
  unfold login
  split
  · dsimp only
    split
    · exact hthrottled
    · split
      · exact hthrottled
      · exact hthrottled
  · rfl

/-- No handler changes whether sessions are required. -/
theorem WebState.run_required (w : WebState Disk) (x : Extractors) (now : Instant)
    (token : String) (req : HttpRequest) (s : HttpState Disk) (endpoint : Endpoint) :
    (w.run x now token req s endpoint).2.auth.required = s.auth.required := by
  cases endpoint with
  | health | asset | plain | events => rfl
  | sessionInfo =>
    show (sessionInfo now req s).2.auth.required = s.auth.required
    unfold sessionInfo
    split
    · exact req.checkSession_required now s.auth
    · rfl
  | login =>
    exact withExtracted_required _ s fun password =>
      login_required x.verifyHash now token req.peer password s
  | logout =>
    show (logout req s).2.auth.required = s.auth.required
    unfold logout
    dsimp only
    split <;> rfl
  | togglePoint index =>
    exact withExtracted_required _ s fun _ => withExtracted_required _ s fun _ => rfl
  | _ => exact withExtracted_required _ s fun _ => rfl

/-- No request changes whether sessions are required. -/
theorem WebState.service_required (w : WebState Disk) (x : Extractors) (now : Instant)
    (token : String) (req : HttpRequest) (s : HttpState Disk) :
    (w.service x now token req s).2.auth.required = s.auth.required := by
  have hroute (s : HttpState Disk) :
      (w.route x now token req s).2.auth.required = s.auth.required := by
    unfold route
    split
    · rfl
    · split
      · rfl
      · exact w.run_required x now token req s _
  unfold service securityMiddleware
  split
  · rfl
  · show (authMiddleware now req (w.route x now token req) s).2.auth.required = s.auth.required
    unfold authMiddleware
    split
    · dsimp only
      split
      · rw [hroute]
        exact req.checkSession_required now s.auth
      · exact req.checkSession_required now s.auth
    · exact hroute s

/-- One request with the clock reading and the random token it meets. -/
structure Visit where
  now : Instant
  token : String
  req : HttpRequest

/-- Serve requests one after the other, with their responses. Each finds the server that
the rest of the daemon has meanwhile put behind the lock. -/
def WebState.serveAll (w : WebState Disk) (x : Extractors) :
    List (Visit × Server Disk) → Auth → List Response × Auth
  | [], auth => ([], auth)
  | (visit, server) :: visits, auth =>
      let (response, s) := w.service x visit.now visit.token visit.req ⟨server, auth⟩
      let (responses, auth) := w.serveAll x visits s.auth
      (response :: responses, auth)

/-- No request carries a session that is live when it is served. -/
def WebState.NoneLive (w : WebState Disk) (x : Extractors) :
    List (Visit × Server Disk) → Auth → Prop
  | [], _ => True
  | (visit, server) :: visits, auth =>
      ¬ visit.req.CarriesLive visit.now auth ∧
        w.NoneLive x visits
          (w.service x visit.now visit.token visit.req ⟨server, auth⟩).2.auth

/-- A visitor who never has a live session gets the same responses, and leaves the same
sessions, whatever the daemon does meanwhile. -/
theorem WebState.serveAll_eq (w : WebState Disk) (x : Extractors)
    {visits other : List (Visit × Server Disk)} {auth : Auth} (hrequired : auth.required = true)
    (hlive : w.NoneLive x visits auth) (hsame : visits.map Prod.fst = other.map Prod.fst) :
    w.serveAll x visits auth = w.serveAll x other auth := by
  induction visits generalizing other auth with
  | nil =>
    obtain rfl := List.map_eq_nil_iff.mp hsame.symm
    rfl
  | cons first visits ih =>
    obtain ⟨visit, server⟩ := first
    obtain ⟨⟨visit', server'⟩, rest, rfl, hvisit, hrest⟩ := List.map_eq_cons_iff.mp hsame.symm
    obtain rfl : visit' = visit := hvisit
    obtain ⟨hfirst, hothers⟩ := hlive
    have hserve := w.service_ignoresServer x visit'.now visit'.token hrequired hfirst server server'
    have hrequired' : (w.service x visit'.now visit'.token visit'.req
        ⟨server, auth⟩).2.auth.required = true :=
      (w.service_required x visit'.now visit'.token visit'.req ⟨server, auth⟩).trans hrequired
    have htail := ih hrequired' hothers hrest.symm
    simp only [serveAll, hserve, htail]

end Republisher
