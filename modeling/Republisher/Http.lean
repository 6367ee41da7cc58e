import Republisher.Api
import Republisher.Auth

/-!
# The HTTP service

The router with its two layers, from a request to a response. What axum and
serde make of a path segment or a body is a parameter, and so are the clock
reading and the random token of a request. A layer wraps every route, the nested
API and the fallback, and sees the full path.
-/

namespace Republisher

/-- An HTTP method. -/
inductive Method
  | get
  | head
  | post
  | put
  | delete
  | options
  | patch
  | connect
  | trace
  | extension (name : String)
  deriving DecidableEq

/-- The bytes of a header. -/
structure HeaderValue where
  bytes : List UInt8
  deriving DecidableEq

/-- `HeaderValue::to_str`: the text of a header of visible ASCII characters and tabs. -/
def HeaderValue.toStr (value : HeaderValue) : Option String :=
  if value.bytes.all fun b => (32 ≤ b && b < 127) || b == 9 then
    some (String.ofList (value.bytes.map fun b => Char.ofNat b.toNat))
  else none

/-- A request. The names of its headers are in lower case. -/
structure HttpRequest where
  method : Method
  path : String
  headers : List (String × HeaderValue)
  peer : IpAddr
  body : List UInt8
  deriving DecidableEq

/-- `HeaderMap::get`: the first header of the name. -/
def HttpRequest.header (req : HttpRequest) (name : String) : Option HeaderValue :=
  (req.headers.find? fun header => header.1 == name).map Prod.snd

/-- What a response carries. -/
inductive Body
  | empty
  | text (text : String)
  | asset (file : String)
  | error (message : String)
  | reply (reply : Reply)
  | session (authRequired authenticated : Bool)
  | stream (snapshot : Snapshot)
  deriving DecidableEq

/-- A response, with the headers the daemon sets itself. -/
structure Response where
  status : ℕ
  headers : List (String × String)
  body : Body
  deriving DecidableEq

/-- `HeaderMap::insert`: it replaces the headers of the name. -/
def Response.insertHeader (name value : String) (response : Response) : Response :=
  { response with
    headers := response.headers.filter (fun header => header.1 != name) ++ [(name, value)] }

/-- What axum and serde make of the parts of a request, or the response they reject it with,
and how a password is checked against a hash. -/
structure Extractors where
  index : String → Except Response ℕ
  protocolReq : HttpRequest → Except Response String
  connectionReq : HttpRequest → Except Response FieldValues
  pointReq : HttpRequest → Except Response PointReq
  toggleReq : HttpRequest → Except Response Bool
  settingsReq : HttpRequest → Except Response SettingsReq
  loginReq : HttpRequest → Except Response String
  verifyHash : String → String → Bool

/-- What the service changes: the server behind the lock and the sessions. -/
structure HttpState (Disk : Type) where
  server : Server Disk
  auth : Auth

/-! ## Routes -/

/-- The handler a route selects, with the path segments it reads. -/
inductive Endpoint
  | health
  | asset (contentType file : String)
  | plain (r : Request)
  | setProtocol
  | setConnection
  | browseDevice (index : String)
  | savePoint
  | togglePoint (index : String)
  | deletePoint (index : String)
  | addBrowsedPoint (index : String)
  | putSettings
  | events
  | sessionInfo
  | login
  | logout

/-- The methods of a route with their handlers. -/
abbrev MethodRouter := List (Method × Endpoint)

/-- The nested router, on the segments after `/api`. A placeholder matches one segment that
is not empty. -/
def apiRoutes : List String → Option MethodRouter
  | ["state"] => some [(.get, .plain .getState)]
  | ["status"] => some [(.get, .plain .getStatus)]
  | ["capabilities"] => some [(.get, .plain .getCapabilities)]
  | ["config"] => some [(.get, .plain .getConfig)]
  | ["settings"] => some [(.put, .putSettings)]
  | ["protocol"] => some [(.post, .setProtocol)]
  | ["connection"] => some [(.put, .setConnection)]
  | ["interfaces"] => some [(.get, .plain .getInterfaces)]
  | ["discover"] => some [(.post, .plain .discover)]
  | ["devices", index, "browse"] =>
      if index = "" then none else some [(.post, .browseDevice index)]
  | ["scan-all"] => some [(.post, .plain .scanAll)]
  | ["poll-once"] => some [(.post, .plain .pollOnce)]
  | ["points"] =>
      some [(.get, .plain .getPoints), (.post, .savePoint), (.delete, .plain .clearPoints)]
  | ["points", index] =>
      if index = "" then none
      else some [(.delete, .deletePoint index), (.patch, .togglePoint index)]
  | ["browsed", index, "add"] =>
      if index = "" then none else some [(.post, .addBrowsedPoint index)]
  | ["republisher", "start"] => some [(.post, .plain .startRepublisher)]
  | ["republisher", "stop"] => some [(.post, .plain .stopRepublisher)]
  | ["logs"] => some [(.get, .plain .getLogs)]
  | ["events"] => some [(.get, .events)]
  | ["session"] => some [(.get, .sessionInfo), (.post, .login), (.delete, .logout)]
  | _ => none

/-- The router without its layers. -/
def routes (path : String) : Option MethodRouter :=
  match (path.toList.splitOn '/').map String.ofList with
  | ["", "healthz"] => some [(.get, .health)]
  | ["", ""] => some [(.get, .asset "text/html; charset=utf-8" "index.html")]
  | ["", "app.js"] => some [(.get, .asset "application/javascript; charset=utf-8" "app.js")]
  | ["", "style.css"] => some [(.get, .asset "text/css; charset=utf-8" "style.css")]
  | ["", "favicon.svg"] => some [(.get, .asset "image/svg+xml" "favicon.svg")]
  | ["", "favicon.png"] => some [(.get, .asset "image/png" "favicon.png")]
  | ["", "logo.png"] => some [(.get, .asset "image/png" "logo.png")]
  | ["", "logo-dark.png"] => some [(.get, .asset "image/png" "logo-dark.png")]
  | ["", "glyph.png"] => some [(.get, .asset "image/png" "glyph.png")]
  | "" :: "api" :: segments => apiRoutes segments
  | _ => none

/-- The handler of a method. A route for `GET` also answers `HEAD`. -/
def MethodRouter.endpoint (router : MethodRouter) (method : Method) : Option Endpoint :=
  let wanted := if method = .head then .get else method
  (router.find? fun entry => entry.1 == wanted).map Prod.snd

/-! ## Handlers -/

variable {Disk : Type}

/-- The response to an answer of a handler. -/
def toResponse : Except ApiError Reply → Response
  | .ok reply => ⟨200, [], .reply reply⟩
  | .error error => ⟨error.status, [], .error error.error⟩

/-- Answer a request to one of the handlers that use the shared state. -/
def WebState.answer (w : WebState Disk) (r : Request) (s : HttpState Disk) :
    Response × HttpState Disk :=
  let (outcome, server) := w.handle r s.server
  (toResponse outcome, { s with server })

/-- Go on with what was extracted from a request, or reject it. -/
def withExtracted {α : Type} (extracted : Except Response α)
    (next : α → HttpState Disk → Response × HttpState Disk) (s : HttpState Disk) :
    Response × HttpState Disk :=
  match extracted with
  | .error response => (response, s)
  | .ok value => next value s

/-- The session token of a request. -/
def HttpRequest.sessionToken (req : HttpRequest) : Option String :=
  ((req.header "cookie").bind HeaderValue.toStr).bind sessionFromCookieHeader

/-- Whether the request carries a live session token, and the sessions after the check. -/
def HttpRequest.checkSession (now : Instant) (req : HttpRequest) (auth : Auth) : Bool × Auth :=
  match req.sessionToken with
  | some token => auth.checkSession now token
  | none => (false, auth)

/-- `session_info`. -/
def sessionInfo (now : Instant) (req : HttpRequest) (s : HttpState Disk) :
    Response × HttpState Disk :=
  if s.auth.required then
    let (authenticated, auth) := req.checkSession now s.auth
    (⟨200, [], .session true authenticated⟩, { s with auth })
  else (⟨200, [], .session false true⟩, s)

/-- `login`. -/
def login (verifyHash : String → String → Bool) (now : Instant) (token : String) (peer : IpAddr)
    (password : String) (s : HttpState Disk) : Response × HttpState Disk :=
  if s.auth.required then
    let (throttled, auth) := s.auth.throttled now peer
    if throttled then
      (⟨429, [], .error "too many attempts; retry later"⟩, { s with auth })
    else if auth.verifyPassword verifyHash password then
      let auth := auth.createSession now token
      (⟨200, [("set-cookie", auth.sessionCookie token)], .reply .ok⟩, { s with auth })
    else (⟨401, [], .error "invalid password"⟩, { s with auth := auth.recordFailure now peer })
  else (⟨200, [], .reply .ok⟩, s)

/-- `logout`. -/
def logout (req : HttpRequest) (s : HttpState Disk) : Response × HttpState Disk :=
  let auth := match req.sessionToken with
    | some token => s.auth.removeSession token
    | none => s.auth
  (⟨200, [("set-cookie", auth.clearCookie)], .reply .ok⟩, { s with auth })

/-- Run a handler. -/
def WebState.run (w : WebState Disk) (x : Extractors) (now : Instant) (token : String)
    (req : HttpRequest) (s : HttpState Disk) : Endpoint → Response × HttpState Disk
  | .health => (⟨200, [], .text "ok"⟩, s)
  | .asset contentType file =>
      (⟨200, [("content-type", contentType), ("cache-control", "no-cache")], .asset file⟩, s)
  | .plain r => w.answer r s
  | .setProtocol => withExtracted (x.protocolReq req) (fun id => w.answer (.setProtocol id)) s
  | .setConnection =>
      withExtracted (x.connectionReq req) (fun values => w.answer (.setConnection values)) s
  | .browseDevice index =>
      withExtracted (x.index index) (fun index => w.answer (.browseDevice index)) s
  | .savePoint => withExtracted (x.pointReq req) (fun point => w.answer (.savePoint point)) s
  | .togglePoint index =>
      withExtracted (x.index index) (fun index =>
        withExtracted (x.toggleReq req) fun enabled => w.answer (.togglePoint index enabled)) s
  | .deletePoint index =>
      withExtracted (x.index index) (fun index => w.answer (.deletePoint index)) s
  | .addBrowsedPoint index =>
      withExtracted (x.index index) (fun index => w.answer (.addBrowsedPoint index)) s
  | .putSettings =>
      withExtracted (x.settingsReq req) (fun settings => w.answer (.putSettings settings)) s
  | .events => (⟨200, [], .stream (w.snapshotJson s.server.shared)⟩, s)
  | .sessionInfo => Republisher.sessionInfo now req s
  | .login =>
      withExtracted (x.loginReq req)
        (fun password => Republisher.login x.verifyHash now token req.peer password) s
  | .logout => Republisher.logout req s

/-- The routes of the router with its fallback, before the layers. The body of the answer to
`HEAD` is dropped. -/
def WebState.route (w : WebState Disk) (x : Extractors) (now : Instant) (token : String)
    (req : HttpRequest) (s : HttpState Disk) : Response × HttpState Disk :=
  match routes req.path with
  | none => (⟨404, [], .text "not found"⟩, s)
  | some router =>
      match router.endpoint req.method with
      | none => (⟨405, [], .empty⟩, s)
      | some endpoint =>
          let (response, s) := w.run x now token req s endpoint
          (if req.method = .head then { response with body := .empty } else response, s)

/-! ## Layers -/

/-- `is_public`. -/
def isPublic (path : String) (method : Method) : Bool :=
  ["/", "/app.js", "/style.css", "/favicon.svg", "/favicon.png", "/logo.png", "/logo-dark.png",
    "/glyph.png", "/healthz"].contains path ||
    (path == "/api/session" && ([.get, .post, .delete] : List Method).contains method)

/-- `auth_middleware`. -/
def authMiddleware (now : Instant) (req : HttpRequest)
    (next : HttpState Disk → Response × HttpState Disk) (s : HttpState Disk) :
    Response × HttpState Disk :=
  if s.auth.required && !isPublic req.path req.method then
    let (authenticated, auth) := req.checkSession now s.auth
    if authenticated then next { s with auth }
    else (⟨401, [], .error "authentication required"⟩, { s with auth })
  else next s

/-- The authority an `Origin` names: the text after the scheme, if it is a known one. -/
def originHost (origin : String) : String :=
  match origin.toList.dropPrefix? "https://".toList with
  | some host => String.ofList host
  | none =>
      match origin.toList.dropPrefix? "http://".toList with
      | some host => String.ofList host
      | none => origin

/-- The request changes something and comes from another origin than the host it names. -/
def HttpRequest.crossOrigin (req : HttpRequest) : Bool :=
  !([.get, .head, .options] : List Method).contains req.method &&
    match (req.header "origin").bind HeaderValue.toStr with
    | none => false
    | some origin =>
        (req.header "host").bind HeaderValue.toStr != some (originHost origin)

/-- The headers set on every response that is not rejected for its origin. -/
def securityHeaders : List (String × String) :=
  [("content-security-policy",
      "default-src 'self'; img-src 'self' data:; style-src 'self'; script-src 'self'; " ++
        "connect-src 'self'; frame-ancestors 'none'; base-uri 'none'; form-action 'self'"),
    ("x-content-type-options", "nosniff"),
    ("x-frame-options", "DENY"),
    ("referrer-policy", "no-referrer")]

/-- Set the security headers. -/
def Response.withSecurityHeaders (response : Response) : Response :=
  securityHeaders.foldl (fun response header => response.insertHeader header.1 header.2) response

/-- `security_middleware`. -/
def securityMiddleware (req : HttpRequest) (next : HttpState Disk → Response × HttpState Disk)
    (s : HttpState Disk) : Response × HttpState Disk :=
  if req.crossOrigin then (⟨403, [], .error "cross-origin request rejected"⟩, s)
  else
    let (response, s) := next s
    (response.withSecurityHeaders, s)

/-- The service: the router inside its layers. -/
def WebState.service (w : WebState Disk) (x : Extractors) (now : Instant) (token : String)
    (req : HttpRequest) (s : HttpState Disk) : Response × HttpState Disk :=
  securityMiddleware req (authMiddleware now req (w.route x now token req)) s

end Republisher
