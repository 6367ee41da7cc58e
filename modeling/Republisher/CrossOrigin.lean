import Republisher.Disclosure
import Republisher.Guards
import Republisher.Origin
import Republisher.Sessions

/-!
# Requests from other origins

The origin check lets some methods pass, and every origin that has no text. What a request
from another origin can change is therefore what the handlers behind these methods change,
and for an origin without a text what any handler changes.
-/

namespace Republisher

variable {Disk : Type}

/-! ## From requests to handlers -/

/-- The request to the state behind the lock that a handler makes of an HTTP request. -/
def Endpoint.request (x : Extractors) (req : HttpRequest) : Endpoint → Option Request
  | .plain r => some r
  | .setProtocol => (x.protocolReq req).toOption.map .setProtocol
  | .setConnection => (x.connectionReq req).toOption.map .setConnection
  | .browseDevice index => (x.index index).toOption.map .browseDevice
  | .savePoint => (x.pointReq req).toOption.map .savePoint
  | .togglePoint index =>
      (x.index index).toOption.bind fun index => (x.toggleReq req).toOption.map (.togglePoint index)
  | .deletePoint index => (x.index index).toOption.map .deletePoint
  | .addBrowsedPoint index => (x.index index).toOption.map .addBrowsedPoint
  | .putSettings => (x.settingsReq req).toOption.map .putSettings
  | .health | .asset .. | .events | .sessionInfo | .login | .logout => none

/-- The request to the state behind the lock that an HTTP request makes once it is routed. -/
def HttpRequest.asks (x : Extractors) (req : HttpRequest) : Option Request :=
  req.endpoint.bind (Endpoint.request x req)

/-- The server after a request, if it makes one. -/
def WebState.afterRequest (w : WebState Disk) (r : Option Request) (server : Server Disk) :
    Server Disk :=
  r.elim server fun r => (w.handle r server).2

/-- Going on with what was extracted makes the request or none. -/
theorem withExtracted_server {α : Type} (w : WebState Disk) (extracted : Except Response α)
    (make : α → Request) (s : HttpState Disk) :
    (withExtracted extracted (fun a => w.answer (make a)) s).2.server =
      w.afterRequest (extracted.toOption.map make) s.server := by
  cases extracted <;> rfl

/-- A handler changes the server by the request it makes. -/
theorem WebState.run_server (w : WebState Disk) (x : Extractors) (now : Instant) (token : String)
    (req : HttpRequest) (s : HttpState Disk) (endpoint : Endpoint) :
    (w.run x now token req s endpoint).2.server =
      w.afterRequest (endpoint.request x req) s.server := by
  cases endpoint with
  | health | asset | plain | events => rfl
  | sessionInfo => exact (sessionInfo_ignoresServer now req s.auth).server_eq
  | login =>
    have hlogin (password : String) : IgnoresServer s.auth
        (login x.verifyHash now token req.peer password : HttpState Disk → _) :=
      login_ignoresServer x.verifyHash now token req.peer password s.auth
    exact (ignoresServer_withExtracted (x.loginReq req) hlogin).server_eq
  | logout => exact (logout_ignoresServer req s.auth).server_eq
  | togglePoint index =>
    show (withExtracted (x.index index) _ s).2.server = _
    simp only [Endpoint.request]
    cases x.index index with
    | error response => rfl
    | ok index => exact withExtracted_server w (x.toggleReq req) (.togglePoint index) s
  | _ => exact withExtracted_server w _ _ s

/-- The session layer lets the request pass. -/
def HttpRequest.Admitted (req : HttpRequest) (now : Instant) (auth : Auth) : Prop :=
  auth.required = false ∨ isPublic req.path req.method = true ∨
    ∃ token, req.sessionToken = some token ∧ auth.Live now token

/-- A request is checked for the session it names. -/
theorem HttpRequest.checkSession_fst_iff (req : HttpRequest) (now : Instant) (auth : Auth) :
    (req.checkSession now auth).1 = true ↔
      ∃ token, req.sessionToken = some token ∧ auth.Live now token := by
  unfold checkSession
  cases req.sessionToken with
  | none => simp
  | some token => simp [Auth.checkSession_fst]

/-- What passes both layers. -/
theorem layers_fst (now : Instant) (req : HttpRequest) (auth : Auth) :
    (layers now req auth).1 = true ↔ req.crossOrigin = false ∧ req.Admitted now auth := by
  unfold layers HttpRequest.Admitted
  cases req.crossOrigin with
  | true => simp
  | false =>
    cases auth.required with
    | false => simp
    | true =>
      cases isPublic req.path req.method with
      | true => simp
      | false => simpa using HttpRequest.checkSession_fst_iff req now auth

/-- The service leaves the server untouched unless the request passes both layers and makes a
request that gets past the guards of its handler. -/
theorem WebState.service_untouched_iff (w : WebState Disk) (x : Extractors) (now : Instant)
    (token : String) (req : HttpRequest) (s : HttpState Disk) :
    s.server.Untouched (w.service x now token req s).2.server ↔
      ¬ (req.crossOrigin = false ∧ req.Admitted now s.auth ∧
        ∃ r, req.asks x = some r ∧ r.Acts w s.server.shared) := by
  rw [w.service_layers, ← and_assoc, ← layers_fst]
  by_cases hpass : (layers now req s.auth).1 = true
  · rw [if_pos hpass, w.route_snd]
    unfold HttpRequest.asks
    cases req.endpoint with
    | none => exact iff_of_true (.refl _) (by simp)
    | some endpoint =>
      rw [Option.bind_some]
      show s.server.Untouched (w.run x now token req _ endpoint).2.server ↔ _
      rw [w.run_server]
      cases endpoint.request x req with
      | none => exact iff_of_true (.refl _) (by simp)
      | some r =>
        refine (w.handle_untouched_iff r s.server).trans (not_congr ?_)
        simp [hpass]
  · rw [if_neg hpass]
    exact iff_of_true (.refl _) fun h => hpass h.1

/-! ## The methods that are not checked -/

/-- A path is its segments, joined. -/
theorem path_of_segments {path : String} {segments : List String}
    (h : (path.toList.splitOn '/').map String.ofList = segments) :
    path = String.ofList (['/'].intercalate (segments.map String.toList)) := by
  have hlists : segments.map String.toList = path.toList.splitOn '/' := by
    rw [← h, List.map_map]
    exact (List.map_congr_left fun _ _ => String.toList_ofList).trans (List.map_id _)
  rw [hlists, List.intercalate_splitOn, String.ofList_toList]

/-- The handler changes nothing behind the lock. -/
def Endpoint.readOnly : Endpoint → Bool
  | .plain .getState | .plain .getStatus | .plain .getCapabilities | .plain .getConfig
  | .plain .getPoints | .plain .getLogs => true
  | .health | .asset .. | .events | .sessionInfo | .login | .logout => true
  | _ => false

/-- A read-only handler makes no request that gets past its guards. -/
theorem Endpoint.not_acts {endpoint : Endpoint} (h : endpoint.readOnly = true) {x : Extractors}
    {req : HttpRequest} {r : Request} (hr : endpoint.request x req = some r) (w : WebState Disk)
    (shared : Shared) : ¬ r.Acts w shared := by
  cases endpoint with
  | plain made =>
    obtain rfl := Option.some.inj hr
    cases made with
    | getState | getStatus | getCapabilities | getConfig | getPoints | getLogs => exact not_false
    | _ => cases h
  | health | asset | events | sessionInfo | login | logout => cases hr
  | _ => cases h

/-- The entry of a route does not change anything by a method that is not checked. -/
def harmless (entry : Method × Endpoint) : Bool :=
  entry.1 != .options && (entry.1 != .get || entry.2.readOnly)

/-- All entries of the API are harmless, with one exception. -/
theorem apiRoutes_harmless {segments : List String} {router : MethodRouter}
    (h : apiRoutes segments = some router) :
    segments = ["interfaces"] ∧ router = [(.get, .plain .getInterfaces)] ∨
      router.all harmless = true := by
  unfold apiRoutes at h
  split at h <;>
    simp only [Option.some.injEq, Option.ite_none_left_eq_some, reduceCtorEq] at h
  -- the routes with a placeholder come with the guard that it is not empty
  all_goals
    first
    | obtain rfl := h
    | obtain ⟨-, rfl⟩ := h
    first
    | exact .inr rfl
    | exact .inl ⟨rfl, rfl⟩

/-- All entries of all routes are harmless, with one exception. -/
theorem routes_harmless {path : String} {router : MethodRouter} (h : routes path = some router) :
    path = "/api/interfaces" ∧ router = [(.get, .plain .getInterfaces)] ∨
      router.all harmless = true := by
  unfold routes at h
  split at h
  case h_10 segments hsegments =>
    rcases apiRoutes_harmless h with ⟨rfl, hrouter⟩ | hharmless
    · exact .inl ⟨(path_of_segments hsegments).trans (by decide), hrouter⟩
    · exact .inr hharmless
  case h_11 => cases h
  all_goals
    obtain rfl := Option.some.inj h
    exact .inr rfl

/-- The handler of a method that is not checked, in a route of harmless entries, is read-only. -/
theorem MethodRouter.readOnly_of_harmless {router : MethodRouter}
    (h : router.all harmless = true) {method : Method} (hexempt : method.Exempt)
    {endpoint : Endpoint} (hendpoint : router.endpoint method = some endpoint) :
    endpoint.readOnly = true := by
  obtain ⟨entry, hentry, rfl⟩ := Option.map_eq_some_iff.mp hendpoint
  have hharmless := List.all_eq_true.mp h entry (List.mem_of_find?_eq_some hentry)
  have hmethod : entry.1 = if method = .head then .get else method := by
    simpa using List.find?_some hentry
  unfold harmless at hharmless
  rw [hmethod] at hharmless
  rcases hexempt with rfl | rfl | rfl
  · exact hharmless
  · exact hharmless
  · cases hharmless

/-- By a method that is not checked only one route gets past the guards of a handler. -/
theorem HttpRequest.asks_acts_iff {req : HttpRequest} (hexempt : req.method.Exempt)
    (x : Extractors) (w : WebState Disk) (shared : Shared) :
    (∃ r, req.asks x = some r ∧ r.Acts w shared) ↔
      (req.method = .get ∨ req.method = .head) ∧ req.path = "/api/interfaces" := by
  unfold asks endpoint
  constructor
  · rintro ⟨r, hr, hacts⟩
    obtain ⟨endpoint, hendpoint, hr⟩ := Option.bind_eq_some_iff.mp hr
    obtain ⟨router, hrouter, hendpoint⟩ := Option.bind_eq_some_iff.mp hendpoint
    rcases routes_harmless hrouter with ⟨hpath, rfl⟩ | hharmless
    · refine ⟨?_, hpath⟩
      rcases hexempt with hmethod | hmethod | hmethod
      · exact .inl hmethod
      · exact .inr hmethod
      · rw [hmethod] at hendpoint
        cases hendpoint
    · have hreadOnly := MethodRouter.readOnly_of_harmless hharmless hexempt hendpoint
      exact absurd hacts (Endpoint.not_acts hreadOnly hr w shared)
  · rintro ⟨hmethod, hpath⟩
    refine ⟨.getInterfaces, ?_, trivial⟩
    rw [hpath]
    rcases hmethod with hmethod | hmethod
    · rw [hmethod]
      rfl
    · rw [hmethod]
      rfl

/-- A request whose origin is not the host it names leaves the state behind the lock untouched,
and starts no worker, unless it is let in by the session layer and either reads the interfaces
or has an origin without a text and gets past the guards of a handler that it may not call. -/
theorem crossOrigin_untouched_iff (w : WebState Disk) (x : Extractors) (now : Instant)
    (token : String) (req : HttpRequest) (s : HttpState Disk) (origin : HeaderValue)
    (horigin : req.header "origin" = some origin)
    (hforeign : req.header "host" ≠ some origin.originAuthority) :
    s.server.Untouched (w.service x now token req s).2.server ↔
      ¬ (req.Admitted now s.auth ∧
        ((req.method = .get ∨ req.method = .head) ∧ req.path = "/api/interfaces" ∨
          ¬ req.method.Exempt ∧ origin.toStr = none ∧
            ∃ r, req.asks x = some r ∧ r.Acts w s.server.shared)) := by
  rw [w.service_untouched_iff, not_congr]
  have hcross : req.crossOrigin = false ↔ req.method.Exempt ∨ origin.toStr = none := by
    rw [← Bool.not_eq_true, HttpRequest.crossOrigin_iff, horigin]
    simp [hforeign, or_iff_not_imp_left]
  rw [hcross]
  by_cases hexempt : req.method.Exempt
  · rw [HttpRequest.asks_acts_iff hexempt]
    simp [hexempt]
  · have hnot : ¬ (req.method = .get ∨ req.method = .head) := by
      rintro (h | h)
      · exact hexempt (.inl h)
      · exact hexempt (.inr (.inl h))
    simp only [hexempt, false_or, hnot, false_and, not_false_eq_true, true_and]
    rw [and_left_comm]

/-- A request of a page of another origin. -/
def foreignRequest (method : Method) (path : String) : HttpRequest :=
  { method
    path
    headers := [("origin", ⟨asciiBytes "http://evil.example"⟩),
      ("host", ⟨asciiBytes "127.0.0.1:8080"⟩)]
    peer := .v4 0x7f000001
    body := [] }

/-- The in-memory daemon on a loopback address, with sessions disabled. -/
def openState : HttpState MemoryDisk :=
  { server := memoryServer [] true
    auth := .opened false false none }

/-- The page cannot clear the points. -/
theorem foreign_clear_untouched :
    openState.server.Untouched (memoryState.service withoutBody 0 "t"
      (foreignRequest .delete "/api/points") openState).2.server := by
  refine (crossOrigin_untouched_iff memoryState withoutBody 0 "t" _ openState _ rfl
    (by decide)).mpr ?_
  rintro ⟨-, ⟨hmethod, -⟩ | ⟨-, htext, -⟩⟩
  · revert hmethod
    decide
  · revert htext
    decide

/-- The page reads the interfaces, and a log record and the status line are written. -/
theorem foreign_read_touches :
    (∃ origin, (foreignRequest .get "/api/interfaces").header "origin" = some origin ∧
      (foreignRequest .get "/api/interfaces").header "host" ≠ some origin.originAuthority) ∧
    ¬ openState.server.Untouched (memoryState.service withoutBody 0 "t"
      (foreignRequest .get "/api/interfaces") openState).2.server :=
  ⟨⟨_, rfl, by decide⟩, Server.not_untouched (by decide)⟩

end Republisher
