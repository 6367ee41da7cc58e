import Republisher.Access
import Republisher.Subscription

/-!
# Whom the event streams reach

The session of a stream is checked once, by the layer in front of the handler that opens
it. From then on the stream gets every payload, whatever becomes of its session. This file
says which sessions the readers of a payload had, and what may have ended them since.
-/

namespace Republisher

variable {Disk : Type}

/-! ## Requests in two steps -/

/-- What the layers make of a request: whether its handler is called, and the sessions after. -/
def layers (now : Instant) (req : HttpRequest) (auth : Auth) : Bool × Auth :=
  if req.crossOrigin then (false, auth)
  else if auth.required && !isPublic req.path req.method then req.checkSession now auth
  else (true, auth)

/-- A request whose handler runs right behind the layers is served as by the service. -/
theorem WebState.service_layers (w : WebState Disk) (x : Extractors) (now : Instant)
    (token : String) (req : HttpRequest) (s : HttpState Disk) :
    (w.service x now token req s).2 =
      if (layers now req s.auth).1 then
        (w.route x now token req { s with auth := (layers now req s.auth).2 }).2
      else { s with auth := (layers now req s.auth).2 } := by
  unfold service securityMiddleware authMiddleware layers
  by_cases horigin : req.crossOrigin = true
  · simp [horigin]
  · by_cases hprivate : (s.auth.required && !isPublic req.path req.method) = true
    · simp only [if_neg horigin, if_pos hprivate]
      cases (req.checkSession now s.auth).1 <;> rfl
    · simp [horigin, hprivate]

/-- The handler that a request reaches. -/
def HttpRequest.endpoint (req : HttpRequest) : Option Endpoint :=
  (routes req.path).bind fun router => router.endpoint req.method

/-- The state after a routed request is that after its handler. -/
theorem WebState.route_snd (w : WebState Disk) (x : Extractors) (now : Instant) (token : String)
    (req : HttpRequest) (s : HttpState Disk) :
    (w.route x now token req s).2 = match req.endpoint with
      | none => s
      | some endpoint => (w.run x now token req s endpoint).2 := by
  unfold route HttpRequest.endpoint
  cases routes req.path with
  | none => rfl
  | some router =>
    cases hendpoint : router.endpoint req.method with
    | none => simp [hendpoint]
    | some endpoint => simp [hendpoint]

/-- The session that a handler ends. -/
def Endpoint.ends (req : HttpRequest) : Endpoint → List String
  | .logout => req.sessionToken.toList
  | _ => []

/-- The session that a request ends. -/
def HttpRequest.ends (req : HttpRequest) : List String :=
  match req.endpoint with
  | none => []
  | some endpoint => endpoint.ends req

/-- The request opens an event stream. The body of the answer to `HEAD` is dropped. -/
def HttpRequest.opensStream (req : HttpRequest) : Bool :=
  match req.endpoint with
  | some .events => req.method != .head
  | _ => false

/-- No public path opens a stream. -/
theorem HttpRequest.opensStream_private {req : HttpRequest} (h : req.opensStream = true) :
    isPublic req.path req.method = false := by
  rw [Bool.eq_false_iff]
  intro hpublic
  obtain ⟨router, hrouter, hopen⟩ := routes_publicPaths req.path (mem_publicPaths hpublic)
  unfold opensStream endpoint at h
  rw [hrouter, Option.bind_some] at h
  cases hendpoint : router.endpoint req.method with
  | none => simp [hendpoint] at h
  | some endpoint =>
    obtain ⟨entry, hentry, rfl⟩ := MethodRouter.endpoint_mem hendpoint
    have hshut := hopen entry hentry
    cases hentry' : entry.2 with
    | events =>
      rw [hentry'] at hshut
      exact hshut
    | _ => simp [hendpoint, hentry'] at h

/-! ## Sessions over time -/

/-- The clock, the sessions and the tokens of the logouts so far. -/
structure Moment where
  now : Instant
  auth : Auth
  logouts : List String

/-- No session lasts longer than `SESSION_TTL` from now. -/
def Moment.Issued (m : Moment) : Prop :=
  ∀ token expiry, m.auth.sessions token = some expiry → expiry ≤ m.now + sessionTtl

/-- The second moment comes after the first: a session that was stored then still is, with the
same expiry or a later one, or its time has run out, or it has been logged out since. -/
structure Moment.Follows (m n : Moment) : Prop where
  now_le : m.now ≤ n.now
  logouts : m.logouts <+: n.logouts
  sessions : ∀ token expiry, m.auth.sessions token = some expiry →
    (∃ later, expiry ≤ later ∧ n.auth.sessions token = some later) ∨ expiry ≤ n.now ∨
      ∃ more, n.logouts = m.logouts ++ more ∧ token ∈ more

/-- A moment comes after itself. -/
theorem Moment.Follows.refl (m : Moment) : m.Follows m :=
  ⟨Nat.le_refl _, List.prefix_rfl, fun _ expiry h => .inl ⟨expiry, Nat.le_refl _, h⟩⟩

/-- What comes later still comes later. -/
theorem Moment.Follows.trans {l m n : Moment} (hlm : l.Follows m) (hmn : m.Follows n) :
    l.Follows n := by
  obtain ⟨earlier, hearlier⟩ := hlm.logouts
  obtain ⟨after, hafter⟩ := hmn.logouts
  refine ⟨Nat.le_trans hlm.now_le hmn.now_le, hlm.logouts.trans hmn.logouts, ?_⟩
  intro token expiry hstored
  rcases hlm.sessions token expiry hstored with ⟨later, hle, hlater⟩ | hover | ⟨more, hmore, htoken⟩
  · rcases hmn.sessions token later hlater with ⟨last, hlast, hkept⟩ | hover | ⟨more, hmore, htoken⟩
    · exact .inl ⟨last, Nat.le_trans hle hlast, hkept⟩
    · exact .inr (.inl (Nat.le_trans hle hover))
    · refine .inr (.inr ⟨earlier ++ more, ?_, List.mem_append_right _ htoken⟩)
      rw [hmore, ← hearlier, List.append_assoc]
  · exact .inr (.inl (Nat.le_trans hover hmn.now_le))
  · refine .inr (.inr ⟨more ++ after, ?_, List.mem_append_left _ htoken⟩)
    rw [← hafter, hmore, List.append_assoc]

/-- A session that passed the check then passes it now, unless its time has run out or it has
been logged out since. -/
theorem Moment.Follows.live {m n : Moment} (h : m.Follows n) {token : String}
    (hlive : m.auth.Live m.now token) :
    n.auth.Live n.now token ∨
      (∃ expiry, m.auth.sessions token = some expiry ∧ expiry ≤ n.now) ∨
      ∃ more, n.logouts = m.logouts ++ more ∧ token ∈ more := by
  obtain ⟨expiry, hstored, -⟩ := hlive
  rcases h.sessions token expiry hstored with ⟨later, hle, hlater⟩ | hover | hlogout
  · rcases Nat.lt_or_ge n.now later with hlt | hge
    · exact .inl ⟨later, hlater, hlt⟩
    · exact .inr (.inl ⟨expiry, hstored, Nat.le_trans hle hge⟩)
  · exact .inr (.inl ⟨expiry, hstored, hover⟩)
  · exact .inr (.inr hlogout)

/-- From a moment at which no session lasts too long another such moment is reached, later. -/
def Moment.Leads (m n : Moment) : Prop := m.Issued → m.Follows n ∧ n.Issued

namespace Moment.Leads

/-- A moment leads to itself. -/
theorem refl (m : Moment) : m.Leads m := fun h => ⟨.refl m, h⟩

/-- What leads on leads further. -/
theorem trans {l m n : Moment} (hlm : l.Leads m) (hmn : m.Leads n) : l.Leads n := fun h =>
  ⟨(hlm h).1.trans (hmn (hlm h).2).1, (hmn (hlm h).2).2⟩

/-- Time passes. -/
theorem tick (m : Moment) (elapsed : Instant) : m.Leads { m with now := m.now + elapsed } := by
  intro h
  refine ⟨⟨Nat.le_add_right _ _, List.prefix_rfl, fun _ expiry hstored => ?_⟩, ?_⟩
  · exact .inl ⟨expiry, Nat.le_refl _, hstored⟩
  · intro token expiry hstored
    exact Nat.le_trans (h token expiry hstored)
      (Nat.add_le_add_right (Nat.le_add_right _ _) sessionTtl)

/-- The sessions are left alone. -/
theorem of_sessions (m : Moment) {auth : Auth} (h : auth.sessions = m.auth.sessions) :
    m.Leads { m with auth } := by
  intro hissued
  refine ⟨⟨Nat.le_refl _, List.prefix_rfl, fun token expiry hstored => ?_⟩, ?_⟩
  · exact .inl ⟨expiry, Nat.le_refl _, by rw [h, hstored]⟩
  · intro token expiry hstored
    exact hissued token expiry (by rw [← h, hstored])

/-- A session is checked; one that has expired is forgotten. -/
theorem check (m : Moment) (token : String) :
    m.Leads { m with auth := (m.auth.checkSession m.now token).2 } := by
  unfold Auth.checkSession
  cases hstored : m.auth.sessions token with
  | none => exact refl m
  | some expiry =>
    by_cases hlive : m.now < expiry
    · simp only [hlive, if_true]
      exact refl m
    · simp only [hlive, if_false]
      refine fun hissued => ⟨⟨Nat.le_refl _, List.prefix_rfl, ?_⟩, ?_⟩
      · intro other limit hother
        by_cases hsame : other = token
        · subst hsame
          obtain rfl := Option.some.inj (hstored.symm.trans hother)
          exact .inr (.inl (Nat.le_of_not_lt hlive))
        · refine .inl ⟨limit, Nat.le_refl _, ?_⟩
          simp only [HashMap.remove, if_neg hsame]
          exact hother
      · intro other limit hother
        by_cases hsame : other = token
        · simp [HashMap.remove, hsame] at hother
        · simp only [HashMap.remove, if_neg hsame] at hother
          exact hissued other limit hother

/-- A session is created; those that have expired are forgotten. -/
theorem create (m : Moment) (token : String) :
    m.Leads { m with auth := m.auth.createSession m.now token } := by
  have hkept {other : String} (hother : other ≠ token) :
      (m.auth.createSession m.now token).sessions other =
        (m.auth.sessions other).bind fun expiry =>
          if m.now < expiry then some expiry else none := by
    simp only [Auth.createSession, HashMap.insert, HashMap.retain, if_neg hother]
  have hnew : (m.auth.createSession m.now token).sessions token = some (m.now + sessionTtl) := by
    simp only [Auth.createSession, HashMap.insert, if_true]
  refine fun hissued => ⟨⟨Nat.le_refl _, List.prefix_rfl, ?_⟩, ?_⟩
  · intro other expiry hstored
    by_cases hother : other = token
    · subst hother
      exact .inl ⟨_, hissued other expiry hstored, hnew⟩
    · rcases Nat.lt_or_ge m.now expiry with hlive | hover
      · refine .inl ⟨expiry, Nat.le_refl _, ?_⟩
        rw [hkept hother, hstored, Option.bind_some, if_pos hlive]
      · exact .inr (.inl hover)
  · intro other expiry hstored
    by_cases hother : other = token
    · subst hother
      rw [hnew] at hstored
      exact Nat.le_of_eq (Option.some.inj hstored).symm
    · rw [hkept hother] at hstored
      obtain ⟨old, hold, hlive⟩ := Option.bind_eq_some_iff.mp hstored
      obtain ⟨-, hsame⟩ := Option.ite_none_right_eq_some.mp hlive
      rw [← Option.some.inj hsame]
      exact hissued other old hold

/-- A session is logged out. -/
theorem remove (m : Moment) (token : String) :
    m.Leads ⟨m.now, m.auth.removeSession token, m.logouts ++ [token]⟩ := by
  refine fun hissued => ⟨⟨Nat.le_refl _, List.prefix_append _ _, ?_⟩, ?_⟩
  · intro other expiry hstored
    by_cases hother : other = token
    · exact .inr (.inr ⟨[token], rfl, List.mem_singleton.mpr hother⟩)
    · refine .inl ⟨expiry, Nat.le_refl _, ?_⟩
      simp only [Auth.removeSession, HashMap.remove, if_neg hother]
      exact hstored
  · intro other expiry hstored
    by_cases hother : other = token
    · simp [Auth.removeSession, HashMap.remove, hother] at hstored
    · simp only [Auth.removeSession, HashMap.remove, if_neg hother] at hstored
      exact hissued other expiry hstored

/-- A session that a request presents is checked. -/
theorem checkRequest (m : Moment) (req : HttpRequest) :
    m.Leads { m with auth := (req.checkSession m.now m.auth).2 } := by
  unfold HttpRequest.checkSession
  cases req.sessionToken with
  | none => exact refl m
  | some token => exact check m token

/-- The layers check a session at most. -/
theorem layers (m : Moment) (req : HttpRequest) :
    m.Leads { m with auth := (layers m.now req m.auth).2 } := by
  unfold Republisher.layers
  split
  · exact refl m
  · split
    · exact checkRequest m req
    · exact refl m

/-- A login creates a session at most. -/
theorem login (m : Moment) (verifyHash : String → String → Bool) (token : String)
    (peer : IpAddr) (password : String) (server : Server Disk) :
    m.Leads { m with
      auth := (login verifyHash m.now token peer password ⟨server, m.auth⟩).2.auth } := by
  have hthrottled : (m.auth.throttled m.now peer).2.sessions = m.auth.sessions := by
    unfold Auth.throttled
    split <;> rfl
  have hasked := of_sessions m hthrottled
  unfold Republisher.login
  split
  · dsimp only
    split
    · exact hasked
    · split
      · exact hasked.trans (create { m with auth := (m.auth.throttled m.now peer).2 } token)
      · exact hasked.trans (of_sessions { m with auth := (m.auth.throttled m.now peer).2 } rfl)
  · exact refl m

/-- A logout ends the session that the request presents. -/
theorem logout (m : Moment) (req : HttpRequest) (server : Server Disk) :
    m.Leads ⟨m.now, (logout req ⟨server, m.auth⟩).2.auth,
      m.logouts ++ req.sessionToken.toList⟩ := by
  unfold Republisher.logout
  cases req.sessionToken with
  | none =>
    rw [Option.toList_none, List.append_nil]
    exact refl m
  | some token => exact remove m token

end Moment.Leads

/-- Extracting from the request keeps what holds of the sessions when what follows does. -/
theorem withExtracted_auth {α : Type} {P : Auth → Prop} (extracted : Except Response α)
    {next : α → HttpState Disk → Response × HttpState Disk} {s : HttpState Disk} (hs : P s.auth)
    (h : ∀ a, P (next a s).2.auth) : P (withExtracted extracted next s).2.auth := by
  cases extracted with
  | error response => exact hs
  | ok a => exact h a

/-- A handler leads from the moment it runs at to a later one. -/
theorem WebState.run_leads (w : WebState Disk) (x : Extractors) (m : Moment) (token : String)
    (req : HttpRequest) (server : Server Disk) (endpoint : Endpoint) :
    m.Leads ⟨m.now, (w.run x m.now token req ⟨server, m.auth⟩ endpoint).2.auth,
      m.logouts ++ endpoint.ends req⟩ := by
  have hstay : m.Leads ⟨m.now, m.auth, m.logouts ++ []⟩ := by
    rw [List.append_nil]
    exact .refl m
  cases endpoint with
  | health | asset | plain | events => exact hstay
  | sessionInfo =>
    rw [show Endpoint.sessionInfo.ends req = [] from rfl, List.append_nil]
    show m.Leads { m with auth := (sessionInfo m.now req ⟨server, m.auth⟩).2.auth }
    unfold sessionInfo
    split
    · exact .checkRequest m req
    · exact .refl m
  | login =>
    refine withExtracted_auth (P := fun auth => m.Leads ⟨m.now, auth, m.logouts ++ []⟩) _ hstay
      fun password => ?_
    rw [List.append_nil]
    exact .login m x.verifyHash token req.peer password server
  | logout => exact .logout m req server
  | togglePoint index =>
    exact withExtracted_auth (P := fun auth => m.Leads ⟨m.now, auth, m.logouts ++ []⟩) _ hstay
      fun _ => withExtracted_auth (P := fun auth => m.Leads ⟨m.now, auth, m.logouts ++ []⟩) _ hstay
        fun _ => hstay
  | _ =>
    exact withExtracted_auth (P := fun auth => m.Leads ⟨m.now, auth, m.logouts ++ []⟩) _ hstay
      fun _ => hstay

/-- So does the router. -/
theorem WebState.route_leads (w : WebState Disk) (x : Extractors) (m : Moment) (token : String)
    (req : HttpRequest) (server : Server Disk) :
    m.Leads ⟨m.now, (w.route x m.now token req ⟨server, m.auth⟩).2.auth,
      m.logouts ++ req.ends⟩ := by
  rw [w.route_snd, HttpRequest.ends]
  cases req.endpoint with
  | none =>
    rw [List.append_nil]
    exact .refl m
  | some endpoint => exact w.run_leads x m token req server endpoint

/-! ## Requests, streams and payloads -/

/-- The session token that a request presented to the layers, and when. -/
structure Ticket where
  token : String
  checked : Moment

/-- `check_session` lets the token pass. -/
def Ticket.Valid (t : Ticket) : Prop :=
  (t.checked.auth.checkSession t.checked.now t.token).1 = true

/-- The daemon behind its layers. A request waits between the layers and its handler; a stream
has the ticket of the request that opened it; a payload has the moment it was emitted at. -/
structure Frontend (Disk : Type) where
  system : System Disk
  moment : Moment
  admitted : List (HttpRequest × Option Ticket)
  /-- The ticket of each stream. -/
  owners : List (Option Ticket)
  /-- When each payload on the broadcast channel was emitted. -/
  moments : List Moment
  /-- Each payload delivered: the stream that got it and when it was emitted. -/
  delivered : List (ℕ × Moment)

/-- What happens next: time passes, a request gets to the layers, the handler of an admitted
request runs with what the random generator yields, or another party moves. -/
inductive FrontLabel
  | tick (elapsed : Instant)
  | arrive (req : HttpRequest)
  | answer (k : ℕ) (token : String)
  | inside (l : Label)

/-- The steps that requests make. -/
def Label.isRequest : Label → Bool
  | .request _ | .snapshot => true
  | _ => false

/-- The moments of the payloads that a step puts on the broadcast channel. -/
def Frontend.emitted (f : Frontend Disk) : Label → List Moment
  | .emit => [f.moment]
  | _ => []

/-- The payload that a step delivers. -/
def Frontend.received (f : Frontend Disk) : Label → List (ℕ × Moment)
  | .receive i =>
      match f.system.streams[i]? with
      | some ⟨_, some reader⟩ =>
          match Broadcast.recv eventBuffer f.system.aired reader.next with
          | (.item _, _) => (f.moments[reader.next]?).toList.map fun moment => (i, moment)
          | _ => []
      | _ => []
  | _ => []

/-- The stream of a request, with its snapshot as the first payload. -/
def Frontend.openStream (f : Frontend Disk) (snapshot : Snapshot) (ticket : Option Ticket) :
    Frontend Disk :=
  { f with
    system := { f.system with streams := f.system.streams ++ [⟨snapshot, none⟩] }
    owners := f.owners ++ [ticket]
    delivered := f.delivered ++ [(f.system.streams.length, f.moment)] }

/-- The handler of a request has run. -/
def WebState.answered (w : WebState Disk) (x : Extractors) (f : Frontend Disk) (token : String)
    (req : HttpRequest) : Frontend Disk :=
  let s := (w.route x f.moment.now token req ⟨f.system.server, f.moment.auth⟩).2
  { f with
    system := { f.system with server := s.server }
    moment := ⟨f.moment.now, s.auth, f.moment.logouts ++ req.ends⟩ }

/-- One step. A handler that needs the lock waits for it; those of the public paths do not. -/
def WebState.front (w : WebState Disk) (x : Extractors) (f : Frontend Disk) :
    FrontLabel → Option (Frontend Disk)
  | .tick elapsed => some { f with moment := { f.moment with now := f.moment.now + elapsed } }
  | .arrive req =>
      let (passes, auth) := layers f.moment.now req f.moment.auth
      let ticket := req.sessionToken.map fun token => ⟨token, f.moment⟩
      some { f with
        moment := { f.moment with auth }
        admitted := if passes then f.admitted ++ [(req, ticket)] else f.admitted }
  | .answer k token =>
      match f.admitted[k]? with
      | some (req, ticket) =>
          if f.system.LockFree ∨ isPublic req.path req.method = true then
            let g := { w.answered x f token req with admitted := f.admitted.eraseIdx k }
            some (if req.opensStream then
              g.openStream (w.snapshotJson g.system.server.shared) ticket else g)
          else none
      | none => none
  | .inside l =>
      if l.isRequest then none
      else (w.step f.system l).map fun system =>
        { f with
          system
          moments := f.moments ++ f.emitted l
          delivered := f.delivered ++ f.received l }

/-- The daemon at boot: no session, no request, no stream. -/
def WebState.bootFront (w : WebState Disk) (config : AppConfig) (bootStatus : String)
    (disk : Disk) (auth : Auth) (now : Instant) : Frontend Disk :=
  { system := w.serve config bootStatus disk
    moment := ⟨now, { auth with sessions := fun _ => none }, []⟩
    admitted := []
    owners := []
    moments := []
    delivered := [] }

/-- Every payload delivered went to a stream whose session passed `check_session` in front of the
handler that opened it. When the payload was emitted the session still passed, or its time had
run out, or it had been logged out since the check. -/
def Frontend.Confined (f : Frontend Disk) : Prop :=
  ∀ i m, (i, m) ∈ f.delivered → ∃ ticket, f.owners[i]? = some (some ticket) ∧ ticket.Valid ∧
    ticket.checked.now ≤ m.now ∧
    ((m.auth.checkSession m.now ticket.token).1 = true ∨
      (∃ expiry, ticket.checked.auth.sessions ticket.token = some expiry ∧ expiry ≤ m.now) ∨
      ∃ more, m.logouts = ticket.checked.logouts ++ more ∧ ticket.token ∈ more)

/-- More would be that the session of the stream always passed when the payload was emitted. -/
def Frontend.LiveOnly (f : Frontend Disk) : Prop :=
  ∀ i m, (i, m) ∈ f.delivered → ∃ ticket, f.owners[i]? = some (some ticket) ∧
    (m.auth.checkSession m.now ticket.token).1 = true

/-! ## The invariant -/

/-- The ticket passed the check, before the given moment. -/
structure Ticket.Admits (t : Ticket) (m : Moment) : Prop where
  valid : t.Valid
  follows : t.checked.Follows m

/-- Everybody who gets payloads has a ticket from before they were emitted. -/
structure Frontend.Guarded (f : Frontend Disk) : Prop where
  issued : f.moment.Issued
  required : f.moment.auth.required = true
  moments : f.moments.length = f.system.aired.length
  owners : f.owners.length = f.system.streams.length
  admitted : ∀ req ticket, (req, ticket) ∈ f.admitted →
    isPublic req.path req.method = false → ∃ t : Ticket, ticket = some t ∧ t.Admits f.moment
  streams : ∀ (i : ℕ) (stream : Stream), f.system.streams[i]? = some stream →
    ∃ t : Ticket, f.owners[i]? = some (some t) ∧ t.Admits f.moment ∧
      ∀ reader, stream.reader = some reader → ∀ (p : ℕ) m, reader.next ≤ p →
        f.moments[p]? = some m → t.Admits m
  delivered : ∀ i m, (i, m) ∈ f.delivered →
    ∃ t : Ticket, f.owners[i]? = some (some t) ∧ t.Admits m

/-- Then payloads are confined. -/
theorem Frontend.Guarded.confined {f : Frontend Disk} (h : f.Guarded) : f.Confined := by
  intro i m hmem
  obtain ⟨t, howner, hadmits⟩ := h.delivered i m hmem
  refine ⟨t, howner, hadmits.valid, hadmits.follows.now_le, ?_⟩
  rw [Auth.checkSession_fst]
  exact hadmits.follows.live ((Auth.checkSession_fst ..).mp hadmits.valid)

/-- A ticket admits later, too. -/
theorem Ticket.Admits.later {t : Ticket} {m n : Moment} (h : t.Admits m) (hmn : m.Follows n) :
    t.Admits n :=
  ⟨h.valid, h.follows.trans hmn⟩

namespace Frontend.Guarded

variable {f : Frontend Disk}

/-- The clock and the sessions go on. -/
theorem of_moment (h : f.Guarded) {moment : Moment} (hleads : f.moment.Leads moment)
    (hrequired : moment.auth.required = f.moment.auth.required) :
    Guarded { f with moment } := by
  obtain ⟨hfollows, hissued⟩ := hleads h.issued
  refine ⟨hissued, hrequired.trans h.required, h.moments, h.owners, ?_, ?_, h.delivered⟩
  · intro req ticket hmem hprivate
    obtain ⟨t, ht, hadmits⟩ := h.admitted req ticket hmem hprivate
    exact ⟨t, ht, hadmits.later hfollows⟩
  · intro i stream hstream
    obtain ⟨t, ht, hadmits, hahead⟩ := h.streams i stream hstream
    exact ⟨t, ht, hadmits.later hfollows, hahead⟩

/-- The layers let a request pass that shows a session, or one for a public path. -/
theorem letPass (h : f.Guarded) {req : HttpRequest} {ticket : Option Ticket}
    (hticket : isPublic req.path req.method = false →
      ∃ t : Ticket, ticket = some t ∧ t.Admits f.moment) :
    Guarded { f with admitted := f.admitted ++ [(req, ticket)] } := by
  refine ⟨h.issued, h.required, h.moments, h.owners, ?_, h.streams, h.delivered⟩
  intro other found hmem hprivate
  rcases List.mem_append.mp hmem with hmem | hmem
  · exact h.admitted other found hmem hprivate
  · obtain ⟨rfl, rfl⟩ := Prod.mk.inj (List.mem_singleton.mp hmem)
    exact hticket hprivate

/-- The requests that wait may become fewer, and the server changes behind the lock. -/
theorem of_server (h : f.Guarded) (server : Server Disk)
    {admitted : List (HttpRequest × Option Ticket)} (hsub : admitted ⊆ f.admitted) :
    Guarded { f with system := { f.system with server }, admitted } :=
  ⟨h.issued, h.required, h.moments, h.owners,
    fun req ticket hmem => h.admitted req ticket (hsub hmem), h.streams, h.delivered⟩

/-- A stream is opened with a ticket, and the snapshot is its first payload. -/
theorem openStream (h : f.Guarded) (snapshot : Snapshot) {t : Ticket} (ht : t.Admits f.moment) :
    (f.openStream snapshot (some t)).Guarded := by
  have hold {i : ℕ} {t : Ticket} (hi : f.owners[i]? = some (some t)) (u : Ticket) :
      (f.owners ++ [some u])[i]? = some (some t) := by
    rw [List.getElem?_append_left (List.getElem?_eq_some_iff.mp hi).1, hi]
  refine ⟨h.issued, h.required, h.moments, ?_, h.admitted, ?_, ?_⟩
  · simp [Frontend.openStream, h.owners]
  · intro i stream hstream
    rcases getElem?_append_new.mp hstream with hstream | ⟨rfl, rfl⟩
    · obtain ⟨u, hu, hadmits⟩ := h.streams i stream hstream
      exact ⟨u, hold hu t, hadmits⟩
    · refine ⟨t, ?_, ht, fun reader hreader => by cases hreader⟩
      rw [Frontend.openStream, ← h.owners]
      exact List.getElem?_concat_length
  · intro i m hmem
    rcases List.mem_append.mp hmem with hmem | hmem
    · obtain ⟨u, hu, hadmits⟩ := h.delivered i m hmem
      exact ⟨u, hold hu t, hadmits⟩
    · obtain ⟨rfl, rfl⟩ := Prod.mk.inj (List.mem_singleton.mp hmem)
      refine ⟨t, ?_, ht⟩
      rw [Frontend.openStream, ← h.owners]
      exact List.getElem?_concat_length

/-- The payload that a step delivers was emitted after the ticket of its stream was checked. -/
theorem received (h : f.Guarded) {l : Label} {i : ℕ} {m : Moment} (hmem : (i, m) ∈ f.received l) :
    ∃ t : Ticket, f.owners[i]? = some (some t) ∧ t.Admits m := by
  cases l with
  | receive j =>
    simp only [Frontend.received] at hmem
    split at hmem
    · rename_i payload reader hstream
      split at hmem
      · obtain ⟨found, hfound, hpair⟩ := List.mem_map.mp hmem
        obtain ⟨rfl, rfl⟩ := Prod.mk.inj hpair
        obtain ⟨t, ht, -, hahead⟩ := h.streams j _ hstream
        exact ⟨t, ht, hahead reader rfl reader.next found (Nat.le_refl _)
          (Option.mem_toList.mp hfound)⟩
      · cases hmem
    · cases hmem
  | _ => cases hmem

/-- A step of another party, when the payloads that it emits get the present moment and every
stream stays behind what its ticket admits. -/
theorem of_streams (h : f.Guarded) {l : Label} {σ : System Disk}
    (hmoments : (f.emitted l).length + f.system.aired.length = σ.aired.length)
    (howners : σ.streams.length = f.system.streams.length)
    (hstreams : ∀ (i : ℕ) (stream : Stream), σ.streams[i]? = some stream →
      ∃ old : Stream, f.system.streams[i]? = some old ∧
        ∀ reader, stream.reader = some reader → reader.next = f.system.aired.length ∨
          ∃ before, old.reader = some before ∧ before.next ≤ reader.next) :
    Guarded { f with
      system := σ
      moments := f.moments ++ f.emitted l
      delivered := f.delivered ++ f.received l } := by
  refine ⟨h.issued, h.required, ?_, h.owners.trans howners.symm, h.admitted, ?_, ?_⟩
  · rw [List.length_append, h.moments, Nat.add_comm]
    exact hmoments
  · intro i stream hstream
    obtain ⟨old, hold, hreader⟩ := hstreams i stream hstream
    obtain ⟨t, ht, hadmits, hahead⟩ := h.streams i old hold
    refine ⟨t, ht, hadmits, fun reader hsome p m hp hm => ?_⟩
    have hnew : m ∈ f.emitted l → t.Admits m := by
      intro hmem
      cases l with
      | emit =>
        obtain rfl := List.mem_singleton.mp hmem
        exact hadmits
      | _ => cases hmem
    rcases Nat.lt_or_ge p f.moments.length with hlt | hge
    · rw [List.getElem?_append_left hlt] at hm
      rcases hreader reader hsome with hend | ⟨before, hbefore, hle⟩
      · rw [h.moments] at hlt
        omega
      · exact hahead before hbefore p m (Nat.le_trans hle hp) hm
    · rw [List.getElem?_append_right hge] at hm
      exact hnew (List.mem_of_getElem? hm)
  · intro i m hmem
    rcases List.mem_append.mp hmem with hmem | hmem
    · exact h.delivered i m hmem
    · exact h.received hmem

/-- Every step of another party keeps the invariant. -/
theorem inside (h : f.Guarded) {w : WebState Disk} {l : Label} {σ : System Disk}
    (hstep : w.step f.system l = some σ) (hl : l.isRequest = false) :
    Guarded { f with
      system := σ
      moments := f.moments ++ f.emitted l
      delivered := f.delivered ++ f.received l } := by
  have hstay (hsame : σ.streams = f.system.streams) (i : ℕ) (stream : Stream)
      (hstream : σ.streams[i]? = some stream) :
      ∃ old : Stream, f.system.streams[i]? = some old ∧
        ∀ reader, stream.reader = some reader → reader.next = f.system.aired.length ∨
          ∃ before, old.reader = some before ∧ before.next ≤ reader.next := by
    rw [hsame] at hstream
    exact ⟨stream, hstream, fun reader hreader => .inr ⟨reader, hreader, Nat.le_refl _⟩⟩
  cases WebState.step_cases hstep with
  | request | snapshot => cases hl
  | emit =>
    refine h.of_streams ?_ rfl (hstay rfl)
    rw [List.length_append, Nat.add_comm]
    rfl
  | @subscribe j snapshot hstream =>
    refine h.of_streams (Nat.zero_add _) List.length_set fun i stream hi => ?_
    rcases (getElem?_set_old hstream).mp hi with ⟨rfl, rfl⟩ | ⟨-, hi⟩
    · refine ⟨_, hstream, fun reader hreader => .inl ?_⟩
      rw [← Option.some.inj hreader]
      rfl
    · exact ⟨stream, hi, fun reader hreader => .inr ⟨reader, hreader, Nat.le_refl _⟩⟩
  | @receive j snapshot reader hstream =>
    refine h.of_streams (Nat.zero_add _) List.length_set fun i stream hi => ?_
    rcases (getElem?_set_old hstream).mp hi with ⟨rfl, rfl⟩ | ⟨-, hi⟩
    · refine ⟨_, hstream, fun after hafter => .inr ⟨reader, rfl, ?_⟩⟩
      rw [← Option.some.inj hafter]
      exact (reader.passes_spec eventBuffer f.system.aired).2.2
    · exact ⟨stream, hi, fun reader hreader => .inr ⟨reader, hreader, Nat.le_refl _⟩⟩
  | send | scanned | drain | shutdown => exact h.of_streams (Nat.zero_add _) rfl (hstay rfl)

end Frontend.Guarded

/-- The router keeps whether sessions are required. -/
theorem WebState.route_required (w : WebState Disk) (x : Extractors) (now : Instant)
    (token : String) (req : HttpRequest) (s : HttpState Disk) :
    (w.route x now token req s).2.auth.required = s.auth.required := by
  rw [w.route_snd]
  cases req.endpoint with
  | none => rfl
  | some endpoint => exact w.run_required x now token req s endpoint

/-- The layers keep whether sessions are required, and a request for a path that is not public
passes them only with a token that `check_session` lets pass. -/
theorem layers_spec (now : Instant) (req : HttpRequest) (auth : Auth) :
    (layers now req auth).2.required = auth.required ∧
      ((layers now req auth).1 = true → auth.required = true →
        isPublic req.path req.method = false →
        ∃ token, req.sessionToken = some token ∧ (auth.checkSession now token).1 = true) := by
  unfold layers
  by_cases horigin : req.crossOrigin = true
  · rw [if_pos horigin]
    exact ⟨rfl, fun h => by cases h⟩
  · rw [if_neg horigin]
    by_cases hprivate : (auth.required && !isPublic req.path req.method) = true
    · rw [if_pos hprivate]
      refine ⟨req.checkSession_required now auth, fun hpasses _ _ => ?_⟩
      unfold HttpRequest.checkSession at hpasses
      cases htoken : req.sessionToken with
      | none => simp [htoken] at hpasses
      | some token =>
        rw [htoken] at hpasses
        exact ⟨token, rfl, hpasses⟩
    · rw [if_neg hprivate]
      refine ⟨rfl, fun _ hrequired hpublic => ?_⟩
      rw [hrequired, hpublic] at hprivate
      exact absurd rfl hprivate

/-- Every step keeps the invariant. -/
theorem Frontend.Guarded.step {w : WebState Disk} {x : Extractors} {f g : Frontend Disk}
    {l : FrontLabel} (h : f.Guarded) (hstep : w.front x f l = some g) : g.Guarded := by
  cases l with
  | tick elapsed =>
    obtain rfl := Option.some.inj hstep
    exact h.of_moment (.tick f.moment elapsed) rfl
  | arrive req =>
    simp only [WebState.front, Option.some.injEq] at hstep
    subst hstep
    obtain ⟨hrequired, hpasses⟩ := layers_spec f.moment.now req f.moment.auth
    have hleads := Moment.Leads.layers f.moment req
    have hafter := h.of_moment hleads hrequired
    by_cases hpass : (layers f.moment.now req f.moment.auth).1 = true
    · rw [if_pos hpass]
      refine hafter.letPass fun hprivate => ?_
      obtain ⟨token, htoken, hvalid⟩ := hpasses hpass h.required hprivate
      exact ⟨⟨token, f.moment⟩, by rw [htoken]; rfl, hvalid, (hleads h.issued).1⟩
    · rw [if_neg hpass]
      exact hafter
  | answer k token =>
    simp only [WebState.front] at hstep
    split at hstep
    · rename_i req ticket hwaiting
      obtain ⟨-, hstep⟩ := Option.ite_none_right_eq_some.mp hstep
      obtain rfl := Option.some.inj hstep
      have hleads := w.route_leads x f.moment token req f.system.server
      have hrequired := w.route_required x f.moment.now token req ⟨f.system.server, f.moment.auth⟩
      have hafter := (h.of_moment hleads hrequired).of_server
        (w.route x f.moment.now token req ⟨f.system.server, f.moment.auth⟩).2.server
        (List.eraseIdx_subset : f.admitted.eraseIdx k ⊆ f.admitted)
      by_cases hopens : req.opensStream = true
      · rw [if_pos hopens]
        obtain ⟨t, rfl, hadmits⟩ := h.admitted req ticket (List.mem_of_getElem? hwaiting)
          (HttpRequest.opensStream_private hopens)
        exact hafter.openStream _ (hadmits.later (hleads h.issued).1)
      · rw [if_neg hopens]
        exact hafter
    · cases hstep
  | inside l =>
    simp only [WebState.front] at hstep
    cases hl : l.isRequest with
    | true => simp [hl] at hstep
    | false =>
      rw [hl, if_neg Bool.false_ne_true] at hstep
      obtain ⟨σ, hσ, rfl⟩ := Option.map_eq_some_iff.mp hstep
      exact h.inside hσ hl

/-- Nothing is broadcast before the first request is accepted, and there is no stream. -/
theorem WebState.serve_quiet (w : WebState Disk) (config : AppConfig) (bootStatus : String)
    (disk : Disk) : (w.serve config bootStatus disk).aired = [] ∧
      (w.serve config bootStatus disk).streams = [] := by
  refine w.serve_induction (P := fun σ => σ.aired = [] ∧ σ.streams = []) config bootStatus disk
    ⟨rfl, rfl⟩ fun σ hstep => ?_
  cases WebState.step_stream hstep with
  | none _ _ haired hstreams => exact ⟨haired, hstreams⟩

/-- The invariant holds at boot when sessions are required. -/
theorem WebState.bootFront_guarded (w : WebState Disk) (config : AppConfig) (bootStatus : String)
    (disk : Disk) {auth : Auth} (hrequired : auth.required = true) (now : Instant) :
    (w.bootFront config bootStatus disk auth now).Guarded := by
  obtain ⟨haired, hstreams⟩ := w.serve_quiet config bootStatus disk
  constructor
  · intro token expiry hstored
    cases hstored
  · exact hrequired
  · simp [bootFront, haired]
  · simp [bootFront, hstreams]
  · intro req ticket hmem
    cases hmem
  · intro i stream hstream
    simp [bootFront, hstreams] at hstream
  · intro i m hmem
    cases hmem

/-- In every run from boot on in which sessions are required, every payload goes only to streams
that were opened with a session that passed the check. When the payload is emitted this session
still passes, unless its time has run out or it has been logged out since the check. -/
theorem WebState.front_confined (w : WebState Disk) (x : Extractors) (config : AppConfig)
    (bootStatus : String) (disk : Disk) (auth : Auth) (now : Instant) (ls : List FrontLabel)
    (hrequired : auth.required = true) :
    Transition.Throughout (w.front x) Frontend.Confined
      (w.bootFront config bootStatus disk auth now) ls :=
  (Transition.throughout_of_invariant (fun _ _ _ h hstep => h.step hstep)
    (w.bootFront_guarded config bootStatus disk hrequired now)).mono fun _ h => h.confined

/-- The extractors when every login sends the right password. -/
def rightPassword : Extractors := { withoutBody with loginReq := fun _ => .ok "secret" }

/-- A browser logs in and opens an event stream. In another tab it logs out; then the daemon shuts
down and says so. -/
def loggedOutRun : List FrontLabel :=
  [.arrive (forgedRequest .post "/api/session" ""), .answer 0 "a",
    .arrive (forgedRequest .get "/api/events" "a"), .answer 0 "", .inside (.subscribe 0),
    .arrive (forgedRequest .delete "/api/session" "a"), .answer 0 "",
    .inside .shutdown, .inside .emit, .inside (.receive 0)]

/-- The daemon of the run at boot. -/
def loggedOutStart : Frontend MemoryDisk :=
  memoryState.bootFront (plainConfig []) "Loaded saved configuration" ⟨none, true⟩
    lockedState.auth 0

/-- The payloads of the run are confined. -/
theorem loggedOutRun_confined :
    Transition.Throughout (memoryState.front rightPassword) Frontend.Confined loggedOutStart
      loggedOutRun :=
  memoryState.front_confined rightPassword _ _ _ lockedState.auth 0 loggedOutRun rfl

/-- The last of them reaches the stream although its session does not pass any more. -/
theorem loggedOut_stream_reads :
    ∃ f, Transition.run (memoryState.front rightPassword) loggedOutStart loggedOutRun = some f ∧
      ¬ f.LiveOnly := by
  have hrun : (Transition.run (memoryState.front rightPassword) loggedOutStart
      loggedOutRun).isSome = true := by decide +kernel
  obtain ⟨f, hf⟩ := Option.isSome_iff_exists.mp hrun
  refine ⟨f, hf, fun hlive => ?_⟩
  have hread : (Transition.run (memoryState.front rightPassword) loggedOutStart loggedOutRun).map
      (fun f => (f.owners.map (Option.map Ticket.token), f.delivered.map fun entry =>
        (entry.1, (entry.2.auth.checkSession entry.2.now "a").1))) =
      some ([some "a"], [(0, true), (0, false)]) := by decide +kernel
  rw [hf, Option.map_some, Option.some.injEq, Prod.mk.injEq] at hread
  obtain ⟨howners, hdelivered⟩ := hread
  have hlast : (0, false) ∈ f.delivered.map fun entry =>
      (entry.1, (entry.2.auth.checkSession entry.2.now "a").1) := by
    rw [hdelivered]
    decide
  obtain ⟨⟨i, m⟩, hmem, hentry⟩ := List.mem_map.mp hlast
  obtain ⟨rfl, hrefused⟩ := Prod.mk.inj hentry
  obtain ⟨ticket, howner, hpasses⟩ := hlive _ m hmem
  have htoken : (f.owners.map (Option.map Ticket.token))[0]? = some (some ticket.token) := by
    rw [List.getElem?_map, howner]
    rfl
  rw [howners] at htoken
  rw [← Option.some.inj (Option.some.inj htoken), hrefused] at hpasses
  cases hpasses

end Republisher
