import Republisher.Disclosure
import Republisher.Healthcheck

/-!
# Who is let in

The administrator's password comes from the environment when the daemon starts, or is made up and
printed. From then on nothing but a login with that password makes a session, so every request that
gets past the layers, and is not for a public path, follows such a login.
-/

namespace Republisher

variable {Disk : Type}

/-! ## The password -/

/-- `IpAddr::is_loopback`. -/
def IpAddr.isLoopback : IpAddr → Bool
  | .v4 bits => bits >>> 24 == 127
  | .v6 bits => bits == 1

/-- `str::eq_ignore_ascii_case`. -/
def eqIgnoreAsciiCase (a b : String) : Bool := toAsciiLowercase a == toAsciiLowercase b

/-- The environment turns sessions off. -/
def Environment.authDisabled (e : Environment) : Bool :=
  ((e.var "REPUBLISHER_AUTH").map fun v => eqIgnoreAsciiCase v "disabled").getD false

/-- The credential in the environment, or one that is made up, and what is printed then. -/
def Credential.fromEnv (e : Environment) (phcError : String → Option String) (generated : String) :
    Except String (Credential × List String) :=
  let madeUp : Credential × List String := (.plain generated,
    ["[republisherd] generated admin password: " ++ generated,
      "[republisherd] set REPUBLISHER_ADMIN_PASSWORD (or *_HASH) to use a stable credential"])
  match e.var "REPUBLISHER_ADMIN_PASSWORD_HASH", e.var "REPUBLISHER_ADMIN_PASSWORD" with
  | some phc, _ =>
      match phcError phc with
      | some error =>
          .error ("REPUBLISHER_ADMIN_PASSWORD_HASH is not a valid PHC string: " ++ error)
      | none => .ok (.hash phc, [])
  | none, some expected => .ok (if trim expected ≠ "" then (.plain expected, []) else madeUp)
  | none, none => .ok madeUp

/-- `Auth::from_env`, given what is wrong with a hash, how an address is printed and a random
password. -/
def Auth.fromEnv (e : Environment) (phcError : String → Option String)
    (display : SocketAddr → String) (generated : String) (bind : SocketAddr) (tlsEnabled : Bool) :
    Except String (Auth × List String) :=
  let cookieSecure := tlsEnabled ||
    ((e.var "REPUBLISHER_COOKIE_SECURE").map fun v =>
      v == "1" || eqIgnoreAsciiCase v "true").getD false
  if e.authDisabled then
    if !bind.ip.isLoopback then
      .error ("REPUBLISHER_AUTH=disabled is only allowed for loopback binds; " ++
        "refusing to serve an unauthenticated GUI on " ++ display bind)
    else
      .ok (⟨false, cookieSecure, none, fun _ => none, fun _ => none⟩,
        ["[republisherd] auth disabled (loopback bind)"])
  else
    match Credential.fromEnv e phcError generated with
    | .error error => .error error
    | .ok (credential, printed) =>
        .ok (⟨true, cookieSecure, some credential, fun _ => none, fun _ => none⟩, printed)

/-- The password that the environment sets, or the one that was made up. -/
def Environment.Admits (e : Environment) (verifyHash : String → String → Bool)
    (generated password : String) : Prop :=
  match e.var "REPUBLISHER_ADMIN_PASSWORD_HASH", e.var "REPUBLISHER_ADMIN_PASSWORD" with
  | some hash, _ => verifyHash hash password = true
  | none, some plain => password = if trim plain ≠ "" then plain else generated
  | none, none => password = generated

/-- The daemon starts without sessions; it requires them, with the password of the environment,
unless they are turned off and it listens on a loopback address. -/
theorem Auth.fromEnv_ok {e : Environment} {phcError : String → Option String}
    {display : SocketAddr → String} {generated : String} {bind : SocketAddr} {tlsEnabled : Bool}
    {auth : Auth} {printed : List String}
    (h : Auth.fromEnv e phcError display generated bind tlsEnabled = .ok (auth, printed)) :
    (∀ token, auth.sessions token = none) ∧
      ((auth.required = false ∧ e.authDisabled = true ∧ bind.ip.isLoopback = true) ∨
        (auth.required = true ∧ ∀ verifyHash password,
          auth.verifyPassword verifyHash password = true ↔
            e.Admits verifyHash generated password)) := by
  unfold Auth.fromEnv at h
  by_cases hoff : e.authDisabled = true
  · rw [if_pos hoff] at h
    by_cases hloop : bind.ip.isLoopback = true
    · rw [hloop, Bool.not_true, if_neg Bool.false_ne_true, Except.ok.injEq, Prod.mk.injEq] at h
      obtain ⟨rfl, -⟩ := h
      exact ⟨fun _ => rfl, .inl ⟨rfl, hoff, hloop⟩⟩
    · rw [Bool.not_eq_true] at hloop
      rw [hloop, Bool.not_false, if_pos rfl] at h
      cases h
  · rw [if_neg hoff] at h
    unfold Credential.fromEnv at h
    unfold Environment.Admits
    cases hhash : e.var "REPUBLISHER_ADMIN_PASSWORD_HASH" with
    | some hash =>
      rw [hhash] at h
      dsimp only at h
      cases hphc : phcError hash with
      | some error => simp [hphc] at h
      | none =>
        simp only [hphc, Except.ok.injEq, Prod.mk.injEq] at h
        obtain ⟨rfl, -⟩ := h
        exact ⟨fun _ => rfl, .inr ⟨rfl, fun verifyHash password => Iff.rfl⟩⟩
    | none =>
      have hplain {expected password : String} {verifyHash : String → String → Bool}
          {secure : Bool} :
          Auth.verifyPassword verifyHash password
            ⟨true, secure, some (.plain expected), fun _ => none, fun _ => none⟩ = true ↔
              password = expected := by
        rw [Auth.verifyPassword, beq_iff_eq, eq_comm]
      rw [hhash] at h
      cases hset : e.var "REPUBLISHER_ADMIN_PASSWORD" with
      | none =>
        simp only [hset, Except.ok.injEq, Prod.mk.injEq] at h
        obtain ⟨rfl, -⟩ := h
        exact ⟨fun _ => rfl, .inr ⟨rfl, fun verifyHash password => hplain⟩⟩
      | some plain =>
        simp only [hset, Except.ok.injEq, Prod.mk.injEq] at h
        obtain ⟨rfl, -⟩ := h
        refine ⟨fun _ => rfl, .inr ⟨rfl, fun verifyHash password => ?_⟩⟩
        dsimp only
        split_ifs
        · exact hplain
        · exact hplain

/-! ## Sessions -/

/-- What a request does to the sessions: it makes none but one for a token, and that one only under
a condition. -/
structure MakesOnly (token : String) (now : Instant) (condition : Prop) (a b : Auth) : Prop where
  credential : b.credential = a.credential
  sessions : ∀ other expiry, b.sessions other = some expiry →
    a.sessions other = some expiry ∨ (other = token ∧ expiry = now + sessionTtl ∧ condition)

namespace MakesOnly

variable {token : String} {now : Instant} {condition : Prop} {a b c : Auth}

/-- Nothing was done. -/
theorem refl (a : Auth) : MakesOnly token now condition a a := ⟨rfl, fun _ _ h => .inl h⟩

/-- One step after another. -/
theorem trans (h : MakesOnly token now condition a b) (h' : MakesOnly token now condition b c) :
    MakesOnly token now condition a c :=
  ⟨h'.credential.trans h.credential, fun other expiry hstored =>
    (h'.sessions other expiry hstored).elim (h.sessions other expiry) .inr⟩

/-- The condition may be said in another way. -/
theorem mono {other : Prop} (h : MakesOnly token now condition a b) (himp : condition → other) :
    MakesOnly token now other a b :=
  ⟨h.credential, fun name expiry hstored => (h.sessions name expiry hstored).imp id fun hmade =>
    ⟨hmade.1, hmade.2.1, himp hmade.2.2⟩⟩

/-- A session is checked. -/
theorem check (m : Instant) (presented : String) :
    MakesOnly token now condition a (a.checkSession m presented).2 := by
  unfold Auth.checkSession
  split
  · split_ifs
    · exact refl a
    · refine ⟨rfl, fun other expiry hstored => .inl ?_⟩
      simp only [HashMap.remove] at hstored
      split_ifs at hstored
      exact hstored
  · exact refl a

/-- A session is logged out. -/
theorem remove (presented : String) :
    MakesOnly token now condition a (a.removeSession presented) := by
  refine ⟨rfl, fun other expiry hstored => .inl ?_⟩
  simp only [Auth.removeSession, HashMap.remove] at hstored
  split_ifs at hstored
  exact hstored

/-- A session is created. -/
theorem create (h : condition) : MakesOnly token now condition a (a.createSession now token) := by
  refine ⟨rfl, fun other expiry hstored => ?_⟩
  simp only [Auth.createSession, HashMap.insert, HashMap.retain] at hstored
  split_ifs at hstored with hname
  · exact .inr ⟨hname, (Option.some.inj hstored).symm, h⟩
  · obtain ⟨old, hold, hlive⟩ := Option.bind_eq_some_iff.mp hstored
    obtain ⟨-, hsame⟩ := Option.ite_none_right_eq_some.mp hlive
    rw [← Option.some.inj hsame]
    exact .inl hold

/-- The session that a request presents is checked. -/
theorem checkRequest (m : Instant) (req : HttpRequest) :
    MakesOnly token now condition a (req.checkSession m a).2 := by
  unfold HttpRequest.checkSession
  cases req.sessionToken with
  | none => exact refl a
  | some presented => exact check m presented

/-- The layers check a session at most. -/
theorem layers (m : Instant) (req : HttpRequest) :
    MakesOnly token now condition a (layers m req a).2 := by
  unfold Republisher.layers
  split_ifs
  · exact refl a
  · exact checkRequest m req
  · exact refl a

/-- A login makes a session when the password is right. -/
theorem login (verifyHash : String → String → Bool) (peer : IpAddr) (password : String)
    (server : Server Disk) : MakesOnly token now (a.verifyPassword verifyHash password = true) a
      (login verifyHash now token peer password ⟨server, a⟩).2.auth := by
  have hthrottled : (a.throttled now peer).2.sessions = a.sessions ∧
      (a.throttled now peer).2.credential = a.credential := by
    unfold Auth.throttled
    split <;> exact ⟨rfl, rfl⟩
  have hasked {condition : Prop} : MakesOnly token now condition a (a.throttled now peer).2 :=
    ⟨hthrottled.2, fun other expiry hstored => .inl (hthrottled.1 ▸ hstored)⟩
  have hverify : (a.throttled now peer).2.verifyPassword verifyHash password =
      a.verifyPassword verifyHash password := by
    rw [Auth.verifyPassword, Auth.verifyPassword, hthrottled.2]
  unfold Republisher.login
  dsimp only
  split_ifs with hrequired hmany hright
  · exact hasked
  · rw [hverify] at hright
    exact hasked.trans (create hright)
  · exact hasked.trans ⟨rfl, fun other expiry hstored => .inl hstored⟩
  · exact refl a

end MakesOnly

/-- The request is a login with a password that is right. -/
def LogsIn (x : Extractors) (auth : Auth) (req : HttpRequest) : Prop :=
  req.endpoint = some .login ∧ ∃ password, x.loginReq req = .ok password ∧
    auth.verifyPassword x.verifyHash password = true

/-- No request makes a session but a login with the right password. -/
theorem WebState.service_makesOnly (w : WebState Disk) (x : Extractors) (now : Instant)
    (token : String) (req : HttpRequest) (server : Server Disk) (auth : Auth) :
    MakesOnly token now (LogsIn x auth req) auth
      (w.service x now token req ⟨server, auth⟩).2.auth := by
  rw [w.service_layers]
  have hlayers : MakesOnly token now (LogsIn x auth req) auth (layers now req auth).2 :=
    .layers now req
  have hsame (password : String) : (layers now req auth).2.verifyPassword x.verifyHash password =
      auth.verifyPassword x.verifyHash password := by
    rw [Auth.verifyPassword, Auth.verifyPassword, hlayers.credential]
  dsimp only
  split_ifs
  swap
  · exact hlayers
  refine hlayers.trans ?_
  rw [w.route_snd]
  cases hendpoint : req.endpoint with
  | none => exact .refl _
  | some endpoint =>
    have hstay : MakesOnly token now (LogsIn x auth req) (layers now req auth).2
        (layers now req auth).2 := .refl _
    cases endpoint with
    | health | asset | plain | events => exact hstay
    | sessionInfo =>
      show MakesOnly _ _ _ _ (sessionInfo now req ⟨server, (layers now req auth).2⟩).2.auth
      unfold sessionInfo
      split_ifs
      · exact .checkRequest now req
      · exact hstay
    | login =>
      show MakesOnly _ _ _ _ (withExtracted (x.loginReq req) _ _).2.auth
      cases hpassword : x.loginReq req with
      | error response => exact hstay
      | ok password =>
        refine MakesOnly.mono (.login x.verifyHash req.peer password server) fun hright => ?_
        exact ⟨hendpoint, password, hpassword, hsame password ▸ hright⟩
    | logout =>
      show MakesOnly _ _ _ _ (logout req ⟨server, (layers now req auth).2⟩).2.auth
      unfold Republisher.logout
      cases req.sessionToken with
      | none => exact hstay
      | some presented => exact .remove presented
    | togglePoint index =>
      exact withExtracted_auth (P := fun b => MakesOnly token now (LogsIn x auth req) _ b) _ hstay
        fun _ => withExtracted_auth (P := fun b => MakesOnly token now (LogsIn x auth req) _ b) _
          hstay fun _ => hstay
    | _ =>
      exact withExtracted_auth (P := fun b => MakesOnly token now (LogsIn x auth req) _ b) _ hstay
        fun _ => hstay

/-! ## Runs -/

/-- After any requests, every session was made by one of them that was a login with the right
password. -/
theorem WebState.serveAll_sessions (w : WebState Disk) (x : Extractors)
    (visits : List (Visit × Server Disk)) (auth : Auth) :
    (w.serveAll x visits auth).2.credential = auth.credential ∧
      (w.serveAll x visits auth).2.required = auth.required ∧
      ∀ token expiry, (w.serveAll x visits auth).2.sessions token = some expiry →
        auth.sessions token = some expiry ∨ ∃ visit ∈ visits.map Prod.fst, visit.token = token ∧
          expiry = visit.now + sessionTtl ∧ LogsIn x auth visit.req := by
  induction visits generalizing auth with
  | nil => exact ⟨rfl, rfl, fun token expiry h => .inl h⟩
  | cons first visits ih =>
    obtain ⟨visit, server⟩ := first
    have hstep := w.service_makesOnly x visit.now visit.token visit.req server auth
    have hrequired := w.service_required x visit.now visit.token visit.req ⟨server, auth⟩
    rw [WebState.serveAll]
    dsimp only
    generalize (w.service x visit.now visit.token visit.req ⟨server, auth⟩).2.auth = served
      at hstep hrequired
    obtain ⟨hcredential, hkept, hsessions⟩ := ih served
    refine ⟨hcredential.trans hstep.credential, hkept.trans hrequired, fun token expiry h => ?_⟩
    rcases hsessions token expiry h with hold | ⟨later, hlater, htoken, hexpiry, hlogin⟩
    · rcases hstep.sessions token expiry hold with hold | ⟨htoken, hexpiry, hlogin⟩
      · exact .inl hold
      · exact .inr ⟨visit, List.mem_cons_self, htoken.symm, hexpiry, hlogin⟩
    · refine .inr ⟨later, List.mem_cons_of_mem _ hlater, htoken, hexpiry, hlogin.1, ?_⟩
      obtain ⟨password, hpassword, hright⟩ := hlogin.2
      refine ⟨password, hpassword, ?_⟩
      rw [Auth.verifyPassword, hstep.credential] at hright
      exact hright

/-- From the start of the daemon on, whatever requests were served and whatever else it did: unless
sessions are turned off on a loopback address, every further request is for a public path, is
turned away, or presents the session of a login with the administrator's password less than a day
before. -/
theorem WebState.admitted {e : Environment} {phcError : String → Option String}
    {display : SocketAddr → String} {generated : String} {bind : SocketAddr} {tlsEnabled : Bool}
    {auth : Auth} {printed : List String}
    (h : Auth.fromEnv e phcError display generated bind tlsEnabled = .ok (auth, printed))
    (w : WebState Disk) (x : Extractors) (visits : List (Visit × Server Disk)) (visit : Visit)
    (server : Server Disk) :
    (e.authDisabled = true ∧ bind.ip.isLoopback = true) ∨
      isPublic visit.req.path visit.req.method = true ∨
      TurnedAway visit.now ⟨server, (w.serveAll x visits auth).2⟩
        (w.service x visit.now visit.token visit.req ⟨server, (w.serveAll x visits auth).2⟩) ∨
      ∃ login ∈ visits.map Prod.fst, visit.req.Presents login.token ∧
        visit.now < login.now + sessionTtl ∧ login.req.endpoint = some .login ∧
          ∃ password, x.loginReq login.req = .ok password ∧
            e.Admits x.verifyHash generated password := by
  obtain ⟨hnone, ⟨-, hoff, hloop⟩ | ⟨hrequired, hverify⟩⟩ := Auth.fromEnv_ok h
  · exact .inl ⟨hoff, hloop⟩
  obtain ⟨-, hkept, hsessions⟩ := w.serveAll_sessions x visits auth
  cases hpublic : isPublic visit.req.path visit.req.method with
  | true => exact .inr (.inl rfl)
  | false =>
    by_cases hlive : visit.req.CarriesLive visit.now (w.serveAll x visits auth).2
    swap
    · exact .inr (.inr (.inl
        (w.service_turnedAway x visit.now visit.token (hkept.trans hrequired) hlive hpublic)))
    obtain ⟨token, hpresents, expiry, hstored, hbefore⟩ := hlive
    rcases hsessions token expiry hstored with hold | ⟨login, hmem, rfl, rfl, hpath, hright⟩
    · rw [hnone] at hold
      cases hold
    · obtain ⟨password, hpassword, hright⟩ := hright
      exact .inr (.inr (.inr ⟨login, hmem, hpresents, hbefore, hpath, password, hpassword,
        (hverify x.verifyHash password).mp hright⟩))

/-- An environment that sets the password and nothing else. -/
def passwordEnvironment : Environment where
  var key := if key = "REPUBLISHER_ADMIN_PASSWORD" then some "secret" else none
  resolvePasswordEnv mqtt := (false, mqtt)
  parseObject _ := none
  parsePoints _ := none

/-- It leads to the credential of the in-memory daemon that listens on every address. -/
theorem passwordEnvironment_auth : Auth.fromEnv passwordEnvironment (fun _ => none)
    (fun _ => "0.0.0.0:8080") "generated" (.v4 0 8080) false = .ok (lockedState.auth, []) := by
  have htrim : trim "secret" ≠ "" := by decide
  simp [Auth.fromEnv, Credential.fromEnv, Environment.authDisabled, passwordEnvironment,
    lockedState, htrim]

/-- A login with the password. -/
def loginVisit : Visit := ⟨0, "a", forgedRequest .post "/api/session" ""⟩

/-- The daemon after it. -/
def loggedIn : HttpState MemoryDisk :=
  ⟨lockedState.server, (memoryState.serveAll rightPassword [(loginVisit, lockedState.server)]
    lockedState.auth).2⟩

/-- A cookie names one session. -/
theorem not_presents_forged : ¬ (forgedRequest .get "/api/state" "x").Presents "a" := by
  rintro ⟨header, hheader, -, text, htext, pair, hpair, hsplit⟩
  obtain rfl := List.mem_singleton.mp hheader
  have hsent : (⟨(sessionCookie ++ "=" ++ "x").toUTF8.toList⟩ : HeaderValue).toStr =
      some "republisher_sid=x" := by decide +kernel
  obtain rfl := Option.some.inj (hsent.symm.trans htext)
  have hpairs : ∀ pair ∈ cookiePairs "republisher_sid=x",
      splitOnce '=' pair ≠ some (sessionCookie.toList, ['a']) := by decide +kernel
  exact hpairs pair hpair hsplit

/-- After a login a request with its token is let in, and one with a forged token is turned away. -/
theorem admitted_forged :
    (memoryState.service rightPassword 1 "" (forgedRequest .get "/api/state" "a")
        loggedIn).1.status = 200 ∧
      (∃ password, rightPassword.loginReq loginVisit.req = .ok password ∧
        passwordEnvironment.Admits rightPassword.verifyHash "generated" password) ∧
      TurnedAway 1 loggedIn
        (memoryState.service rightPassword 1 "" (forgedRequest .get "/api/state" "x")
          loggedIn) := by
  have hserved : (memoryState.service rightPassword 1 "" (forgedRequest .get "/api/state" "a")
      loggedIn).1.status = 200 := by decide +kernel
  refine ⟨hserved, ?_, ?_⟩
  · rcases memoryState.admitted passwordEnvironment_auth rightPassword
      [(loginVisit, lockedState.server)] ⟨1, "", forgedRequest .get "/api/state" "a"⟩
      lockedState.server with ⟨hoff, -⟩ | hpublic | haway | ⟨login, hmem, -, -, -, hright⟩
    · exact absurd hoff (by decide)
    · exact absurd hpublic (by decide)
    · rcases hserved ▸ haway.status with hstatus | hstatus <;> cases hstatus
    · obtain rfl := List.mem_singleton.mp hmem
      exact hright
  · rcases memoryState.admitted passwordEnvironment_auth rightPassword
      [(loginVisit, lockedState.server)] ⟨1, "", forgedRequest .get "/api/state" "x"⟩
      lockedState.server with ⟨hoff, -⟩ | hpublic | haway | ⟨login, hmem, hpresents, -⟩
    · exact absurd hoff (by decide)
    · exact absurd hpublic (by decide)
    · exact haway
    · obtain rfl := List.mem_singleton.mp hmem
      exact absurd hpresents not_presents_forged

end Republisher
