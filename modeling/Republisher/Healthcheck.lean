import Republisher.Environment
import Republisher.SocketAddr

/-!
# The health check of the container

The daemon listens where `--bind` or `REPUBLISHER_BIND` says. The health check is a second
process in the same environment: it takes the port from `REPUBLISHER_BIND` alone and probes that
port on the loopback address. This file says when the probe meets the listener.
-/

namespace Republisher

/-! ## The program `republisherd` -/

/-- What the command line asks for. -/
inductive Command
  | healthcheck
  | help
  | version
  | usageError (message : String)
  | serve (config bind : Option String)
  deriving DecidableEq

/-- The loop of `main` over its arguments, with the path and the address found so far. -/
def Command.parse (config bind : Option String) : List String → Command
  | [] => .serve config bind
  | "healthcheck" :: _ => .healthcheck
  | "--config" :: value :: args => Command.parse (some value) bind args
  | ["--config"] => .usageError "--config requires a path"
  | "--bind" :: value :: args => Command.parse config (some value) args
  | ["--bind"] => .usageError "--bind requires an address"
  | "--help" :: _ | "-h" :: _ => .help
  | "--version" :: _ | "-V" :: _ => .version
  | other :: _ => .usageError ("unknown argument '" ++ other ++ "'")

/-- `TlsPaths`. -/
structure TlsPaths where
  cert : String
  key : String
  deriving DecidableEq

/-- `ServerOptions`. -/
structure ServerOptions where
  bind : SocketAddr
  configPath : String
  tls : Option TlsPaths
  deriving DecidableEq

/-- The address to listen on when nothing else is said. -/
def defaultBind : String := "0.0.0.0:8080"

/-- `ServerOptions::from_env`, given the default path of the configuration. -/
def ServerOptions.fromEnv (e : Environment) (defaultPath : Except String String)
    (cliConfig cliBind : Option String) : Except String ServerOptions :=
  let bindRaw := (cliBind.or (e.var "REPUBLISHER_BIND")).getD defaultBind
  match parseSocketAddr bindRaw with
  | none => .error ("invalid bind address '" ++ bindRaw ++ "': invalid socket address syntax")
  | some bind =>
      match (cliConfig.or (e.var "REPUBLISHER_CONFIG")).elim defaultPath .ok with
      | .error error => .error error
      | .ok configPath =>
          match e.var "REPUBLISHER_TLS_CERT", e.var "REPUBLISHER_TLS_KEY" with
          | some cert, some key => .ok ⟨bind, configPath, some ⟨cert, key⟩⟩
          | none, none => .ok ⟨bind, configPath, none⟩
          | _, _ =>
              .error "REPUBLISHER_TLS_CERT and REPUBLISHER_TLS_KEY must be set together"

/-- The address on the command line. -/
def Command.cliBind : Command → Option String
  | .serve _ bind => bind
  | _ => none

/-- What `main` starts the daemon with, if it starts it. -/
def Command.options (e : Environment) (defaultPath : Except String String) :
    Command → Option ServerOptions
  | .serve config bind => (ServerOptions.fromEnv e defaultPath config bind).toOption
  | _ => none

/-- The address that the health check goes by. -/
def Environment.bindVar (e : Environment) : String :=
  (e.var "REPUBLISHER_BIND").getD defaultBind

/-- `str::rsplit` at a character, as far as its first item: the text after the last one. -/
def afterLast (separator : Char) (s : String) : String :=
  String.ofList (s.toList.reverse.takeWhile (· != separator)).reverse

/-- The port that the health check finds. -/
def healthcheckPort (e : Environment) : Option UInt16 :=
  (parseUnsigned UInt16.size (afterLast ':' e.bindVar)).map UInt16.ofNat

/-- The text of the address that the health check connects to. -/
def probeText (port : UInt16) : String := "127.0.0.1:" ++ toString port.toNat

/-- The address that the health check connects to. -/
def probeAddr (e : Environment) : Option SocketAddr :=
  (healthcheckPort e).bind fun port => parseSocketAddr (probeText port)

/-- `ExitCode`. -/
inductive ExitCode
  | success
  | failure
  deriving DecidableEq

/-- What becomes of writing to an open connection, and of reading it to its end. -/
structure Connection where
  write : Except String Unit
  read : Except String String

/-- The first of `str::lines`. -/
def firstLine (s : String) : Option String :=
  let line := s.toList.takeWhile (· != '\n')
  if s = "" then none
  else if line.length < s.toList.length ∧ line.getLast? = some '\r' then
    some (String.ofList line.dropLast)
  else some (String.ofList line)

/-- `healthcheck`: its exit code and what it prints, given what becomes of its connection. -/
def healthcheck (e : Environment) (connect : SocketAddr → Except String Connection) :
    ExitCode × Option String :=
  match healthcheckPort e with
  | none => (.failure, some
      ("healthcheck: cannot parse port from REPUBLISHER_BIND '" ++ e.bindVar ++ "'"))
  | some port =>
      match parseSocketAddr (probeText port) with
      | none => (.failure, some "loopback address always parses")
      | some addr =>
          match connect addr with
          | .error error =>
              (.failure, some ("healthcheck: connect " ++ probeText port ++ ": " ++ error))
          | .ok connection =>
              if (e.var "REPUBLISHER_TLS_CERT").isSome then (.success, none)
              else
                match connection.write, connection.read with
                | .error error, _ => (.failure, some ("healthcheck: write: " ++ error))
                | .ok (), .error error => (.failure, some ("healthcheck: read: " ++ error))
                | .ok (), .ok response =>
                    if "HTTP/1.0 200".toList <+: response.toList ∨
                        "HTTP/1.1 200".toList <+: response.toList then (.success, none)
                    else (.failure, some ("healthcheck: unexpected response: " ++
                      (firstLine response).getD "<empty>"))

/-! ## Listeners -/

/-- `IpAddr::to_canonical`: an IPv4-mapped IPv6 address is the IPv4 address. -/
def IpAddr.toCanonical : IpAddr → IpAddr
  | .v4 ip => .v4 ip
  | .v6 ip => if ip >>> 32 = 0xffff then .v4 (ip.truncate 32) else .v6 ip

/-- A listener on the first address takes connections to the second. The wildcard address takes
all of its family, and that of IPv6 those of IPv4 as well. -/
def IpAddr.covers (bound ip : IpAddr) : Bool :=
  match bound.toCanonical, ip.toCanonical with
  | .v4 bound, .v4 ip => bound == 0 || bound == ip
  | .v6 bound, .v6 ip => bound == 0 || bound == ip
  | .v6 bound, .v4 _ => bound == 0
  | .v4 _, .v6 _ => false

/-- A listening socket. -/
structure Listener where
  ip : IpAddr
  port : UInt16

/-- The socket listens where it was bound. The system chooses a port in the place of port 0. -/
def SocketAddr.Binds (bind : SocketAddr) (l : Listener) : Prop :=
  l.ip = bind.ip ∧ l.port ≠ 0 ∧ (bind.port ≠ 0 → l.port = bind.port)

/-- The listener takes connections to the address. -/
def Listener.Accepts (l : Listener) (addr : SocketAddr) : Prop :=
  addr.port = l.port ∧ l.ip.covers addr.ip = true

instance (l : Listener) (addr : SocketAddr) : Decidable (l.Accepts addr) :=
  inferInstanceAs (Decidable (_ ∧ _))

/-- A healthy daemon behind the listener: it answers each connection that is taken. -/
def Listener.answers (l : Listener) (addr : SocketAddr) : Except String Connection :=
  if l.Accepts addr then .ok ⟨.ok (), .ok "HTTP/1.0 200 OK\r\n\r\nok"⟩
  else .error "Connection refused (os error 111)"

/-! ## When the probe meets the listener -/

/-- The text after the last colon is the decimal number of the port, perhaps with a plus sign. -/
def NamesPort (text : String) (port : UInt16) : Prop :=
  ∃ front digits, (text.toList = digits ∨ text.toList = front ++ ':' :: digits) ∧
    ':' ∉ digits ∧ parseUnsigned UInt16.size (String.ofList digits) = some port.toNat

/-- A listener on the address takes connections to the IPv4 loopback address: it is that
address, or the wildcard address of either family. -/
def IpAddr.ServesLoopback (ip : IpAddr) : Prop :=
  ip.toCanonical = .v4 0 ∨ ip.toCanonical = .v4 0x7f000001 ∨ ip.toCanonical = .v6 0

/-- The condition for the probe to meet the listener: the daemon listens on the loopback or the
wildcard address and a port of its own choice, and if it was given an address on the command
line, the environment has the same port. -/
def ProbeMeets (e : Environment) (cliBind : Option String) (bind : SocketAddr) : Prop :=
  bind.port ≠ 0 ∧ bind.ip.ServesLoopback ∧ (cliBind.isSome = true → NamesPort e.bindVar bind.port)

/-- The text after the last separator. -/
theorem afterLast_eq {separator : Char} {s : String} {front after : List Char}
    (htext : s.toList = after ∨ s.toList = front ++ separator :: after)
    (hafter : separator ∉ after) : afterLast separator s = String.ofList after := by
  have hkeep : ∀ c ∈ after.reverse, (c != separator) = true := by
    intro c hc
    rw [bne_iff_ne]
    rintro rfl
    exact hafter (List.mem_reverse.mp hc)
  unfold afterLast
  rcases htext with htext | htext
  · rw [htext, ← List.append_nil after.reverse, List.takeWhile_append_of_pos hkeep,
      List.takeWhile_nil, List.append_nil, List.reverse_reverse]
  · rw [htext, List.reverse_append, List.reverse_cons, List.append_assoc,
      List.takeWhile_append_of_pos hkeep, List.singleton_append,
      List.takeWhile_cons_of_neg (by simp), List.append_nil, List.reverse_reverse]

/-- Every text is split at its last separator, if it has one. -/
theorem exists_afterLast (separator : Char) (text : List Char) :
    ∃ front after, (text = after ∨ text = front ++ separator :: after) ∧ separator ∉ after := by
  induction text with
  | nil => exact ⟨[], [], .inl rfl, List.not_mem_nil⟩
  | cons c text ih =>
    obtain ⟨front, after, hsplit, hafter⟩ := ih
    rcases hsplit with rfl | rfl
    · by_cases hc : c = separator
      · subst hc
        exact ⟨[], text, .inr rfl, hafter⟩
      · refine ⟨[], c :: text, .inl rfl, ?_⟩
        rw [List.mem_cons, not_or]
        exact ⟨Ne.symm hc, hafter⟩
    · exact ⟨c :: front, after, .inr rfl, hafter⟩

/-- A number that is read is below the bound. -/
theorem parseUnsigned_lt {bound n : ℕ} {s : String} (h : parseUnsigned bound s = some n) :
    n < bound := by
  obtain ⟨-, hvalue⟩ := Option.ite_none_left_eq_some.mp h
  simpa using (Option.filter_eq_some_iff.mp hvalue).2

/-- The health check finds the port that its text names. -/
theorem healthcheckPort_iff (e : Environment) (port : UInt16) :
    healthcheckPort e = some port ↔ NamesPort e.bindVar port := by
  constructor
  · intro h
    obtain ⟨n, hn, rfl⟩ := Option.map_eq_some_iff.mp h
    obtain ⟨front, digits, htext, hdigits⟩ := exists_afterLast ':' e.bindVar.toList
    refine ⟨front, digits, htext, hdigits, ?_⟩
    rw [← afterLast_eq htext hdigits, hn, UInt16.toNat_ofNat_of_lt' (parseUnsigned_lt hn)]
  · rintro ⟨front, digits, htext, hdigits, hport⟩
    rw [healthcheckPort, afterLast_eq htext hdigits, hport, Option.map_some, UInt16.ofNat_toNat]

/-- A text that parses as a socket address names its port. -/
theorem namesPort_of_parse {s : String} {addr : SocketAddr}
    (h : parseSocketAddr s = some addr) : NamesPort s addr.port := by
  obtain ⟨front, digits, htext, hsome, hvalue⟩ := parseSocketAddr_some h
  have hdigit := isDigit_of_digitsValue hvalue
  refine ⟨front, digits, .inr htext, fun hcolon => absurd (hdigit ':' hcolon) (by decide), ?_⟩
  have hplus : ∀ cs, (String.ofList digits).toList ≠ '+' :: cs := by
    intro cs hcs
    rw [String.toList_ofList] at hcs
    subst hcs
    exact absurd (hdigit '+' List.mem_cons_self) (by decide)
  rw [parseUnsigned_of_no_plus hplus, String.toList_ofList, if_neg (by simpa using hsome), hvalue,
    Option.filter_some, if_pos (decide_eq_true addr.port.toNat_lt)]

/-- The health check connects to the loopback address at the port that its text names. -/
theorem probeAddr_iff (e : Environment) (probe : SocketAddr) :
    probeAddr e = some probe ↔ ∃ port, NamesPort e.bindVar port ∧ probe = .v4 0x7f000001 port := by
  rw [probeAddr, Option.bind_eq_some_iff]
  simp only [probeText, parseSocketAddr_loopback, healthcheckPort_iff, Option.some.injEq,
    eq_comm (b := probe)]

/-- A listener takes connections to the loopback address exactly when it serves it. -/
theorem covers_loopback_iff (ip : IpAddr) :
    ip.covers (.v4 0x7f000001) = true ↔ ip.ServesLoopback := by
  have hloopback : (IpAddr.v4 0x7f000001).toCanonical = .v4 0x7f000001 := rfl
  unfold IpAddr.covers IpAddr.ServesLoopback
  rw [hloopback]
  cases ip.toCanonical <;> simp

/-- The address that the daemon listens on is parsed from the command line or, without one
there, from the text that the health check goes by. -/
theorem ServerOptions.fromEnv_bind {e : Environment} {defaultPath : Except String String}
    {cliConfig cliBind : Option String} {options : ServerOptions}
    (h : ServerOptions.fromEnv e defaultPath cliConfig cliBind = .ok options) :
    parseSocketAddr (cliBind.getD e.bindVar) = some options.bind := by
  have hraw : (cliBind.or (e.var "REPUBLISHER_BIND")).getD defaultBind =
      cliBind.getD e.bindVar := by
    cases cliBind <;> rfl
  unfold fromEnv at h
  dsimp only at h
  rw [hraw] at h
  cases hbind : parseSocketAddr (cliBind.getD e.bindVar) with
  | none =>
    rw [hbind] at h
    cases h
  | some bind =>
    simp only [hbind] at h
    split at h
    · cases h
    · split at h
      · obtain rfl := Except.ok.inj h
        rfl
      · obtain rfl := Except.ok.inj h
        rfl
      · cases h

/-- So is the address of a daemon that `main` starts. -/
theorem Command.options_bind {e : Environment} {defaultPath : Except String String}
    {command : Command} {options : ServerOptions}
    (h : command.options e defaultPath = some options) :
    parseSocketAddr (command.cliBind.getD e.bindVar) = some options.bind := by
  cases command with
  | serve config bind =>
    cases hoptions : ServerOptions.fromEnv e defaultPath config bind with
    | error error =>
      rw [Command.options, hoptions] at h
      cases h
    | ok started =>
      rw [Command.options, hoptions] at h
      obtain rfl := Option.some.inj h
      exact ServerOptions.fromEnv_bind hoptions
  | _ => cases h

/-- For every command line and environment with which the daemon can be started, the health
check in that environment derives an address that every listener of the daemon takes
connections to, exactly when the daemon listens on the loopback or the wildcard address, not on
port 0, and on the port that the environment names if the command line has an address. -/
theorem healthcheck_meets_daemon_iff {e : Environment} {defaultPath : Except String String}
    {args : List String} {options : ServerOptions}
    (hstart : (Command.parse none none args).options e defaultPath = some options) :
    (∃ probe, probeAddr e = some probe ∧
        ∀ l : Listener, options.bind.Binds l → l.Accepts probe) ↔
      ProbeMeets e (Command.parse none none args).cliBind options.bind := by
  have hbind := Command.options_bind hstart
  constructor
  · rintro ⟨probe, hprobe, hmeets⟩
    obtain ⟨port, hnames, rfl⟩ := (probeAddr_iff e probe).mp hprobe
    have hport : options.bind.port ≠ 0 := by
      intro hzero
      -- the system may choose a port that the probe does not have
      obtain ⟨other, hother, hne⟩ : ∃ other : UInt16, other ≠ 0 ∧ port ≠ other := by
        by_cases hone : port = 1
        · exact ⟨2, by decide, by rw [hone]; decide⟩
        · exact ⟨1, by decide, hone⟩
      exact hne (hmeets ⟨options.bind.ip, other⟩ ⟨rfl, hother, fun h => absurd hzero h⟩).1
    obtain ⟨hsame, hcovers⟩ :=
      hmeets ⟨options.bind.ip, options.bind.port⟩ ⟨rfl, hport, fun _ => rfl⟩
    refine ⟨hport, (covers_loopback_iff options.bind.ip).mp hcovers, fun _ => ?_⟩
    rw [← show port = options.bind.port from hsame]
    exact hnames
  · rintro ⟨hport, hserves, hcli⟩
    have hnames : NamesPort e.bindVar options.bind.port := by
      cases hbindArg : (Command.parse none none args).cliBind with
      | none =>
        rw [hbindArg] at hbind
        exact namesPort_of_parse hbind
      | some text => exact hcli (by rw [hbindArg]; rfl)
    refine ⟨_, (probeAddr_iff e _).mpr ⟨_, hnames, rfl⟩, ?_⟩
    rintro ⟨ip, lport⟩ ⟨rfl, -, hlport⟩
    exact ⟨(hlport hport).symm, (covers_loopback_iff options.bind.ip).mpr hserves⟩

/-- The health check of a healthy daemon succeeds exactly when it derives an address that the
listener takes connections to. -/
theorem healthcheck_answers_iff (e : Environment) (l : Listener) :
    (healthcheck e l.answers).1 = .success ↔
      ∃ probe, probeAddr e = some probe ∧ l.Accepts probe := by
  have haddr (port : UInt16) : parseSocketAddr (probeText port) = some (.v4 0x7f000001 port) :=
    parseSocketAddr_loopback port
  unfold healthcheck probeAddr
  cases healthcheckPort e with
  | none => simp
  | some port =>
    simp only [haddr, Option.bind_some, Option.some.injEq, exists_eq_left']
    unfold Listener.answers
    by_cases haccepts : l.Accepts (.v4 0x7f000001 port)
    · rw [if_pos haccepts]
      refine iff_of_true ?_ haccepts
      dsimp only
      split
      · rfl
      · rw [if_pos (.inl (by decide))]
    · rw [if_neg haccepts]
      exact iff_of_false (by simp) haccepts

/-- The environment that only says where to listen. -/
def bindEnvironment (bind : Option String) : Environment where
  var key := if key = "REPUBLISHER_BIND" then bind else none
  resolvePasswordEnv mqtt := (false, mqtt)
  parseObject _ := none
  parsePoints _ := none

/-- A daemon on the wildcard address of IPv6 is met, with the port from the environment. -/
theorem ipv6_wildcard_is_met :
    ∃ probe, probeAddr (bindEnvironment (some "[::]:9000")) = some probe ∧
      ∀ l : Listener, (SocketAddr.v6 0 9000 0).Binds l → l.Accepts probe := by
  have hstart : (Command.parse none none ["--config", "/data/config.toml"]).options
      (bindEnvironment (some "[::]:9000")) (.error "no config directory") =
        some ⟨.v6 0 9000 0, "/data/config.toml", none⟩ := by decide +kernel
  refine (healthcheck_meets_daemon_iff hstart).mpr ⟨by decide, ?_, ?_⟩
  · exact .inr (.inr (by decide))
  · exact fun hcli => by cases hcli

/-- A daemon on the address of one interface is not met, and neither is one on another port
that the command line names: the check of a healthy daemon fails. -/
theorem interface_and_port_not_met :
    let inner := bindEnvironment (some "192.168.1.20:8080")
    let image := bindEnvironment (some "0.0.0.0:8080")
    (Command.parse none none []).options inner (.ok "/data/config.toml") =
        some ⟨.v4 0xc0a80114 8080, "/data/config.toml", none⟩ ∧
      probeAddr inner = some (.v4 0x7f000001 8080) ∧
      ¬ Listener.Accepts ⟨.v4 0xc0a80114, 8080⟩ (.v4 0x7f000001 8080) ∧
      (healthcheck inner (Listener.answers ⟨.v4 0xc0a80114, 8080⟩)).1 = .failure ∧
      (Command.parse none none ["--bind", "0.0.0.0:9000"]).options image
          (.ok "/data/config.toml") = some ⟨.v4 0 9000, "/data/config.toml", none⟩ ∧
      probeAddr image = some (.v4 0x7f000001 8080) ∧
      (healthcheck image (Listener.answers ⟨.v4 0, 9000⟩)).1 = .failure := by
  decide +kernel

end Republisher
