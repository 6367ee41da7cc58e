import Republisher.Json
import Mathlib.Data.List.Basic

/-!
# Session authentication

One admin credential, session tokens with an expiry and a budget of login
failures for each peer address. Clock readings are arguments, and so is the token
that the random generator yields for a new session.
-/

namespace Republisher

/-- A reading of the monotonic clock, in nanoseconds. -/
abbrev Instant := ℕ

/-- `Duration::from_secs`. -/
def fromSecs (secs : ℕ) : ℕ := secs * 1000000000

/-- `SESSION_COOKIE`. -/
def sessionCookie : String := "republisher_sid"

/-- `SESSION_TTL`. -/
def sessionTtl : ℕ := fromSecs (24 * 60 * 60)

/-- `LOGIN_WINDOW`. -/
def loginWindow : ℕ := fromSecs 60

/-- `LOGIN_MAX_FAILURES`. -/
def loginMaxFailures : ℕ := 10

/-- `IpAddr`. -/
inductive IpAddr
  | v4 (bits : BitVec 32)
  | v6 (bits : BitVec 128)
  deriving DecidableEq

/-- `Credential`. -/
inductive Credential
  | plain (expected : String)
  | hash (phc : String)
  deriving DecidableEq

/-- `HashMap<K, V>`, by what is stored under each key. -/
abbrev HashMap (κ ν : Type) := κ → Option ν

namespace HashMap

variable {κ ν : Type} [DecidableEq κ]

/-- `HashMap::insert`. -/
def insert (key : κ) (value : ν) (m : HashMap κ ν) : HashMap κ ν :=
  fun k => if k = key then some value else m k

/-- `HashMap::remove`. -/
def remove (key : κ) (m : HashMap κ ν) : HashMap κ ν :=
  fun k => if k = key then none else m k

omit [DecidableEq κ] in
/-- `HashMap::retain`, where the closure may change the values it keeps. -/
def retain (keep : κ → ν → Option ν) (m : HashMap κ ν) : HashMap κ ν :=
  fun k => (m k).bind (keep k)

end HashMap

/-- `Auth`. -/
structure Auth where
  required : Bool
  cookieSecure : Bool
  credential : Option Credential
  /-- The expiry of each session token. -/
  sessions : HashMap String Instant
  /-- The recent login failures of each peer. -/
  failures : HashMap IpAddr (List Instant)

namespace Auth

/-- `verify_password`, given how a password is checked against a hash. -/
def verifyPassword (verifyHash : String → String → Bool) (candidate : String) (auth : Auth) :
    Bool :=
  match auth.credential with
  | none => false
  | some (.plain expected) => expected == candidate
  | some (.hash phc) => verifyHash phc candidate

/-- `create_session`. -/
def createSession (now : Instant) (token : String) (auth : Auth) : Auth :=
  let sessions : HashMap String Instant := HashMap.retain
    (fun _ expiry => if now < expiry then some expiry else none) auth.sessions
  { auth with sessions := HashMap.insert token (now + sessionTtl) sessions }

/-- `check_session`. An expired session is removed. -/
def checkSession (now : Instant) (token : String) (auth : Auth) : Bool × Auth :=
  match auth.sessions token with
  | some expiry =>
      if now < expiry then (true, auth)
      else (false, { auth with sessions := HashMap.remove token auth.sessions })
  | none => (false, auth)

/-- `remove_session`. -/
def removeSession (token : String) (auth : Auth) : Auth :=
  { auth with sessions := HashMap.remove token auth.sessions }

/-- The login attempts that still count. -/
def recent (now : Instant) (attempts : List Instant) : List Instant :=
  attempts.filter fun attempt => now - attempt < loginWindow

/-- `throttled`. It forgets the attempts of this peer that no longer count. -/
def throttled (now : Instant) (ip : IpAddr) (auth : Auth) : Bool × Auth :=
  match auth.failures ip with
  | some attempts =>
      let attempts := recent now attempts
      (loginMaxFailures ≤ attempts.length,
        { auth with failures := HashMap.insert ip attempts auth.failures })
  | none => (false, auth)

/-- `record_failure`. It forgets what no longer counts for any peer. -/
def recordFailure (now : Instant) (ip : IpAddr) (auth : Auth) : Auth :=
  let failures : HashMap IpAddr (List Instant) :=
    HashMap.insert ip ((auth.failures ip).getD [] ++ [now]) auth.failures
  { auth with
    failures := HashMap.retain
      (fun _ attempts =>
        let attempts := recent now attempts
        if attempts.isEmpty then none else some attempts) failures }

/-- The attribute that restricts the cookie to TLS. -/
def secureAttribute (auth : Auth) : String := if auth.cookieSecure then "; Secure" else ""

/-- `session_cookie`. -/
def sessionCookie (token : String) (auth : Auth) : String :=
  Republisher.sessionCookie ++ "=" ++ token ++ "; Path=/; HttpOnly; SameSite=Strict" ++
    auth.secureAttribute

/-- `clear_cookie`. -/
def clearCookie (auth : Auth) : String :=
  Republisher.sessionCookie ++ "=; Path=/; HttpOnly; SameSite=Strict; Max-Age=0" ++
    auth.secureAttribute

/-- The session is stored and has not expired. -/
def Live (auth : Auth) (now : Instant) (token : String) : Prop :=
  ∃ expiry, auth.sessions token = some expiry ∧ now < expiry

/-- `check_session` answers whether the session is live. -/
theorem checkSession_fst (now : Instant) (token : String) (auth : Auth) :
    (auth.checkSession now token).1 = true ↔ auth.Live now token := by
  unfold checkSession Live
  cases hstored : auth.sessions token with
  | none => simp
  | some expiry =>
    by_cases hexpiry : now < expiry
    · simp [hexpiry]
    · simp [hexpiry]

/-- Checking a session changes nothing but the stored sessions. -/
theorem checkSession_rest (now : Instant) (token : String) (auth : Auth) :
    ∃ sessions, (auth.checkSession now token).2 = { auth with sessions } := by
  unfold checkSession
  split
  · split
    · exact ⟨auth.sessions, rfl⟩
    · exact ⟨_, rfl⟩
  · exact ⟨auth.sessions, rfl⟩

/-- Checking a session ends none that is live now, and makes none live, at any later time. -/
theorem checkSession_live {now later : Instant} (hlater : now ≤ later) (token other : String)
    (auth : Auth) :
    (auth.checkSession now token).2.Live later other ↔ auth.Live later other := by
  unfold checkSession
  cases hstored : auth.sessions token with
  | none => exact Iff.rfl
  | some expiry =>
    by_cases hexpiry : now < expiry
    · simp only [hexpiry, if_true]
    · simp only [hexpiry, if_false, Live, HashMap.remove]
      by_cases hother : other = token
      · subst hother
        rw [if_pos rfl, hstored]
        constructor
        · rintro ⟨_, h, -⟩
          cases h
        · rintro ⟨_, h, hlive⟩
          obtain rfl := Option.some.inj h
          exact absurd (Nat.lt_of_le_of_lt hlater hlive) hexpiry
      · rw [if_neg hother]

end Auth

/-- `str::split_once` on the characters of a string. -/
def splitOnce (c : Char) : List Char → Option (List Char × List Char)
  | [] => none
  | d :: cs =>
      if d = c then some ([], cs)
      else (splitOnce c cs).map fun (before, after) => (d :: before, after)

/-- The pairs of a `Cookie` header, trimmed. -/
def cookiePairs (header : String) : List (List Char) :=
  (header.toList.splitOn ';').map trimChars

/-- `session_from_cookie_header`. -/
def sessionFromCookieHeader (header : String) : Option String :=
  (cookiePairs header).findSome? fun pair =>
    (splitOnce '=' pair).bind fun (name, value) =>
      if name = sessionCookie.toList then some (String.ofList value) else none

example : sessionFromCookieHeader "a=b; republisher_sid=tok123; c=d" = some "tok123" := by decide

example : sessionFromCookieHeader "a=b" = none := by decide

end Republisher
