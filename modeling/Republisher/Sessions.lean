import Republisher.Auth
import Republisher.Leases
import Mathlib.Data.Nat.Basic

/-!
# Sessions against the history of calls

The stored sessions are pruned whenever one is created or an expired one is checked. From
the reading of the clock at which this happens they answer like the table that is never
pruned, and that table answers what the history of calls says.
-/

namespace Republisher

namespace HashMap

variable {κ ν : Type} [DecidableEq κ]

/-- Inserting a value is updating the function. -/
theorem insert_eq_update (key : κ) (value : ν) (m : HashMap κ ν) :
    HashMap.insert key value m = Function.update m key (some value) := by
  funext k
  rw [Function.update_apply]
  rfl

/-- So is removing one. -/
theorem remove_eq_update (key : κ) (m : HashMap κ ν) :
    HashMap.remove key m = Function.update m key none := by
  funext k
  rw [Function.update_apply]
  rfl

end HashMap

namespace Auth

/-- The sessions and failures that `from_env` starts with. -/
def opened (required cookieSecure : Bool) (credential : Option Credential) : Auth where
  required := required
  cookieSecure := cookieSecure
  credential := credential
  sessions _ := none
  failures _ := none

/-- `create_session`, where the clock is read for each stored session before it is read for
the new one. -/
def createSessionAt (readings : String → Instant) (now : Instant) (token : String)
    (auth : Auth) : Auth :=
  let sessions : HashMap String Instant := HashMap.retain
    (fun token expiry => if readings token < expiry then some expiry else none) auth.sessions
  { auth with sessions := HashMap.insert token (now + sessionTtl) sessions }

/-- When no time passes this is the same session. -/
theorem createSessionAt_const (now : Instant) (token : String) (auth : Auth) :
    auth.createSessionAt (fun _ => now) now token = auth.createSession now token := rfl

end Auth

/-- A call about sessions. -/
inductive SessionCall
  | create (readings : String → Instant) (now : Instant) (token : String)
  | check (now : Instant) (token : String)
  | remove (token : String)

namespace SessionCall

/-- What the call leaves. -/
def run (auth : Auth) : SessionCall → Auth
  | create readings now token => auth.createSessionAt readings now token
  | check now token => (auth.checkSession now token).2
  | remove token => auth.removeSession token

/-- What the call is for its token, pruning apart. -/
def event : SessionCall → Option (Lease.Event String Instant)
  | create _ now token => some (.grant token (now + sessionTtl))
  | check _ _ => none
  | remove token => some (.revoke token)

/-- The clock after the call, which shows the given time before it. -/
def clockAfter (clock : Instant) : SessionCall → Instant
  | create _ now _ => now
  | check now _ => now
  | remove _ => clock

/-- The call does not read an earlier time than the given one, nor does its clock go back. -/
def Clocked (clock : Instant) : SessionCall → Prop
  | create readings now _ => ∀ token, clock ≤ readings token ∧ readings token ≤ now
  | check now _ => clock ≤ now
  | remove _ => True

/-- The clock does not go back. -/
theorem Clocked.le_clockAfter {clock : Instant} {call : SessionCall} (h : call.Clocked clock) :
    clock ≤ call.clockAfter clock := by
  cases call with
  | create readings now token => exact Nat.le_trans (h token).1 (h token).2
  | check now token => exact h
  | remove token => exact Nat.le_refl clock

end SessionCall

namespace SessionCalls

/-- What the calls leave, one after the other. -/
def run (auth : Auth) (calls : List SessionCall) : Auth := calls.foldl SessionCall.run auth

/-- The clock after the calls. -/
def clockAfter (clock : Instant) (calls : List SessionCall) : Instant :=
  calls.foldl SessionCall.clockAfter clock

/-- The readings of the clock in the calls never decrease. -/
def Clocked (clock : Instant) : List SessionCall → Prop
  | [] => True
  | call :: calls => call.Clocked clock ∧ Clocked (call.clockAfter clock) calls

/-- The sessions as they would be if none were ever pruned. -/
def unpruned (calls : List SessionCall) : HashMap String Instant :=
  Lease.replay (calls.filterMap SessionCall.event)

/-- A session with the token was created less than `SESSION_TTL` ago, and was not removed
after that. -/
def Open (calls : List SessionCall) (now : Instant) (token : String) : Prop :=
  ∃ before readings created after, calls = before ++ .create readings created token :: after ∧
    now < created + sessionTtl ∧ .remove token ∉ after

/-- The calls up to the last, and then the last. -/
theorem clocked_concat {clock : Instant} {calls : List SessionCall} {call : SessionCall} :
    Clocked clock (calls ++ [call]) ↔
      Clocked clock calls ∧ call.Clocked (clockAfter clock calls) := by
  induction calls generalizing clock with
  | nil => simp [Clocked, clockAfter]
  | cons first calls ih =>
    rw [List.cons_append, Clocked, ih, Clocked, and_assoc]
    rfl

/-- One more call. -/
theorem run_concat (auth : Auth) (calls : List SessionCall) (call : SessionCall) :
    run auth (calls ++ [call]) = call.run (run auth calls) := List.foldl_append

/-- The clock after one more call. -/
theorem clockAfter_concat (clock : Instant) (calls : List SessionCall) (call : SessionCall) :
    clockAfter clock (calls ++ [call]) = call.clockAfter (clockAfter clock calls) :=
  List.foldl_append

/-- The unpruned sessions after one more call. -/
theorem unpruned_concat (calls : List SessionCall) (call : SessionCall) :
    unpruned (calls ++ [call]) = call.event.elim (unpruned calls) (·.apply (unpruned calls)) := by
  unfold unpruned
  rw [List.filterMap_append]
  cases hevent : call.event with
  | none => simp [hevent]
  | some e =>
    rw [List.filterMap_cons_some hevent, List.filterMap_nil, Lease.replay_concat]
    rfl

/-- What creating a session prunes has ended. -/
theorem forgets_retain {readings : String → Instant} {now : Instant}
    (h : ∀ token, readings token ≤ now) (sessions : HashMap String Instant) :
    Lease.Forgets now sessions (HashMap.retain
      (fun token expiry => if readings token < expiry then some expiry else none) sessions) := by
  intro token
  unfold HashMap.retain
  cases hstored : sessions token with
  | none => exact .inl rfl
  | some expiry =>
    by_cases hlive : readings token < expiry
    · exact .inl (if_pos hlive)
    · refine .inr ⟨if_neg hlive, fun ends hends => ?_⟩
      obtain rfl := Option.some.inj hends
      exact Nat.le_trans (Nat.le_of_not_lt hlive) (h token)

/-- What checking a session prunes has ended. -/
theorem forgets_check (now : Instant) (token : String) (auth : Auth) :
    Lease.Forgets now auth.sessions (auth.checkSession now token).2.sessions := by
  intro other
  unfold Auth.checkSession
  cases hstored : auth.sessions token with
  | none => exact .inl rfl
  | some expiry =>
    by_cases hlive : now < expiry
    · simp only [hlive, if_true]
      exact .inl trivial
    · simp only [hlive, if_false, HashMap.remove]
      by_cases hother : other = token
      · subst hother
        rw [if_pos rfl]
        refine .inr ⟨rfl, fun ends hends => ?_⟩
        obtain rfl := Option.some.inj (hstored.symm.trans hends)
        exact Nat.le_of_not_lt hlive
      · exact .inl (if_neg hother)

/-- A call keeps the stored sessions in agreement with the unpruned ones. -/
theorem sameFrom_run {clock : Instant} {auth : Auth} {kept : HashMap String Instant}
    (h : Lease.SameFrom clock auth.sessions kept) {call : SessionCall}
    (hclock : call.Clocked clock) :
    Lease.SameFrom (call.clockAfter clock) (call.run auth).sessions
      (call.event.elim kept (·.apply kept)) := by
  have hlater := h.later hclock.le_clockAfter
  cases call with
  | create readings now token =>
    show Lease.SameFrom now (HashMap.insert token _ _) (Function.update kept token _)
    rw [HashMap.insert_eq_update]
    exact (hlater.forget (forgets_retain (fun other => (hclock other).2) _)).update token _
  | check now token => exact hlater.forget (forgets_check now token auth)
  | remove token =>
    show Lease.SameFrom clock (HashMap.remove token auth.sessions) (Function.update kept token none)
    rw [HashMap.remove_eq_update]
    exact h.update token none

/-- After any calls the stored sessions answer as if none had been pruned. -/
theorem sameFrom_unpruned {clock : Instant} {auth : Auth} (hnew : auth.sessions = fun _ => none)
    {calls : List SessionCall} (hclock : Clocked clock calls) :
    Lease.SameFrom (clockAfter clock calls) (run auth calls).sessions (unpruned calls) := by
  induction calls using List.reverseRecOn with
  | nil =>
    show Lease.SameFrom clock auth.sessions fun _ => none
    rw [hnew]
    exact .refl clock _
  | append_singleton calls call ih =>
    obtain ⟨hcalls, hcall⟩ := clocked_concat.mp hclock
    rw [run_concat, clockAfter_concat, unpruned_concat]
    exact sameFrom_run (ih hcalls) hcall

/-- No session of the calls ends later than one that would be created now. -/
theorem ends_le {clock : Instant} {calls : List SessionCall} (hclock : Clocked clock calls)
    {ends : Instant}
    (hends : ends ∈ (calls.filterMap SessionCall.event).filterMap Lease.Event.ends) :
    ends ≤ clockAfter clock calls + sessionTtl := by
  induction calls using List.reverseRecOn with
  | nil => cases hends
  | append_singleton calls call ih =>
    obtain ⟨hcalls, hcall⟩ := clocked_concat.mp hclock
    rw [clockAfter_concat]
    rw [List.filterMap_append, List.filterMap_append, List.mem_append] at hends
    rcases hends with hends | hends
    · exact Nat.le_trans (ih hcalls hends) (Nat.add_le_add_right hcall.le_clockAfter _)
    · cases call with
      | create readings now token => exact Nat.le_of_eq (List.mem_singleton.mp hends)
      | check | remove => cases hends

/-- Later sessions do not end earlier. -/
theorem pairwise_ends {clock : Instant} {calls : List SessionCall} (hclock : Clocked clock calls) :
    ((calls.filterMap SessionCall.event).filterMap Lease.Event.ends).Pairwise (· ≤ ·) := by
  induction calls using List.reverseRecOn with
  | nil => exact .nil
  | append_singleton calls call ih =>
    obtain ⟨hcalls, hcall⟩ := clocked_concat.mp hclock
    rw [List.filterMap_append, List.filterMap_append, List.pairwise_append]
    refine ⟨ih hcalls, ?_, fun earlier hearlier ends hends => ?_⟩
    · cases call with
      | create readings now token => exact List.pairwise_singleton _ _
      | check | remove => exact .nil
    · cases call with
      | create readings now token =>
        obtain rfl := List.mem_singleton.mp hends
        exact Nat.le_trans (ends_le hcalls hearlier)
          (Nat.add_le_add_right hcall.le_clockAfter _)
      | check | remove => cases hends

/-- A grant in the history is a session that was created. -/
theorem granted_iff_open {calls : List SessionCall} {now : Instant} {token : String} :
    Lease.Granted (calls.filterMap SessionCall.event) now token ↔ Open calls now token := by
  have hrevoke (after : List SessionCall) :
      .revoke token ∈ after.filterMap SessionCall.event ↔ .remove token ∈ after := by
    rw [List.mem_filterMap]
    constructor
    · rintro ⟨call, hcall, hevent⟩
      cases call with
      | remove other =>
        obtain rfl := Lease.Event.revoke.inj (Option.some.inj hevent)
        exact hcall
      | create | check => cases hevent
    · exact fun h => ⟨_, h, rfl⟩
  constructor
  · rintro ⟨before, ends, after, hsplit, hlive, hafter⟩
    obtain ⟨earlier, rest, rfl, -, hrest⟩ := List.filterMap_eq_append_iff.mp hsplit
    obtain ⟨skipped, call, later, rfl, hskipped, hcall, rfl⟩ :=
      List.filterMap_eq_cons_iff.mp hrest
    cases call with
    | create readings created other =>
      obtain ⟨rfl, rfl⟩ := Lease.Event.grant.inj (Option.some.inj hcall)
      refine ⟨earlier ++ skipped, readings, created, later, by simp, hlive, ?_⟩
      rwa [← hrevoke]
    | check | remove => cases hcall
  · rintro ⟨before, readings, created, after, rfl, hlive, hafter⟩
    refine ⟨before.filterMap SessionCall.event, created + sessionTtl,
      after.filterMap SessionCall.event, ?_, hlive, by rwa [hrevoke]⟩
    rw [List.filterMap_append]
    rfl

end SessionCalls

/-- In every sequence of calls whose clock does not go back, `check_session` answers `true`
exactly for the sessions that were created less than `SESSION_TTL` ago and not removed since,
and it answers what it would answer if no session had ever been pruned. -/
theorem checkSession_after_calls (required cookieSecure : Bool) (credential : Option Credential)
    (clock : Instant) (calls : List SessionCall) (now : Instant) (token : String)
    (hclock : SessionCalls.Clocked clock (calls ++ [.check now token])) :
    let auth := SessionCalls.run (.opened required cookieSecure credential) calls
    ((auth.checkSession now token).1 = true ↔ SessionCalls.Open calls now token) ∧
      ((auth.checkSession now token).1 = true ↔
        ∃ expiry, SessionCalls.unpruned calls token = some expiry ∧ now < expiry) := by
  intro auth
  obtain ⟨hcalls, hnow⟩ := SessionCalls.clocked_concat.mp hclock
  have hunpruned : (auth.checkSession now token).1 = true ↔
      Lease.Live (SessionCalls.unpruned calls) now token := by
    rw [Auth.checkSession_fst]
    exact SessionCalls.sameFrom_unpruned rfl hcalls now hnow token
  refine ⟨?_, hunpruned⟩
  rw [hunpruned, SessionCalls.unpruned,
    Lease.live_replay_iff (SessionCalls.pairwise_ends hcalls)]
  exact SessionCalls.granted_iff_open

/-- Two sessions, one of which is removed; the other is open until a day has passed. -/
theorem checkSession_after_two_logins :
    let auth := SessionCalls.run (.opened true false (some (.plain "hunter2hunter2")))
      [.create (fun _ => 0) 3 "a", .create (fun _ => 5) 5 "b", .check 6 "b", .remove "b"]
    (auth.checkSession (fromSecs 86400) "a").1 = true ∧
      (auth.checkSession (fromSecs 86400) "b").1 = false := by
  have ha := checkSession_after_calls true false (some (.plain "hunter2hunter2")) 0
    [.create (fun _ => 0) 3 "a", .create (fun _ => 5) 5 "b", .check 6 "b", .remove "b"]
    (fromSecs 86400) "a"
    ⟨fun _ => ⟨Nat.le_refl 0, Nat.zero_le 3⟩, fun _ => ⟨(by decide : 3 ≤ 5), Nat.le_refl 5⟩,
      (by decide : 5 ≤ 6), trivial, (by decide : 6 ≤ fromSecs 86400), trivial⟩
  refine ⟨ha.1.mpr ⟨[], _, 3, _, rfl, by decide, by simp⟩, by decide⟩

end Republisher
