import Republisher.Sessions
import Republisher.Throttle

/-!
# Login failures against the history of calls

A call about one peer prunes the failures of that peer or of all peers, by the clock as it
is then. What counts at any later time is what counts in the history of all failures, and
what `record_failure` leaves in the map is in the window that ends when it returns.
-/

namespace Republisher

/-- A call about login failures. -/
inductive FailureCall
  | throttled (now : Instant) (ip : IpAddr)
  /-- `elapsed` passes between the two readings of the clock. -/
  | recordFailure (now elapsed : Instant) (ip : IpAddr)

namespace FailureCall

/-- What the call leaves. -/
def run (auth : Auth) : FailureCall → Auth
  | throttled now ip => (auth.throttled now ip).2
  | recordFailure now elapsed ip => auth.recordFailureAt now elapsed ip

/-- The time of the failure that the call records for the peer. -/
def failure (peer : IpAddr) : FailureCall → Option Instant
  | throttled _ _ => none
  | recordFailure now _ ip => if ip = peer then some now else none

/-- The first reading of the clock in the call. -/
def start : FailureCall → Instant
  | throttled now _ => now
  | recordFailure now _ _ => now

/-- The last reading of the clock in the call. -/
def finish : FailureCall → Instant
  | throttled now _ => now
  | recordFailure now elapsed _ => now + elapsed

end FailureCall

namespace FailureCalls

/-- What the calls leave, one after the other. -/
def run (auth : Auth) (calls : List FailureCall) : Auth := calls.foldl FailureCall.run auth

/-- Every failure of the peer that was ever recorded, oldest first. -/
def history (calls : List FailureCall) (peer : IpAddr) : List Instant :=
  calls.filterMap (FailureCall.failure peer)

/-- The readings of the clock in the calls never decrease. -/
def Clocked (calls : List FailureCall) : Prop :=
  calls.Pairwise fun earlier later => earlier.finish ≤ later.start

instance (calls : List FailureCall) : Decidable (Clocked calls) :=
  inferInstanceAs (Decidable (List.Pairwise _ calls))

/-- One more call. -/
theorem run_concat (auth : Auth) (calls : List FailureCall) (call : FailureCall) :
    run auth (calls ++ [call]) = call.run (run auth calls) := List.foldl_append

/-- The history after one more call. -/
theorem history_concat (calls : List FailureCall) (call : FailureCall) (peer : IpAddr) :
    history (calls ++ [call]) peer = history calls peer ++ (call.failure peer).toList := by
  unfold history
  rw [List.filterMap_append]
  cases hcall : call.failure peer with
  | none => simp [hcall]
  | some t => simp [hcall]

/-- The calls up to the last, and then the last. -/
theorem clocked_concat {calls : List FailureCall} {call : FailureCall} :
    Clocked (calls ++ [call]) ↔ Clocked calls ∧ ∀ earlier ∈ calls, earlier.finish ≤ call.start := by
  unfold Clocked
  rw [List.pairwise_append]
  simp

/-- A call adds the failure it records to those that count later. -/
theorem recentFailures_run (call : FailureCall) {later : Instant} (hlater : call.finish ≤ later)
    (peer : IpAddr) (auth : Auth) :
    (call.run auth).recentFailures later peer =
      auth.recentFailures later peer ++ Auth.recent later (call.failure peer).toList := by
  cases call with
  | throttled now ip =>
    refine (Auth.throttled_recentFailures hlater ip peer auth).trans ?_
    exact (List.append_nil _).symm
  | recordFailure now elapsed ip =>
    refine (Auth.recordFailureAt_recentFailures hlater ip peer auth).trans ?_
    simp only [FailureCall.failure]
    by_cases hpeer : peer = ip
    · rw [if_pos hpeer, if_pos hpeer.symm]
      rfl
    · rw [if_neg hpeer, if_neg (Ne.symm hpeer)]
      rfl

/-- After any calls, what counts for a peer is what counts of all its failures, whatever was
pruned and whatever was called for other peers. -/
theorem recentFailures_eq {auth : Auth} (hnew : auth.failures = fun _ => none)
    (calls : List FailureCall) {later : Instant} (hlater : ∀ call ∈ calls, call.finish ≤ later)
    (peer : IpAddr) :
    (run auth calls).recentFailures later peer = Auth.recent later (history calls peer) := by
  induction calls using List.reverseRecOn with
  | nil =>
    show Auth.recent later ((auth.failures peer).getD []) = Auth.recent later []
    rw [hnew]
    rfl
  | append_singleton calls call ih =>
    have hcalls := ih fun earlier hearlier => hlater earlier (List.mem_append_left _ hearlier)
    have hcall := hlater call (List.mem_append_right _ (List.mem_singleton.mpr rfl))
    rw [run_concat, history_concat, recentFailures_run call hcall, hcalls, Auth.recent, Auth.recent,
      Auth.recent, List.filter_append]

/-- Every call of a sequence is over before the next reading of the clock. -/
theorem finish_le_start {calls : List FailureCall} {call : FailureCall}
    (hclock : Clocked (calls ++ [call])) : ∀ earlier ∈ calls, earlier.finish ≤ call.start :=
  (clocked_concat.mp hclock).2

/-- What `record_failure` leaves for a peer: the failures that count, if there is one. -/
theorem recordFailureAt_failures (now elapsed : Instant) (ip peer : IpAddr) (auth : Auth)
    {attempts : List Instant}
    (h : (auth.recordFailureAt now elapsed ip).failures peer = some attempts) :
    attempts = (auth.recordFailureAt now elapsed ip).recentFailures (now + elapsed) peer ∧
      attempts ≠ [] := by
  obtain ⟨stored, -, hkept⟩ := Option.bind_eq_some_iff.mp h
  obtain ⟨hnonempty, hattempts⟩ := Option.ite_none_left_eq_some.mp hkept
  obtain rfl := Option.some.inj hattempts
  refine ⟨?_, fun hnil => hnonempty (List.isEmpty_iff.mpr hnil)⟩
  rw [Auth.recentFailures, h, Option.getD_some, Auth.recent_recent (Nat.le_refl _)]

end FailureCalls

/-- In every sequence of calls whose clock does not go back, a peer is throttled exactly when
`LOGIN_MAX_FAILURES` of all its failures happened less than `LOGIN_WINDOW` ago, and after a
failure is recorded each entry of the map holds a failure and only failures of its peer in the
window that ends then. -/
theorem failures_after_calls (required cookieSecure : Bool) (credential : Option Credential)
    (calls : List FailureCall) :
    let auth := FailureCalls.run (.opened required cookieSecure credential) calls
    (∀ now ip, FailureCalls.Clocked (calls ++ [.throttled now ip]) →
      ((auth.throttled now ip).1 = true ↔
        loginMaxFailures ≤
          (FailureCalls.history calls ip).countP fun time => now - time < loginWindow)) ∧
    ∀ now elapsed ip, FailureCalls.Clocked (calls ++ [.recordFailure now elapsed ip]) →
      ∀ peer attempts, (auth.recordFailureAt now elapsed ip).failures peer = some attempts →
        attempts ≠ [] ∧ ∀ time ∈ attempts,
          time ∈ FailureCalls.history (calls ++ [.recordFailure now elapsed ip]) peer ∧
            now + elapsed - time < loginWindow := by
  intro auth
  constructor
  · intro now ip hclock
    rw [Auth.throttled_fst, List.countP_eq_length_filter]
    refine Eq.to_iff (congrArg (fun recent => loginMaxFailures ≤ List.length recent) ?_)
    exact FailureCalls.recentFailures_eq rfl calls (FailureCalls.finish_le_start hclock) ip
  · intro now elapsed ip hclock peer attempts hattempts
    obtain ⟨hrecent, hnonempty⟩ :=
      FailureCalls.recordFailureAt_failures now elapsed ip peer auth hattempts
    refine ⟨hnonempty, fun time htime => ?_⟩
    have hfinished : ∀ call ∈ calls ++ [.recordFailure now elapsed ip],
        call.finish ≤ now + elapsed := by
      intro call hcall
      rcases List.mem_append.mp hcall with hcall | hcall
      · exact Nat.le_trans (FailureCalls.finish_le_start hclock call hcall)
          (Nat.le_add_right now elapsed)
      · obtain rfl := List.mem_singleton.mp hcall
        exact Nat.le_refl _
    have hnew : (Auth.opened required cookieSecure credential).failures = fun _ => none := rfl
    have hhistory := FailureCalls.recentFailures_eq hnew _ hfinished peer
    rw [FailureCalls.run_concat] at hhistory
    have hmem := List.mem_filter.mp (hhistory ▸ hrecent ▸ htime)
    exact ⟨hmem.1, of_decide_eq_true hmem.2⟩

/-- Ten failures within a minute throttle the peer, until the first of them is a minute old. -/
theorem failures_after_ten :
    let auth := FailureCalls.run (.opened true false none)
      ((List.range 10).map fun i => .recordFailure i 0 plainPeer)
    (auth.throttled 9 plainPeer).1 = true ∧
      (auth.throttled (fromSecs 60) plainPeer).1 = false ∧
        (auth.recordFailureAt (fromSecs 60) 0 plainPeer).failures plainPeer ≠ some [0] := by
  have h := failures_after_calls true false none
    ((List.range 10).map fun i => .recordFailure i 0 plainPeer)
  refine ⟨(h.1 9 plainPeer (by decide)).mpr (by decide), ?_, fun hzero => ?_⟩
  · rw [← Bool.not_eq_true, h.1 (fromSecs 60) plainPeer (by decide)]
    decide
  · obtain ⟨-, hrecent⟩ := h.2 (fromSecs 60) 0 plainPeer (by decide) plainPeer [0] hzero
    exact absurd (hrecent 0 (by simp)).2 (by decide)

end Republisher
