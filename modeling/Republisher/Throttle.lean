import Republisher.Http
import Republisher.Transition
import Republisher.Window

/-!
# The login throttle under concurrent requests

A login request asks whether its peer is throttled, verifies the password and records a
failure in three steps, and other requests run in between. Requests that have passed the
check and have not recorded their failure yet are not seen by the check of the next one.
-/

namespace Republisher

/-! ## The steps of a login -/

namespace Auth

/-- `record_failure`, where `elapsed` passes between its two readings of the clock. -/
def recordFailureAt (now elapsed : Instant) (ip : IpAddr) (auth : Auth) : Auth :=
  let failures : HashMap IpAddr (List Instant) :=
    HashMap.insert ip ((auth.failures ip).getD [] ++ [now]) auth.failures
  { auth with
    failures := HashMap.retain
      (fun _ attempts =>
        let attempts := recent (now + elapsed) attempts
        if attempts.isEmpty then none else some attempts) failures }

/-- When no time passes this is the same failure. -/
theorem recordFailureAt_zero (now : Instant) (ip : IpAddr) (auth : Auth) :
    auth.recordFailureAt now 0 ip = auth.recordFailure now ip := rfl

/-- The failures of a peer that still count. -/
def recentFailures (auth : Auth) (now : Instant) (ip : IpAddr) : List Instant :=
  recent now ((auth.failures ip).getD [])

/-- A peer is throttled when too many of its failures still count. -/
theorem throttled_fst (now : Instant) (ip : IpAddr) (auth : Auth) :
    (auth.throttled now ip).1 = true ↔ loginMaxFailures ≤ (auth.recentFailures now ip).length := by
  unfold throttled recentFailures
  cases auth.failures ip with
  | none => simp [recent, loginMaxFailures]
  | some attempts => simp

/-- What counts later counts now. -/
theorem recent_recent {now later : Instant} (h : now ≤ later) (attempts : List Instant) :
    recent later (recent now attempts) = recent later attempts := by
  unfold recent
  rw [List.filter_filter]
  refine List.filter_congr fun attempt _ => ?_
  rw [Bool.and_eq_left_iff_imp, decide_eq_true_eq, decide_eq_true_eq]
  exact Nat.lt_of_le_of_lt (Nat.sub_le_sub_right h attempt)

/-- Asking forgets no failure that counts later. -/
theorem throttled_recentFailures {now later : Instant} (h : now ≤ later) (ip other : IpAddr)
    (auth : Auth) :
    (auth.throttled now ip).2.recentFailures later other = auth.recentFailures later other := by
  unfold throttled recentFailures
  cases hattempts : auth.failures ip with
  | none => rfl
  | some attempts =>
    by_cases hother : other = ip
    · subst hother
      simp only [HashMap.insert, if_true, hattempts, Option.getD_some]
      exact recent_recent h attempts
    · simp only [HashMap.insert, if_neg hother]

/-- A recorded failure is added to those of its peer that count later. -/
theorem recordFailureAt_recentFailures {now elapsed later : Instant} (h : now + elapsed ≤ later)
    (ip other : IpAddr) (auth : Auth) :
    (auth.recordFailureAt now elapsed ip).recentFailures later other =
      auth.recentFailures later other ++ if other = ip then recent later [now] else [] := by
  have hkept (attempts : List Instant) :
      recent later ((if (recent (now + elapsed) attempts).isEmpty then none
        else some (recent (now + elapsed) attempts)).getD []) = recent later attempts := by
    by_cases hempty : (recent (now + elapsed) attempts).isEmpty = true
    · rw [if_pos hempty, Option.getD_none, ← recent_recent h attempts,
        List.isEmpty_iff.mp hempty]
    · rw [if_neg hempty, Option.getD_some, recent_recent h]
  unfold recordFailureAt recentFailures
  by_cases hother : other = ip
  · subst hother
    simp only [HashMap.retain, HashMap.insert, if_true, Option.bind_some]
    rw [hkept, recent, List.filter_append]
    rfl
  · simp only [HashMap.retain, HashMap.insert, if_neg hother, List.append_nil]
    cases auth.failures other with
    | none => rfl
    | some attempts => exact hkept attempts

/-- Asking whether a peer is throttled leaves the credential alone. -/
theorem throttled_credential (now : Instant) (ip : IpAddr) (auth : Auth) :
    (auth.throttled now ip).2.credential = auth.credential := by
  unfold throttled
  split <;> rfl

/-- The password check looks at the credential alone. -/
theorem verifyPassword_congr {auth other : Auth} (h : other.credential = auth.credential)
    (verifyHash : String → String → Bool) (candidate : String) :
    other.verifyPassword verifyHash candidate = auth.verifyPassword verifyHash candidate := by
  unfold verifyPassword
  rw [h]

end Auth

/-- How far a login request is. -/
inductive Stage
  /-- It has been answered without a failure to record. -/
  | answered
  | checked
  | right
  | wrong (verified : Instant)
  | recorded (verified written : Instant)
  deriving DecidableEq

/-- A login request that has been checked, with the time of the check. -/
structure Attempt where
  peer : IpAddr
  password : String
  checkedAt : Instant
  stage : Stage
  deriving DecidableEq

/-- The sessions and failures, the clock and the login requests in the order of their checks. -/
structure LoginState where
  auth : Auth
  now : Instant
  attempts : List Attempt

/-- What happens next: time passes, or a login request makes a step. -/
inductive LoginLabel
  | tick (elapsed : Instant)
  | check (peer : IpAddr) (password : String)
  | verify (i : ℕ)
  | grant (i : ℕ) (token : String)
  | record (i : ℕ) (elapsed : Instant)

/-- Request `i` goes on to the given stage. -/
def LoginState.goOn (s : LoginState) (i : ℕ) (a : Attempt) (stage : Stage) : LoginState :=
  { s with attempts := s.attempts.set i { a with stage } }

/-- One step of `login` for some request, or of the clock. -/
def loginStep (verifyHash : String → String → Bool) (s : LoginState) :
    LoginLabel → Option LoginState
  | .tick elapsed => some { s with now := s.now + elapsed }
  | .check peer password =>
      if s.auth.required then
        let (throttled, auth) := s.auth.throttled s.now peer
        let stage := if throttled then .answered else .checked
        some { s with auth, attempts := s.attempts ++ [⟨peer, password, s.now, stage⟩] }
      else some { s with attempts := s.attempts ++ [⟨peer, password, s.now, .answered⟩] }
  | .verify i =>
      match s.attempts[i]? with
      | some ⟨peer, password, checkedAt, .checked⟩ =>
          let stage :=
            if s.auth.verifyPassword verifyHash password then .right else .wrong s.now
          some (s.goOn i ⟨peer, password, checkedAt, .checked⟩ stage)
      | _ => none
  | .grant i token =>
      match s.attempts[i]? with
      | some ⟨peer, password, checkedAt, .right⟩ =>
          some { s.goOn i ⟨peer, password, checkedAt, .right⟩ .answered with
            auth := s.auth.createSession s.now token }
      | _ => none
  | .record i elapsed =>
      match s.attempts[i]? with
      | some ⟨peer, password, checkedAt, .wrong verified⟩ =>
          some { s.goOn i ⟨peer, password, checkedAt, .wrong verified⟩
              (.recorded verified s.now) with
            auth := s.auth.recordFailureAt s.now elapsed peer
            now := s.now + elapsed }
      | _ => none

/-- The steps that a request makes when nothing runs in between are those of the handler. -/
theorem login_eq_run {Disk : Type} (verifyHash : String → String → Bool) (now : Instant)
    (token : String) (peer : IpAddr) (password : String) (s : HttpState Disk) :
    ∃ ls a, Transition.run (loginStep verifyHash) ⟨s.auth, now, []⟩ (.check peer password :: ls) =
      some ⟨(login verifyHash now token peer password s).2.auth, now, [a]⟩ ∧
      (ls = [] ∨ ls = [.verify 0, .grant 0 token] ∨ ls = [.verify 0, .record 0 0]) := by
  unfold login
  by_cases hrequired : s.auth.required = true
  · cases hthrottled : (s.auth.throttled now peer).1 with
    | true =>
      refine ⟨[], ⟨peer, password, now, .answered⟩, ?_, .inl rfl⟩
      simp [Transition.run, loginStep, hrequired, hthrottled]
    | false =>
      cases hpassword : (s.auth.throttled now peer).2.verifyPassword verifyHash password with
      | true =>
        refine ⟨[.verify 0, .grant 0 token], ⟨peer, password, now, .answered⟩, ?_, .inr (.inl rfl)⟩
        simp [Transition.run, loginStep, LoginState.goOn, hrequired, hthrottled, hpassword]
      | false =>
        refine ⟨[.verify 0, .record 0 0], ⟨peer, password, now, .recorded now now⟩, ?_,
          .inr (.inr rfl)⟩
        simp [Transition.run, loginStep, LoginState.goOn, hrequired, hthrottled, hpassword,
          Auth.recordFailureAt_zero]
  · refine ⟨[], ⟨peer, password, now, .answered⟩, ?_, .inl rfl⟩
    simp [Transition.run, loginStep, hrequired]

/-! ## The property and the condition -/

/-- When the password of a request was found to be wrong. -/
def Attempt.verifiedWrong (a : Attempt) : Option Instant :=
  match a.stage with
  | .wrong verified | .recorded verified _ => some verified
  | _ => none

/-- The request has passed the check and its password will be found to be wrong. -/
def Attempt.mayFail (verifyHash : String → String → Bool) (auth : Auth) (a : Attempt) : Bool :=
  a.stage = .checked && !auth.verifyPassword verifyHash a.password

/-- The failure of the request is in the list of its peer and counts at `now`. -/
def Attempt.writtenRecently (now : Instant) (a : Attempt) : Bool :=
  match a.stage with
  | .recorded _ written => now - written < loginWindow
  | _ => false

/-- The request has passed the check and has yet to record its failure. -/
def Attempt.inFlight (verifyHash : String → String → Bool) (auth : Auth) (a : Attempt) : Bool :=
  match a.stage with
  | .checked => !auth.verifyPassword verifyHash a.password
  | .wrong _ => true
  | _ => false

/-- The login requests as entries of a limiter. -/
def loginEntries (verifyHash : String → String → Bool) (auth : Auth) :
    Window.Entries Attempt IpAddr :=
  ⟨Attempt.peer, Attempt.checkedAt, Attempt.verifiedWrong, Attempt.mayFail verifyHash auth⟩

/-- The number of wrong passwords from a peer that were verified from `first` to `last`. -/
def LoginState.wrongVerified (s : LoginState) (peer : IpAddr) (first last : Instant) : ℕ :=
  s.attempts.countP fun a => decide (a.peer = peer) && match a.verifiedWrong with
    | some verified => first ≤ verified && verified ≤ last
    | none => false

/-- In no window shorter than `LOGIN_WINDOW` are more than `LOGIN_MAX_FAILURES` wrong passwords
from one peer verified. -/
def LoginState.Bounded (s : LoginState) : Prop :=
  ∀ peer first last, last - first < loginWindow →
    s.wrongVerified peer first last ≤ loginMaxFailures

/-- A request with a wrong password passes the check only while the failures of its peer that
count and those of its peer's requests that have yet to record one are within the budget. -/
def ChecksCountInFlight (verifyHash : String → String → Bool) (s : LoginState) :
    LoginLabel → LoginState → Prop
  | .check peer password, _ =>
      s.auth.required = true → s.auth.verifyPassword verifyHash password = false →
        (s.auth.recentFailures s.now peer).length < loginMaxFailures →
        (s.auth.recentFailures s.now peer).length +
          s.attempts.countP (fun a => decide (a.peer = peer) && a.inFlight verifyHash s.auth) <
            loginMaxFailures
  | _, _ => True

instance (verifyHash : String → String → Bool) (s : LoginState) (l : LoginLabel)
    (t : LoginState) : Decidable (ChecksCountInFlight verifyHash s l t) :=
  match l with
  | .check _ _ => inferInstanceAs (Decidable (_ → _ → _ → _))
  | .tick _ | .verify _ | .grant _ _ | .record _ _ => isTrue trivial

/-! ## The invariant -/

/-- The requests respect the limit, times are in order, and every failure that was recorded
and still counts is in the list of its peer. -/
structure Limiting (verifyHash : String → String → Bool) (s : LoginState) : Prop where
  limited : Window.Limited (loginEntries verifyHash s.auth) loginWindow loginMaxFailures s.attempts
  past : ∀ a ∈ s.attempts, a.checkedAt ≤ s.now
  verified : ∀ a ∈ s.attempts, ∀ t, a.verifiedWrong = some t → t ≤ s.now
  written : ∀ a ∈ s.attempts, ∀ t u, a.stage = .recorded t u → t ≤ u
  kept : ∀ peer later, s.now ≤ later →
    s.attempts.countP (fun a => decide (a.peer = peer) && a.writtenRecently later) ≤
      (s.auth.recentFailures later peer).length

/-- The limit does not depend on sessions and failures. -/
theorem loginEntries_congr (verifyHash : String → String → Bool) {auth other : Auth}
    (h : other.credential = auth.credential) :
    loginEntries verifyHash other = loginEntries verifyHash auth := by
  have hmay : Attempt.mayFail verifyHash other = Attempt.mayFail verifyHash auth := by
    funext a
    rw [Attempt.mayFail, Auth.verifyPassword_congr h, Attempt.mayFail]
  rw [loginEntries, hmay, loginEntries]

/-- Requests that respect the limit are bounded in every window. -/
theorem Limiting.bounded {verifyHash : String → String → Bool} {s : LoginState}
    (h : Limiting verifyHash s) : s.Bounded :=
  fun peer _ _ hwindow => h.limited.countP_hitIn_le peer hwindow

/-- The steps of a request that has passed the check. -/
inductive GoesOn (verifyHash : String → String → Bool) (s : LoginState) (a : Attempt) : Stage → Prop
  | right : a.stage = .checked → GoesOn verifyHash s a .right
  | wrong : a.stage = .checked → s.auth.verifyPassword verifyHash a.password = false →
      GoesOn verifyHash s a (.wrong s.now)
  | admitted : a.stage = .right → GoesOn verifyHash s a .answered
  | recorded {t} : a.stage = .wrong t → GoesOn verifyHash s a (.recorded t s.now)

/-- A request that goes on keeps the requests within the limit. -/
theorem GoesOn.limited {verifyHash : String → String → Bool} {s : LoginState} {a : Attempt}
    {stage : Stage} (hon : GoesOn verifyHash s a stage) (h : Limiting verifyHash s) {i : ℕ}
    (hold : s.attempts[i]? = some a) :
    Window.Limited (loginEntries verifyHash s.auth) loginWindow loginMaxFailures
      (s.attempts.set i { a with stage }) := by
  have hpast := h.past a (List.mem_of_getElem? hold)
  refine h.limited.set hold rfl rfl ?_ ?_ ?_
  · intro hpending
    cases hon <;> simp [loginEntries, Attempt.mayFail] at hpending
  · intro t ht
    cases hon with
    | right | admitted => simp [loginEntries, Attempt.verifiedWrong] at ht
    | wrong hchecked hpassword =>
      obtain rfl := Option.some.inj ht
      exact .inr ⟨by simp [loginEntries, Attempt.verifiedWrong, hchecked],
        by simp [loginEntries, Attempt.mayFail, hchecked, hpassword], hpast⟩
    | recorded hwrong =>
      obtain rfl := Option.some.inj ht
      exact .inl (by simp [loginEntries, Attempt.verifiedWrong, hwrong])
  · intro hnone
    cases hon with
    | right hstage | admitted hstage => simp [loginEntries, Attempt.verifiedWrong, hstage]
    | wrong | recorded => simp [loginEntries, Attempt.verifiedWrong] at hnone

/-- A request that goes on keeps the invariant, when the failures still cover what is recorded. -/
theorem Limiting.goOn {verifyHash : String → String → Bool} {s : LoginState} {a : Attempt}
    {stage : Stage} (h : Limiting verifyHash s) (hon : GoesOn verifyHash s a stage) {i : ℕ}
    (hold : s.attempts[i]? = some a) {auth : Auth} {now : Instant}
    (hcredential : auth.credential = s.auth.credential) (hnow : s.now ≤ now)
    (hkept : ∀ peer later, now ≤ later →
      (s.attempts.set i { a with stage }).countP
          (fun b => decide (b.peer = peer) && b.writtenRecently later) ≤
        (auth.recentFailures later peer).length) :
    Limiting verifyHash ⟨auth, now, s.attempts.set i { a with stage }⟩ := by
  have hmem := List.mem_of_getElem? hold
  constructor
  · rw [loginEntries_congr verifyHash hcredential]
    exact hon.limited h hold
  · intro b hb
    rcases List.mem_or_eq_of_mem_set hb with hb | rfl
    · exact Nat.le_trans (h.past b hb) hnow
    · exact Nat.le_trans (h.past a hmem) hnow
  · intro b hb t ht
    rcases List.mem_or_eq_of_mem_set hb with hb | rfl
    · exact Nat.le_trans (h.verified b hb t ht) hnow
    · cases hon with
      | right | admitted => cases ht
      | wrong =>
        obtain rfl := Option.some.inj ht
        exact hnow
      | recorded hwrong =>
        obtain rfl := Option.some.inj ht
        exact Nat.le_trans (h.verified a hmem _ (by rw [Attempt.verifiedWrong, hwrong])) hnow
  · intro b hb t u hstage
    rcases List.mem_or_eq_of_mem_set hb with hb | rfl
    · exact h.written b hb t u hstage
    · cases hon with
      | right | wrong | admitted => cases hstage
      | recorded hwrong =>
        obtain ⟨rfl, rfl⟩ := Stage.recorded.inj hstage
        exact h.verified a hmem _ (by rw [Attempt.verifiedWrong, hwrong])
  · exact hkept

/-- A request that records nothing is covered as before. -/
theorem Limiting.kept_set {verifyHash : String → String → Bool} {s : LoginState} {a : Attempt}
    {stage : Stage} (h : Limiting verifyHash s) {i : ℕ} (hold : s.attempts[i]? = some a)
    (hstage : ∀ t u, stage ≠ .recorded t u) (peer : IpAddr) {later : Instant}
    (hlater : s.now ≤ later) :
    (s.attempts.set i { a with stage }).countP
        (fun b => decide (b.peer = peer) && b.writtenRecently later) ≤
      (s.auth.recentFailures later peer).length := by
  refine Nat.le_trans (Window.countP_set_le hold fun hnew => ?_) (h.kept peer later hlater)
  cases stage with
  | recorded t u => exact absurd rfl (hstage t u)
  | _ => simp [Attempt.writtenRecently] at hnew

/-- A request that records its failure is covered by it. -/
theorem Limiting.kept_record {verifyHash : String → String → Bool} {s : LoginState} {a : Attempt}
    (h : Limiting verifyHash s) {i : ℕ} (hold : s.attempts[i]? = some a) (t elapsed : Instant)
    (peer : IpAddr) {later : Instant} (hlater : s.now + elapsed ≤ later) :
    (s.attempts.set i { a with stage := .recorded t s.now }).countP
        (fun b => decide (b.peer = peer) && b.writtenRecently later) ≤
      ((s.auth.recordFailureAt s.now elapsed a.peer).recentFailures later peer).length := by
  have hbefore := h.kept peer later (Nat.le_trans (Nat.le_add_right _ _) hlater)
  refine Nat.le_trans (Window.countP_set_le_add hold _) ?_
  rw [Auth.recordFailureAt_recentFailures hlater, List.length_append]
  refine Nat.add_le_add hbefore ?_
  by_cases hpeer : peer = a.peer
  · subst hpeer
    by_cases hrecent : later - s.now < loginWindow
    · simp [Attempt.writtenRecently, Auth.recent, hrecent]
    · simp [Attempt.writtenRecently, Auth.recent, hrecent]
  · simp [Ne.symm hpeer]

/-- What is less than `width` after a time is less than `width` after a later one. -/
private theorem sub_lt_of_lt_add {now t u width : ℕ} (hwidth : 0 < width) (hle : t ≤ u)
    (h : now < t + width) : now - u < width := by
  omega

/-- A request that has just been checked, and passed if it is not throttled. -/
theorem Limiting.check {verifyHash : String → String → Bool} {s : LoginState}
    (h : Limiting verifyHash s) {peer : IpAddr} {password : String} {stage : Stage}
    (hstage : stage = .answered ∨ stage = .checked ∧
      (s.auth.verifyPassword verifyHash password = false →
        (s.auth.recentFailures s.now peer).length +
          s.attempts.countP (fun a => decide (a.peer = peer) && a.inFlight verifyHash s.auth) <
            loginMaxFailures)) :
    Limiting verifyHash { s with attempts := s.attempts ++ [⟨peer, password, s.now, stage⟩] } := by
  have hnothit : Attempt.verifiedWrong ⟨peer, password, s.now, stage⟩ = none := by
    rcases hstage with rfl | ⟨rfl, -⟩ <;> rfl
  constructor
  · refine h.limited.concat (fun hlive => ?_) fun t ht => ?_
    · have hpending : stage = .checked ∧ s.auth.verifyPassword verifyHash password = false := by
        simpa [Window.Entries.live, loginEntries, hnothit, Attempt.mayFail] using hlive
      have hbudget := (hstage.resolve_left (by simp [hpending.1])).2 hpending.2
      have hrecorded := h.kept peer s.now (Nat.le_refl _)
      -- what counts is in flight, or it is recorded and in the list of failures
      have hsplit : s.attempts.countP (fun a => decide (a.peer = peer) &&
          (loginEntries verifyHash s.auth).counts loginWindow s.now a) ≤
            s.attempts.countP (fun a => decide (a.peer = peer) && a.inFlight verifyHash s.auth) +
              s.attempts.countP (fun a => decide (a.peer = peer) && a.writtenRecently s.now) := by
        refine Window.countP_le_add fun a ha hcounts => ?_
        simp only [Bool.and_eq_true] at hcounts ⊢
        obtain ⟨hpeer, hcounts⟩ := hcounts
        rw [and_iff_right hpeer, and_iff_right hpeer]
        cases hstage : a.stage with
        | checked =>
          left
          simpa [Window.Entries.counts, loginEntries, Attempt.verifiedWrong, Attempt.mayFail,
            Attempt.inFlight, hstage] using hcounts
        | wrong t => exact .inl (by simp [Attempt.inFlight, hstage])
        | recorded t u =>
          right
          have hle := h.written a ha t u hstage
          simp only [Window.Entries.counts, loginEntries, Attempt.verifiedWrong, hstage,
            decide_eq_true_eq] at hcounts
          simp only [Attempt.writtenRecently, hstage, decide_eq_true_eq]
          exact sub_lt_of_lt_add (by decide) hle hcounts
        | _ =>
          simp [Window.Entries.counts, loginEntries, Attempt.verifiedWrong, Attempt.mayFail,
            hstage] at hcounts
      have hall := Nat.le_trans hsplit (Nat.add_le_add_left hrecorded _)
      exact Nat.lt_of_le_of_lt hall (by rwa [Nat.add_comm])
    · rw [show (loginEntries verifyHash s.auth).hit _ = none from hnothit] at ht
      cases ht
  · intro a ha
    rcases List.mem_append.mp ha with ha | ha
    · exact h.past a ha
    · obtain rfl := List.mem_singleton.mp ha
      exact Nat.le_refl _
  · intro a ha t ht
    rcases List.mem_append.mp ha with ha | ha
    · exact h.verified a ha t ht
    · obtain rfl := List.mem_singleton.mp ha
      rw [hnothit] at ht
      cases ht
  · intro a ha t u hrecorded
    rcases List.mem_append.mp ha with ha | ha
    · exact h.written a ha t u hrecorded
    · obtain rfl := List.mem_singleton.mp ha
      rw [Attempt.verifiedWrong, hrecorded] at hnothit
      cases hnothit
  · intro other later hlater
    rw [List.countP_append]
    have hnone : Attempt.writtenRecently later ⟨peer, password, s.now, stage⟩ = false := by
      rcases hstage with rfl | ⟨rfl, -⟩ <;> rfl
    simpa [hnone] using h.kept other later hlater

/-- The invariant does not depend on the parts of the sessions that are not about failures. -/
theorem Limiting.of_auth {verifyHash : String → String → Bool} {s : LoginState} {auth : Auth}
    (h : Limiting verifyHash s) (hcredential : auth.credential = s.auth.credential)
    (hfailures : ∀ peer later, s.now ≤ later →
      auth.recentFailures later peer = s.auth.recentFailures later peer) :
    Limiting verifyHash { s with auth } := by
  refine ⟨?_, h.past, h.verified, h.written, fun peer later hlater => ?_⟩
  · rw [loginEntries_congr verifyHash hcredential]
    exact h.limited
  · rw [hfailures peer later hlater]
    exact h.kept peer later hlater

/-- Every step keeps the invariant when the check counts the requests in flight. -/
theorem Limiting.step {verifyHash : String → String → Bool} {s t : LoginState} {l : LoginLabel}
    (h : Limiting verifyHash s) (hstep : loginStep verifyHash s l = some t)
    (hcounts : ChecksCountInFlight verifyHash s l t) : Limiting verifyHash t := by
  cases l with
  | tick elapsed =>
    obtain rfl := Option.some.inj hstep
    have hle : s.now ≤ s.now + elapsed := Nat.le_add_right _ _
    exact ⟨h.limited, fun a ha => Nat.le_trans (h.past a ha) hle,
      fun a ha t ht => Nat.le_trans (h.verified a ha t ht) hle, h.written,
      fun peer later hlater => h.kept peer later (Nat.le_trans hle hlater)⟩
  | check peer password =>
    by_cases hrequired : s.auth.required = true
    · simp only [loginStep, if_pos hrequired, Option.some.injEq] at hstep
      subst hstep
      have hafter : Limiting verifyHash { s with
          attempts := s.attempts ++ [⟨peer, password, s.now,
            if (s.auth.throttled s.now peer).1 then .answered else .checked⟩] } := by
        refine h.check ?_
        by_cases hthrottled : (s.auth.throttled s.now peer).1 = true
        · exact .inl (if_pos hthrottled)
        · refine .inr ⟨if_neg hthrottled, fun hpassword => hcounts hrequired hpassword ?_⟩
          rw [Auth.throttled_fst] at hthrottled
          exact Nat.lt_of_not_le hthrottled
      exact hafter.of_auth (Auth.throttled_credential ..) fun other later hlater =>
        Auth.throttled_recentFailures hlater peer other s.auth
    · simp only [loginStep, if_neg hrequired, Option.some.injEq] at hstep
      subst hstep
      exact h.check (.inl rfl)
  | verify i =>
    simp only [loginStep] at hstep
    split at hstep
    · rename_i peer password checkedAt hold
      obtain rfl := Option.some.inj hstep
      cases hpassword : s.auth.verifyPassword verifyHash password with
      | true =>
        rw [if_pos rfl]
        exact h.goOn (.right rfl) hold rfl (Nat.le_refl _) fun other later hlater =>
          h.kept_set hold (by simp) other hlater
      | false =>
        rw [if_neg Bool.false_ne_true]
        exact h.goOn (.wrong rfl hpassword) hold rfl (Nat.le_refl _) fun other later hlater =>
          h.kept_set hold (by simp) other hlater
    · cases hstep
  | grant i token =>
    simp only [loginStep] at hstep
    split at hstep
    · rename_i peer password checkedAt hold
      obtain rfl := Option.some.inj hstep
      exact h.goOn (.admitted rfl) hold rfl (Nat.le_refl _) fun other later hlater =>
        h.kept_set hold (by simp) other hlater
    · cases hstep
  | record i elapsed =>
    simp only [loginStep] at hstep
    split at hstep
    · rename_i peer password checkedAt verified hold
      obtain rfl := Option.some.inj hstep
      exact h.goOn (.recorded rfl) hold rfl (Nat.le_add_right _ _) fun other later hlater =>
        h.kept_record hold verified elapsed other hlater
    · cases hstep

/-- Before the first request the invariant holds, whatever failures are stored. -/
theorem limiting_start (verifyHash : String → String → Bool) (auth : Auth) (now : Instant) :
    Limiting verifyHash ⟨auth, now, []⟩ :=
  ⟨.nil, by simp, by simp, by simp, fun _ _ _ => Nat.zero_le _⟩

/-- In every run in which no wrong password passes the check while the failures of its peer and
its requests in flight exhaust the budget, no window shorter than `LOGIN_WINDOW` ever has more
than `LOGIN_MAX_FAILURES` wrong passwords from one peer verified. -/
theorem login_bounded (verifyHash : String → String → Bool) (auth : Auth) (now : Instant)
    (ls : List LoginLabel)
    (h : Transition.Along (loginStep verifyHash) (ChecksCountInFlight verifyHash)
      ⟨auth, now, []⟩ ls) :
    Transition.Throughout (loginStep verifyHash) LoginState.Bounded ⟨auth, now, []⟩ ls :=
  (Transition.throughout_of_along (fun _ _ _ hs hstep hcounts => hs.step hstep hcounts)
    (limiting_start verifyHash auth now) h).mono fun _ hs => hs.bounded

/-- Sessions with a plain password. -/
def plainAuth : Auth where
  required := true
  cookieSecure := false
  credential := some (.plain "hunter2hunter2")
  sessions _ := none
  failures _ := none

/-- The address of a peer. -/
def plainPeer : IpAddr := .v4 0x0a000009

/-- One request after the other: the guess of the second comes after the failure of the first. -/
theorem sequential_guesses_bounded :
    Transition.Throughout (loginStep fun _ _ => false) LoginState.Bounded ⟨plainAuth, 0, []⟩
      [.check plainPeer "hunter2", .verify 0, .record 0 3, .tick 1000, .check plainPeer "",
        .verify 1, .record 1 5] :=
  login_bounded _ plainAuth 0 _ (by decide)

/-- Eleven requests pass the check before the first of them has its password verified. -/
theorem eleven_guesses_verified :
    ∃ s, Transition.run (loginStep fun _ _ => false) ⟨plainAuth, 0, []⟩
        (List.replicate 11 (.check plainPeer "hunter2") ++ (List.range 11).map .verify) = some s ∧
      s.wrongVerified plainPeer 0 0 = 11 ∧ ¬ s.Bounded := by
  refine ⟨_, rfl, by decide, fun h => ?_⟩
  have hbound := h plainPeer 0 0 (by decide)
  revert hbound
  decide

end Republisher
