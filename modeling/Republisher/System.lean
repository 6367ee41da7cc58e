import Republisher.Effects
import Republisher.Broadcast

/-!
# The daemon and its threads

The whole system: the server behind its lock, the channel of worker events, the
broadcast channel and the event streams of the browsers. A label says who moves
next, so a list of labels is one interleaving of clients, workers, the drain
thread, the shutdown task and the streams.
-/

namespace Republisher

/-! ## Lists by position -/

/-- A new item at the end leaves the others where they are. -/
theorem getElem?_append_new {α : Type} {items : List α} {new t : α} {k : ℕ} :
    (items ++ [new])[k]? = some t ↔ items[k]? = some t ∨ (k = items.length ∧ t = new) := by
  rw [List.getElem?_append]
  by_cases hlt : k < items.length
  · rw [if_pos hlt]
    refine ⟨.inl, ?_⟩
    rintro (h | ⟨h, -⟩)
    · exact h
    · omega
  · rw [if_neg hlt, List.getElem?_singleton]
    have hnone : items[k]? = none := List.getElem?_eq_none (by omega)
    rw [hnone]
    constructor
    · intro h
      obtain ⟨hk, hnew⟩ := Option.ite_none_right_eq_some.mp h
      exact .inr ⟨by omega, (Option.some.inj hnew).symm⟩
    · rintro (h | ⟨h, rfl⟩)
      · cases h
      · rw [if_pos (by omega)]

/-- Replacing an item leaves the others where they are. -/
theorem getElem?_set_old {α : Type} {items : List α} {k j : ℕ} {old new t : α}
    (hold : items[k]? = some old) :
    (items.set k new)[j]? = some t ↔ (j = k ∧ t = new) ∨ (j ≠ k ∧ items[j]? = some t) := by
  have hlt : k < items.length := (List.getElem?_eq_some_iff.mp hold).1
  by_cases hj : j = k
  · subst hj
    rw [List.getElem?_set_self hlt]
    constructor
    · intro h
      exact .inl ⟨rfl, (Option.some.inj h).symm⟩
    · rintro (⟨-, rfl⟩ | ⟨h, -⟩)
      · rfl
      · exact absurd rfl h
  · rw [List.getElem?_set_ne (Ne.symm hj)]
    constructor
    · intro h
      exact .inr ⟨hj, h⟩
    · rintro (⟨h, -⟩ | ⟨-, h⟩)
      · exact absurd h hj
      · exact h

/-! ## The state -/

/-- One event stream: the payload it starts with and, once it has subscribed, its
reader of the broadcast channel. -/
structure Stream where
  snapshot : Snapshot
  reader : Option (Broadcast.Reader Delta)
  deriving DecidableEq

/-- The state of the daemon and of everything that runs beside it. -/
structure System (Disk : Type) where
  server : Server Disk
  /-- The broadcast channel: every payload that has reached it, oldest first. -/
  aired : List Delta
  /-- The worker channel, each event with the position of the thread that sent it. -/
  channel : List (ℕ × WorkerEvent)
  shuttingDown : Bool
  streams : List Stream
  deriving DecidableEq

/-- Who moves next. The findings of a scan are what its thread merges and delivers. -/
inductive Label
  | request (r : Request)
  | send (thread : ℕ) (e : WorkerEvent)
  | scanned (thread : ℕ) (findings : List PointConfig)
  | drain
  | shutdown
  | emit
  | snapshot
  | subscribe (stream : ℕ)
  | receive (stream : ℕ)

variable {Disk : Type}

/-- Nobody holds the lock: every payload the last holder emitted has been broadcast. -/
def System.LockFree (σ : System Disk) : Prop := σ.server.events = []

instance (σ : System Disk) : Decidable σ.LockFree :=
  inferInstanceAs (Decidable (σ.server.events = []))

/-- The thread at a position. -/
abbrev System.thread (σ : System Disk) (k : ℕ) : Option Thread := σ.server.threads[k]?

/-- Thread `k` sends an event and goes on to the given phase. -/
def System.sendFrom (σ : System Disk) (k : ℕ) (t : Thread) (e : WorkerEvent) (phase : Phase) :
    System Disk :=
  { σ with
    server := { σ.server with threads := σ.server.threads.set k (t.send e phase) }
    channel := σ.channel ++ [(k, e)] }

/-- One step of the system, `none` when the step is not enabled. What needs the lock
waits until it is free; a stream subscribes and reads without the lock. -/
def WebState.step (w : WebState Disk) (σ : System Disk) : Label → Option (System Disk)
  | .request r =>
      if σ.LockFree then some { σ with server := (w.handle r σ.server).2 } else none
  | .send k e =>
      match σ.server.threads[k]? with
      | none => none
      | some t => (t.next σ.server.stopFlags e).map fun phase => σ.sendFrom k t e phase
  | .scanned k findings =>
      match σ.server.threads[k]? with
      | some ⟨.scanAllObjects factory connection devices existing, .spawned, sent⟩ =>
          some (σ.sendFrom k ⟨.scanAllObjects factory connection devices existing, .spawned, sent⟩
            (.bulkTagImport (w.core.mergeImportedPoints existing findings)) .terminated)
      | _ => none
  | .drain =>
      match σ.channel with
      | [] => none
      | (_, e) :: channel =>
          if σ.LockFree then some { σ with server := w.applyEvent e σ.server, channel } else none
  | .shutdown =>
      if σ.LockFree ∧ σ.shuttingDown = false then
        some { σ with server := Republisher.shutdown w σ.server, shuttingDown := true }
      else none
  | .emit =>
      match σ.server.events with
      | [] => none
      | delta :: events =>
          some { σ with server := { σ.server with events }, aired := σ.aired ++ [delta] }
  | .snapshot =>
      if σ.LockFree then
        some { σ with streams := σ.streams ++ [⟨w.snapshotJson σ.server.shared, none⟩] }
      else none
  | .subscribe i =>
      match σ.streams[i]? with
      | some ⟨snapshot, none⟩ =>
          some { σ with
            streams := σ.streams.set i ⟨snapshot, some (Broadcast.subscribe σ.aired)⟩ }
      | _ => none
  | .receive i =>
      match σ.streams[i]? with
      | some ⟨snapshot, some reader⟩ =>
          some { σ with
            streams := σ.streams.set i ⟨snapshot, some (reader.poll eventBuffer σ.aired)⟩ }
      | _ => none

/-- The system before anything has run. -/
def WebState.boot (w : WebState Disk) (config : AppConfig) (bootStatus : String) (disk : Disk) :
    System Disk :=
  { server := w.new config bootStatus disk
    aired := []
    channel := []
    shuttingDown := false
    streams := [] }

/-- `serve`, up to the point where requests are accepted: the republisher is started
when the configuration asks for it. -/
def WebState.serve (w : WebState Disk) (config : AppConfig) (bootStatus : String) (disk : Disk) :
    System Disk :=
  let σ := w.boot config bootStatus disk
  if σ.server.shared.config.mqtt.autostart then
    { σ with server := (w.handle .startRepublisher σ.server).2 }
  else σ

/-- The autostart is a start request made before all others. -/
theorem WebState.serve_induction {P : System Disk → Prop} (w : WebState Disk)
    (config : AppConfig) (bootStatus : String) (disk : Disk)
    (hboot : P (w.boot config bootStatus disk))
    (hstart : ∀ σ, w.step (w.boot config bootStatus disk) (.request .startRepublisher) = some σ →
      P σ) : P (w.serve config bootStatus disk) := by
  unfold WebState.serve
  by_cases hauto :
      (w.boot config bootStatus disk).server.shared.config.mqtt.autostart = true
  · rw [if_pos hauto]
    exact hstart _ rfl
  · rw [if_neg hauto]
    exact hboot

/-- What one step does, with the guards it has passed. -/
inductive Stepped (w : WebState Disk) (σ : System Disk) : Label → System Disk → Prop
  | request {r} : σ.LockFree →
      Stepped w σ (.request r) { σ with server := (w.handle r σ.server).2 }
  | send {k e t phase} : σ.thread k = some t → t.next σ.server.stopFlags e = some phase →
      Stepped w σ (.send k e) (σ.sendFrom k t e phase)
  | scanned {k findings factory connection devices existing sent} :
      σ.thread k = some ⟨.scanAllObjects factory connection devices existing, .spawned, sent⟩ →
      Stepped w σ (.scanned k findings)
        (σ.sendFrom k ⟨.scanAllObjects factory connection devices existing, .spawned, sent⟩
          (.bulkTagImport (w.core.mergeImportedPoints existing findings)) .terminated)
  | drain {k e channel} : σ.channel = (k, e) :: channel → σ.LockFree →
      Stepped w σ .drain { σ with server := w.applyEvent e σ.server, channel }
  | shutdown : σ.LockFree → σ.shuttingDown = false →
      Stepped w σ .shutdown
        { σ with server := Republisher.shutdown w σ.server, shuttingDown := true }
  | emit {delta events} : σ.server.events = delta :: events →
      Stepped w σ .emit
        { σ with server := { σ.server with events }, aired := σ.aired ++ [delta] }
  | snapshot : σ.LockFree →
      Stepped w σ .snapshot
        { σ with streams := σ.streams ++ [⟨w.snapshotJson σ.server.shared, none⟩] }
  | subscribe {i snapshot} : σ.streams[i]? = some ⟨snapshot, none⟩ →
      Stepped w σ (.subscribe i)
        { σ with streams := σ.streams.set i ⟨snapshot, some (Broadcast.subscribe σ.aired)⟩ }
  | receive {i snapshot reader} : σ.streams[i]? = some ⟨snapshot, some reader⟩ →
      Stepped w σ (.receive i)
        { σ with streams := σ.streams.set i ⟨snapshot, some (reader.poll eventBuffer σ.aired)⟩ }

/-- Every step does one of these. The proofs about steps start from here. -/
theorem WebState.step_cases {w : WebState Disk} {σ τ : System Disk} {l : Label}
    (h : w.step σ l = some τ) : Stepped w σ l τ := by
  cases l with
  | request r =>
    obtain ⟨hfree, h⟩ := Option.ite_none_right_eq_some.mp h
    obtain rfl := Option.some.inj h
    exact .request hfree
  | send k e =>
    simp only [step] at h
    split at h
    · cases h
    · rename_i t ht
      obtain ⟨phase, hnext, rfl⟩ := Option.map_eq_some_iff.mp h
      exact .send ht hnext
  | scanned k findings =>
    simp only [step] at h
    split at h
    · rename_i factory connection devices existing sent ht
      obtain rfl := Option.some.inj h
      exact .scanned ht
    · cases h
  | drain =>
    simp only [step] at h
    split at h
    · cases h
    · rename_i k e channel hchannel
      obtain ⟨hfree, h⟩ := Option.ite_none_right_eq_some.mp h
      obtain rfl := Option.some.inj h
      exact .drain hchannel hfree
  | shutdown =>
    obtain ⟨⟨hfree, hshutting⟩, h⟩ := Option.ite_none_right_eq_some.mp h
    obtain rfl := Option.some.inj h
    exact .shutdown hfree hshutting
  | emit =>
    simp only [step] at h
    split at h
    · cases h
    · rename_i delta events hevents
      obtain rfl := Option.some.inj h
      exact .emit hevents
  | snapshot =>
    obtain ⟨hfree, h⟩ := Option.ite_none_right_eq_some.mp h
    obtain rfl := Option.some.inj h
    exact .snapshot hfree
  | subscribe i =>
    simp only [step] at h
    split at h
    · rename_i snapshot hstream
      obtain rfl := Option.some.inj h
      exact .subscribe hstream
    · cases h
  | receive i =>
    simp only [step] at h
    split at h
    · rename_i snapshot reader hstream
      obtain rfl := Option.some.inj h
      exact .receive hstream
    · cases h

/-- What a thread may send, and the phase it then goes on to. -/
def WebState.Sends (w : WebState Disk) (flags : List Bool) (t : Thread) (e : WorkerEvent)
    (phase : Phase) : Prop :=
  t.next flags e = some phase ∨
    ∃ factory connection devices existing findings,
      t.spawn = .scanAllObjects factory connection devices existing ∧ t.phase = .spawned ∧
        e = .bulkTagImport (w.core.mergeImportedPoints existing findings) ∧ phase = .terminated

/-- The steps that only move payloads to the browsers. -/
def Label.MovesPayloads : Label → Prop
  | .emit | .snapshot | .subscribe _ | .receive _ => True
  | _ => False

/-- Everything a step can do, up to the streams. A step is a request, an event sent
by a worker, an event applied, the shutdown task, or it only moves payloads. -/
inductive StepEffect (w : WebState Disk) (σ : System Disk) : Label → System Disk → Prop
  | request {r τ} : τ.server = (w.handle r σ.server).2 → Effect w σ.server r τ.server →
      τ.channel = σ.channel → τ.shuttingDown = σ.shuttingDown → StepEffect w σ (.request r) τ
  | sent {l k t e phase} : (l = .send k e ∨ ∃ findings, l = .scanned k findings) →
      σ.thread k = some t → w.Sends σ.server.stopFlags t e phase →
      StepEffect w σ l (σ.sendFrom k t e phase)
  | drained {k e τ} : σ.channel = (k, e) :: τ.channel → EventEffect w σ.server e τ.server →
      τ.shuttingDown = σ.shuttingDown → StepEffect w σ .drain τ
  | shutdown {τ} : σ.server.raiseStop.Silent τ.server → τ.channel = σ.channel →
      τ.shuttingDown = true → StepEffect w σ .shutdown τ
  | idle {l τ} : l.MovesPayloads → τ.server.shared = σ.server.shared →
      τ.server.threads = σ.server.threads → τ.server.stopFlags = σ.server.stopFlags →
      τ.channel = σ.channel → τ.shuttingDown = σ.shuttingDown → StepEffect w σ l τ

/-- Every step has one of the listed effects. -/
theorem WebState.step_effect {w : WebState Disk} {σ τ : System Disk} {l : Label}
    (h : w.step σ l = some τ) : StepEffect w σ l τ := by
  cases step_cases h with
  | request hfree => exact .request rfl (w.handle_effect _ σ.server) rfl rfl
  | send ht hnext => exact .sent (.inl rfl) ht (.inl hnext)
  | @scanned k findings factory connection devices existing sent ht =>
    exact .sent (.inr ⟨findings, rfl⟩) ht
      (.inr ⟨factory, connection, devices, existing, findings, rfl, rfl, rfl, rfl⟩)
  | drain hchannel hfree => exact .drained hchannel (w.applyEvent_effect _ σ.server) rfl
  | shutdown => exact .shutdown (Server.silent_setStatus ..) rfl rfl
  | emit | snapshot | subscribe | receive => exact .idle trivial rfl rfl rfl rfl rfl

/-- A request step leaves the server the handler leaves. -/
theorem WebState.step_request {w : WebState Disk} {σ τ : System Disk} {r : Request}
    (h : w.step σ (.request r) = some τ) : τ.server = (w.handle r σ.server).2 := by
  obtain ⟨-, hτ⟩ := Option.ite_none_right_eq_some.mp h
  rw [← Option.some.inj hτ]

/-- A drain step applies the oldest event. -/
theorem WebState.step_drain {w : WebState Disk} {σ τ : System Disk}
    (h : w.step σ .drain = some τ) : ∃ k e, σ.channel = (k, e) :: τ.channel ∧
      EventEffect w σ.server e τ.server := by
  generalize hl : Label.drain = l at h
  cases WebState.step_effect h with
  | drained hhead heffect _ => exact ⟨_, _, hhead, heffect⟩
  | request | shutdown => cases hl
  | sent hsent =>
    subst hl
    rcases hsent with hsent | ⟨findings, hsent⟩ <;> cases hsent
  | idle hmoves =>
    subst hl
    exact hmoves.elim

end Republisher
