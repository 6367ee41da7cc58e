import Republisher.Core

/-!
# Worker threads

The handlers start worker threads and the threads report back through one
channel. This file states what the daemon relies on about them: a discovery or
a browse delivers one result, a bulk scan delivers the merge of its findings
into the point list it was given, and a republisher announces its life cycle in
order until its stop flag is set or it fails.
-/

namespace Republisher

/-- One call of a `spawn_*` function, with the arguments the handler passed. The
stop flag of a republisher is named by its position among all flags created. -/
inductive Spawn
  | discovery (factory : Factory) (connection : Addressing)
  | browse (factory : Factory) (connection : Addressing) (device : DiscoveredDevice)
  | scanAllObjects (factory : Factory) (connection : Addressing)
      (devices : List DiscoveredDevice) (existing : List PointConfig)
  | pollOnce (factory : Factory) (connection : Addressing) (mqtt : MqttConfig)
      (points : List PointConfig)
  | republisher (factory : Factory) (connection : Addressing) (mqtt : MqttConfig)
      (points : List PointConfig) (discoverOnStart : Bool) (stop : ℕ)
  deriving DecidableEq

/-- How far a thread has come. Threads other than republishers use only the
first and the last phase. -/
inductive Phase
  | spawned
  | starting
  | running
  | stopping
  | terminated
  deriving DecidableEq

/-- A worker thread and the events it has sent, oldest first. -/
structure Thread where
  spawn : Spawn
  phase : Phase
  sent : List WorkerEvent
  deriving DecidableEq

/-- A thread just started. -/
def Thread.new (spawn : Spawn) : Thread := ⟨spawn, .spawned, []⟩

/-- The stop flag of a republisher worker. -/
def Spawn.stopFlag : Spawn → Option ℕ
  | .republisher _ _ _ _ _ stop => some stop
  | _ => none

/-- The protocol whose factory a thread works with. -/
def Spawn.protocol : Spawn → String
  | .discovery factory _ => factory.protocol
  | .browse factory _ _ => factory.protocol
  | .scanAllObjects factory _ _ _ => factory.protocol
  | .pollOnce factory _ _ _ => factory.protocol
  | .republisher factory _ _ _ _ _ => factory.protocol

/-- A republisher worker that has not sent its final event. -/
def Thread.Live (t : Thread) : Prop := t.spawn.stopFlag.isSome = true ∧ t.phase ≠ .terminated

instance (t : Thread) : Decidable t.Live := inferInstanceAs (Decidable (_ ∧ _))

/-- The life-cycle events a republisher may send next and the phase that follows. It
begins to stop only when its flag is set, and may fail at any time before its end. -/
def Phase.next (flag : Bool) : Phase → RepublisherLifecycle → Option Phase
  | .spawned, .starting => some .starting
  | .starting, .running => some .running
  | .starting, .stopping => if flag then some .stopping else none
  | .running, .stopping => if flag then some .stopping else none
  | .stopping, .stopped => some .terminated
  | .terminated, _ => none
  | _, .failed _ => some .terminated
  | _, _ => none

/-- Events that report progress and neither deliver a result nor a life-cycle change. -/
def WorkerEvent.isReport : WorkerEvent → Bool
  | .devices _ | .points _ | .bulkTagImport _ | .lifecycle _ => false
  | _ => true

/-- The phase a thread is in after sending an event, `none` when it does not send it. -/
def Thread.next (flags : List Bool) (t : Thread) (e : WorkerEvent) : Option Phase :=
  match t.spawn, e with
  | .republisher _ _ _ _ _ stop, .lifecycle lifecycle =>
      t.phase.next (flags.getD stop false) lifecycle
  | .discovery _ _, .devices _ => if t.phase = .spawned then some .terminated else none
  | .browse _ _ _, .points _ => if t.phase = .spawned then some .terminated else none
  | .republisher _ _ _ _ _ _, e =>
      if e.isReport ∧ t.phase ≠ .terminated then some t.phase else none
  | _, e => if e.isReport then some t.phase else none

/-- The thread after it has sent an event and gone on to the given phase. -/
def Thread.send (t : Thread) (e : WorkerEvent) (phase : Phase) : Thread :=
  { t with phase, sent := t.sent ++ [e] }

@[simp] theorem Thread.new_spawn (spawn : Spawn) : (Thread.new spawn).spawn = spawn := rfl

@[simp] theorem Thread.new_phase (spawn : Spawn) : (Thread.new spawn).phase = .spawned := rfl

@[simp] theorem Thread.new_sent (spawn : Spawn) : (Thread.new spawn).sent = [] := rfl

@[simp] theorem Thread.send_spawn (t : Thread) (e : WorkerEvent) (phase : Phase) :
    (t.send e phase).spawn = t.spawn := rfl

@[simp] theorem Thread.send_phase (t : Thread) (e : WorkerEvent) (phase : Phase) :
    (t.send e phase).phase = phase := rfl

@[simp] theorem Thread.send_sent (t : Thread) (e : WorkerEvent) (phase : Phase) :
    (t.send e phase).sent = t.sent ++ [e] := rfl

/-- A thread that sends a life-cycle event is a live republisher, and its phase
goes on as `Phase.next` says. -/
theorem Thread.next_lifecycle_of_live {flags : List Bool} {t : Thread} {e : WorkerEvent}
    {phase : Phase} (h : t.next flags e = some phase) {lifecycle : RepublisherLifecycle}
    (he : e = .lifecycle lifecycle) :
    t.Live ∧ ∃ stop, t.spawn.stopFlag = some stop ∧
      t.phase.next (flags.getD stop false) lifecycle = some phase := by
  subst he
  cases hspawn : t.spawn with
  | republisher factory connection mqtt points discover stop =>
    simp only [Thread.next, hspawn] at h
    refine ⟨⟨by rw [hspawn]; rfl, fun hphase => ?_⟩, stop, rfl, h⟩
    rw [hphase] at h
    simp [Phase.next] at h
  | discovery => simp [Thread.next, hspawn, WorkerEvent.isReport] at h
  | browse => simp [Thread.next, hspawn, WorkerEvent.isReport] at h
  | scanAllObjects => simp [Thread.next, hspawn, WorkerEvent.isReport] at h
  | pollOnce => simp [Thread.next, hspawn, WorkerEvent.isReport] at h

end Republisher
