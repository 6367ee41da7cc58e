import Republisher.System
import Republisher.Instance
import Republisher.Transition

/-!
# Event streams

A stream takes its snapshot behind the lock, releases the lock and subscribes
afterwards. What is broadcast between the two steps is in neither the snapshot
nor the stream; everything that is broadcast later reaches a stream that never
lags, once and in order.
-/

namespace Republisher

open Broadcast (Reader)

variable {Disk : Type}

/-! ## Streams in a run -/

/-- What a step does to the broadcast channel and the streams. -/
inductive StreamEffect (w : WebState Disk) (σ : System Disk) : Label → System Disk → Prop
  | emit {delta τ} : τ.aired = σ.aired ++ [delta] → τ.streams = σ.streams →
      StreamEffect w σ .emit τ
  | snapshot {τ} : σ.LockFree → τ.aired = σ.aired →
      τ.streams = σ.streams ++ [⟨w.snapshotJson σ.server.shared, none⟩] →
      StreamEffect w σ .snapshot τ
  | subscribe {i snapshot τ} : σ.streams[i]? = some ⟨snapshot, none⟩ → τ.aired = σ.aired →
      τ.streams = σ.streams.set i ⟨snapshot, some (Broadcast.subscribe σ.aired)⟩ →
      StreamEffect w σ (.subscribe i) τ
  | receive {i snapshot reader τ} : σ.streams[i]? = some ⟨snapshot, some reader⟩ →
      τ.aired = σ.aired →
      τ.streams = σ.streams.set i ⟨snapshot, some (reader.poll eventBuffer σ.aired)⟩ →
      StreamEffect w σ (.receive i) τ
  | none {l τ} : (∀ i, l ≠ .subscribe i) → l ≠ .snapshot → τ.aired = σ.aired →
      τ.streams = σ.streams → StreamEffect w σ l τ

/-- Every step has one of these effects. -/
theorem WebState.step_stream {w : WebState Disk} {σ τ : System Disk} {l : Label}
    (hstep : w.step σ l = some τ) : StreamEffect w σ l τ := by
  cases step_cases hstep with
  | emit => exact .emit rfl rfl
  | snapshot hfree => exact .snapshot hfree rfl rfl
  | subscribe hstream => exact .subscribe hstream rfl rfl
  | receive hstream => exact .receive hstream rfl rfl
  | request | send | scanned | drain | shutdown => exact .none (by simp) (by simp) rfl rfl

/-- What has been broadcast stays broadcast. -/
theorem WebState.aired_step {w : WebState Disk} {σ τ : System Disk} {l : Label}
    (hstep : w.step σ l = some τ) : σ.aired <+: τ.aired := by
  cases WebState.step_stream hstep with
  | emit haired =>
    rw [haired]
    exact List.prefix_append _ _
  | snapshot _ haired | subscribe _ haired | receive _ haired | none _ _ haired =>
    exact haired ▸ List.prefix_rfl

/-- A stream keeps its snapshot, and a faithful reader of it stays faithful and keeps the
point it subscribed at, while the broadcast channel goes on from `before` to `after`. -/
structure Stream.GrowsTo (before after : List Delta) (s t : Stream) : Prop where
  snapshot : t.snapshot = s.snapshot
  reader : ∀ r, s.reader = some r → r.Faithful before →
    ∃ r', t.reader = some r' ∧ r'.start = r.start ∧ r'.Faithful after

/-- Every stream of `σ` is still there in `τ` and has grown. -/
def System.StreamsGrow (σ τ : System Disk) : Prop :=
  ∀ (i : ℕ) (s : Stream), σ.streams[i]? = some s →
    ∃ t : Stream, τ.streams[i]? = some t ∧ s.GrowsTo σ.aired τ.aired t

/-- Doing nothing loses no stream. -/
theorem System.StreamsGrow.refl (σ : System Disk) : σ.StreamsGrow σ :=
  fun _ s h => ⟨s, h, rfl, fun r hr hfaithful => ⟨r, hr, rfl, hfaithful⟩⟩

/-- Streams that grow twice have grown. -/
theorem System.StreamsGrow.trans (σ τ υ : System Disk) (hστ : σ.StreamsGrow τ)
    (hτυ : τ.StreamsGrow υ) : σ.StreamsGrow υ := by
  intro i s hs
  obtain ⟨t, ht, hst⟩ := hστ i s hs
  obtain ⟨u, hu, htu⟩ := hτυ i t ht
  refine ⟨u, hu, htu.snapshot.trans hst.snapshot, fun r hr hfaithful => ?_⟩
  obtain ⟨r', hr', hstart, hfaithful'⟩ := hst.reader r hr hfaithful
  obtain ⟨r'', hr'', hstart', hfaithful''⟩ := htu.reader r' hr' hfaithful'
  exact ⟨r'', hr'', hstart'.trans hstart, hfaithful''⟩

/-- A stream that is left alone grows with the broadcast channel. -/
theorem Stream.GrowsTo.of_longer {before after : List Delta} (h : before <+: after)
    (s : Stream) : s.GrowsTo before after s :=
  ⟨rfl, fun r hr hfaithful => ⟨r, hr, rfl, hfaithful.send h⟩⟩

/-- No step removes a stream or makes its reader unfaithful. -/
theorem WebState.streamsGrow_step {w : WebState Disk} {σ τ : System Disk} {l : Label}
    (hstep : w.step σ l = some τ) : σ.StreamsGrow τ := by
  have haired := WebState.aired_step hstep
  intro i s hs
  have hlt : i < σ.streams.length := (List.getElem?_eq_some_iff.mp hs).1
  cases WebState.step_stream hstep with
  | emit _ hstreams => exact ⟨s, by rw [hstreams]; exact hs, .of_longer haired s⟩
  | none _ _ _ hstreams => exact ⟨s, by rw [hstreams]; exact hs, .of_longer haired s⟩
  | snapshot _ _ hstreams =>
    refine ⟨s, ?_, .of_longer haired s⟩
    rw [hstreams, List.getElem?_append_left hlt]
    exact hs
  | @subscribe j snapshot _ hstream _ hstreams =>
    by_cases hj : j = i
    · subst hj
      obtain rfl := Option.some.inj (hs.symm.trans hstream)
      have hnew : τ.streams[j]? = some ⟨snapshot, some (Broadcast.subscribe σ.aired)⟩ := by
        rw [hstreams, List.getElem?_set_self hlt]
      refine ⟨_, hnew, rfl, fun r hr => ?_⟩
      cases hr
    · refine ⟨s, ?_, .of_longer haired s⟩
      rw [hstreams, List.getElem?_set_ne hj]
      exact hs
  | @receive j snapshot reader _ hstream hsame hstreams =>
    by_cases hj : j = i
    · subst hj
      obtain rfl := Option.some.inj (hs.symm.trans hstream)
      have hnew : τ.streams[j]? = some ⟨snapshot, some (reader.poll eventBuffer σ.aired)⟩ := by
        rw [hstreams, List.getElem?_set_self hlt]
      refine ⟨_, hnew, rfl, fun r hr hfaithful => ?_⟩
      obtain rfl := Option.some.inj hr
      exact ⟨_, rfl, Reader.poll_start .., by rw [hsame]; exact hfaithful.poll⟩
    · refine ⟨s, ?_, .of_longer haired s⟩
      rw [hstreams, List.getElem?_set_ne hj]
      exact hs

/-! ## One subscription -/

/-- One event stream in a run: its snapshot is taken, then it subscribes, and it has been
read for a while without ever lagging. What happens in between is arbitrary. -/
structure WebState.Subscription (w : WebState Disk) where
  /-- The state that the snapshot shows. -/
  shown : System Disk
  taken : System Disk
  gap : List Label
  /-- The state in which the stream subscribes. -/
  joining : System Disk
  joined : System Disk
  after : List Label
  later : System Disk
  snapshot : Snapshot
  reader : Reader Delta
  take : w.step shown .snapshot = some taken
  wait : Transition.run w.step taken gap = some joining
  join : w.step joining (.subscribe shown.streams.length) = some joined
  go : Transition.run w.step joined after = some later
  stream : later.streams[shown.streams.length]? = some ⟨snapshot, some reader⟩
  never : reader.lagged = false

namespace WebState.Subscription

variable {w : WebState Disk}

/-- What the stream has read and what still waits for it is everything that was broadcast
after the snapshot, once and in order; and unless it is too slow from now on, reading on
delivers all of it. -/
structure MissesNothing (sub : w.Subscription) : Prop where
  sofar : sub.reader.read ++ sub.later.aired.drop sub.reader.next =
    sub.later.aired.drop sub.taken.aired.length
  later : sub.later.aired.length ≤ sub.reader.next + eventBuffer →
    ((Reader.poll eventBuffer sub.later.aired)^[sub.later.aired.length - sub.reader.next]
      sub.reader).read = sub.later.aired.drop sub.taken.aired.length

/-- The snapshot is that of the state behind the lock, and when it is taken everything that
was emitted before has been broadcast. -/
theorem shown_eq (sub : w.Subscription) :
    sub.snapshot = w.snapshotJson sub.shown.server.shared ∧ sub.shown.LockFree ∧
      sub.taken.aired = sub.shown.aired := by
  cases WebState.step_stream sub.take with
  | none _ hne => exact absurd rfl hne
  | snapshot hfree haired hstreams =>
    refine ⟨?_, hfree, haired⟩
    have hgrow : sub.taken.StreamsGrow sub.later := by
      have hrun : Transition.run w.step sub.taken
          (sub.gap ++ .subscribe sub.shown.streams.length :: sub.after) = some sub.later := by
        rw [Transition.run_append, sub.wait]
        exact Transition.run_cons_eq_some.mpr ⟨sub.joined, sub.join, sub.go⟩
      exact Transition.run_rel System.StreamsGrow.refl System.StreamsGrow.trans
        (fun σ l τ hstep => WebState.streamsGrow_step hstep) hrun
    have hstream : sub.taken.streams[sub.shown.streams.length]? =
        some ⟨w.snapshotJson sub.shown.server.shared, none⟩ := by
      rw [hstreams, List.getElem?_append_right (Nat.le_refl _), Nat.sub_self]
      rfl
    obtain ⟨t, hlater, hgrown⟩ := hgrow _ _ hstream
    obtain rfl := Option.some.inj (sub.stream.symm.trans hlater)
    exact hgrown.snapshot

/-- The reader started at the end of what was broadcast when it subscribed, and is faithful. -/
theorem reader_faithful (sub : w.Subscription) :
    sub.reader.start = sub.joining.aired.length ∧ sub.reader.Faithful sub.later.aired := by
  cases WebState.step_stream sub.join with
  | none hne => exact absurd rfl (hne _)
  | @subscribe _ snapshot _ hstream haired hstreams =>
    have hlt := (List.getElem?_eq_some_iff.mp hstream).1
    have hjoined : sub.joined.streams[sub.shown.streams.length]? =
        some ⟨snapshot, some (Broadcast.subscribe sub.joining.aired)⟩ := by
      rw [hstreams, List.getElem?_set_self hlt]
    have hgrow : sub.joined.StreamsGrow sub.later :=
      Transition.run_rel System.StreamsGrow.refl System.StreamsGrow.trans
        (fun σ l τ hstep => WebState.streamsGrow_step hstep) sub.go
    obtain ⟨t, hlater, hgrown⟩ := hgrow _ _ hjoined
    obtain rfl := Option.some.inj (sub.stream.symm.trans hlater)
    obtain ⟨r, hr, hstart, hfaithful⟩ := hgrown.reader _ rfl
      (by rw [haired]; exact Broadcast.subscribe_faithful _)
    obtain rfl := Option.some.inj hr
    exact ⟨hstart, hfaithful⟩

end WebState.Subscription

/-- A stream that never lags misses nothing exactly when nothing is broadcast between its
snapshot and its subscription. -/
theorem WebState.missesNothing_iff {w : WebState Disk} (sub : w.Subscription) :
    sub.MissesNothing ↔ sub.joining.aired = sub.taken.aired := by
  obtain ⟨hstart, hfaithful⟩ := sub.reader_faithful
  have hread := hfaithful.read_append_pending sub.never
  have haired {σ τ : System Disk} {ls : List Label} (hrun : Transition.run w.step σ ls = some τ) :
      σ.aired <+: τ.aired :=
    Transition.run_rel (R := fun σ τ : System Disk => σ.aired <+: τ.aired)
      (fun _ => List.prefix_rfl) (fun _ _ _ => List.IsPrefix.trans)
      (fun _ _ _ hstep => WebState.aired_step hstep) hrun
  have hgap := haired sub.wait
  have hlater : sub.joining.aired <+: sub.later.aired :=
    (WebState.aired_step sub.join).trans (haired sub.go)
  constructor
  · intro hmisses
    have hsame := congrArg List.length (hread.symm.trans hmisses.sofar)
    rw [List.length_drop, List.length_drop, hstart] at hsame
    have hle := hgap.length_le
    have hle' := hlater.length_le
    exact (hgap.eq_of_length (by omega)).symm
  · intro hsame
    refine ⟨?_, fun hkept => ?_⟩
    · rw [hread, hstart, hsame]
    · rw [hfaithful.catch_up sub.never hkept, hstart, hsame]

/-- The system before a browser connects. -/
def connecting : System MemoryDisk :=
  memoryState.serve (plainConfig []) "Loaded saved configuration" ⟨none, true⟩

/-- The state after it has been given its snapshot. -/
def connected : System MemoryDisk := (memoryState.step connecting .snapshot).get (by decide)

/-- Another browser selects a protocol, which broadcasts three payloads. -/
def selectProtocol : List Label :=
  [.request (.setProtocol "modbus"), .emit, .emit, .emit]

/-- The stream subscribes first. -/
def subscribedFirst : System MemoryDisk :=
  (memoryState.step connected (.subscribe 0)).get (by decide)

/-- Then the protocol is selected, and the stream is read three times. -/
def selectedAndRead : System MemoryDisk :=
  (Transition.run memoryState.step subscribedFirst
    (selectProtocol ++ [.receive 0, .receive 0, .receive 0])).get (by decide)

/-- A stream that subscribes before anything happens. -/
def promptStream : memoryState.Subscription where
  shown := connecting
  taken := connected
  gap := []
  joining := connected
  joined := subscribedFirst
  after := selectProtocol ++ [.receive 0, .receive 0, .receive 0]
  later := selectedAndRead
  snapshot := memoryState.snapshotJson connecting.server.shared
  reader := ⟨0, 3, selectedAndRead.aired, false⟩
  take := by rw [connected, Option.some_get]
  wait := rfl
  join := by
    rw [subscribedFirst, Option.some_get]
    rfl
  go := by rw [selectedAndRead, Option.some_get]
  stream := by decide +kernel
  never := rfl

/-- It misses nothing of the selection. -/
theorem promptStream_missesNothing : promptStream.MissesNothing :=
  (WebState.missesNothing_iff promptStream).mpr rfl

/-- The protocol is selected first. -/
def selectedFirst : System MemoryDisk :=
  (Transition.run memoryState.step connected selectProtocol).get (by decide)

/-- Then the stream subscribes. -/
def subscribedLater : System MemoryDisk :=
  (memoryState.step selectedFirst (.subscribe 0)).get (by decide)

/-- A stream that subscribes after another browser has selected a protocol. -/
def lateStream : memoryState.Subscription where
  shown := connecting
  taken := connected
  gap := selectProtocol
  joining := selectedFirst
  joined := subscribedLater
  after := []
  later := subscribedLater
  snapshot := memoryState.snapshotJson connecting.server.shared
  reader := ⟨3, 3, [], false⟩
  take := by rw [connected, Option.some_get]
  wait := by rw [selectedFirst, Option.some_get]
  join := by
    rw [subscribedLater, Option.some_get]
    rfl
  go := rfl
  stream := by decide +kernel
  never := rfl

/-- The selection is neither in its snapshot, which was taken before, nor will the stream
ever read it. -/
theorem lateStream_misses_selection : ¬ lateStream.MissesNothing := by
  intro h
  have hread := h.sofar
  revert hread
  decide

end Republisher
