import Mathlib.Data.List.Basic
import Mathlib.Logic.Function.Iterate
import Republisher.Replay

/-!
# Readers of a bounded broadcast channel

A broadcast channel keeps the last `capacity` items sent. A reader has its own
position; when the item at its position is no longer kept, it is told how many
it missed and goes on with the oldest one kept. Positions count every item ever
sent, so a channel is the list of all items sent and a reader a number.
-/

namespace Broadcast

variable {α : Type*}

/-- What one read returns. -/
inductive Received (α : Type*)
  | empty
  | item (a : α)
  | lagged (missed : ℕ)

/-- One read at a position, with the position after it. -/
def recv (capacity : ℕ) (sent : List α) (next : ℕ) : Received α × ℕ :=
  if next + capacity < sent.length then
    (.lagged (sent.length - capacity - next), sent.length - capacity)
  else
    match sent[next]? with
    | none => (.empty, next)
    | some a => (.item a, next + 1)

/-- A reader with the position it subscribed at, its position now, the items it has
read, oldest first, and whether it ever missed one. -/
structure Reader (α : Type*) where
  start : ℕ
  next : ℕ
  read : List α
  lagged : Bool
  deriving DecidableEq

/-- A new reader sees the items sent from now on. -/
def subscribe (sent : List α) : Reader α := ⟨sent.length, sent.length, [], false⟩

/-- One read. -/
def Reader.poll (capacity : ℕ) (sent : List α) (r : Reader α) : Reader α :=
  match recv capacity sent r.next with
  | (.empty, _) => r
  | (.item a, next) => { r with next, read := r.read ++ [a] }
  | (.lagged _, next) => { r with next, lagged := true }

/-- The reader's position lies in the channel, and unless it lagged it has read exactly
the items between where it subscribed and where it is. -/
structure Reader.Faithful (sent : List α) (r : Reader α) : Prop where
  start_le : r.start ≤ r.next
  next_le : r.next ≤ sent.length
  read_eq : r.lagged = false → r.read = (sent.take r.next).drop r.start

/-- A new reader has read nothing and is at the end of the channel. -/
theorem subscribe_faithful (sent : List α) : (subscribe sent).Faithful sent :=
  ⟨Nat.le_refl _, Nat.le_refl _, fun _ => by simp [subscribe]⟩

/-- Sending further items does not change what a reader has read. -/
theorem Reader.Faithful.send {sent sent' : List α} {r : Reader α} (h : r.Faithful sent)
    (hmore : sent <+: sent') : r.Faithful sent' := by
  refine ⟨h.start_le, Nat.le_trans h.next_le hmore.length_le, fun hlag => ?_⟩
  obtain ⟨more, rfl⟩ := hmore
  rw [List.take_append_of_le_length h.next_le]
  exact h.read_eq hlag

/-- Reading keeps a reader faithful. -/
theorem Reader.Faithful.poll {capacity : ℕ} {sent : List α} {r : Reader α}
    (h : r.Faithful sent) : (r.poll capacity sent).Faithful sent := by
  have hstart := h.start_le
  unfold Reader.poll recv
  by_cases hlag : r.next + capacity < sent.length
  · rw [if_pos hlag]
    exact ⟨by dsimp only; omega, by dsimp only; omega, fun hfalse => by cases hfalse⟩
  · rw [if_neg hlag]
    cases hitem : sent[r.next]? with
    | none => exact h
    | some a =>
      have hlt : r.next < sent.length := (List.getElem?_eq_some_iff.mp hitem).1
      refine ⟨by dsimp only; omega, by dsimp only; omega, fun hfalse => ?_⟩
      have hread := h.read_eq hfalse
      have htake : r.start ≤ (sent.take r.next).length := by
        rw [List.length_take]
        omega
      dsimp only
      rw [hread, List.take_add_one, hitem, Option.toList_some, List.drop_append_of_le_length htake]

/-- A reader never moves its subscription point. -/
@[simp] theorem Reader.poll_start (capacity : ℕ) (sent : List α) (r : Reader α) :
    (r.poll capacity sent).start = r.start := by
  unfold Reader.poll
  split <;> rfl

/-- A reader that never lagged has read, and still has to read, exactly the items
sent since it subscribed, each once and in the order they were sent. -/
theorem Reader.Faithful.read_append_pending {sent : List α} {r : Reader α}
    (h : r.Faithful sent) (hlag : r.lagged = false) :
    r.read ++ sent.drop r.next = sent.drop r.start := by
  have hstart := h.start_le
  have hnext := h.next_le
  rw [h.read_eq hlag, List.drop_take]
  have hsplit := List.take_append_drop (r.next - r.start) (sent.drop r.start)
  rw [List.drop_drop, Nat.add_sub_cancel' hstart] at hsplit
  exact hsplit

/-- A read of an item that is still kept moves on by one and does not lag. -/
theorem Reader.poll_kept {capacity : ℕ} {sent : List α} {r : Reader α}
    (hlt : r.next < sent.length) (hkept : sent.length ≤ r.next + capacity) :
    (r.poll capacity sent).next = r.next + 1 ∧ (r.poll capacity sent).lagged = r.lagged := by
  unfold Reader.poll recv
  rw [if_neg (by omega), List.getElem?_eq_getElem hlt]
  exact ⟨rfl, rfl⟩

/-- A reader that never lagged and is not about to gets everything sent since it subscribed
by reading on. -/
theorem Reader.Faithful.catch_up {capacity : ℕ} {sent : List α} {r : Reader α}
    (h : r.Faithful sent) (hlag : r.lagged = false) (hkept : sent.length ≤ r.next + capacity) :
    ((Reader.poll capacity sent)^[sent.length - r.next] r).read = sent.drop r.start := by
  induction hpending : sent.length - r.next generalizing r with
  | zero =>
    have hall := h.read_append_pending hlag
    rw [List.drop_eq_nil_of_le (by omega), List.append_nil] at hall
    exact hall
  | succ pending ih =>
    obtain ⟨hnext, hlagged⟩ := Reader.poll_kept (by omega) hkept
    rw [Function.iterate_succ_apply, ← Reader.poll_start capacity sent r]
    exact ih h.poll (hlagged.trans hlag) (by omega) (by omega)

/-- The items one read goes past, each with whether it was read. -/
def Reader.passes (capacity : ℕ) (sent : List α) (r : Reader α) : List (α × Bool) :=
  match recv capacity sent r.next with
  | (.empty, _) => []
  | (.item a, _) => [(a, true)]
  | (.lagged _, next) => ((sent.take next).drop r.next).map fun a => (a, false)

/-- These are the items between the two positions of the reader, and those that were read are
added to what it has read. -/
theorem Reader.passes_spec (capacity : ℕ) (sent : List α) (r : Reader α) :
    (r.passes capacity sent).map Prod.fst = (sent.take (r.poll capacity sent).next).drop r.next ∧
      (r.poll capacity sent).read =
        r.read ++ Replay.read (r.passes capacity sent) ∧
      r.next ≤ (r.poll capacity sent).next := by
  unfold Reader.passes Reader.poll recv
  by_cases hlag : r.next + capacity < sent.length
  · rw [if_pos hlag]
    refine ⟨?_, ?_, by dsimp only; omega⟩
    · rw [List.map_map]
      exact List.map_id _
    · dsimp only
      rw [Replay.read_skipped, List.append_nil]
  · rw [if_neg hlag]
    cases hitem : sent[r.next]? with
    | none => simp [Replay.read]
    | some a =>
      have hlt : r.next < sent.length := (List.getElem?_eq_some_iff.mp hitem).1
      have hlength : (sent.take r.next).length = r.next := by
        rw [List.length_take]
        omega
      refine ⟨?_, rfl, Nat.le_succ _⟩
      dsimp only
      rw [List.take_add_one, hitem, Option.toList_some, List.drop_append_of_le_length
        (Nat.le_of_eq hlength.symm), List.drop_eq_nil_of_le (Nat.le_of_eq hlength)]
      rfl

end Broadcast
