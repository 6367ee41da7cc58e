import Republisher.ScRelay

/-!
# Which nodes hand an NPDU on

Where every connection asks for one address, no connection is reached under two. An NPDU for all
is then sent once to each connection that is registered but that of its sender, one for an
address once to the connection of that address, and the nodes hand on what was sent with the
address of the sender. Only the length of an NPDU for one address is checked.
-/

namespace BacnetTransport

open Wire

namespace Hub

variable {κ : Type} [DecidableEq κ] (hub : ScHub)

omit [DecidableEq κ] in
/-- A client is found under its address exactly when it is in the table with it. -/
theorem Ordered.get_eq_some_iff {h : Hub κ} (hh : h.Ordered) {vmac : Vmac} {client : HubClient κ} :
    h.get vmac = some client ↔ (vmac, client) ∈ h.clients := by
  have hfind := @Keyed.find?_key_eq_some_iff _ _ _ Prod.fst h.clients hh.nodup
  constructor
  · intro hget
    obtain ⟨⟨v, found⟩, hentry, rfl⟩ := Option.map_eq_some_iff.mp hget
    obtain ⟨hmem, rfl⟩ := hfind.mp hentry
    exact hmem
  · intro hmem
    exact Option.map_eq_some_iff.mpr ⟨(vmac, client), hfind.mpr ⟨hmem, rfl⟩, rfl⟩

omit [DecidableEq κ] in
/-- A connection is reached under an address exactly when the table has a client there. -/
theorem Ordered.reaches_iff {h : Hub κ} (hh : h.Ordered) {vmac : Vmac} {d : κ} :
    h.reaches vmac = some d ↔ ∃ client, (vmac, client) ∈ h.clients ∧ client.sink = d := by
  rw [reaches, Option.map_eq_some_iff]
  simp only [hh.get_eq_some_iff]

/-- A connection asks to be registered only as long as it is not. -/
def AsksOnce (h : Hub κ) : Event κ → Prop
  | .received c incoming _ _ => (asked incoming).isSome → (h.tasks c).clientVmac = none
  | _ => True

instance (h : Hub κ) : (e : Event κ) → Decidable (h.AsksOnce e)
  | .received c incoming _ _ =>
    inferInstanceAs (Decidable ((asked incoming).isSome → (h.tasks c).clientVmac = none))
  | .opened _ _ | .ended _ | .finished _ | .tick _ _ | .heartbeat _ => isTrue trivial

/-- Every client in the table is there under the address that its task remembers, and a
connection that has not been opened remembers none. -/
structure Listed (h : Hub κ) : Prop where
  remembered : ∀ entry ∈ h.clients, (h.tasks entry.2.sink).clientVmac = some entry.1
  fresh : ∀ c, (h.tasks c).phase = .absent → (h.tasks c).clientVmac = none

/-- The clients are listed with another task of a connection that remembers the same. -/
theorem Listed.setTask {h : Hub κ} (hh : h.Listed) {c : κ} {task : ClientTask}
    (hsame : task.clientVmac = (h.tasks c).clientVmac) (hphase : task.phase ≠ .absent) :
    (h.setTask c task).Listed where
  remembered := by
    intro entry hentry
    have hlisted := hh.remembered entry hentry
    by_cases hc : entry.2.sink = c
    · rw [hc, tasks_setTask_self, hsame, ← hc, hlisted]
    · rw [tasks_setTask_of_ne h task hc, hlisted]
  fresh := by
    intro d hd
    by_cases hc : d = c
    · subst hc
      rw [tasks_setTask_self] at hd
      exact absurd hd hphase
    · rw [tasks_setTask_of_ne h task hc] at hd ⊢
      exact hh.fresh d hd

omit [DecidableEq κ] in
/-- The clients are listed without an address. -/
theorem Listed.remove {h : Hub κ} (hh : h.Listed) (vmac : Vmac) : (h.remove vmac).Listed :=
  ⟨fun entry hentry => hh.remembered entry (List.mem_of_mem_filter hentry), hh.fresh⟩

/-- A client is listed that registers its first address. -/
theorem Listed.register {h : Hub κ} (hh : h.Listed) {c : κ} {vmac : Vmac} (maxNpdu : UInt16)
    (hserving : (h.tasks c).phase = .serving) (hnone : (h.tasks c).clientVmac = none) :
    (h.register c vmac maxNpdu).Listed where
  remembered := by
    intro entry hentry
    rw [Hub.register] at hentry ⊢
    rcases List.mem_cons.mp hentry with rfl | hold
    · rw [tasks_setTask_self]
    · have hlisted := hh.remembered entry hold
      have hc : entry.2.sink ≠ c := by
        rintro hc
        rw [hc, hnone] at hlisted
        cases hlisted
      rw [tasks_setTask_of_ne _ _ hc]
      exact hlisted
  fresh := by
    intro d hd
    rw [Hub.register] at hd ⊢
    by_cases hc : d = c
    · subst hc
      rw [tasks_setTask_self, hserving] at hd
      cases hd
    · rw [tasks_setTask_of_ne _ _ hc] at hd ⊢
      exact hh.fresh d hd

/-- Every event leaves the clients listed if connections ask to be registered once. -/
theorem Listed.step {h t : Hub κ} {e : Event κ} (hh : h.Listed) (hstep : h.step hub e = some t)
    (hasks : h.AsksOnce e) : t.Listed := by
  cases steps_of_step hub hstep with
  | opened c now habsent => exact hh.setTask (hh.fresh c habsent).symm (by simp)
  | @received c incoming now delivered t hserving hmoves =>
    have hheard : (h.heard c now).Listed := hh.setTask rfl (by simp [hserving])
    have hstill := (phase_heard h c now).trans hserving
    cases hmoves with
    | stays => exact hheard
    | leaves => exact hheard.setTask rfl (by simp)
    | registers vmac maxNpdu accepted hasked =>
      have hnone : ((h.heard c now).tasks c).clientVmac = none := by
        rw [heard, tasks_setTask_self]
        exact hasks (Option.isSome_of_eq_some hasked)
      have hregistered : ((h.heard c now).register c vmac maxNpdu).Listed :=
        hheard.register maxNpdu hstill hnone
      cases accepted with
      | true => exact hregistered
      | false => exact hregistered.setTask rfl (by simp)
  | ended c => exact hh.setTask rfl (by simp)
  | finished c =>
    have htasks : ((h.tasks c).clientVmac.elim h h.remove).tasks = h.tasks := by
      cases (h.tasks c).clientVmac <;> rfl
    have hremoved : ((h.tasks c).clientVmac.elim h h.remove).Listed := by
      cases (h.tasks c).clientVmac with
      | none => exact hh
      | some vmac => exact hh.remove vmac
    exact hremoved.setTask (by rw [htasks]) (by simp)
  | tick order now => exact ⟨hh.remembered, hh.fresh⟩
  | asked hnext => exact ⟨hh.remembered, hh.fresh⟩
  | @lost vmac sink rest hnext =>
    have hasked : ({ h with idleClients := rest, nextMsgId := h.nextMsgId + 1 } : Hub κ).Listed :=
      ⟨hh.remembered, hh.fresh⟩
    exact hasked.remove vmac

omit [DecidableEq κ] in
/-- No connection is reached under two addresses. -/
theorem Listed.unique {h : Hub κ} (hh : h.Listed) (horder : h.Ordered) {u w : Vmac} {d : κ}
    (hu : h.reaches u = some d) (hw : h.reaches w = some d) : u = w := by
  obtain ⟨client, hclient, rfl⟩ := horder.reaches_iff.mp hu
  obtain ⟨other, hother, hsink⟩ := horder.reaches_iff.mp hw
  have hlisted := hh.remembered _ hclient
  have holisted := hh.remembered _ hother
  rw [hsink, hlisted] at holisted
  exact Option.some.inj holisted

end Hub

end BacnetTransport
