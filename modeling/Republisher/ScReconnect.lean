import Republisher.ScRelay

/-!
# Nodes that connect anew

A node that has heard nothing for too long makes its connection anew over the one it has. The hub
has the node in its table, finds its address taken, refuses it and ends the connection, so
that no such handshake succeeds.
-/

namespace BacnetTransport

open Wire

namespace Hub

variable {κ : Type} [DecidableEq κ] (hub : ScHub)

/-- The frames among what is sent that go to a connection. -/
def framesTo (c : κ) (sent : List (κ × Outgoing)) : List Bytes :=
  sent.filterMap fun
    | (d, .binary frame) => if d = c then some frame else none
    | (_, .close _ _) => none

/-- The frames that a connection is sent over a run. -/
def inbox (c : κ) : Hub κ → List (Event κ) → List Bytes
  | _, [] => []
  | h, e :: es =>
    match h.step hub e with
    | none => []
    | some t => framesTo c (h.sends hub e) ++ inbox c t es

/-- A frame goes to a connection exactly when it is sent there. -/
theorem mem_framesTo {c : κ} {sent : List (κ × Outgoing)} {frame : Bytes} :
    frame ∈ framesTo c sent ↔ (c, Outgoing.binary frame) ∈ sent := by
  rw [framesTo, List.mem_filterMap]
  constructor
  · rintro ⟨⟨d, out⟩, hmem, hframe⟩
    cases out with
    | binary data =>
      dsimp only at hframe
      split_ifs at hframe with hd
      · cases hframe
        exact hd ▸ hmem
    | close code reason => cases hframe
  · intro hmem
    exact ⟨_, hmem, if_pos rfl⟩

/-- What holds of every frame that a connection is sent at an event holds of those of a run. -/
theorem forall_mem_inbox {c : κ} {Q : Bytes → Prop} {h : Hub κ} {es : List (Event κ)}
    (halong : Transition.Along (step hub)
      (fun h e _ => ∀ frame, (c, Outgoing.binary frame) ∈ h.sends hub e → Q frame) h es) :
    ∀ frame ∈ inbox hub c h es, Q frame := by
  induction es generalizing h with
  | nil => simp [inbox]
  | cons e es ih =>
    intro frame hframe
    rw [inbox] at hframe
    cases hstep : h.step hub e with
    | none =>
      rw [hstep] at hframe
      cases hframe
    | some t =>
      rw [hstep] at hframe
      obtain ⟨hnow, hrest⟩ := halong t hstep
      rcases List.mem_append.mp hframe with hsent | hlater
      · exact hnow frame (mem_framesTo.mp hsent)
      · exact ih hrest frame hlater

/-- A connection only asks for one address to be registered. -/
def AsksFor (c : κ) (vmac : Vmac) : Event κ → Prop
  | .received d incoming _ _ => d = c → ∀ v, asked incoming = some v → v = vmac
  | _ => True

/-- A connection is served only while its task remembers an address. -/
def Bound (h : Hub κ) (c : κ) (vmac : Vmac) : Prop :=
  (h.tasks c).phase ≠ .absent ∧
    ((h.tasks c).phase = .serving → (h.tasks c).clientVmac = some vmac)

/-- Another task of a connection binds it to the address if the task is served with that. -/
theorem Bound.setTask {h : Hub κ} {c d : κ} {vmac : Vmac} (hh : h.Bound c vmac)
    {task : ClientTask} (htask : d = c → task.phase ≠ .absent ∧
      (task.phase = .serving → task.clientVmac = some vmac)) : (h.setTask d task).Bound c vmac := by
  unfold Bound
  by_cases hd : c = d
  · subst hd
    rw [tasks_setTask_self]
    exact htask rfl
  · rw [tasks_setTask_of_ne h task hd]
    exact hh

/-- A connection that only asks for its own address goes on being bound to it. -/
theorem Bound.step {h t : Hub κ} {e : Event κ} {c : κ} {vmac : Vmac} (hh : h.Bound c vmac)
    (hstep : h.step hub e = some t) (hasks : AsksFor c vmac e) : t.Bound c vmac := by
  cases steps_of_step hub hstep with
  | opened d now habsent => exact hh.setTask fun hd => absurd (hd ▸ habsent) hh.1
  | @received d incoming now delivered t hserving hmoves =>
    have hheard : (h.heard d now).Bound c vmac := by
      refine hh.setTask fun hd => ?_
      subst hd
      exact hh
    cases hmoves with
    | stays => exact hheard
    | leaves => exact hheard.setTask fun _ => ⟨by simp, by simp⟩
    | registers v maxNpdu accepted hasked =>
      have hregistered : ((h.heard d now).register d v maxNpdu).Bound c vmac := by
        have hlisted : ({ h.heard d now with
            clients := (v, ⟨d, maxNpdu⟩) :: (h.heard d now).clients } : Hub κ).Bound c vmac :=
          hheard
        refine hlisted.setTask fun hd => ?_
        subst hd
        refine ⟨hheard.1, fun _ => ?_⟩
        rw [hasks rfl v hasked]
      cases accepted with
      | true => exact hregistered
      | false => exact hregistered.setTask fun _ => ⟨by simp, by simp⟩
  | ended d => exact hh.setTask fun _ => ⟨by simp, by simp⟩
  | finished d =>
    have hremoved : ((h.tasks d).clientVmac.elim h h.remove).Bound c vmac := by
      cases (h.tasks d).clientVmac <;> exact hh
    exact hremoved.setTask fun _ => ⟨by simp, by simp⟩
  | tick order now => exact hh
  | asked hnext => exact hh
  | lost hnext => exact hh

/-- A connection that is bound to an address which it is reached under is not accepted. -/
theorem Bound.not_accepted {h : Hub κ} {e : Event κ} {c : κ} {vmac : Vmac} (hh : h.Bound c vmac)
    (hagree : h.Agrees) (hasks : AsksFor c vmac e) {frame : Bytes} {m : ScMessage}
    (hmem : (c, Outgoing.binary frame) ∈ h.sends hub e) (hm : decodeScMessage frame = .ok m) :
    m.function ≠ .connectAccept := by
  intro haccept
  obtain ⟨incoming, now, delivered, v, rfl, hserving, hasked, hfree⟩ :=
    sends_accepts hub hmem hm haccept
  obtain rfl := hasks rfl v hasked
  have hheld : (h.tasks c).held = some v :=
    (ClientTask.held_of_serving hserving).trans (hh.2 hserving)
  have hreached := hagree c v hheld
  rw [reaches, hfree] at hreached
  cases hreached

omit [DecidableEq κ] in
/-- A connection whose task holds an address is bound to it. -/
theorem bound_of_held {h : Hub κ} {c : κ} {vmac : Vmac} (hheld : (h.tasks c).held = some vmac) :
    h.Bound c vmac := by
  refine ⟨fun habsent => ?_, fun _ => ClientTask.clientVmac_of_held hheld⟩
  rw [ClientTask.held, habsent] at hheld
  cases hheld

/-- In every run in which no sweep takes an address out of the table that a task still holds, a
node that is registered and only asks for its own address is never accepted again on the same
connection: with whatever it reads of what the hub still sends, and whatever fails, no further
handshake of it succeeds. -/
theorem reconnect_refused {es more : List (Event κ)} {h : Hub κ} {c : κ} {node : ScConnection}
    (hrun : Transition.run (step hub) start es = some h)
    (hheld : (h.tasks c).held = some node.localVmac)
    (hkeeps : Transition.Along (step hub) (fun h e _ => h.Keeps e) start (es ++ more))
    (hasks : Transition.Along (step hub) (fun _ e _ => AsksFor c node.localVmac e) h more)
    {incoming : List (Except Error Bytes)}
    (hfrom : ∀ data, .ok data ∈ incoming → data ∈ inbox hub c h more) :
    (node.performHandshake (.ok ()) incoming).2 ≠ .ok () := by
  intro hdone
  obtain ⟨hbefore, hafter⟩ := hkeeps.of_append hrun
  have hagree : h.Agrees := ((agrees_iff hub agrees_start es).mpr hbefore).last hrun
  have hagrees : Transition.Throughout (step hub) Agrees h more :=
    (agrees_iff hub hagree more).mpr hafter
  have hbound : Transition.Throughout (step hub) (fun h => h.Bound c node.localVmac) h more :=
    Transition.throughout_of_along (fun h e t hh hstep hC => hh.step hub hstep hC)
      (bound_of_held hheld) hasks
  have hrefused : Transition.Along (step hub) (fun h e _ =>
      ∀ frame, (c, Outgoing.binary frame) ∈ h.sends hub e →
        ∀ m, decodeScMessage frame = .ok m → m.function ≠ .connectAccept) h more := by
    refine (Transition.throughout_and.mpr ⟨hagrees, hbound⟩).along_mono ?_ hasks
    rintro s e t ⟨hs, hb⟩ - hC frame hmem m hm
    exact hb.not_accepted hub hs hC hmem hm
  obtain ⟨-, msg, hmsg⟩ := ScConnection.performHandshake_ok_iff.mp hdone
  obtain ⟨haccept, data, hdata, hread⟩ := hmsg.mem
  exact forall_mem_inbox hub hrefused data (hfrom data hdata) msg hread haccept

omit [DecidableEq κ] in
/-- A node only asks for its own address. -/
theorem asksFor_buildConnectRequest (c : κ) (node : ScConnection) (now : ℕ) (delivered : Bool) :
    AsksFor c node.localVmac
      (.received c (.binary (encodeScMessage node.buildConnectRequest.2)) now delivered) := by
  have hasked := asked_request
    (decodeScMessage_written (m := node.buildConnectRequest.2)
      (ScConnection.plainScMessage_wellFormed rfl _ _)) rfl
  intro _ v hv
  rw [hasked] at hv
  exact (Option.some.inj hv).symm

/-- The hub of the two nodes after their run. -/
def pairState : Hub Bool := (Transition.run (step pairHub) start pairRun).getD start

/-- The run of the two nodes leads there. -/
theorem run_pairRun : Transition.run (step pairHub) start pairRun = some pairState := by
  have hsome : (Transition.run (step pairHub) start pairRun).isSome = true := by decide +kernel
  rw [pairState, ← Option.get_eq_getD _ (h := hsome), Option.some_get]

/-- The first of the two nodes is not accepted again. -/
theorem reconnect_refused_pair :
    ((pairNode false).performHandshake (.ok ())
      ((inbox pairHub false pairState [pairConnect false]).map .ok)).2 ≠ .ok () :=
  @reconnect_refused Bool _ pairHub pairRun [pairConnect false] pairState false (pairNode false)
    run_pairRun (by decide +kernel) (keeps_of_reached pairHub (by simp [pairRun, pairConnect]))
    (fun _ _ => ⟨asksFor_buildConnectRequest false (pairNode false) 0 true, trivial⟩) _
    (fun _ hdata => by simpa using hdata)

end Hub

end BacnetTransport
