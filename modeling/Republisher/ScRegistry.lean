import Republisher.Keyed
import Republisher.ScHub

/-!
# Who holds a virtual address at a hub

A connection speaks for the address that its task has registered. The hub goes on reaching it
under that address, and no other connection gets the address, until a sweep takes the address
out of the table although the task is still running.
-/

namespace BacnetTransport

open Wire

/-- The address that a task has registered, until it has ended. -/
def ClientTask.held (task : ClientTask) : Option Vmac :=
  match task.phase with
  | .serving | .leaving => task.clientVmac
  | .absent | .done => none

/-- A task that serves its connection holds the address it has registered. -/
theorem ClientTask.held_of_serving {task : ClientTask} (h : task.phase = .serving) :
    task.held = task.clientVmac := by
  rw [held, h]

/-- So does a task that has stopped reading. -/
theorem ClientTask.held_of_leaving {task : ClientTask} (h : task.phase = .leaving) :
    task.held = task.clientVmac := by
  rw [held, h]

/-- An address that a task holds is one that it has registered. -/
theorem ClientTask.clientVmac_of_held {task : ClientTask} {vmac : Vmac}
    (h : task.held = some vmac) : task.clientVmac = some vmac := by
  unfold held at h
  split at h
  · exact h
  · exact h
  · cases h
  · cases h

namespace Hub

variable {κ : Type}

/-- The connection that the hub reaches an address on. -/
def reaches (h : Hub κ) (vmac : Vmac) : Option κ := (h.get vmac).map HubClient.sink

/-- The connections that addresses are reached on, and the addresses that tasks hold. -/
def table (h : Hub κ) : Ownership.Table Vmac κ := ⟨h.reaches, fun c => (h.tasks c).held⟩

/-- Whoever holds an address is reached under it. -/
def Agrees (h : Hub κ) : Prop :=
  ∀ c vmac, (h.tasks c).held = some vmac → h.reaches vmac = some c

/-! ## What happens to the table -/

/-- An address that is taken out of the table leads nowhere. -/
@[simp] theorem get_remove_self (h : Hub κ) (vmac : Vmac) : (h.remove vmac).get vmac = none := by
  simp [get, remove]

/-- The other addresses lead where they led. -/
theorem get_remove_of_ne (h : Hub κ) {vmac v : Vmac} (hv : v ≠ vmac) :
    (h.remove vmac).get v = h.get v := by
  unfold get remove
  rw [List.find?_filter]
  congr 2
  funext entry
  by_cases hentry : entry.1 = v
  · simp [hentry, hv]
  · simp [hentry]

/-- An address that is taken out of the table is taken away. -/
theorem table_remove (h : Hub κ) (vmac : Vmac) : (h.remove vmac).table = h.table.free vmac := by
  have howner : (h.remove vmac).reaches = Function.update h.reaches vmac none := by
    funext v
    by_cases hv : v = vmac
    · subst hv
      rw [Function.update_self, reaches, get_remove_self]
      rfl
    · rw [Function.update_of_ne hv, reaches, get_remove_of_ne h hv]
      rfl
  exact Ownership.Table.ext howner rfl

variable [DecidableEq κ]

/-- The task that is replaced. -/
@[simp] theorem tasks_setTask_self (h : Hub κ) (c : κ) (task : ClientTask) :
    (h.setTask c task).tasks c = task :=
  Function.update_self ..

/-- The other tasks stay as they are. -/
theorem tasks_setTask_of_ne (h : Hub κ) {c d : κ} (task : ClientTask) (hd : d ≠ c) :
    (h.setTask c task).tasks d = h.tasks d :=
  Function.update_of_ne hd ..

/-- A registered client is reached, and the others are reached as before. -/
theorem reaches_register (h : Hub κ) (c : κ) (vmac : Vmac) (maxNpdu : UInt16) :
    (h.register c vmac maxNpdu).reaches = Function.update h.reaches vmac (some c) := by
  funext v
  by_cases hv : v = vmac
  · subst hv
    simp [reaches, get, register, setTask]
  · rw [Function.update_of_ne hv]
    simp [reaches, get, register, setTask, Ne.symm hv]

/-- What tasks hold when one of them is replaced. -/
theorem held_setTask (h : Hub κ) (c : κ) (task : ClientTask) :
    (h.setTask c task).table.held = Function.update h.table.held c task.held := by
  funext d
  by_cases hd : d = c
  · subst hd
    rw [Function.update_self]
    exact congrArg ClientTask.held (tasks_setTask_self h d task)
  · rw [Function.update_of_ne hd]
    exact congrArg ClientTask.held (tasks_setTask_of_ne h task hd)

/-- The table does not see a task that holds what it held. -/
theorem table_setTask {h : Hub κ} {c : κ} {task : ClientTask}
    (hheld : task.held = (h.tasks c).held) : (h.setTask c task).table = h.table := by
  refine Ownership.Table.ext rfl ?_
  rw [held_setTask, hheld]
  exact Function.update_eq_self c h.table.held

/-- The table does not see that a task stops reading. -/
theorem table_leave {h : Hub κ} {c : κ} (hserving : (h.tasks c).phase = .serving) :
    (h.leave c).table = h.table := by
  apply table_setTask
  rw [ClientTask.held_of_leaving rfl, ClientTask.held_of_serving hserving]

/-- A client that registers a free address takes it. -/
theorem table_register {h : Hub κ} {c : κ} {vmac : Vmac} (maxNpdu : UInt16)
    (hserving : (h.tasks c).phase = .serving) (hfree : h.get vmac = none) :
    h.table.step (.take c vmac) = some (h.register c vmac maxNpdu).table := by
  have howner : h.table.owner vmac = none := by
    simp [table, reaches, hfree]
  rw [Ownership.Table.step, if_pos howner]
  refine congrArg some (Ownership.Table.ext ?_ ?_)
  · exact (reaches_register h c vmac maxNpdu).symm
  · have hheld : ({ h.tasks c with clientVmac := some vmac } : ClientTask).held = some vmac :=
      ClientTask.held_of_serving hserving
    rw [register, held_setTask, hheld]
    rfl

/-- A task that has ended gives up its address. -/
theorem table_finished {h : Hub κ} {c : κ} (hleaving : (h.tasks c).phase = .leaving) :
    h.table.step (.leave c) = some
      (((h.tasks c).clientVmac.elim h h.remove).setTask c
        { h.tasks c with phase := .done }).table := by
  have hheld : h.table.held c = (h.tasks c).clientVmac := ClientTask.held_of_leaving hleaving
  refine congrArg some (Ownership.Table.ext ?_ ?_)
  · rw [hheld]
    cases (h.tasks c).clientVmac with
    | none => rfl
    | some vmac =>
      have hfree := congrArg Ownership.Table.owner (table_remove h vmac)
      exact hfree.symm
  · have htasks : ((h.tasks c).clientVmac.elim h h.remove).table.held = h.table.held := by
      cases (h.tasks c).clientVmac <;> rfl
    rw [held_setTask, htasks]
    rfl

/-! ## What a task does to the hub -/

/-- The address that something asks to be registered. -/
def asked : Incoming → Option Vmac
  | .binary data =>
    match decodeScMessage data with
    | .ok msg => if msg.function = .connectRequest then some (vmacAt msg.payload 0) else none
    | .error _ => none
  | _ => none

/-- A request to be registered asks for the address that it begins with. -/
theorem asked_request {data : Bytes} {msg : ScMessage} (hdata : decodeScMessage data = .ok msg)
    (hmsg : msg.function = .connectRequest) :
    asked (.binary data) = some (vmacAt msg.payload 0) := by
  rw [asked, hdata]
  exact if_pos hmsg

/-- What a task does to the hub with something that its connection brings: nothing, it stops
reading, or it registers the address it is asked for, which is free and not reserved, while
there is room. -/
inductive Moves (h : Hub κ) (c : κ) (incoming : Incoming) : Hub κ → Prop
  | stays : Moves h c incoming h
  | leaves : Moves h c incoming (h.leave c)
  | registers (vmac : Vmac) (maxNpdu : UInt16) (delivered : Bool)
      (request : asked incoming = some vmac)
      (free : h.get vmac = none) (known : vmac ≠ unknownVmac) (single : vmac ≠ broadcastVmac)
      (room : h.clients.length < maxScClients) :
      Moves h c incoming (unlessLost delivered (h.register c vmac maxNpdu) c)

variable (hub : ScHub)

/-- A request to be registered registers the client or makes its task stop. -/
theorem onConnectRequest_moves {h : Hub κ} {c : κ} {data : Bytes} {msg : ScMessage}
    (hdata : decodeScMessage data = .ok msg) (hmsg : msg.function = .connectRequest)
    (delivered : Bool) :
    Moves h c (.binary data) (onConnectRequest hub h c msg delivered).1 := by
  unfold onConnectRequest
  dsimp only
  split_ifs with hshort hreserved htaken hfull
  · exact .leaves
  · exact .leaves
  · exact .leaves
  · exact .leaves
  · obtain ⟨hknown, hsingle⟩ := not_or.mp hreserved
    exact .registers _ _ _ (asked_request hdata hmsg) (by simpa using htaken) hknown hsingle
      (by omega)

/-- What a connection brings moves its own task only. -/
theorem onIncoming_moves (h : Hub κ) (c : κ) (incoming : Incoming) (delivered : Bool) :
    Moves h c incoming (onIncoming hub h c incoming delivered).1 := by
  cases incoming with
  | binary data =>
    rw [onIncoming]
    cases hdata : decodeScMessage data with
    | error e => exact .stays
    | ok msg =>
      simp only [onMessage]
      split
      · next hmsg => exact onConnectRequest_moves hub hdata hmsg delivered
      · cases delivered
        · exact .leaves
        · exact .stays
      · exact .leaves
      · exact .stays
      · exact .stays
  | close => exact .leaves
  | pingPong => exact .stays
  | other => exact .leaves
  | failed => exact .leaves

/-! ## Runs of a hub -/

/-- The address that an event takes out of the table without the task being told. -/
def evicts (h : Hub κ) : Event κ → Option Vmac
  | .heartbeat false => h.idleClients.head?.map Prod.fst
  | _ => none

/-- No address is taken out of the table that a task still holds. -/
def Keeps (h : Hub κ) (e : Event κ) : Prop :=
  ∀ vmac ∈ h.evicts e, ∀ c, (h.tasks c).held ≠ some vmac

/-- The hub that a task works on with what its connection brings. -/
def heard (h : Hub κ) (c : κ) (now : ℕ) : Hub κ :=
  h.setTask c { h.tasks c with clientActivity := now }

/-- What an event does to a hub: what a task that serves its connection does, or a task begins,
stops reading or ends, or the sweep moves. -/
inductive Steps (h : Hub κ) : Event κ → Hub κ → Prop
  | opened (c : κ) (now : ℕ) (absent : (h.tasks c).phase = .absent) :
      Steps h (.opened c now) (h.setTask c ⟨.serving, none, now⟩)
  | received {c : κ} {incoming : Incoming} {now : ℕ} {delivered : Bool} {t : Hub κ}
      (serving : (h.tasks c).phase = .serving) (moves : Moves (h.heard c now) c incoming t) :
      Steps h (.received c incoming now delivered) t
  | ended (c : κ) (serving : (h.tasks c).phase = .serving) : Steps h (.ended c) (h.leave c)
  | finished (c : κ) (leaving : (h.tasks c).phase = .leaving) :
      Steps h (.finished c) (((h.tasks c).clientVmac.elim h h.remove).setTask c
        { h.tasks c with phase := .done })
  | tick (order : List (Vmac × HubClient κ)) (now : ℕ) :
      Steps h (.tick order now) { h with idleClients := h.idleAt order now }
  | asked {vmac : Vmac} {sink : κ} {rest : List (Vmac × κ)}
      (next : h.idleClients = (vmac, sink) :: rest) :
      Steps h (.heartbeat true) { h with idleClients := rest, nextMsgId := h.nextMsgId + 1 }
  | lost {vmac : Vmac} {sink : κ} {rest : List (Vmac × κ)}
      (next : h.idleClients = (vmac, sink) :: rest) :
      Steps h (.heartbeat false)
        ({ h with idleClients := rest, nextMsgId := h.nextMsgId + 1 }.remove vmac)

/-- Every event of a hub is one of these steps. -/
theorem steps_of_step {h t : Hub κ} {e : Event κ} (hstep : h.step hub e = some t) :
    h.Steps e t := by
  unfold step handle at hstep
  cases e with
  | opened c now =>
    dsimp only at hstep
    split_ifs at hstep with habsent
    · cases hstep
      exact .opened c now habsent
    · cases hstep
  | received c incoming now delivered =>
    dsimp only at hstep
    split_ifs at hstep with hserving
    · cases hstep
      exact .received hserving (onIncoming_moves hub _ c incoming delivered)
    · cases hstep
  | ended c =>
    dsimp only at hstep
    split_ifs at hstep with hserving
    · cases hstep
      exact .ended c hserving
    · cases hstep
  | finished c =>
    dsimp only at hstep
    split_ifs at hstep with hleaving
    · cases hstep
      exact .finished c hleaving
    · cases hstep
  | tick order now =>
    dsimp only at hstep
    split_ifs at hstep
    · cases hstep
      exact .tick order now
    · cases hstep
  | heartbeat delivered =>
    dsimp only at hstep
    cases hidle : h.idleClients with
    | nil =>
      rw [hidle] at hstep
      cases hstep
    | cons first rest =>
      obtain ⟨vmac, sink⟩ := first
      rw [hidle] at hstep
      cases hstep
      cases delivered with
      | true => exact .asked hidle
      | false => exact .lost hidle

/-- A task that has heard something goes on with the address it has. -/
theorem table_heard {h : Hub κ} {c : κ} (now : ℕ) : (h.heard c now).table = h.table :=
  table_setTask rfl

/-- The phase of a task that has heard something. -/
theorem phase_heard (h : Hub κ) (c : κ) (now : ℕ) :
    ((h.heard c now).tasks c).phase = (h.tasks c).phase := by
  rw [heard, tasks_setTask_self]

/-- A task that serves its connection takes a free address or leaves the table as it is. -/
theorem Moves.table {h t : Hub κ} {c : κ} {incoming : Incoming} (hmoves : Moves h c incoming t)
    (hserving : (h.tasks c).phase = .serving) :
    t.table = h.table ∨ ∃ a, h.table.step a = some t.table := by
  cases hmoves with
  | stays => exact .inl rfl
  | leaves => exact .inl (table_leave hserving)
  | registers vmac maxNpdu delivered _ hfree =>
    refine .inr ⟨.take c vmac, ?_⟩
    rw [table_register maxNpdu hserving hfree]
    cases delivered with
    | true => rfl
    | false =>
      have hstill : ((h.register c vmac maxNpdu).tasks c).phase = .serving := by
        rw [register, tasks_setTask_self]
        exact hserving
      exact congrArg some (table_leave hstill).symm

/-- A hub works on its table of clients. -/
theorem works : Ownership.Works (step hub) (table (κ := κ)) evicts := by
  intro h e t hstep
  cases steps_of_step hub hstep with
  | opened c now habsent =>
    have hheld : (h.tasks c).held = none := by rw [ClientTask.held, habsent]
    refine .inl (table_setTask ?_)
    rw [hheld]
    rfl
  | @received c incoming now delivered t hserving hmoves =>
    have htable := hmoves.table ((phase_heard h c now).trans hserving)
    rw [table_heard] at htable
    exact htable
  | ended c hserving => exact .inl (table_leave hserving)
  | finished c hleaving => exact .inr ⟨.leave c, table_finished hleaving⟩
  | tick order now => exact .inl rfl
  | asked hnext => exact .inl rfl
  | lost hnext =>
    simp only [evicts, hnext]
    exact table_remove _ _

omit [DecidableEq κ] in
/-- In a fresh hub no task holds an address. -/
theorem agrees_start : (start : Hub κ).Agrees := fun _ _ hheld => by cases hheld

/-- Table and tasks agree throughout a run exactly when no sweep of it takes an address out of
the table that a task still holds. -/
theorem agrees_iff {h : Hub κ} (hh : h.Agrees) (es : List (Event κ)) :
    Transition.Throughout (step hub) Agrees h es ↔
      Transition.Along (step hub) (fun h e _ => h.Keeps e) h es :=
  (works hub).agrees_iff hh es

/-- From a fresh hub on, an address that a connection holds is reached on that connection and
held by no other one, in every state of a run, exactly when no sweep of the run takes an
address out of the table that a task still holds. -/
theorem held_by_one_iff (es : List (Event κ)) :
    Transition.Throughout (step hub) (fun h => ∀ c vmac, (h.tasks c).held = some vmac →
      h.reaches vmac = some c ∧ ∀ other, (h.tasks other).held = some vmac → other = c) start es ↔
        Transition.Along (step hub) (fun h e _ => h.Keeps e) start es := by
  rw [← agrees_iff hub agrees_start]
  constructor
  · exact Transition.Throughout.mono fun h hone c vmac hheld => (hone c vmac hheld).1
  · refine Transition.Throughout.mono fun h hagree c vmac hheld => ?_
    have htable : h.table.Agrees := hagree
    exact ⟨hagree c vmac hheld, fun other hother => htable.unique hother hheld⟩

/-! ## What is in the table -/

/-- An address that a device can have. -/
def Usable (vmac : Vmac) : Prop := vmac ≠ unknownVmac ∧ vmac ≠ broadcastVmac

/-- No address is in the table twice, there is room for all, and every address that is there or
that a task remembers is that of a device. -/
structure Ordered (h : Hub κ) : Prop where
  nodup : (h.clients.map Prod.fst).Nodup
  room : h.clients.length ≤ maxScClients
  listed : ∀ entry ∈ h.clients, Usable entry.1
  remembered : ∀ c vmac, (h.tasks c).clientVmac = some vmac → Usable vmac

omit [DecidableEq κ] in
/-- An address that leads nowhere is not in the table. -/
theorem not_mem_of_get_eq_none {h : Hub κ} {vmac : Vmac} (hfree : h.get vmac = none) :
    vmac ∉ h.clients.map Prod.fst := by
  intro hmem
  obtain ⟨entry, hentry, rfl⟩ := List.mem_map.mp hmem
  have hnone := List.find?_eq_none.mp (Option.map_eq_none_iff.mp hfree) entry hentry
  exact hnone (by simp)

omit [DecidableEq κ] in
/-- The table is in order without an address. -/
theorem Ordered.remove {h : Hub κ} (hh : h.Ordered) (vmac : Vmac) : (h.remove vmac).Ordered where
  nodup := hh.nodup.sublist (List.filter_sublist.map Prod.fst)
  room := Nat.le_trans (List.length_filter_le _ _) hh.room
  listed := fun entry hentry => hh.listed entry (List.mem_of_mem_filter hentry)
  remembered := hh.remembered

/-- The table is in order with another task that remembers no other address. -/
theorem Ordered.setTask {h : Hub κ} (hh : h.Ordered) {c : κ} {task : ClientTask}
    (htask : ∀ vmac, task.clientVmac = some vmac → Usable vmac) : (h.setTask c task).Ordered where
  nodup := hh.nodup
  room := hh.room
  listed := hh.listed
  remembered := by
    intro d vmac hvmac
    by_cases hd : d = c
    · subst hd
      rw [tasks_setTask_self] at hvmac
      exact htask vmac hvmac
    · rw [tasks_setTask_of_ne h task hd] at hvmac
      exact hh.remembered d vmac hvmac

/-- The table is in order with one more client that has a free address of a device. -/
theorem Ordered.register {h : Hub κ} (hh : h.Ordered) {c : κ} {vmac : Vmac} (maxNpdu : UInt16)
    (hfree : h.get vmac = none) (husable : Usable vmac) (hroom : h.clients.length < maxScClients) :
    (h.register c vmac maxNpdu).Ordered := by
  have hlisted : ({ h with clients := (vmac, ⟨c, maxNpdu⟩) :: h.clients } : Hub κ).Ordered :=
    { nodup := List.nodup_cons.mpr ⟨not_mem_of_get_eq_none hfree, hh.nodup⟩
      room := hroom
      listed := List.forall_mem_cons.mpr ⟨husable, hh.listed⟩
      remembered := hh.remembered }
  refine hlisted.setTask fun v hv => ?_
  obtain rfl := Option.some.inj hv
  exact husable

/-- What a task does leaves the table in order. -/
theorem Ordered.moves {h t : Hub κ} {c : κ} {incoming : Incoming} (hh : h.Ordered)
    (hmoves : Moves h c incoming t) : t.Ordered := by
  cases hmoves with
  | stays => exact hh
  | leaves => exact hh.setTask (hh.remembered c)
  | registers vmac maxNpdu delivered _ hfree hknown hsingle hroom =>
    have hregistered := hh.register (c := c) maxNpdu hfree ⟨hknown, hsingle⟩ hroom
    cases delivered with
    | true => exact hregistered
    | false => exact hregistered.setTask (hregistered.remembered c)

/-- Every event leaves the table in order. -/
theorem Ordered.step {h t : Hub κ} {e : Event κ} (hh : h.Ordered)
    (hstep : h.step hub e = some t) : t.Ordered := by
  cases steps_of_step hub hstep with
  | opened c now => exact hh.setTask (fun vmac hvmac => by cases hvmac)
  | @received c incoming now delivered t hserving hmoves =>
    have hheard : (h.heard c now).Ordered := hh.setTask (hh.remembered c)
    exact hheard.moves hmoves
  | ended c => exact hh.setTask (hh.remembered c)
  | finished c =>
    refine Ordered.setTask ?_ (hh.remembered c)
    cases (h.tasks c).clientVmac with
    | none => exact hh
    | some vmac => exact hh.remove vmac
  | tick order now => exact ⟨hh.nodup, hh.room, hh.listed, hh.remembered⟩
  | asked hnext => exact ⟨hh.nodup, hh.room, hh.listed, hh.remembered⟩
  | @lost vmac sink rest hnext =>
    have hasked : ({ h with idleClients := rest, nextMsgId := h.nextMsgId + 1 } : Hub κ).Ordered :=
      ⟨hh.nodup, hh.room, hh.listed, hh.remembered⟩
    exact hasked.remove vmac

/-- The table of a hub is always in order. -/
theorem ordered_throughout (es : List (Event κ)) :
    Transition.Throughout (step hub) Ordered start es := by
  refine Transition.throughout_of_invariant (fun h e t hh hstep => hh.step hub hstep) ?_
  exact ⟨List.nodup_nil, Nat.zero_le _, by simp [start], fun c vmac hvmac => by cases hvmac⟩

end Hub

end BacnetTransport
