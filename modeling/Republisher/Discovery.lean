import Republisher.Delivery

/-!
# Where the device and browse lists come from

A discovery or a browse delivers its result as an event that carries neither its
protocol nor its request. The lists belong to the selected protocol exactly as
long as no result is applied after the selection, or the browse, has changed.
-/

namespace Republisher

variable {Disk : Type}

/-- The protocol selected now. -/
abbrev System.selected (σ : System Disk) : String := σ.server.shared.config.protocol

/-- The device was found by a discovery that was started under the protocol. -/
def System.FoundUnder (σ : System Disk) (protocol : String) (device : DiscoveredDevice) : Prop :=
  ∃ k t factory connection outcome, σ.thread k = some t ∧
    t.spawn = .discovery factory connection ∧ factory.protocol = protocol ∧
      .devices outcome ∈ t.sent ∧ device ∈ outcome.devices

/-- The thread was started to browse a device. -/
def Spawn.IsBrowse (spawn : Spawn) : Prop :=
  ∃ factory connection device, spawn = .browse factory connection device

/-- Thread `k` is the browse requested last. -/
def System.LatestBrowse (σ : System Disk) (k : ℕ) : Prop :=
  (∃ t, σ.thread k = some t ∧ t.spawn.IsBrowse) ∧
    ∀ j u, k < j → σ.thread j = some u → ¬ u.spawn.IsBrowse

/-- The point was returned by the browse requested last, which ran under the protocol. -/
def System.ReturnedByLatest (σ : System Disk) (protocol : String) (point : DiscoveredPoint) :
    Prop :=
  ∃ k t points, σ.LatestBrowse k ∧ σ.thread k = some t ∧ t.spawn.protocol = protocol ∧
    .points points ∈ t.sent ∧ point ∈ points

/-- The devices a thread was handed. -/
def Spawn.devices : Spawn → List DiscoveredDevice
  | .browse _ _ device => [device]
  | .scanAllObjects _ _ devices _ => devices
  | _ => []

/-- The lists hold only what was found for the selected protocol, and no browse or scan was
handed a device that was found for another protocol than its own. -/
structure System.Sourced (σ : System Disk) : Prop where
  devices : ∀ device ∈ σ.server.shared.devices, σ.FoundUnder σ.selected device
  browsed : ∀ point ∈ σ.server.shared.browsed, σ.ReturnedByLatest σ.selected point
  handed : ∀ k t, σ.thread k = some t → ∀ device ∈ t.spawn.devices,
    σ.FoundUnder t.spawn.protocol device

/-- Thread `k` works for the protocol selected now. -/
def System.ForSelected (σ : System Disk) (k : ℕ) : Prop :=
  ∃ t, σ.thread k = some t ∧ t.spawn.protocol = σ.selected

/-- A result that is applied was asked for under the selected protocol, and if it is that
of a browse no other browse was requested since; or such a request has returned
everything that it holds as well. -/
def System.AppliesTimely (σ : System Disk) (l : Label) (_ : System Disk) : Prop :=
  l = .drain → ∀ k e channel, σ.channel = (k, e) :: channel →
    (∀ outcome, e = .devices outcome → σ.ForSelected k ∨
      ∀ device ∈ outcome.devices, σ.FoundUnder σ.selected device) ∧
    ∀ points, e = .points points → (σ.ForSelected k ∧ σ.LatestBrowse k) ∨
      ∀ point ∈ points, σ.ReturnedByLatest σ.selected point

/-- The point that a request adds from the browse list is one of the selected protocol. -/
def System.AddsSourced (σ : System Disk) (l : Label) (_ : System Disk) : Prop :=
  ∀ index found, l = .request (.addBrowsedPoint index) →
    σ.server.shared.browsed[index]? = some found → σ.ReturnedByLatest σ.selected found

/-! ## Sources are kept -/

/-- A device that was found under a protocol stays so. -/
theorem System.FoundUnder.grow {σ τ : System Disk} {protocol : String}
    {device : DiscoveredDevice} (h : σ.FoundUnder protocol device) (hgrow : σ.ThreadsGrow τ) :
    τ.FoundUnder protocol device := by
  obtain ⟨k, t, factory, connection, outcome, ht, hspawn, hprotocol, hsent, hmem⟩ := h
  obtain ⟨u, hu, hsame, hkept⟩ := hgrow k t ht
  exact ⟨k, u, factory, connection, outcome, hu, hsame.trans hspawn, hprotocol,
    hkept _ hsent, hmem⟩

/-- A device that was found under a protocol comes from a thread that works for it. -/
theorem System.FoundUnder.sender {σ : System Disk} {protocol : String}
    {device : DiscoveredDevice} (h : σ.FoundUnder protocol device) :
    ∃ t ∈ σ.server.threads, t.spawn.protocol = protocol ∧ t.sent ≠ [] := by
  obtain ⟨k, t, factory, connection, outcome, ht, hspawn, hprotocol, hsent, -⟩ := h
  exact ⟨t, List.mem_of_getElem? ht, by rw [hspawn]; exact hprotocol, List.ne_nil_of_mem hsent⟩

/-- Every browse of `τ` was already there in `σ`. -/
def System.NoNewBrowse (σ τ : System Disk) : Prop :=
  ∀ k u, τ.thread k = some u → u.spawn.IsBrowse → ∃ t, σ.thread k = some t ∧ t.spawn = u.spawn

/-- A point that the latest browse returned stays so until another browse is requested. -/
theorem System.ReturnedByLatest.grow {σ τ : System Disk} {protocol : String}
    {point : DiscoveredPoint} (h : σ.ReturnedByLatest protocol point) (hgrow : σ.ThreadsGrow τ)
    (hbrowses : σ.NoNewBrowse τ) : τ.ReturnedByLatest protocol point := by
  obtain ⟨k, t, points, ⟨⟨t', ht', hbrowse⟩, hlatest⟩, ht, hprotocol, hsent, hmem⟩ := h
  obtain rfl := Option.some.inj (ht.symm.trans ht')
  obtain ⟨u, hu, hsame, hkept⟩ := hgrow k t ht
  refine ⟨k, u, points, ⟨⟨u, hu, hsame ▸ hbrowse⟩, ?_⟩, hu, by rw [hsame]; exact hprotocol,
    hkept _ hsent, hmem⟩
  intro j v hj hv hvbrowse
  obtain ⟨t', ht', hspawn⟩ := hbrowses j v hv hvbrowse
  exact hlatest j t' hj ht' (hspawn ▸ hvbrowse)

/-! ## What requests do to the lists -/

/-- A request clears a list, or leaves it and the protocol as they are; a browse clears the
browse list. A thread that is handed devices gets them from the list, and works for the
selected protocol. -/
structure KeepsLists (s t : Server Disk) : Prop where
  devices : (t.shared.devices = s.shared.devices ∧
    t.shared.config.protocol = s.shared.config.protocol) ∨ t.shared.devices = []
  browsed : (t.shared.browsed = s.shared.browsed ∧
    t.shared.config.protocol = s.shared.config.protocol ∧ (t.threads = s.threads ∨
      ∃ spawn, ¬ spawn.IsBrowse ∧ t.threads = s.threads ++ [Thread.new spawn])) ∨
    t.shared.browsed = []
  threads : t.threads = s.threads ∨ ∃ spawn, t.threads = s.threads ++ [Thread.new spawn] ∧
    ∀ device ∈ spawn.devices, device ∈ s.shared.devices ∧
      spawn.protocol = s.shared.config.protocol

/-- Logging and broadcasting keep the lists. -/
theorem Server.Silent.keepsLists {s t : Server Disk} (h : s.Silent t) : KeepsLists s t :=
  ⟨.inl ⟨h.shared.devices.symm, h.protocol⟩,
    .inl ⟨h.shared.browsed.symm, h.protocol, .inl h.threads⟩, .inl h.threads⟩

/-- Starting a thread that is handed nothing keeps the lists. -/
theorem Server.Silent.keepsLists_spawn {s t : Server Disk} {spawn : Spawn}
    (h : (s.spawn spawn).Silent t) (hbrowse : ¬ spawn.IsBrowse) (hdevices : spawn.devices = []) :
    KeepsLists s t := by
  have hprotocol : t.shared.config.protocol = s.shared.config.protocol := h.protocol
  refine ⟨.inl ⟨h.shared.devices.symm, hprotocol⟩,
    .inl ⟨h.shared.browsed.symm, hprotocol, .inr ⟨spawn, hbrowse, h.threads⟩⟩,
    .inr ⟨spawn, h.threads, fun device hmem => ?_⟩⟩
  rw [hdevices] at hmem
  cases hmem

/-- Every request handles the lists in this way. -/
theorem Effect.keepsLists {w : WebState Disk} {s t : Server Disk} {r : Request}
    (h : Effect w s r t) : KeepsLists s t := by
  cases h with
  | silent hsilent => exact hsilent.keepsLists
  | protocol _ hsilent =>
    exact ⟨.inr hsilent.shared.devices.symm, .inr hsilent.shared.browsed.symm,
      .inl hsilent.threads⟩
  | edit hedit hsilent =>
    have hsame := Request.edit_sameButConfig hedit
    have hprotocol : t.shared.config.protocol = s.shared.config.protocol :=
      hsilent.protocol.trans hsame.protocol
    exact ⟨.inl ⟨hsilent.shared.devices.symm.trans hsame.devices, hprotocol⟩,
      .inl ⟨hsilent.shared.browsed.symm.trans hsame.browsed, hprotocol, .inl hsilent.threads⟩,
      .inl hsilent.threads⟩
  | discover hfactory hsilent =>
    have hprotocol : t.shared.config.protocol = s.shared.config.protocol := hsilent.protocol
    refine ⟨.inr hsilent.shared.devices.symm, .inl ⟨hsilent.shared.browsed.symm, hprotocol,
      .inr ⟨_, ?_, hsilent.threads⟩⟩, .inr ⟨_, hsilent.threads, fun device hmem => by cases hmem⟩⟩
    rintro ⟨factory, connection, device, hspawn⟩
    cases hspawn
  | browse hdevice hfactory hsilent =>
    have hprotocol : t.shared.config.protocol = s.shared.config.protocol := hsilent.protocol
    refine ⟨.inl ⟨hsilent.shared.devices.symm, hprotocol⟩, .inr hsilent.shared.browsed.symm,
      .inr ⟨_, hsilent.threads, fun device hmem => ?_⟩⟩
    obtain rfl := List.mem_singleton.mp hmem
    exact ⟨List.mem_of_getElem? hdevice, RepublishRegistry.get_protocol hfactory⟩
  | scanAll _ hfactory hsilent =>
    have hprotocol : t.shared.config.protocol = s.shared.config.protocol := hsilent.protocol
    refine ⟨.inl ⟨hsilent.shared.devices.symm, hprotocol⟩, .inl ⟨hsilent.shared.browsed.symm,
      hprotocol, .inr ⟨_, ?_, hsilent.threads⟩⟩, .inr ⟨_, hsilent.threads, fun device hmem => ?_⟩⟩
    · rintro ⟨factory, connection, device, hspawn⟩
      cases hspawn
    · exact ⟨hmem, RepublishRegistry.get_protocol hfactory⟩
  | pollOnce _ hsilent =>
    refine hsilent.keepsLists_spawn ?_ rfl
    rintro ⟨factory, connection, device, hspawn⟩
    cases hspawn
  | start _ _ _ hsilent =>
    have hprotocol : t.shared.config.protocol = s.shared.config.protocol := hsilent.protocol
    refine ⟨.inl ⟨hsilent.shared.devices.symm, hprotocol⟩, .inl ⟨hsilent.shared.browsed.symm,
      hprotocol, .inr ⟨_, ?_, hsilent.threads⟩⟩,
      .inr ⟨_, hsilent.threads, fun device hmem => by cases hmem⟩⟩
    rintro ⟨factory, connection, device, hspawn⟩
    cases hspawn
  | stop _ hsilent =>
    have hprotocol : t.shared.config.protocol = s.shared.config.protocol := hsilent.protocol
    exact ⟨.inl ⟨hsilent.shared.devices.symm, hprotocol⟩,
      .inl ⟨hsilent.shared.browsed.symm, hprotocol, .inl hsilent.threads⟩, .inl hsilent.threads⟩

/-! ## The steps -/

/-- Starting a thread that does not browse requests no browse. -/
theorem System.NoNewBrowse.of_threads {σ τ : System Disk}
    (h : τ.server.threads = σ.server.threads ∨ ∃ spawn : Spawn, ¬ spawn.IsBrowse ∧
      τ.server.threads = σ.server.threads ++ [Thread.new spawn]) : σ.NoNewBrowse τ := by
  intro k u hu hbrowse
  rcases h with hthreads | ⟨spawn, hspawn, hthreads⟩
  · rw [System.thread, hthreads] at hu
    exact ⟨u, hu, rfl⟩
  · rw [System.thread, hthreads] at hu
    rcases getElem?_append_new.mp hu with hu | ⟨-, rfl⟩
    · exact ⟨u, hu, rfl⟩
    · exact absurd hbrowse hspawn

/-- Sending an event requests no browse. -/
theorem System.NoNewBrowse.sendFrom {σ : System Disk} {k : ℕ} {t : Thread}
    (ht : σ.thread k = some t) (e : WorkerEvent) (phase : Phase) :
    σ.NoNewBrowse (σ.sendFrom k t e phase) := by
  intro j u hu _
  rcases (getElem?_set_old ht).mp hu with ⟨rfl, rfl⟩ | ⟨-, hu⟩
  · exact ⟨t, ht, rfl⟩
  · exact ⟨u, hu, rfl⟩

/-- What the threads of `τ` were handed has a source when every one of them was there in
`σ` or was handed devices with a source. -/
theorem System.Sourced.handed_grow {σ τ : System Disk} (h : σ.Sourced) (hgrow : σ.ThreadsGrow τ)
    (hthreads : ∀ k u, τ.thread k = some u → (∃ t, σ.thread k = some t ∧ t.spawn = u.spawn) ∨
      ∀ device ∈ u.spawn.devices, σ.FoundUnder u.spawn.protocol device) :
    ∀ k u, τ.thread k = some u → ∀ device ∈ u.spawn.devices,
      τ.FoundUnder u.spawn.protocol device := by
  intro k u hu device hmem
  rcases hthreads k u hu with ⟨t, ht, hspawn⟩ | hnew
  · rw [← hspawn] at hmem ⊢
    exact (h.handed k t ht device hmem).grow hgrow
  · exact (hnew device hmem).grow hgrow

/-- A request keeps the lists sourced. -/
theorem System.Sourced.request {σ τ : System Disk} (h : σ.Sourced) (hgrow : σ.ThreadsGrow τ)
    (hkeeps : KeepsLists σ.server τ.server) : τ.Sourced := by
  refine ⟨fun device hmem => ?_, fun point hmem => ?_, h.handed_grow hgrow fun k u hu => ?_⟩
  · rcases hkeeps.devices with ⟨hdevices, hprotocol⟩ | hnil
    · rw [hdevices] at hmem
      rw [System.selected, hprotocol]
      exact (h.devices device hmem).grow hgrow
    · rw [hnil] at hmem
      cases hmem
  · rcases hkeeps.browsed with ⟨hbrowsed, hprotocol, hthreads⟩ | hnil
    · rw [hbrowsed] at hmem
      rw [System.selected, hprotocol]
      exact (h.browsed point hmem).grow hgrow (.of_threads hthreads)
    · rw [hnil] at hmem
      cases hmem
  · rcases hkeeps.threads with hthreads | ⟨spawn, hthreads, hhanded⟩
    · rw [System.thread, hthreads] at hu
      exact .inl ⟨u, hu, rfl⟩
    · rw [System.thread, hthreads] at hu
      rcases getElem?_append_new.mp hu with hu | ⟨-, rfl⟩
      · exact .inl ⟨u, hu, rfl⟩
      · right
        intro device hmem
        obtain ⟨hlist, hprotocol⟩ := hhanded device hmem
        rw [Thread.new_spawn, hprotocol]
        exact h.devices device hlist

/-- A step that writes neither the protocol nor the lists and starts no thread keeps the
lists sourced. -/
theorem System.Sourced.of_same {σ τ : System Disk} (h : σ.Sourced) (hgrow : σ.ThreadsGrow τ)
    (hbrowses : σ.NoNewBrowse τ)
    (hthreads : ∀ k u, τ.thread k = some u → ∃ t, σ.thread k = some t ∧ t.spawn = u.spawn)
    (hprotocol : τ.selected = σ.selected)
    (hdevices : τ.server.shared.devices = σ.server.shared.devices)
    (hbrowsed : τ.server.shared.browsed = σ.server.shared.browsed) : τ.Sourced := by
  refine ⟨fun device hmem => ?_, fun point hmem => ?_,
    h.handed_grow hgrow fun k u hu => .inl (hthreads k u hu)⟩
  · rw [hdevices] at hmem
    rw [hprotocol]
    exact (h.devices device hmem).grow hgrow
  · rw [hbrowsed] at hmem
    rw [hprotocol]
    exact (h.browsed point hmem).grow hgrow hbrowses

/-- A discovery that works for the selected protocol is a source of what it delivers. -/
theorem WebState.Traced.foundUnder {w : WebState Disk} {σ : System Disk} (h : w.Traced σ)
    {k : ℕ} {outcome : DiscoveryOutcome} (hqueued : (k, .devices outcome) ∈ σ.channel)
    (hselected : σ.ForSelected k) {device : DiscoveredDevice} (hmem : device ∈ outcome.devices) :
    σ.FoundUnder σ.selected device := by
  obtain ⟨t, ht, hsent⟩ := h.queued k _ hqueued
  obtain ⟨factory, connection, hspawn⟩ := h.sent k t ht _ hsent
  obtain ⟨t', ht', hprotocol⟩ := hselected
  obtain rfl := Option.some.inj (ht.symm.trans ht')
  rw [hspawn] at hprotocol
  exact ⟨k, t, factory, connection, outcome, ht, hspawn, hprotocol, hsent, hmem⟩

/-- The browse requested last, when it works for the selected protocol, is a source of what
it delivers. -/
theorem WebState.Traced.returnedByLatest {w : WebState Disk} {σ : System Disk}
    (h : w.Traced σ) {k : ℕ} {points : List DiscoveredPoint}
    (hqueued : (k, .points points) ∈ σ.channel) (hselected : σ.ForSelected k)
    (hlatest : σ.LatestBrowse k) {point : DiscoveredPoint} (hmem : point ∈ points) :
    σ.ReturnedByLatest σ.selected point := by
  obtain ⟨t, ht, hsent⟩ := h.queued k _ hqueued
  obtain ⟨t', ht', hprotocol⟩ := hselected
  obtain rfl := Option.some.inj (ht.symm.trans ht')
  exact ⟨k, t, points, hlatest, ht, hprotocol, hsent, hmem⟩

/-- Applying an event that was delivered in time keeps the lists sourced. -/
theorem WebState.sourced_drain {w : WebState Disk} {σ τ : System Disk} {k : ℕ} {e : WorkerEvent}
    (h : σ.Sourced) (htraced : w.Traced σ) (hhead : σ.channel = (k, e) :: τ.channel)
    (heffect : EventEffect w σ.server e τ.server) (htimely : σ.AppliesTimely .drain τ) :
    τ.Sourced := by
  obtain ⟨htimelyDevices, htimelyPoints⟩ := htimely rfl k e τ.channel hhead
  have hqueued : (k, e) ∈ σ.channel := by
    rw [hhead]
    exact List.mem_cons_self
  have hthreads := heffect.keepsWorkers.threads
  have hgrow : σ.ThreadsGrow τ := .of_eq hthreads
  have hbrowses : σ.NoNewBrowse τ := .of_threads (.inl hthreads)
  have hsame : ∀ k u, τ.thread k = some u → ∃ t, σ.thread k = some t ∧ t.spawn = u.spawn := by
    intro k u hu
    rw [System.thread, hthreads] at hu
    exact ⟨u, hu, rfl⟩
  cases heffect with
  | lifecycle hsilent =>
    exact h.of_same hgrow hbrowses hsame hsilent.protocol hsilent.shared.devices.symm
      hsilent.shared.browsed.symm
  | @devices outcome _ hsilent =>
    have hprotocol : τ.selected = σ.selected := hsilent.protocol
    refine ⟨fun device hmem => ?_, fun point hmem => ?_,
      h.handed_grow hgrow fun k u hu => .inl (hsame k u hu)⟩
    · rw [← hsilent.shared.devices] at hmem
      rw [hprotocol]
      rcases htimelyDevices outcome rfl with hselected | hfound
      · exact (htraced.foundUnder hqueued hselected hmem).grow hgrow
      · exact (hfound device hmem).grow hgrow
    · rw [← hsilent.shared.browsed] at hmem
      rw [hprotocol]
      exact (h.browsed point hmem).grow hgrow hbrowses
  | @points points _ hsilent =>
    have hprotocol : τ.selected = σ.selected := hsilent.protocol
    refine ⟨fun device hmem => ?_, fun point hmem => ?_,
      h.handed_grow hgrow fun k u hu => .inl (hsame k u hu)⟩
    · rw [← hsilent.shared.devices] at hmem
      rw [hprotocol]
      exact (h.devices device hmem).grow hgrow
    · rw [← hsilent.shared.browsed] at hmem
      rw [hprotocol]
      rcases htimelyPoints points rfl with ⟨hselected, hlatest⟩ | hreturned
      · exact (htraced.returnedByLatest hqueued hselected hlatest hmem).grow hgrow hbrowses
      · exact (hreturned point hmem).grow hgrow hbrowses
  | bulkTagImport hshared hsilent =>
    subst hshared
    exact h.of_same hgrow hbrowses hsame hsilent.protocol hsilent.shared.devices.symm
      hsilent.shared.browsed.symm
  | report _ hsetup hsilent =>
    have hprotocol : τ.selected = σ.selected :=
      hsilent.protocol.trans (congrArg AppConfig.protocol hsetup.config)
    exact h.of_same hgrow hbrowses hsame hprotocol
      (hsilent.shared.devices.symm.trans hsetup.devices)
      (hsilent.shared.browsed.symm.trans hsetup.browsed)

/-- Every step that applies no late result keeps the lists sourced. -/
theorem WebState.sourced_step {w : WebState Disk} {σ τ : System Disk} {l : Label}
    (h : σ.Sourced) (htraced : w.Traced σ) (hstep : w.step σ l = some τ)
    (htimely : σ.AppliesTimely l τ) : τ.Sourced := by
  have hgrow := WebState.threadsGrow_step hstep
  cases WebState.step_effect hstep with
  | request _ heffect _ _ => exact h.request hgrow heffect.keepsLists
  | sent _ ht _ =>
    refine h.of_same hgrow (.sendFrom ht _ _) (fun j u hu => ?_) rfl rfl rfl
    rcases (getElem?_set_old ht).mp hu with ⟨rfl, rfl⟩ | ⟨-, hu⟩
    · exact ⟨_, ht, rfl⟩
    · exact ⟨u, hu, rfl⟩
  | drained hhead heffect _ => exact WebState.sourced_drain h htraced hhead heffect htimely
  | shutdown hsilent _ _ =>
    have hthreads := hsilent.threads.trans (Server.raiseStop_threads _)
    have hshared := Server.raiseStop_shared σ.server
    refine h.of_same hgrow (.of_threads (.inl hthreads)) (fun j u hu => ?_) ?_ ?_ ?_
    · rw [System.thread, hthreads] at hu
      exact ⟨u, hu, rfl⟩
    · rw [System.selected, ← hsilent.shared.config, hshared]
    · rw [← hsilent.shared.devices, hshared]
    · rw [← hsilent.shared.browsed, hshared]
  | idle _ hshared hthreads _ _ _ =>
    refine h.of_same hgrow (.of_threads (.inl hthreads)) (fun j u hu => ?_)
      (by rw [System.selected, hshared]) (by rw [hshared]) (by rw [hshared])
    rw [System.thread, hthreads] at hu
    exact ⟨u, hu, rfl⟩

/-- If the lists are sourced after a result was applied, everything that it holds has been
found, or returned, for the selected protocol. -/
theorem WebState.timely_of_sourced {w : WebState Disk} {σ τ : System Disk} {l : Label}
    (hstep : w.step σ l = some τ) (h : τ.Sourced) : σ.AppliesTimely l τ := by
  rintro rfl k e channel hhead
  obtain ⟨_, _, hhead', heffect⟩ := WebState.step_drain hstep
  obtain ⟨hevent, rfl⟩ := List.cons.inj (hhead.symm.trans hhead')
  obtain ⟨rfl, rfl⟩ := Prod.mk.inj hevent
  have hthreads := heffect.keepsWorkers.threads
  have hback : τ.ThreadsGrow σ := .of_eq hthreads.symm
  have hbrowses : τ.NoNewBrowse σ := .of_threads (.inl hthreads.symm)
  constructor
  · rintro outcome rfl
    right
    intro device hmem
    cases heffect with
    | devices hsilent =>
      have hprotocol : τ.selected = σ.selected := hsilent.protocol
      have hfound := h.devices device (by rw [← hsilent.shared.devices]; exact hmem)
      rw [hprotocol] at hfound
      exact hfound.grow hback
    | report hreport => cases hreport
  · rintro points rfl
    right
    intro point hmem
    cases heffect with
    | points hsilent =>
      have hprotocol : τ.selected = σ.selected := hsilent.protocol
      have hreturned := h.browsed point (by rw [← hsilent.shared.browsed]; exact hmem)
      rw [hprotocol] at hreturned
      exact hreturned.grow hback hbrowses
    | report hreport => cases hreport

/-- The lists are empty when the first request arrives. -/
theorem WebState.serve_sourced (w : WebState Disk) (config : AppConfig) (bootStatus : String)
    (disk : Disk) : (w.serve config bootStatus disk).Sourced := by
  have hboot : (w.boot config bootStatus disk).Sourced := by
    refine ⟨fun device hmem => ?_, fun point hmem => ?_, fun k t ht => ?_⟩
    · cases hmem
    · cases hmem
    · cases ht
  have htraced : w.Traced (w.boot config bootStatus disk) := by
    refine ⟨fun k t ht => ?_, fun k e hmem => ?_⟩
    · cases ht
    · cases hmem
  refine w.serve_induction config bootStatus disk hboot fun σ hstep => ?_
  refine WebState.sourced_step hboot htraced hstep ?_
  intro hl
  cases hl

/-- In every run the device and browse lists hold only what was found for the selected
protocol, by the latest browse in the case of points, and no browse, scan or added point
uses a device or an addressing of another protocol, exactly when every result that is
applied is in time. -/
theorem WebState.sourced_iff (w : WebState Disk) (config : AppConfig) (bootStatus : String)
    (disk : Disk) (ls : List Label) :
    (Transition.Throughout w.step System.Sourced (w.serve config bootStatus disk) ls ∧
        Transition.Along w.step System.AddsSourced (w.serve config bootStatus disk) ls) ↔
      Transition.Along w.step System.AppliesTimely (w.serve config bootStatus disk) ls := by
  have hserve : System.Sourced (w.serve config bootStatus disk) ∧
      w.Traced (w.serve config bootStatus disk) :=
    ⟨w.serve_sourced config bootStatus disk, w.serve_traced config bootStatus disk⟩
  have hkeep (σ : System Disk) (l : Label) (τ : System Disk) (h : σ.Sourced ∧ w.Traced σ)
      (hstep : w.step σ l = some τ) (htimely : σ.AppliesTimely l τ) : τ.Sourced ∧ w.Traced τ :=
    ⟨WebState.sourced_step h.1 h.2 hstep htimely, WebState.traced_step h.2 hstep⟩
  have hiff :
      Transition.Throughout w.step System.Sourced (w.serve config bootStatus disk) ls ↔
        Transition.Along w.step System.AppliesTimely (w.serve config bootStatus disk) ls :=
    Transition.throughout_iff_along hkeep (fun σ h => h.1)
      (fun σ l τ _ hstep h => WebState.timely_of_sourced hstep h) hserve
  refine ⟨fun h => hiff.mp h.1, fun h => ⟨hiff.mpr h, ?_⟩⟩
  refine (hiff.mpr h).along fun σ l τ hσ _ index found _ hfound => ?_
  exact hσ.browsed found (List.mem_of_getElem? hfound)

/-- A device as a discovery reports it. -/
def plainDevice (key : String) : DiscoveredDevice :=
  { key, instanceNumber := none, address := "192.0.2.1", detail := "" }

/-- A discovery is started for one protocol, another one is selected, and then the result
arrives: the device list holds a device of the first protocol, and a browse hands it to
the adapter of the second. -/
theorem late_devices_of_other_protocol :
    ∃ τ, Transition.run memoryState.step
        (memoryState.serve (plainConfig []) "Loaded saved configuration" ⟨none, true⟩)
        [.request .discover, .emit, .emit, .request (.setProtocol "modbus"), .emit, .emit, .emit,
          .send 0 (.devices ⟨[plainDevice "AHU-1"], []⟩), .drain, .emit,
          .request (.browseDevice 0)] = some τ ∧
      ¬ τ.Sourced := by
  refine ⟨_, rfl, fun h => ?_⟩
  have hfound := h.handed 1 _ rfl (plainDevice "AHU-1") List.mem_cons_self
  -- the only thread that works for `modbus` is the browse, which has sent nothing
  obtain ⟨t, hmem, hprotocol, hsent⟩ := hfound.sender
  revert t
  decide

end Republisher
