import Republisher.Network

/-!
# Edits of the connection form

A browser keeps its unsaved edits in `connValues`, where every `config` delta overwrites
them. This file follows one browser next to any others while the protocol stays, and says
when the daemon ends up with what the user has entered.
-/

namespace Republisher

variable {Disk : Type}

/-! ## The entered values -/

namespace Client

/-- No timer is running and no request is on its way. -/
def Settled (c : Client) : Prop := c.timer = false ∧ c.inFlight = []

instance (c : Client) : Decidable c.Settled :=
  decidable_of_iff (c.timer = false ∧ c.inFlight.isEmpty = true) (by simp [Settled])

/-- In every field the user has edited, the connection has what the daemon makes of the text
entered last. -/
def Reads (c : Client) (fields : List FieldSpec) (connection : Addressing) : Prop :=
  ∀ key ∈ c.entered.keys, connection.get? key = (buildAddressing fields c.entered).get? key

instance (c : Client) (fields : List FieldSpec) (connection : Addressing) :
    Decidable (c.Reads fields connection) :=
  inferInstanceAs (Decidable (∀ key ∈ c.entered.keys, _))

/-- The map `values` stores what the user has entered. -/
def Keeps (c : Client) (fields : List FieldSpec) (values : FieldValues) : Prop :=
  c.Reads fields (buildAddressing fields values)

instance (c : Client) (fields : List FieldSpec) (values : FieldValues) :
    Decidable (c.Keeps fields values) := inferInstanceAs (Decidable (c.Reads _ _))

/-- The user has edited nothing yet. -/
structure Fresh (c : Client) : Prop where
  settled : c.Settled
  entered : c.entered = ∅

/-- A form without edits is read by every connection. -/
theorem Fresh.reads {c : Client} (h : c.Fresh) (fields : List FieldSpec)
    (connection : Addressing) : c.Reads fields connection := by
  intro key hkey
  rw [h.entered] at hkey
  simp at hkey

end Client

/-- The values of a `PUT /api/connection`. -/
def Action.putValues : Action → Option FieldValues
  | .request (.setConnection values) => some values
  | _ => none

/-- Only a `PUT` has values. -/
theorem Action.putValues_eq_some {a : Action} {values : FieldValues}
    (h : a.putValues = some values) : a = .request (.setConnection values) := by
  cases a with
  | request r =>
    cases r with
    | setConnection => exact congrArg _ (congrArg _ (Option.some.inj h))
    | _ => cases h
  | _ => cases h

/-- The event is a `set_protocol` to a protocol there is. -/
def Occurrence.switches (w : WebState Disk) : Occurrence → Bool
  | .act a => a.switches w
  | _ => false

namespace Network

/-- The connection that is stored when the requests of the browser have been handled in order:
that of the newest one. -/
def outcome (w : WebState Disk) (fields : List FieldSpec) (k : ℕ) (n : Network Disk) :
    Addressing :=
  ((n.clients k).inFlight.getLast?.map fun put => buildAddressing fields put.values).getD
    (n.stored w n.protocol)

/-- When no timer is running, the newest request on its way has what the user entered, or the
daemon has it when there is none. -/
def Lossless (w : WebState Disk) (fields : List FieldSpec) (k : ℕ) (n : Network Disk) : Prop :=
  (n.clients k).timer = false → (n.clients k).Reads fields (n.outcome w fields k)

/-- The next event spares the edits of a browser. When its timer fires, the map that is sent
still has what was entered. When one of its requests is handled and no timer is running, the
newest request still on its way has it. When a request of another client is handled and the
browser is settled, that request has it. -/
def SparesEdits (fields : List FieldSpec) (k : ℕ) (n : Network Disk) : Occurrence → Prop
  | .act a => ∀ values ∈ a.putValues, (n.clients k).Settled → (n.clients k).Keeps fields values
  | .fire i => i = k → (n.clients k).Keeps fields (n.clients k).browser.connValues
  | .put i j =>
      if i = k then
        ∀ put ∈ ((n.clients k).inFlight.eraseIdx j).getLast?,
          (n.clients k).timer = false → (n.clients k).Keeps fields put.values
      else
        ∀ put ∈ (n.clients i).inFlight[j]?,
          (n.clients k).Settled → (n.clients k).Keeps fields put.values
  | _ => True

instance (fields : List FieldSpec) (k : ℕ) (n : Network Disk) :
    (o : Occurrence) → Decidable (n.SparesEdits fields k o)
  | .act a => inferInstanceAs (Decidable (∀ values ∈ a.putValues, _))
  | .fire i => inferInstanceAs (Decidable (i = k → _))
  | .put i _ => inferInstanceAs (Decidable (if i = k then _ else _))
  | .connect _ | .deliver _ | .miss _ | .interfaces _ _ | .edit _ _ _ => isTrue trivial

/-- The next event may put another text into the form: a snapshot, a `config` payload or the
answer with the interfaces arrives. -/
def Refills (k : ℕ) (n : Network Disk) : Occurrence → Prop
  | .connect i | .interfaces i _ => i = k
  | .deliver i => i = k ∧ ∃ config, n.server.events[(n.clients k).seen]? = some (.config config)
  | _ => False

end Network

/-- The events with which the protocol stays. -/
def WebState.exchangeUnder (w : WebState Disk) (stringify : Json → String) (n : Network Disk)
    (o : Occurrence) : Option (Network Disk) :=
  if o.switches w then none else w.exchange stringify n o

/-! ## The form -/

/-- What is stored for a field depends on the text of that field only. -/
theorem buildAddressing_get?_congr (fields : List FieldSpec) {a b : FieldValues} {key : String}
    (h : a.get? key = b.get? key) :
    (buildAddressing fields a).get? key = (buildAddressing fields b).get? key := by
  have hfold (built other : Addressing) (hbuilt : built.get? key = other.get? key) :
      (fields.foldl (fun addressing spec => addressing.insert spec.key
          (fieldValue spec ((a.get? spec.key).getD ""))) built).get? key =
        (fields.foldl (fun addressing spec => addressing.insert spec.key
          (fieldValue spec ((b.get? spec.key).getD ""))) other).get? key := by
    induction fields generalizing built other with
    | nil => exact hbuilt
    | cons spec fields ih =>
      refine ih _ _ ?_
      simp only [Std.ExtTreeMap.get?_eq_getElem?, Std.ExtTreeMap.getElem?_insert,
        Std.LawfulEqCmp.compare_eq_iff_eq] at hbuilt h ⊢
      by_cases hkey : spec.key = key
      · subst hkey
        simp only [if_pos, h]
      · simp only [if_neg hkey, hbuilt]
  exact hfold ∅ ∅ rfl

/-- An edit keeps what was entered before in the form, next to the new text. -/
theorem Client.keeps_edit {c : Client} {fields : List FieldSpec}
    (h : c.Keeps fields c.browser.connValues) (key value : String) :
    (c.edit key value).Keeps fields (c.edit key value).browser.connValues := by
  intro edited hedited
  show (buildAddressing fields (c.browser.connValues.insert key value)).get? edited =
    (buildAddressing fields (c.entered.insert key value)).get? edited
  by_cases hkey : key = edited
  · subst hkey
    apply buildAddressing_get?_congr
    simp
  · have hother (values : FieldValues) :
        (buildAddressing fields (values.insert key value)).get? edited =
          (buildAddressing fields values).get? edited := by
      apply buildAddressing_get?_congr
      simp [Std.ExtTreeMap.getElem?_insert, hkey]
    have hbefore : edited ∈ c.entered.keys := by
      have hmem : edited ∈ (c.entered.insert key value).keys := hedited
      rw [Std.ExtTreeMap.mem_keys, Std.ExtTreeMap.mem_insert,
        Std.LawfulEqCmp.compare_eq_iff_eq] at hmem
      exact Std.ExtTreeMap.mem_keys.mpr (hmem.resolve_left hkey)
    rw [hother, hother]
    exact h edited hbefore

/-! ## One event -/

/-- A list that is empty without one of its items has no other. -/
theorem eq_singleton_of_eraseIdx_eq_nil {α : Type*} {items : List α} {j : ℕ} {item : α}
    (hitem : items[j]? = some item) (hempty : items.eraseIdx j = []) : items = [item] := by
  obtain ⟨hj, hget⟩ := List.getElem?_eq_some_iff.mp hitem
  have hlength := List.length_eraseIdx_of_lt hj
  rw [hempty, List.length_nil] at hlength
  obtain ⟨only, honly⟩ := List.length_eq_one_iff.mp (show items.length = 1 by omega)
  subst honly
  obtain rfl : j = 0 := by
    rw [List.length_singleton] at hj
    omega
  exact congrArg (fun only => [only]) hget

namespace Client

/-- The edits of a browser on their way to the daemon are the same. -/
structure SameEdits (c d : Client) : Prop where
  timer : d.timer = c.timer
  inFlight : d.inFlight = c.inFlight
  entered : d.entered = c.entered

/-- What reads as entered depends on what was entered. -/
theorem SameEdits.reads {c d : Client} (h : c.SameEdits d) {fields : List FieldSpec}
    {connection : Addressing} : d.Reads fields connection ↔ c.Reads fields connection := by
  unfold Reads
  rw [h.entered]

end Client

namespace Network

variable {w : WebState Disk} {fields : List FieldSpec} {k : ℕ} {n m : Network Disk}

/-- The browser that changes. -/
theorem setClient_self (n : Network Disk) (k : ℕ) (c : Client) : (n.setClient k c).clients k = c :=
  Function.update_self ..

/-- The others stay as they are. -/
theorem setClient_of_ne (n : Network Disk) {i k : ℕ} (h : i ≠ k) (c : Client) :
    (n.setClient i c).clients k = n.clients k := Function.update_of_ne (Ne.symm h) ..

/-- So do their edits. -/
theorem sameEdits_of_ne (n : Network Disk) {i k : ℕ} (h : i ≠ k) (c : Client) :
    (n.clients k).SameEdits ((n.setClient i c).clients k) := by
  rw [setClient_of_ne n h]
  exact ⟨rfl, rfl, rfl⟩

/-- A browser may change in what it shows. -/
theorem sameEdits_setClient (n : Network Disk) (i k : ℕ) {c : Client}
    (h : (n.clients i).SameEdits c) :
    (n.clients k).SameEdits ((n.setClient i c).clients k) := by
  by_cases hik : i = k
  · subst hik
    rwa [setClient_self]
  · exact n.sameEdits_of_ne hik c

/-- Nothing is lost when neither the edits nor the stored connection change. -/
theorem Lossless.of_same (h : n.Lossless w fields k)
    (hedits : (n.clients k).SameEdits (m.clients k))
    (hstored : m.stored w m.protocol = n.stored w n.protocol) : m.Lossless w fields k := by
  intro htimer
  rw [hedits.timer] at htimer
  unfold outcome
  rw [hedits.reads, hedits.inFlight, hstored]
  exact h htimer

/-- When another client's values are stored, a browser with edits on their way loses nothing; one
that is settled loses what these values do not have. -/
theorem lossless_stored (h : n.Lossless w fields k)
    (hedits : (n.clients k).SameEdits (m.clients k)) {values : FieldValues}
    (hstored : m.stored w m.protocol = buildAddressing fields values) :
    m.Lossless w fields k ↔ ((n.clients k).Settled → (n.clients k).Keeps fields values) := by
  cases hlast : (n.clients k).inFlight.getLast? with
  | none =>
    have hempty : (n.clients k).inFlight = [] := List.getLast?_eq_none_iff.mp hlast
    have houtcome : m.outcome w fields k = buildAddressing fields values := by
      unfold outcome
      rw [hedits.inFlight, hlast, Option.map_none, Option.getD_none, hstored]
    unfold Lossless Client.Settled Client.Keeps
    rw [houtcome, hedits.timer, hedits.reads]
    simp [hempty]
  | some put =>
    have hbusy : (n.clients k).inFlight ≠ [] := by
      intro hempty
      rw [hempty] at hlast
      cases hlast
    have houtcome : m.outcome w fields k = n.outcome w fields k := by
      unfold outcome
      rw [hedits.inFlight, hlast]
      rfl
    refine iff_of_true (fun htimer => ?_) fun hsettled => absurd hsettled.2 hbusy
    rw [hedits.timer] at htimer
    rw [houtcome, hedits.reads]
    exact h htimer

/-- When one of the browser's own requests is handled and others are still on their way, then
what the newest of these does not have is lost. -/
theorem lossless_put (h : n.Lossless w fields k) {j : ℕ} {put : ConnectionPut}
    (hput : (n.clients k).inFlight[j]? = some put)
    (hclient : m.clients k = (n.clients k).handled j)
    (hstored : m.stored w m.protocol = buildAddressing fields put.values) :
    m.Lossless w fields k ↔ ∀ put ∈ ((n.clients k).inFlight.eraseIdx j).getLast?,
      (n.clients k).timer = false → (n.clients k).Keeps fields put.values := by
  have hlossless : m.Lossless w fields k ↔
      ((n.clients k).timer = false → (n.clients k).Reads fields (m.outcome w fields k)) := by
    unfold Lossless
    rw [hclient]
    exact Iff.rfl
  have hafter : m.outcome w fields k =
      ((((n.clients k).inFlight.eraseIdx j).getLast?).map
        fun put => buildAddressing fields put.values).getD (buildAddressing fields put.values) := by
    unfold outcome
    rw [hclient, hstored]
    rfl
  rw [hlossless, hafter]
  cases hlast : ((n.clients k).inFlight.eraseIdx j).getLast? with
  | none =>
    -- the request that is handled was the only one
    have honly := eq_singleton_of_eraseIdx_eq_nil hput (List.getLast?_eq_none_iff.mp hlast)
    have hbefore : n.outcome w fields k = buildAddressing fields put.values := by
      unfold outcome
      rw [honly]
      rfl
    refine iff_of_true (fun htimer => ?_) (by simp)
    exact hbefore ▸ h htimer
  | some newest => simp [Client.Keeps]

end Network

/-! ## Every event -/

namespace WebState

variable {w : WebState Disk} {stringify : Json → String} {caps : Capabilities} {k : ℕ}
  {n m : Network Disk} {o : Occurrence}

/-- The protocol stays unless it is switched. -/
theorem exchanged_protocol (h : Exchanged w stringify n o m) (hswitch : o.switches w = false) :
    m.protocol = n.protocol := by
  cases h with
  | act => exact w.act_protocol hswitch n.server
  | put => exact w.act_protocol rfl n.server
  | _ => rfl

/-- An event keeps the edits of a browser from being lost exactly when it spares them. -/
theorem exchanged_lossless (hcore : LawfulConnection w.core)
    (hcaps : w.caps n.protocol = some caps) (hswitch : o.switches w = false)
    (h : Exchanged w stringify n o m) (hn : n.Lossless w caps.connectionFields k) :
    m.Lossless w caps.connectionFields k ↔ n.SparesEdits caps.connectionFields k o := by
  have hprotocol := exchanged_protocol h hswitch
  have hstores (n' : Network Disk) (hn' : n'.protocol = n.protocol) (values : FieldValues)
      (hm : m = w.actIn n' (.request (.setConnection values))) :
      m.stored w m.protocol = buildAddressing caps.connectionFields values := by
    obtain ⟨caps', hcaps', hstored⟩ :=
      actIn_setConnection hcore (n := n') (hn' ▸ hcaps) values
    obtain rfl : caps = caps' := Option.some.inj ((hn' ▸ hcaps).symm.trans hcaps')
    rw [hprotocol, ← hn', hm, hstored, if_pos rfl]
  have hsame (i : ℕ) {c : Client} (hc : (n.clients i).SameEdits c) :
      (n.setClient i c).Lossless w caps.connectionFields k :=
    hn.of_same (n.sameEdits_setClient i k hc) rfl
  cases h with
  | @act a =>
    cases hput : a.putValues with
    | none =>
      refine iff_of_true (hn.of_same ⟨rfl, rfl, rfl⟩ ?_) ?_
      · rw [hprotocol]
        refine actIn_stored (fun values ha => ?_) n n.protocol
        rw [ha] at hput
        cases hput
      · simp [Network.SparesEdits, hput]
    | some values =>
      obtain rfl := Action.putValues_eq_some hput
      have hedits : (n.clients k).SameEdits
          ((w.actIn n (.request (.setConnection values))).clients k) := ⟨rfl, rfl, rfl⟩
      rw [Network.lossless_stored hn hedits (hstores n rfl values rfl)]
      simp [Network.SparesEdits, Action.putValues]
  | connect | deliver | miss | interfaces => exact iff_of_true (hsame _ ⟨rfl, rfl, rfl⟩) trivial
  | @edit i key value =>
    refine iff_of_true ?_ trivial
    by_cases hik : i = k
    · subst hik
      intro htimer
      rw [Network.setClient_self] at htimer
      cases htimer
    · exact hn.of_same (n.sameEdits_of_ne hik _) rfl
  | @fire i =>
    by_cases hik : i = k
    · subst hik
      have houtcome : (n.setClient i (n.clients i).fire).outcome w caps.connectionFields i =
          buildAddressing caps.connectionFields (n.clients i).browser.connValues := by
        simp [Network.outcome, Network.setClient_self, Client.fire, Client.put]
      unfold Network.Lossless
      rw [houtcome, Network.setClient_self]
      exact ⟨fun hreads _ => hreads rfl, fun hkeeps _ => hkeeps rfl⟩
    · exact iff_of_true (hn.of_same (n.sameEdits_of_ne hik _) rfl) fun heq => absurd heq hik
  | @put i j put hput =>
    have hstored := hstores (n.setClient i ((n.clients i).handled j)) rfl put.values rfl
    by_cases hik : i = k
    · subst hik
      have hclient : (w.actIn (n.setClient i ((n.clients i).handled j))
          (.request (.setConnection put.values))).clients i = (n.clients i).handled j :=
        n.setClient_self i _
      rw [Network.lossless_put hn hput hclient hstored, Network.SparesEdits, if_pos rfl]
    · have hedits : (n.clients k).SameEdits
          ((w.actIn (n.setClient i ((n.clients i).handled j))
            (.request (.setConnection put.values))).clients k) :=
        n.sameEdits_of_ne hik _
      rw [Network.lossless_stored hn hedits hstored, Network.SparesEdits, if_neg hik]
      simp [hput]

/-- Only a snapshot, a `config` payload or the answer with the interfaces takes what the user
entered out of the form. -/
theorem exchanged_keeps {fields : List FieldSpec} (h : Exchanged w stringify n o m)
    (hfills : ¬ n.Refills k o)
    (hkeeps : (n.clients k).Keeps fields (n.clients k).browser.connValues) :
    (m.clients k).Keeps fields (m.clients k).browser.connValues := by
  have hclient (i : ℕ) {c : Client}
      (hself : i = k → c.Keeps fields c.browser.connValues) :
      ((n.setClient i c).clients k).Keeps fields
        ((n.setClient i c).clients k).browser.connValues := by
    by_cases hik : i = k
    · subst hik
      rw [Network.setClient_self]
      exact hself rfl
    · rw [n.setClient_of_ne hik]
      exact hkeeps
  cases h with
  | act => exact hkeeps
  | connect => exact hclient _ fun hik => absurd hik hfills
  | interfaces => exact hclient _ fun hik => absurd hik hfills
  | @deliver i delta hdelta =>
    refine hclient i fun hik => ?_
    subst hik
    have hvalues := (n.clients i).browser.handleDelta_connValues stringify delta
    cases delta with
    | config config => exact absurd ⟨rfl, config, hdelta⟩ hfills
    | _ =>
      show (n.clients i).Keeps fields ((n.clients i).browser.handleDelta stringify _).connValues
      rw [hvalues]
      exact hkeeps
  | @edit i key value =>
    refine hclient i fun hik => ?_
    subst hik
    exact Client.keeps_edit hkeeps key value
  | miss | fire | put =>
    refine hclient _ fun hik => ?_
    subst hik
    exact hkeeps

/-- As long as what arrives puts no other text into the edited fields, the timer sends what the
user entered. -/
theorem form_keeps {fields : List FieldSpec} (stringify : Json → String)
    (hfresh : (n.clients k).Fresh) {occurrences : List Occurrence}
    (hfills : Transition.Along (w.exchangeUnder stringify) (fun n o m => n.Refills k o →
      (m.clients k).Keeps fields (m.clients k).browser.connValues) n occurrences) :
    Transition.Throughout (w.exchangeUnder stringify) (fun m =>
      (m.clients k).Keeps fields (m.clients k).browser.connValues) n occurrences := by
  refine Transition.throughout_of_along (fun n o m hkeeps hm hfills => ?_)
    (hfresh.reads _ _) hfills
  by_cases hrefills : n.Refills k o
  · exact hfills hrefills
  · exact exchanged_keeps (exchange_cases (Option.ite_none_left_eq_some.mp hm).2) hrefills hkeeps

/-- While the protocol stays, nothing the user entered is lost on its way exactly as long as
every event spares the edits. -/
theorem lossless_iff (hcore : LawfulConnection w.core) (stringify : Json → String)
    (hcaps : w.caps n.protocol = some caps) (hfresh : (n.clients k).Fresh)
    (occurrences : List Occurrence) :
    Transition.Throughout (w.exchangeUnder stringify)
        (Network.Lossless w caps.connectionFields k) n occurrences ↔
      Transition.Along (w.exchangeUnder stringify)
        (fun n o _ => n.SparesEdits caps.connectionFields k o) n occurrences := by
  have hstep (n : Network Disk) (o : Occurrence) (m : Network Disk)
      (hn : w.caps n.protocol = some caps ∧ n.Lossless w caps.connectionFields k)
      (hm : w.exchangeUnder stringify n o = some m) :
      w.caps m.protocol = some caps ∧
        (m.Lossless w caps.connectionFields k ↔ n.SparesEdits caps.connectionFields k o) := by
    obtain ⟨hswitch, hm⟩ := Option.ite_none_left_eq_some.mp hm
    have hexchanged := exchange_cases hm
    rw [Bool.not_eq_true] at hswitch
    rw [exchanged_protocol hexchanged hswitch]
    exact ⟨hn.1, exchanged_lossless hcore hn.1 hswitch hexchanged hn.2⟩
  have hspared (n : Network Disk) (o : Occurrence) (m : Network Disk)
      (hn : w.caps n.protocol = some caps ∧ n.Lossless w caps.connectionFields k)
      (hm : w.exchangeUnder stringify n o = some m)
      (hspares : n.SparesEdits caps.connectionFields k o) :
      w.caps m.protocol = some caps ∧ m.Lossless w caps.connectionFields k :=
    ⟨(hstep n o m hn hm).1, (hstep n o m hn hm).2.mpr hspares⟩
  exact Transition.throughout_iff_along hspared (fun _ hn => hn.2)
    (fun n o m hn hm hlossless => (hstep n o m hn hm).2.mp hlossless)
    ⟨hcaps, fun _ => hfresh.reads _ _⟩

/-- While the protocol stays and every event spares the edits of a browser, the daemon has what
its user entered whenever no timer is running and no request is on its way. -/
theorem edits_saved (hcore : LawfulConnection w.core) (stringify : Json → String)
    (hcaps : w.caps n.protocol = some caps) (hfresh : (n.clients k).Fresh)
    {occurrences : List Occurrence}
    (hspares : Transition.Along (w.exchangeUnder stringify)
      (fun n o _ => n.SparesEdits caps.connectionFields k o) n occurrences) :
    Transition.Throughout (w.exchangeUnder stringify) (fun m => (m.clients k).Settled →
      (m.clients k).Reads caps.connectionFields (m.stored w m.protocol)) n occurrences := by
  refine ((lossless_iff hcore stringify hcaps hfresh occurrences).mpr hspares).mono ?_
  intro m hlossless hsettled
  have houtcome : m.outcome w caps.connectionFields k = m.stored w m.protocol := by
    unfold Network.outcome
    rw [hsettled.2]
    rfl
  exact houtcome ▸ hlossless hsettled.1

end WebState

/-! ## Typing on -/

/-- A browser opens its page and its user edits the host; the timer fires and the request is
handled. -/
def editOnce : List Occurrence :=
  [.connect 0, .edit 0 "host" "10.0.0.1", .fire 0, .put 0 0]

/-- The two payloads of the save arrive, and the user types on. -/
def readThenType : List Occurrence :=
  [.deliver 0, .deliver 0, .edit 0 "host" "10.0.0.12"]

/-- The user types on, and the two payloads of the save arrive. -/
def typeThenRead : List Occurrence :=
  [.edit 0 "host" "10.0.0.12", .deliver 0, .deliver 0]

/-- The timer fires, the request is handled and its two payloads arrive. -/
def saveAgain : List Occurrence := [.fire 0, .put 0 0, .deliver 0, .deliver 0]

/-- When the echo of the first save arrives before the user types on, both edits are saved. -/
theorem readThenType_saved :
    Transition.Throughout (memoryState.exchangeUnder plainStringify)
      (fun m => (m.clients 0).Settled → (m.clients 0).Reads
        (plainProtocol "bacnet").connectionFields (m.stored memoryState m.protocol))
      twoProtocols (editOnce ++ readThenType ++ saveAgain) :=
  have hcaps : memoryState.caps twoProtocols.protocol = some (plainProtocol "bacnet") := by
    decide +kernel
  WebState.edits_saved memoryCore_lawfulConnection plainStringify hcaps
    ⟨by decide +kernel, rfl⟩ (by decide +kernel)

/-- The daemon when the echo of the first save arrives after the user has typed on. -/
def echoed : Network MemoryDisk :=
  (Transition.run (memoryState.exchangeUnder plainStringify) twoProtocols
    (editOnce ++ typeThenRead ++ saveAgain)).get (by decide +kernel)

/-- The echo puts the first text back into the form, and the timer sends that. -/
theorem typeThenRead_lost :
    ¬ Transition.Throughout (memoryState.exchangeUnder plainStringify)
      (fun m => (m.clients 0).Settled → (m.clients 0).seen = m.emitted → (m.clients 0).Reads
        (plainProtocol "bacnet").connectionFields (m.stored memoryState m.protocol))
      twoProtocols (editOnce ++ typeThenRead ++ saveAgain) := by
  intro hthroughout
  have hrun : Transition.run (memoryState.exchangeUnder plainStringify) twoProtocols
      (editOnce ++ typeThenRead ++ saveAgain) = some echoed :=
    (Option.some_get (by decide +kernel)).symm
  have hlost : ¬ (echoed.clients 0).Reads (plainProtocol "bacnet").connectionFields
      (echoed.stored memoryState echoed.protocol) := by decide +kernel
  exact hlost (hthroughout.last hrun (by decide +kernel) (by decide +kernel))

end Republisher
