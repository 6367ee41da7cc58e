import Republisher.ScHub

/-!
# A node of BACnet/SC

A node asks its hub to be registered, waits for the answer and exchanges NPDUs from then on. The
handshake counts as done with any acceptance. When that is not the answer to the request, the
node never gets to know that it is connected: it hands on no NPDU and sends none until the
connection is made anew.
-/

namespace BacnetTransport

open Wire

/-- How far a connection is. -/
inductive ScConnectionState
  | disconnected
  | connecting
  | connected
  | disconnecting
  deriving DecidableEq, Repr

/-- What a node knows of its connection to the hub. -/
structure ScConnection where
  state : ScConnectionState
  localVmac : Vmac
  deviceUuid : Uuid
  hubVmac : Option Vmac
  maxApduLength : UInt16
  hubMaxApduLength : UInt16
  nextMessageId : UInt16
  disconnectAckToSend : Option ScMessage
  pendingConnectMessageId : Option UInt16
  hubDeviceUuid : Option Uuid

namespace ScConnection

/-- A connection that has not been made. -/
def new (localVmac : Vmac) (deviceUuid : Uuid) : ScConnection :=
  ⟨.disconnected, localVmac, deviceUuid, none, 1476, 1476, 1, none, none, none⟩

/-- The next message number. -/
def nextId (c : ScConnection) : ScConnection × UInt16 :=
  ({ c with nextMessageId := c.nextMessageId + 1 }, c.nextMessageId)

/-- Asks the hub to be registered. -/
def buildConnectRequest (c : ScConnection) : ScConnection × ScMessage :=
  let (next, msgId) := { c with state := .connecting }.nextId
  ({ next with pendingConnectMessageId := some msgId },
    plainScMessage .connectRequest msgId
      (c.localVmac.bytes ++ (c.deviceUuid.bytes ++ (be 1476 ++ be c.maxApduLength))))

/-- The sixteen bytes from the seventh on, of a payload that is long enough. -/
def hubUuidOf (payload : Bytes) (h : 26 ≤ payload.length) : Uuid :=
  ⟨(payload.drop 6).take 16, by simp; omega⟩

/-- What an acceptance says about the hub. A short one only says its address. -/
def readAccept (c : ScConnection) (payload : Bytes) : ScConnection :=
  if h : 26 ≤ payload.length then
    { c with
      hubVmac := some (vmacAt payload 0)
      hubDeviceUuid := some (hubUuidOf payload h)
      hubMaxApduLength := wordAt payload 24 }
  else if 6 ≤ payload.length then
    { c with hubVmac := some (vmacAt payload 0) }
  else
    c

/-- Takes an acceptance, if it answers the request. -/
def handleConnectAccept (c : ScConnection) (msg : ScMessage) : ScConnection × Bool :=
  if c.state ≠ .connecting then
    (c, false)
  else if msg.function ≠ .connectAccept then
    (c, false)
  else if c.pendingConnectMessageId.any (fun expectedId => msg.messageId ≠ expectedId) then
    (c, false)
  else
    ({ readAccept { c with pendingConnectMessageId := none } msg.payload with state := .connected },
      true)

/-- Asks whether the hub is there. -/
def buildHeartbeat (c : ScConnection) : ScConnection × ScMessage :=
  let (next, msgId) := c.nextId
  (next, plainScMessage .heartbeatRequest msgId [])

/-- Answers the hub that asks whether the node is there. -/
def buildHeartbeatAck (requestMessageId : UInt16) : ScMessage :=
  plainScMessage .heartbeatAck requestMessageId []

/-- An NPDU for an address. -/
def buildEncapsulatedNpdu (c : ScConnection) (destVmac : Vmac) (npdu : Bytes) :
    ScConnection × ScMessage :=
  let (next, msgId) := c.nextId
  (next, ⟨.encapsulatedNpdu, msgId, some c.localVmac, some destVmac, [], [], npdu⟩)

/-- Takes a message. An NPDU that is for the node is handed on with the address it comes from. -/
def handleReceived (c : ScConnection) (msg : ScMessage) : ScConnection × Option (Bytes × Vmac) :=
  match msg.function with
  | .encapsulatedNpdu =>
    if c.state ≠ .connected then
      (c, none)
    else if msg.destinationVmac.any (fun dest => dest ≠ c.localVmac ∧ !isBroadcastVmac dest) then
      (c, none)
    else
      (c, some (msg.payload, msg.originatingVmac.getD unknownVmac))
  | .disconnectRequest =>
    ({ c with
      state := .disconnected
      disconnectAckToSend := some (plainScMessage .disconnectAck msg.messageId []) }, none)
  | .disconnectAck =>
    (if c.state = .disconnecting then { c with state := .disconnected } else c, none)
  | .result =>
    (if msg.payload.length ≥ 2 ∧ byteAt msg.payload 1 = 0x01 then
      { c with state := .disconnected } else c, none)
  | _ => (c, none)

/-! ## The handshake -/

/-- The first acceptance among what a connection brings, or the failure that comes before it. -/
def awaitAccept : List (Except Error Bytes) → Option (Except Error ScMessage)
  | [] => none
  | .error e :: _ => some (.error e)
  | .ok data :: incoming =>
    match decodeScMessage data with
    | .error e => some (.error e)
    | .ok msg => if msg.function = .connectAccept then some (.ok msg) else awaitAccept incoming

/-- Asks to be registered and waits for the answer: with what the connection brings until the
time is up, and whether the request could be sent. -/
def performHandshake (c : ScConnection) (sent : Except Error Unit)
    (incoming : List (Except Error Bytes)) : ScConnection × Except Error Unit :=
  let requested := c.buildConnectRequest.1
  match sent with
  | .error e => (requested, .error e)
  | .ok () =>
    match awaitAccept incoming with
    | some (.ok msg) => ((requested.handleConnectAccept msg).1, .ok ())
    | some (.error e) => (requested, .error e)
    | none =>
      ({ requested with state := .disconnected }, .error (.encoding "BACnet/SC connect timeout"))

/-! ## The receive loop -/

/-- What a node does: the NPDUs that it hands on, and the messages that it sends. -/
structure Effects where
  delivered : List (Bytes × Vmac)
  sent : List Bytes

/-- Takes what a connection brings. -/
def onData (c : ScConnection) (data : Bytes) : ScConnection × Effects :=
  match decodeScMessage data with
  | .error _ => (c, ⟨[], []⟩)
  | .ok msg =>
    if msg.function = .heartbeatAck then
      (c, ⟨[], []⟩)
    else if msg.function = .heartbeatRequest then
      (c, ⟨[], [encodeScMessage (buildHeartbeatAck msg.messageId)]⟩)
    else
      let (handled, npdu) := c.handleReceived msg
      ({ handled with disconnectAckToSend := none },
        ⟨npdu.toList, handled.disconnectAckToSend.toList.map encodeScMessage⟩)

/-- The time to ask whether the hub is there, which has been silent for some while. -/
def onHeartbeat (c : ScConnection) (silent heartbeatTimeoutMs : ℕ) : ScConnection × Effects :=
  let (next, hbMsg) := c.buildHeartbeat
  (if silent > heartbeatTimeoutMs then { next with state := .disconnected } else next,
    ⟨[], [encodeScMessage hbMsg]⟩)

/-- The address of six bytes. -/
def vmacOf (mac : Bytes) : Vmac := vmacAt mac 0

/-- Sends an NPDU to an address. -/
def sendUnicast (c : ScConnection) (npdu mac : Bytes) : Except Error (ScConnection × Bytes) :=
  if mac.length ≠ 6 then
    .error (.encoding s!"BACnet/SC VMAC must be 6 bytes, got {mac.length}")
  else if c.state ≠ .connected then
    .error (.encoding "BACnet/SC transport not in Connected state")
  else
    let (next, msg) := c.buildEncapsulatedNpdu (vmacOf mac) npdu
    .ok (next, encodeScMessage msg)

/-- Sends an NPDU to all. -/
def sendBroadcast (c : ScConnection) (npdu : Bytes) : Except Error (ScConnection × Bytes) :=
  c.sendUnicast npdu broadcastVmac.bytes

/-- What happens to a node while the loop runs. -/
inductive Event
  | data (data : Bytes)
  | heartbeat (silent : ℕ)
  | send (npdu mac : Bytes)

/-- What an event does to a node and what the node does then. -/
def step (heartbeatTimeoutMs : ℕ) (c : ScConnection) : Event → ScConnection × Effects
  | .data data => c.onData data
  | .heartbeat silent => c.onHeartbeat silent heartbeatTimeoutMs
  | .send npdu mac =>
    match c.sendUnicast npdu mac with
    | .error _ => (c, ⟨[], []⟩)
    | .ok (next, frame) => (next, ⟨[], [frame]⟩)

/-- What a node does with a list of events. -/
def run (heartbeatTimeoutMs : ℕ) (c : ScConnection) : List Event → ScConnection × List Effects
  | [] => (c, [])
  | e :: es =>
    let (next, effects) := c.step heartbeatTimeoutMs e
    let (last, more) := next.run heartbeatTimeoutMs es
    (last, effects :: more)

/-! ## Nodes that do not know that they are connected -/

/-- A message without addresses and options is well formed when its function has its own byte. -/
theorem plainScMessage_wellFormed {function : ScFunction}
    (h : ScFunction.fromRaw function.toRaw = function) (messageId : UInt16) (payload : Bytes) :
    (plainScMessage function messageId payload).WellFormed :=
  ⟨h, ⟨by simp [plainScMessage], Nat.zero_le _⟩, ⟨by simp [plainScMessage], Nat.zero_le _⟩⟩

/-- What a node takes that is not connected neither connects it nor is handed on. -/
theorem handleReceived_of_ne {c : ScConnection} (hc : c.state ≠ .connected) (msg : ScMessage) :
    (c.handleReceived msg).1.state ≠ .connected ∧ (c.handleReceived msg).2 = none := by
  unfold handleReceived
  split
  · rw [if_pos hc]
    exact ⟨hc, rfl⟩
  · exact ⟨by simp, rfl⟩
  · refine ⟨?_, rfl⟩
    dsimp only
    split_ifs
    · simp
    · exact hc
  · refine ⟨?_, rfl⟩
    dsimp only
    split_ifs
    · simp
    · exact hc
  · exact ⟨hc, rfl⟩

/-- No event connects a node or makes one that is not connected hand on an NPDU. -/
theorem step_of_ne {c : ScConnection} (hc : c.state ≠ .connected) (timeout : ℕ) (e : Event) :
    (c.step timeout e).1.state ≠ .connected ∧ (c.step timeout e).2.delivered = [] := by
  cases e with
  | data data =>
    rw [step, onData]
    cases decodeScMessage data with
    | error e => exact ⟨hc, rfl⟩
    | ok msg =>
      obtain ⟨hstate, hnone⟩ := handleReceived_of_ne hc msg
      dsimp only
      split_ifs
      · exact ⟨hc, rfl⟩
      · exact ⟨hc, rfl⟩
      · refine ⟨hstate, ?_⟩
        rw [hnone]
        rfl
  | heartbeat silent =>
    refine ⟨?_, rfl⟩
    simp only [step, onHeartbeat, buildHeartbeat, nextId]
    split_ifs
    · simp
    · exact hc
  | send npdu mac =>
    have hrefused : ∃ e, c.sendUnicast npdu mac = .error e := by
      unfold sendUnicast
      rw [if_pos hc]
      split_ifs
      · exact ⟨_, rfl⟩
      · exact ⟨_, rfl⟩
    obtain ⟨e, he⟩ := hrefused
    rw [step, he]
    exact ⟨hc, rfl⟩

/-- A node that is not connected stays so over any events, and hands on nothing. -/
theorem run_of_ne {c : ScConnection} (hc : c.state ≠ .connected) (timeout : ℕ) (es : List Event) :
    (c.run timeout es).1.state ≠ .connected ∧
      ∀ effects ∈ (c.run timeout es).2, effects.delivered = [] := by
  induction es generalizing c with
  | nil => exact ⟨hc, by simp [run]⟩
  | cons e es ih =>
    obtain ⟨hnext, hnothing⟩ := step_of_ne hc timeout e
    obtain ⟨hlast, hmore⟩ := ih hnext
    exact ⟨hlast, List.forall_mem_cons.mpr ⟨hnothing, hmore⟩⟩

/-- A connected node hands on an NPDU for all. -/
theorem onData_broadcast {c : ScConnection} (hc : c.state = .connected) (messageId : UInt16)
    (source : Vmac) (npdu : Bytes) :
    (c.onData (encodeScMessage
      ⟨.encapsulatedNpdu, messageId, some source, some broadcastVmac, [], [], npdu⟩)).2.delivered =
        [(npdu, source)] := by
  have hread := decodeScMessage_written
    (m := ⟨.encapsulatedNpdu, messageId, some source, some broadcastVmac, [], [], npdu⟩)
    ⟨rfl, ⟨by simp, Nat.zero_le _⟩, ⟨by simp, Nat.zero_le _⟩⟩
  rw [onData, hread]
  simp [handleReceived, hc, isBroadcastVmac]

/-- The state of a node after an acceptance of its request, or of another one. -/
theorem state_handleConnectAccept (c : ScConnection) {msg : ScMessage}
    (hmsg : msg.function = .connectAccept) :
    (c.buildConnectRequest.1.handleConnectAccept msg).1.state =
      if msg.messageId = c.nextMessageId then .connected else .connecting := by
  have hstate : c.buildConnectRequest.1.state = .connecting := rfl
  have hpending : c.buildConnectRequest.1.pendingConnectMessageId = some c.nextMessageId := rfl
  unfold handleConnectAccept
  rw [if_neg (by simp [hstate]), if_neg (by simp [hmsg]), hpending]
  by_cases hid : msg.messageId = c.nextMessageId
  · simp [hid]
  · simp [hid, hstate]

/-- The message is the first acceptance that a connection brings, and only messages of other
functions come before it. -/
def FirstAccept (incoming : List (Except Error Bytes)) (msg : ScMessage) : Prop :=
  ∃ before data later, incoming = before ++ .ok data :: later ∧
    decodeScMessage data = .ok msg ∧ msg.function = .connectAccept ∧
    ∀ first ∈ before, ∃ data other, first = .ok data ∧ decodeScMessage data = .ok other ∧
      other.function ≠ .connectAccept

/-- What is waited for is the first acceptance. -/
theorem awaitAccept_eq_some_iff {incoming : List (Except Error Bytes)} {msg : ScMessage} :
    awaitAccept incoming = some (.ok msg) ↔ FirstAccept incoming msg := by
  constructor
  · intro h
    induction incoming with
    | nil => cases h
    | cons first incoming ih =>
      cases first with
      | error e => cases h
      | ok data =>
        rw [awaitAccept] at h
        cases hdata : decodeScMessage data with
        | error e =>
          rw [hdata] at h
          cases h
        | ok found =>
          rw [hdata] at h
          dsimp only at h
          split_ifs at h with haccept
          · cases h
            exact ⟨[], data, incoming, rfl, hdata, haccept, by simp⟩
          · obtain ⟨before, later, rest, rfl, hlater, hfunction, hothers⟩ := ih h
            exact ⟨.ok data :: before, later, rest, rfl, hlater, hfunction,
              List.forall_mem_cons.mpr ⟨⟨data, found, rfl, hdata, haccept⟩, hothers⟩⟩
  · rintro ⟨before, data, later, rfl, hdata, haccept, hothers⟩
    induction before with
    | nil =>
      rw [List.nil_append, awaitAccept, hdata]
      exact if_pos haccept
    | cons first before ih =>
      obtain ⟨⟨skipped, other, rfl, hother, hnot⟩, hrest⟩ := List.forall_mem_cons.mp hothers
      rw [List.cons_append, awaitAccept, hother]
      exact (if_neg hnot).trans (ih hrest)

/-- An acceptance that is waited for is one that the connection brings. -/
theorem FirstAccept.mem {incoming : List (Except Error Bytes)} {msg : ScMessage}
    (h : FirstAccept incoming msg) :
    msg.function = .connectAccept ∧
      ∃ data, .ok data ∈ incoming ∧ decodeScMessage data = .ok msg := by
  obtain ⟨before, data, later, rfl, hdata, haccept, -⟩ := h
  exact ⟨haccept, data, by simp, hdata⟩

/-- A handshake succeeds with the first acceptance that comes, of whatever request. -/
theorem performHandshake_ok_iff {c : ScConnection} {sent : Except Error Unit}
    {incoming : List (Except Error Bytes)} :
    (c.performHandshake sent incoming).2 = .ok () ↔
      sent = .ok () ∧ ∃ msg, FirstAccept incoming msg := by
  cases sent with
  | error e => simp [performHandshake]
  | ok =>
    simp only [← awaitAccept_eq_some_iff, performHandshake, true_and]
    cases awaitAccept incoming with
    | none => simp
    | some answer => cases answer <;> simp

/-- After the acceptance a node is connected exactly when that answers its request. -/
theorem performHandshake_state {c : ScConnection} {incoming : List (Except Error Bytes)}
    {msg : ScMessage} (h : FirstAccept incoming msg) :
    (c.performHandshake (.ok ()) incoming).1.state = .connected ↔
      msg.messageId = c.nextMessageId := by
  rw [performHandshake, awaitAccept_eq_some_iff.mpr h]
  dsimp only
  rw [state_handleConnectAccept c h.mem.1]
  split_ifs with hid
  · exact iff_of_true rfl hid
  · exact iff_of_false (by simp) hid

/-- A node can hand on an NPDU at some time exactly when it is connected. -/
theorem listens_iff (node : ScConnection) (timeout : ℕ) :
    (∃ es effects, effects ∈ (node.run timeout es).2 ∧ effects.delivered ≠ []) ↔
      node.state = .connected := by
  constructor
  · rintro ⟨es, effects, hmem, hsome⟩
    by_contra hne
    exact hsome ((run_of_ne hne timeout es).2 effects hmem)
  · intro hstate
    let frame := encodeScMessage
      ⟨.encapsulatedNpdu, 0, some broadcastVmac, some broadcastVmac, [], [], []⟩
    refine ⟨[.data frame], (node.onData frame).2, List.mem_singleton_self _, ?_⟩
    rw [onData_broadcast hstate]
    exact List.cons_ne_nil _ _

/-- A node can send an NPDU at some time exactly when it is connected. -/
theorem sends_iff (node : ScConnection) (timeout : ℕ) :
    (∃ es npdu mac sent, (node.run timeout es).1.sendUnicast npdu mac = .ok sent) ↔
      node.state = .connected := by
  constructor
  · rintro ⟨es, npdu, mac, sent, hsent⟩
    by_contra hne
    rw [sendUnicast, if_pos (run_of_ne hne timeout es).1] at hsent
    split_ifs at hsent
  · intro hstate
    refine ⟨[], [], broadcastVmac.bytes, ?_⟩
    rw [run, sendUnicast, if_neg (by simp [Vmac.bytes]), if_neg (by simp [hstate])]
    exact ⟨_, rfl⟩

/-- A handshake succeeds exactly when the request is sent and an acceptance comes, of whatever
request. If that is the request of the handshake, the node can hand on NPDUs and send them; if
not, it does neither, whatever happens until it makes its connection anew. -/
theorem performHandshake_listens (c : ScConnection) (sent : Except Error Unit)
    (incoming : List (Except Error Bytes)) (timeout : ℕ) :
    ((c.performHandshake sent incoming).2 = .ok () ↔
        sent = .ok () ∧ ∃ msg, FirstAccept incoming msg) ∧
      ∀ node, c.performHandshake sent incoming = (node, .ok ()) →
        ∀ msg, FirstAccept incoming msg →
          ((∃ es effects, effects ∈ (node.run timeout es).2 ∧ effects.delivered ≠ []) ↔
            msg.messageId = c.nextMessageId) ∧
          ((∃ es npdu mac frame, (node.run timeout es).1.sendUnicast npdu mac = .ok frame) ↔
            msg.messageId = c.nextMessageId) := by
  refine ⟨performHandshake_ok_iff, fun node hdone msg hmsg => ?_⟩
  obtain ⟨rfl, -⟩ := performHandshake_ok_iff.mp (congrArg Prod.snd hdone)
  have hstate := performHandshake_state (c := c) hmsg
  rw [hdone] at hstate
  exact ⟨(listens_iff node timeout).trans hstate, (sends_iff node timeout).trans hstate⟩

/-- A new node. -/
def newNode : ScConnection := new ⟨2, 0, 0, 0, 0, 1⟩ .zero

/-- The acceptance of a request that the new node has not made. -/
def otherAccept : ScMessage := plainScMessage .connectAccept 7 []

/-- It is the first that comes. -/
theorem otherAccept_first : FirstAccept [.ok (encodeScMessage otherAccept)] otherAccept :=
  ⟨[], _, [], rfl, decodeScMessage_written (plainScMessage_wellFormed rfl _ _), rfl, by simp⟩

/-- An acceptance of another request ends the handshake of a new node, which cannot send then. -/
theorem performHandshake_listens_other :
    (newNode.performHandshake (.ok ()) [.ok (encodeScMessage otherAccept)]).2 = .ok () ∧
      ¬ ∃ es npdu mac frame,
        ((newNode.performHandshake (.ok ()) [.ok (encodeScMessage otherAccept)]).1.run 60000
          es).1.sendUnicast npdu mac = .ok frame := by
  obtain ⟨hdone, hafter⟩ :=
    performHandshake_listens newNode (.ok ()) [.ok (encodeScMessage otherAccept)] 60000
  have hok := hdone.mpr ⟨rfl, _, otherAccept_first⟩
  refine ⟨hok, fun hsends => ?_⟩
  have hid := (hafter _ (Prod.ext rfl hok) _ otherAccept_first).2.mp hsends
  exact absurd hid (by decide)

end ScConnection

end BacnetTransport
