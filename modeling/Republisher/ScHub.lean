import Republisher.Ownership
import Republisher.ScFrame

/-!
# The hub of BACnet/SC

Every connection to the hub has a task of its own that reads one message after the other. A
connection registers a virtual address, and the hub relays what it sends under that address to
one other client or to all. A sweep takes idle clients out of the table when they cannot be
reached. The tasks and the sweep move in any order.
-/

namespace BacnetTransport

open Wire

/-- An identifier of sixteen bytes. -/
structure Uuid where
  bytes : Bytes
  length_bytes : bytes.length = 16

/-- The identifier of a device that is given none. -/
def Uuid.zero : Uuid := ⟨List.replicate 16 0, rfl⟩

/-- What a hub is started with. -/
structure ScHub where
  hubVmac : Vmac
  hubUuid : Uuid

/-- What the hub knows of a client: the connection it is reached on and the longest NPDU it
accepts. -/
structure HubClient (κ : Type) where
  sink : κ
  maxNpdu : UInt16
  deriving DecidableEq

/-- How far the task of a connection is. -/
inductive Phase
  | absent
  | serving
  | leaving
  | done
  deriving DecidableEq, Repr

/-- The task of a connection. -/
structure ClientTask where
  phase : Phase
  clientVmac : Option Vmac
  clientActivity : ℕ

/-- What a connection brings. -/
inductive Incoming
  | binary (data : Bytes)
  | close
  | pingPong
  | other
  | failed
  deriving DecidableEq, Repr

/-- What is put on a connection. -/
inductive Outgoing
  | binary (data : Bytes)
  | close (code : ℕ) (reason : String)
  deriving DecidableEq, Repr

/-- The table of clients, the tasks, what is left of a sweep, and the number of its next
request. -/
structure Hub (κ : Type) where
  clients : List (Vmac × HubClient κ)
  tasks : κ → ClientTask
  idleClients : List (Vmac × κ)
  nextMsgId : UInt16

/-- A hub that has just been started. -/
def Hub.start {κ : Type} : Hub κ := ⟨[], fun _ => ⟨.absent, none, 0⟩, [], 0x8000⟩

/-- The most clients of a hub. -/
def maxScClients : ℕ := 256

/-- How long a client may be silent, in seconds. -/
def heartbeatIdleThresholdSecs : ℕ := 60

/-- The lengths that the hub accepts. -/
def hubMaxLength : UInt16 := 1476

/-- The virtual address at an index that the caller has checked. -/
def vmacAt (data : Bytes) (index : ℕ) : Vmac :=
  ⟨byteAt data index, byteAt data (index + 1), byteAt data (index + 2), byteAt data (index + 3),
    byteAt data (index + 4), byteAt data (index + 5)⟩

/-- A message without addresses and options. -/
def plainScMessage (function : ScFunction) (messageId : UInt16) (payload : Bytes) : ScMessage :=
  ⟨function, messageId, none, none, [], [], payload⟩

/-- A refusal. -/
def buildBvlcResultNak (messageId : UInt16) (resultFor : ScFunction)
    (errorClassHi errorClassLo errorCodeHi errorCodeLo : UInt8) : ScMessage :=
  plainScMessage .result messageId
    [resultFor.toRaw, 0x01, 0x00, errorClassHi, errorClassLo, errorCodeHi, errorCodeLo]

/-- The answer to a client that has registered. -/
def ScHub.connectAccept (hub : ScHub) (messageId : UInt16) : ScMessage :=
  plainScMessage .connectAccept messageId
    (hub.hubVmac.bytes ++ hub.hubUuid.bytes ++ be hubMaxLength ++ be hubMaxLength)

/-- A message with the address it comes from. That of its destination is only kept for all
clients. -/
def relayMessage (sender dest : Vmac) (msg : ScMessage) : ScMessage :=
  if isBroadcastVmac dest then
    { msg with originatingVmac := some sender }
  else
    { msg with originatingVmac := some sender, destinationVmac := none }

namespace Hub

variable {κ : Type}

/-- The client of an address. -/
def get (h : Hub κ) (vmac : Vmac) : Option (HubClient κ) :=
  (h.clients.find? fun entry => entry.1 = vmac).map Prod.snd

/-- The table without an address. -/
def remove (h : Hub κ) (vmac : Vmac) : Hub κ :=
  { h with clients := h.clients.filter fun entry => entry.1 ≠ vmac }

variable [DecidableEq κ]

/-- The hub with another task for a connection. -/
def setTask (h : Hub κ) (c : κ) (task : ClientTask) : Hub κ :=
  { h with tasks := Function.update h.tasks c task }

/-- The task of a connection stops reading. -/
def leave (h : Hub κ) (c : κ) : Hub κ := h.setTask c { h.tasks c with phase := .leaving }

/-- The client of a connection is put into the table. -/
def register (h : Hub κ) (c : κ) (vmac : Vmac) (maxNpdu : UInt16) : Hub κ :=
  { h with clients := (vmac, ⟨c, maxNpdu⟩) :: h.clients }.setTask c
    { h.tasks c with clientVmac := some vmac }

/-- Goes on serving a connection, unless the answer could not be sent. -/
def unlessLost (delivered : Bool) (h : Hub κ) (c : κ) : Hub κ := if delivered then h else h.leave c

/-- A client asks to be registered. -/
def onConnectRequest (hub : ScHub) (h : Hub κ) (c : κ) (msg : ScMessage) (delivered : Bool) :
    Hub κ × List (κ × Outgoing) :=
  if msg.payload.length < 26 then
    (h.leave c, [(c, .binary (encodeScMessage
      (buildBvlcResultNak msg.messageId .connectRequest 0x00 0x01 0x00 0x40)))])
  else
    let vmac := vmacAt msg.payload 0
    let clientMaxNpdu := wordAt msg.payload 24
    if vmac = unknownVmac ∨ vmac = broadcastVmac then
      (h.leave c, [])
    else if (h.get vmac).isSome then
      (h.leave c, [(c, .binary (encodeScMessage
        (buildBvlcResultNak msg.messageId .connectRequest 0x00 0x01 0x00 0x01)))])
    else if h.clients.length ≥ maxScClients then
      (h.leave c, [(c, .binary (encodeScMessage
        (buildBvlcResultNak msg.messageId .connectRequest 0x00 0x01 0x00 0x02)))])
    else
      (unlessLost delivered (h.register c vmac clientMaxNpdu) c,
        [(c, .binary (encodeScMessage (hub.connectAccept msg.messageId)))])

/-- What is sent for an NPDU of a client. -/
def onEncapsulatedNpdu (h : Hub κ) (c : κ) (msg : ScMessage) : List (κ × Outgoing) :=
  match (h.tasks c).clientVmac with
  | none => [(c, .binary (encodeScMessage
      (buildBvlcResultNak msg.messageId .encapsulatedNpdu 0x00 0x01 0x00 0x01)))]
  | some registeredVmac =>
    let senderVmac := msg.originatingVmac.getD unknownVmac
    if senderVmac ≠ registeredVmac then
      []
    else
      let dest := msg.destinationVmac.getD broadcastVmac
      let relayBytes := encodeScMessage (relayMessage senderVmac dest msg)
      if isBroadcastVmac dest then
        (h.clients.filter fun entry => entry.1 ≠ senderVmac).map fun entry =>
          (entry.2.sink, .binary relayBytes)
      else
        match h.get dest with
        | none => []
        | some client =>
          if msg.payload.length > client.maxNpdu.toNat then []
          else [(client.sink, .binary relayBytes)]

/-- A message of a client is handled. -/
def onMessage (hub : ScHub) (h : Hub κ) (c : κ) (msg : ScMessage) (delivered : Bool) :
    Hub κ × List (κ × Outgoing) :=
  match msg.function with
  | .connectRequest => onConnectRequest hub h c msg delivered
  | .heartbeatRequest => (unlessLost delivered h c,
      [(c, .binary (encodeScMessage (plainScMessage .heartbeatAck msg.messageId [])))])
  | .disconnectRequest => (h.leave c,
      [(c, .binary (encodeScMessage (plainScMessage .disconnectAck msg.messageId [])))])
  | .encapsulatedNpdu => (h, onEncapsulatedNpdu h c msg)
  | other => (h, [(c, .binary (encodeScMessage
      (buildBvlcResultNak msg.messageId other 0x00 0x01 0x00 0x01)))])

/-- What a connection brings is handled. -/
def onIncoming (hub : ScHub) (h : Hub κ) (c : κ) (incoming : Incoming) (delivered : Bool) :
    Hub κ × List (κ × Outgoing) :=
  match incoming with
  | .binary data =>
    match decodeScMessage data with
    | .error _ => (h, [])
    | .ok msg => onMessage hub h c msg delivered
  | .close => (h.leave c, [])
  | .pingPong => (h, [])
  | .other => (h.leave c, [(c, .close 1003 "BACnet/SC requires binary frames")])
  | .failed => (h.leave c, [])

/-- The clients that have been silent for too long, in the order in which the table is gone
through. -/
def idleAt (h : Hub κ) (order : List (Vmac × HubClient κ)) (now : ℕ) : List (Vmac × κ) :=
  (order.filter fun entry =>
    now - (h.tasks entry.2.sink).clientActivity > heartbeatIdleThresholdSecs).map fun entry =>
      (entry.1, entry.2.sink)

/-- What happens at a hub: a connection is opened, brings something, or ends; a task that has
stopped reading takes its client out of the table; the sweep notes the idle clients or asks the
next of these, who may be out of reach. -/
inductive Event (κ : Type)
  | opened (c : κ) (now : ℕ)
  | received (c : κ) (incoming : Incoming) (now : ℕ) (delivered : Bool)
  | ended (c : κ)
  | finished (c : κ)
  | tick (order : List (Vmac × HubClient κ)) (now : ℕ)
  | heartbeat (delivered : Bool)

/-- What an event does to a hub and what is sent then. Every task reads its own connection, and
the sweep, which goes through the table in any order, asks the clients it has noted before it
notes others. -/
def handle (hub : ScHub) (h : Hub κ) : Event κ → Option (Hub κ × List (κ × Outgoing))
  | .opened c now =>
    if (h.tasks c).phase = .absent then some (h.setTask c ⟨.serving, none, now⟩, []) else none
  | .received c incoming now delivered =>
    if (h.tasks c).phase = .serving then
      some (onIncoming hub (h.setTask c { h.tasks c with clientActivity := now }) c incoming
        delivered)
    else
      none
  | .ended c => if (h.tasks c).phase = .serving then some (h.leave c, []) else none
  | .finished c =>
    if (h.tasks c).phase = .leaving then
      some (((h.tasks c).clientVmac.elim h h.remove).setTask c
        { h.tasks c with phase := .done }, [])
    else
      none
  | .tick order now =>
    if h.idleClients = [] ∧ order.Perm h.clients then
      some ({ h with idleClients := h.idleAt order now }, [])
    else
      none
  | .heartbeat delivered =>
    match h.idleClients with
    | [] => none
    | (vmac, sink) :: rest =>
      let asked := { h with idleClients := rest, nextMsgId := h.nextMsgId + 1 }
      some (if delivered then asked else asked.remove vmac,
        [(sink, .binary (encodeScMessage (plainScMessage .heartbeatRequest h.nextMsgId [])))])

/-- The hub after an event. -/
def step (hub : ScHub) (h : Hub κ) (e : Event κ) : Option (Hub κ) := (h.handle hub e).map Prod.fst

/-- What is sent at an event. -/
def sends (hub : ScHub) (h : Hub κ) (e : Event κ) : List (κ × Outgoing) :=
  ((h.handle hub e).map Prod.snd).getD []

end Hub

end BacnetTransport
