import Republisher.Bbmd

/-!
# Receiving a datagram of BACnet/IP

What the receive loop does with a frame: it hands packets to the network layer, and as a
broadcast management device it forwards broadcasts, keeps its tables and answers requests
about them.
-/

namespace BacnetTransport

open Wire

/-- A packet for the network layer. -/
structure ReceivedNpdu where
  npdu : Bytes
  sourceMac : Bytes
  deriving DecidableEq, Repr

/-- A frame that is sent, and where to. -/
structure Sent where
  dest : Endpoint
  frame : Bytes
  deriving DecidableEq, Repr

/-- What the receive loop works with. -/
structure RecvContext where
  localMac : Bytes
  bbmd : Option BbmdState
  broadcast : Endpoint
  /-- The request that waits for the next answer. -/
  bvlcResponse : Option ℕ
  /-- Changes of the distribution table are stored. -/
  bdtPersist : Bool
  deriving DecidableEq, Repr

/-- What is done with a frame besides changing the context. -/
structure Effects where
  delivered : List ReceivedNpdu := []
  sent : List Sent := []
  persisted : Option Bytes := none
  answered : Option (ℕ × BvllMessage) := none
  deriving DecidableEq, Repr

/-- A frame that could be written goes to every target. -/
def sendTo (frame : Except Error Bytes) (targets : List Endpoint) : List Sent :=
  match frame with
  | .ok bytes => targets.map fun dest => ⟨dest, bytes⟩
  | .error _ => []

variable (codes : BvlcCodes)

/-- Answers with a result. -/
def sendBvlcResult (dest : Endpoint) (code : BvlcResultCode) : List Sent :=
  sendTo (encodeBvll codes .bvlcResult (be (codes.resultToRaw code))) [dest]

/-- Forwards a packet to the targets and broadcasts it on the local network. -/
def forwardNpdu (npdu : Bytes) (origin : Endpoint) (targets : List Endpoint)
    (broadcast : Endpoint) : List Sent :=
  sendTo (encodeBvllForwarded codes origin npdu) targets ++
    sendTo (encodeBvllForwarded codes origin npdu) [broadcast]

namespace RecvContext

/-- A frame with a packet that was sent to this device alone. -/
def onOriginalUnicast (msg : BvllMessage) (sender : Endpoint) (ctx : RecvContext) :
    RecvContext × Effects :=
  let sourceMac := encodeBipMac sender
  if sourceMac = ctx.localMac then (ctx, {})
  else (ctx, { delivered := [⟨msg.payload, sourceMac⟩] })

/-- A broadcast on the local network. -/
def onOriginalBroadcast (now : ℕ) (msg : BvllMessage) (sender : Endpoint) (ctx : RecvContext) :
    RecvContext × Effects :=
  let sourceMac := encodeBipMac sender
  if sourceMac = ctx.localMac then (ctx, {})
  else
    match ctx.bbmd with
    | none => (ctx, { delivered := [⟨msg.payload, sourceMac⟩] })
    | some state =>
        let (targets, state) := state.forwardingTargets now sender
        ({ ctx with bbmd := some state },
          { delivered := [⟨msg.payload, sourceMac⟩],
            sent := forwardNpdu codes msg.payload sender targets ctx.broadcast })

/-- A broadcast that another device forwards. -/
def onForwarded (now : ℕ) (msg : BvllMessage) (sender : Endpoint) (ctx : RecvContext) :
    RecvContext × Effects :=
  match msg.originatingIp, msg.originatingPort with
  | some ip, some port =>
      let origin : Endpoint := ⟨ip, port⟩
      let sourceMac := encodeBipMac origin
      if sourceMac = ctx.localMac then (ctx, {})
      else
        match ctx.bbmd with
        | none => (ctx, { delivered := [⟨msg.payload, sourceMac⟩] })
        | some state =>
            if !state.isBdtPeer sender then (ctx, {})
            else
              -- the peers have it from the sender, only foreign devices still need it
              let state := state.purgeExpired now
              let targets := (state.fdt.filter fun e => e.device ≠ origin).map FdtEntry.device
              ({ ctx with bbmd := some state },
                { delivered := [⟨msg.payload, sourceMac⟩],
                  sent := forwardNpdu codes msg.payload origin targets ctx.broadcast })
  | _, _ => (ctx, {})

/-- A broadcast that a foreign device asks to distribute. -/
def onDistribute (now : ℕ) (msg : BvllMessage) (sender : Endpoint) (ctx : RecvContext) :
    RecvContext × Effects :=
  let sourceMac := encodeBipMac sender
  if sourceMac = ctx.localMac then (ctx, {})
  else
    match ctx.bbmd with
    | none => (ctx, { sent := sendBvlcResult codes sender .distributeBroadcastToNetworkNak })
    | some state =>
        let (registered, state) := state.isRegisteredForeignDevice now sender
        if !registered then
          ({ ctx with bbmd := some state },
            { sent := sendBvlcResult codes sender .distributeBroadcastToNetworkNak })
        else
          let (targets, state) := state.forwardingTargets now sender
          ({ ctx with bbmd := some state },
            { delivered := [⟨msg.payload, sourceMac⟩],
              sent := forwardNpdu codes msg.payload sender targets ctx.broadcast })

/-- A foreign device registers. -/
def onRegister (now : ℕ) (msg : BvllMessage) (sender : Endpoint) (ctx : RecvContext) :
    RecvContext × Effects :=
  match ctx.bbmd with
  | none => (ctx, { sent := sendBvlcResult codes sender .registerForeignDeviceNak })
  | some state =>
      if msg.payload.length < 2 then
        (ctx, { sent := sendBvlcResult codes sender .registerForeignDeviceNak })
      else
        let (result, state) := state.registerForeignDevice now sender (wordAt msg.payload 0)
        ({ ctx with bbmd := some state }, { sent := sendBvlcResult codes sender result })

/-- A request for the distribution table. -/
def onReadBdt (sender : Endpoint) (ctx : RecvContext) : RecvContext × Effects :=
  match ctx.bbmd with
  | none => (ctx, { sent := sendBvlcResult codes sender .readBroadcastDistributionTableNak })
  | some state =>
      let frame := encodeBvll codes .readBroadcastDistributionTableAck state.encodeBdt
      (ctx, { sent := sendTo frame [sender] })

/-- A request to replace the distribution table. -/
def onWriteBdt (msg : BvllMessage) (sender : Endpoint) (ctx : RecvContext) :
    RecvContext × Effects :=
  let refused := (ctx,
    ({ sent := sendBvlcResult codes sender .writeBroadcastDistributionTableNak } : Effects))
  match ctx.bbmd with
  | none => refused
  | some state =>
      if !state.isManagementAllowed sender.ip then refused
      else
        match BbmdState.decodeBdt msg.payload with
        | .error _ => refused
        | .ok entries =>
            match state.setBdt entries with
            | .error _ => refused
            | .ok state =>
                ({ ctx with bbmd := some state },
                  { persisted := if ctx.bdtPersist then some state.encodeBdt else none,
                    sent := sendBvlcResult codes sender .successfulCompletion })

/-- A request for the table of foreign devices. -/
def onReadFdt (now : ℕ) (sender : Endpoint) (ctx : RecvContext) : RecvContext × Effects :=
  match ctx.bbmd with
  | none => (ctx, { sent := sendBvlcResult codes sender .readForeignDeviceTableNak })
  | some state =>
      let (payload, state) := state.encodeFdt now
      let frame := encodeBvll codes .readForeignDeviceTableAck payload
      ({ ctx with bbmd := some state }, { sent := sendTo frame [sender] })

/-- A request to delete a foreign device. -/
def onDeleteFdtEntry (msg : BvllMessage) (sender : Endpoint) (ctx : RecvContext) :
    RecvContext × Effects :=
  let refused := (ctx,
    ({ sent := sendBvlcResult codes sender .deleteForeignDeviceTableEntryNak } : Effects))
  match ctx.bbmd with
  | none => refused
  | some state =>
      if !state.isManagementAllowed sender.ip then refused
      else if msg.payload.length ≥ 6 then
        let device : Endpoint := ⟨octetsAt msg.payload 0, wordAt msg.payload 4⟩
        let (result, state) := state.deleteForeignDevice device
        ({ ctx with bbmd := some state }, { sent := sendBvlcResult codes sender result })
      else refused

/-- An answer for the request that waits. Without one it is only logged. -/
def onAnswer (msg : BvllMessage) (ctx : RecvContext) : RecvContext × Effects :=
  match ctx.bvlcResponse with
  | some request => ({ ctx with bvlcResponse := none }, { answered := some (request, msg) })
  | none => (ctx, {})

/-- What is done with a frame. -/
def handleBvllMessage (now : ℕ) (msg : BvllMessage) (sender : Endpoint) (ctx : RecvContext) :
    RecvContext × Effects :=
  match msg.function with
  | .originalUnicastNpdu => ctx.onOriginalUnicast msg sender
  | .originalBroadcastNpdu => ctx.onOriginalBroadcast codes now msg sender
  | .forwardedNpdu => ctx.onForwarded codes now msg sender
  | .distributeBroadcastToNetwork => ctx.onDistribute codes now msg sender
  | .registerForeignDevice => ctx.onRegister codes now msg sender
  | .readBroadcastDistributionTable => ctx.onReadBdt codes sender
  | .writeBroadcastDistributionTable => ctx.onWriteBdt codes msg sender
  | .readForeignDeviceTable => ctx.onReadFdt codes now sender
  | .deleteForeignDeviceTableEntry => ctx.onDeleteFdtEntry codes msg sender
  | .bvlcResult | .readBroadcastDistributionTableAck | .readForeignDeviceTableAck =>
      ctx.onAnswer msg
  | .other _ => (ctx, {})

/-- The bytes of a datagram that the receive buffer takes. -/
def recvBufferLength : ℕ := 2048

/-- What is done with a datagram. One that is no frame is dropped. -/
def receive (now : ℕ) (data : Bytes) (sender : Endpoint) (ctx : RecvContext) :
    RecvContext × Effects :=
  match decodeBvll codes (data.take recvBufferLength) with
  | .ok msg => ctx.handleBvllMessage codes now msg sender
  | .error _ => (ctx, {})

/-! ## Frames that were written -/

variable {now : ℕ} {sender : Endpoint} {ctx : RecvContext}

/-- A frame of a function that has a name is received as it was written, if it fits into the
receive buffer. -/
theorem receive_encodeBvll {function : BvlcFunction} {payload frame : Bytes}
    (hname : ∀ raw, function ≠ .other raw) (hforward : function ≠ .forwardedNpdu)
    (hframe : encodeBvll codes function payload = .ok frame) :
    ctx.receive codes now frame sender =
      if frame.length ≤ recvBufferLength then
        ctx.handleBvllMessage codes now ⟨function, payload, none, none⟩ sender
      else (ctx, {}) := by
  have hm : BvllMessage.WellFormed codes ⟨function, payload, none, none⟩ :=
    ⟨codes.fromRaw_toRaw function hname, by simp [hforward], by simp [hforward]⟩
  unfold receive
  by_cases hfits : frame.length ≤ recvBufferLength
  · have hread := decodeBvll_written codes hm hframe []
    rw [List.append_nil] at hread
    rw [List.take_of_length_le hfits, hread, if_pos hfits]
  · obtain ⟨e, he⟩ := decodeBvll_cut codes hm hframe (Nat.lt_of_not_le hfits)
    rw [he, if_neg hfits]

/-- So is a forwarded frame. -/
theorem receive_encodeBvllForwarded {origin : Endpoint} {npdu frame : Bytes}
    (hframe : encodeBvllForwarded codes origin npdu = .ok frame)
    (hfits : frame.length ≤ recvBufferLength) :
    ctx.receive codes now frame sender = ctx.handleBvllMessage codes now
      ⟨.forwardedNpdu, npdu, some origin.ip, some origin.port⟩ sender := by
  have hm : BvllMessage.WellFormed codes
      ⟨.forwardedNpdu, npdu, some origin.ip, some origin.port⟩ :=
    ⟨codes.fromRaw_toRaw _ (by simp), by simp, by simp⟩
  have hread := decodeBvll_written codes hm hframe []
  rw [List.append_nil] at hread
  unfold receive
  rw [List.take_of_length_le hfits, hread]

/-- The length of a frame. -/
theorem length_encodeBvll {function : BvlcFunction} {payload frame : Bytes}
    (h : encodeBvll codes function payload = .ok frame) :
    frame.length = bvllHeaderLength + payload.length := by
  obtain ⟨-, rfl⟩ := (encodeBvll_eq_ok codes).mp h
  simp [bvllHeaderLength]
  omega

end RecvContext

end BacnetTransport
