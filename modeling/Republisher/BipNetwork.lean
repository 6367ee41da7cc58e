import Republisher.BdtFile
import Republisher.Cascade
import Mathlib.Algebra.Order.BigOperators.Group.List
import Mathlib.Algebra.Order.Ring.Nat
import Mathlib.Algebra.Group.Action.Defs

/-!
# Broadcasts in a network of devices

Devices send datagrams to addresses, and the network decides who hears them. A broadcast makes a
management device send forwarded frames, and a forwarded frame makes one that has its sender in
the distribution table send more of them. When no such device hears what its peers or it itself
send on their own networks, every broadcast comes to rest; a device that hears itself never stops.
-/

namespace BacnetTransport

open Wire

variable {ι : Type*}

/-- A datagram on its way to a device. -/
structure Packet (ι : Type*) where
  receiver : ι
  source : Endpoint
  frame : Bytes
  deriving DecidableEq

/-- The addresses of the devices, and who hears what a device sends to an address. -/
structure Network (ι : Type*) where
  address : ι → Endpoint
  hears : ι → Endpoint → List ι

namespace Network

variable (net : Network ι)

/-- The datagrams that a device puts on the network. -/
def send (i : ι) (sent : List Sent) : List (Packet ι) :=
  sent.flatMap fun x =>
    (net.hears i x.dest).map fun receiver => ⟨receiver, net.address i, x.frame⟩

variable [DecidableEq ι] (codes : BvlcCodes)

/-- A datagram arrives. -/
def handle (now : ℕ) (nodes : ι → RecvContext) (p : Packet ι) :
    (ι → RecvContext) × List (Packet ι) × List (ι × ReceivedNpdu) :=
  let r := (nodes p.receiver).receive codes now p.frame p.source
  (Function.update nodes p.receiver r.1, net.send p.receiver r.2.sent,
    r.2.delivered.map fun npdu => (p.receiver, npdu))

end Network

/-! ## What a device sends -/

/-- The frame is read as a message. -/
def Carries (codes : BvlcCodes) (frame : Bytes) (msg : BvllMessage) : Prop :=
  decodeBvll codes (frame.take RecvContext.recvBufferLength) = .ok msg

/-- A frame that only answers. -/
def Inert (codes : BvlcCodes) (frame : Bytes) : Prop :=
  ∀ msg, Carries codes frame msg → msg.function = .bvlcResult ∨
    msg.function = .readBroadcastDistributionTableAck ∨ msg.function = .readForeignDeviceTableAck

/-- A frame that is forwarded from a device with a packet. -/
def Forwards (codes : BvlcCodes) (frame : Bytes) (origin : Endpoint) (npdu : Bytes) : Prop :=
  encodeBvllForwarded codes origin npdu = .ok frame

namespace BbmdState

/-- A broadcast goes to at most every peer and every foreign device. -/
theorem length_forwardingTargets_le (now : ℕ) (exclude : Endpoint) (s : BbmdState) :
    (s.forwardingTargets now exclude).1.length ≤ s.bdt.length + s.fdt.length := by
  unfold forwardingTargets purgeExpired
  dsimp only
  rw [List.length_append, List.length_map, List.length_map]
  have hpeers := List.length_filter_le (fun e => decide (e.peer ≠ s.localDevice ∧
    e.peer ≠ exclude)) s.bdt
  have hlive := List.length_filter_le (fun e => !FdtEntry.isExpired now e) s.fdt
  have hothers := List.length_filter_le (fun e => decide (e.device ≠ exclude))
    (s.fdt.filter fun e => !FdtEntry.isExpired now e)
  omega

end BbmdState

namespace RecvContext

variable (codes : BvlcCodes) {now : ℕ} {msg : BvllMessage} {sender : Endpoint}
  {ctx : RecvContext} {s : BbmdState}

/-- What is sent to targets. -/
theorem mem_sendTo {frame : Except Error Bytes} {targets : List Endpoint} {x : Sent} :
    x ∈ sendTo frame targets ↔ frame = .ok x.frame ∧ x.dest ∈ targets := by
  unfold sendTo
  cases frame with
  | error e => simp
  | ok found =>
    rw [List.mem_map, Except.ok.injEq]
    constructor
    · rintro ⟨dest, hdest, rfl⟩
      exact ⟨rfl, hdest⟩
    · rintro ⟨rfl, hdest⟩
      exact ⟨x.dest, hdest, rfl⟩

/-- At most one frame for each target. -/
theorem length_sendTo_le (frame : Except Error Bytes) (targets : List Endpoint) :
    (sendTo frame targets).length ≤ targets.length := by
  unfold sendTo
  cases frame with
  | error e => exact Nat.zero_le _
  | ok found => rw [List.length_map]

/-- A frame that answers is inert. -/
theorem inert_of_encodeBvll {function : BvlcFunction} {payload frame : Bytes}
    (hfunction : function = .bvlcResult ∨ function = .readBroadcastDistributionTableAck ∨
      function = .readForeignDeviceTableAck)
    (hframe : encodeBvll codes function payload = .ok frame) : Inert codes frame := by
  have hname : ∀ raw, function ≠ .other raw := by
    rintro raw rfl
    rcases hfunction with h | h | h <;> cases h
  have hforward : function ≠ .forwardedNpdu := by
    rintro rfl
    rcases hfunction with h | h | h <;> cases h
  have hm : BvllMessage.WellFormed codes ⟨function, payload, none, none⟩ :=
    ⟨codes.fromRaw_toRaw function hname, by simp [hforward], by simp [hforward]⟩
  intro msg hmsg
  unfold Carries at hmsg
  by_cases hfits : frame.length ≤ recvBufferLength
  · have hread := decodeBvll_written codes hm hframe []
    rw [List.append_nil] at hread
    rw [List.take_of_length_le hfits, hread, Except.ok.injEq] at hmsg
    rw [← hmsg]
    exact hfunction
  · obtain ⟨e, he⟩ := decodeBvll_cut codes hm hframe (Nat.lt_of_not_le hfits)
    rw [he] at hmsg
    cases hmsg

/-- What a forwarded frame is read as. -/
theorem eq_of_forwards {origin : Endpoint} {npdu frame : Bytes} {found : BvllMessage}
    (hframe : Forwards codes frame origin npdu) (hfound : Carries codes frame found) :
    found = ⟨.forwardedNpdu, npdu, some origin.ip, some origin.port⟩ := by
  have hm : BvllMessage.WellFormed codes
      ⟨.forwardedNpdu, npdu, some origin.ip, some origin.port⟩ :=
    ⟨codes.fromRaw_toRaw _ (by simp), by simp, by simp⟩
  unfold Carries at hfound
  by_cases hfits : frame.length ≤ recvBufferLength
  · have hread := decodeBvll_written codes hm hframe []
    rw [List.append_nil] at hread
    rw [List.take_of_length_le hfits, hread, Except.ok.injEq] at hfound
    exact hfound.symm
  · obtain ⟨e, he⟩ := decodeBvll_cut codes hm hframe (Nat.lt_of_not_le hfits)
    rw [he] at hfound
    cases hfound

/-- A frame for the targets or for the local network is forwarded. -/
theorem mem_forwardNpdu {npdu : Bytes} {origin broadcast : Endpoint} {targets : List Endpoint}
    {x : Sent} : x ∈ forwardNpdu codes npdu origin targets broadcast ↔
      Forwards codes x.frame origin npdu ∧ (x.dest ∈ targets ∨ x.dest = broadcast) := by
  unfold forwardNpdu Forwards
  rw [List.mem_append, mem_sendTo, mem_sendTo, List.mem_singleton, ← and_or_left]

/-- What a device sends when a frame arrives: an answer to the sender, or forwarded frames, which
only a management device sends. -/
inductive Sends (now : ℕ) (msg : BvllMessage) (sender : Endpoint) (ctx : RecvContext) :
    List Sent → Prop
  | nothing : Sends now msg sender ctx []
  | answer (sent : List Sent) (hinert : ∀ x ∈ sent, Inert codes x.frame) (hone : sent.length ≤ 1)
      (hasked : msg.function ≠ .bvlcResult ∧ msg.function ≠ .readBroadcastDistributionTableAck ∧
        msg.function ≠ .readForeignDeviceTableAck ∧ msg.function ≠ .forwardedNpdu) :
      Sends now msg sender ctx sent
  | again (s : BbmdState) (origin : Endpoint) (targets : List Endpoint) (hs : ctx.bbmd = some s)
      (hforward : msg.function = .forwardedNpdu) (hpeer : s.isBdtPeer sender = true)
      (hfew : targets.length ≤ s.fdt.length)
      (htargets : ∀ d ∈ targets, ∃ e ∈ s.fdt, e.device = d) :
      Sends now msg sender ctx (forwardNpdu codes msg.payload origin targets ctx.broadcast)
  | spread (s : BbmdState) (targets : List Endpoint) (hs : ctx.bbmd = some s)
      (hbroadcast : msg.function = .originalBroadcastNpdu ∨
        msg.function = .distributeBroadcastToNetwork)
      (hfew : targets.length ≤ s.bdt.length + s.fdt.length) :
      Sends now msg sender ctx (forwardNpdu codes msg.payload sender targets ctx.broadcast)

/-- One frame that answers the sender, if it can be written. -/
theorem Sends.of_encodeBvll {function : BvlcFunction} {payload : Bytes}
    (hfunction : function = .bvlcResult ∨ function = .readBroadcastDistributionTableAck ∨
      function = .readForeignDeviceTableAck)
    (hasked : msg.function ≠ .bvlcResult ∧ msg.function ≠ .readBroadcastDistributionTableAck ∧
      msg.function ≠ .readForeignDeviceTableAck ∧ msg.function ≠ .forwardedNpdu) :
    Sends codes now msg sender ctx (sendTo (encodeBvll codes function payload) [sender]) := by
  refine .answer _ (fun x hx => ?_) (length_sendTo_le _ _) hasked
  exact inert_of_encodeBvll codes hfunction ((mem_sendTo).mp hx).1

/-- What a device sends when a frame arrives. -/
theorem handleBvllMessage_sends :
    Sends codes now msg sender ctx (ctx.handleBvllMessage codes now msg sender).2.sent := by
  have hresult (code : BvlcResultCode)
      (hasked : msg.function ≠ .bvlcResult ∧ msg.function ≠ .readBroadcastDistributionTableAck ∧
        msg.function ≠ .readForeignDeviceTableAck ∧ msg.function ≠ .forwardedNpdu) :
      Sends codes now msg sender ctx (sendBvlcResult codes sender code) :=
    .of_encodeBvll codes (.inl rfl) hasked
  unfold handleBvllMessage
  cases hf : msg.function
  case originalUnicastNpdu =>
    simp only [onOriginalUnicast]
    split_ifs <;> exact .nothing
  case originalBroadcastNpdu =>
    simp only [onOriginalBroadcast]
    split_ifs
    · exact .nothing
    · cases hs : ctx.bbmd with
      | none => exact .nothing
      | some s => exact .spread s _ hs (.inl hf) (s.length_forwardingTargets_le now sender)
  case forwardedNpdu =>
    simp only [onForwarded]
    split
    · split_ifs
      · exact .nothing
      · cases hs : ctx.bbmd with
        | none => exact .nothing
        | some s =>
          dsimp only
          split_ifs with hpeer
          · exact .nothing
          · refine .again s _ _ hs hf (by simpa using hpeer) ?_ fun d hd => ?_
            · rw [List.length_map]
              exact Nat.le_trans (List.length_filter_le _ _) (List.length_filter_le _ _)
            · obtain ⟨e, he, rfl⟩ := List.mem_map.mp hd
              exact ⟨e, List.mem_of_mem_filter (List.mem_of_mem_filter he), rfl⟩
    · exact .nothing
  case distributeBroadcastToNetwork =>
    have hasked : msg.function ≠ .bvlcResult ∧
        msg.function ≠ .readBroadcastDistributionTableAck ∧
          msg.function ≠ .readForeignDeviceTableAck ∧ msg.function ≠ .forwardedNpdu := by simp [hf]
    simp only [onDistribute]
    split_ifs
    · exact .nothing
    · cases hs : ctx.bbmd with
      | none => exact hresult _ hasked
      | some s =>
        dsimp only
        split_ifs
        · exact hresult _ hasked
        · refine .spread s _ hs (.inr hf) ?_
          have hlive := List.length_filter_le (fun e => !FdtEntry.isExpired now e) s.fdt
          exact Nat.le_trans ((s.purgeExpired now).length_forwardingTargets_le now sender)
            (Nat.add_le_add_left hlive _)
  case registerForeignDevice =>
    simp only [onRegister]
    cases ctx.bbmd with
    | none => exact hresult _ (by simp [hf])
    | some s =>
      dsimp only
      split_ifs <;> exact hresult _ (by simp [hf])
  case readBroadcastDistributionTable =>
    simp only [onReadBdt]
    cases ctx.bbmd with
    | none => exact hresult _ (by simp [hf])
    | some s => exact .of_encodeBvll codes (.inr (.inl rfl)) (by simp [hf])
  case readForeignDeviceTable =>
    simp only [onReadFdt]
    cases ctx.bbmd with
    | none => exact hresult _ (by simp [hf])
    | some s => exact .of_encodeBvll codes (.inr (.inr rfl)) (by simp [hf])
  case writeBroadcastDistributionTable =>
    dsimp only [onWriteBdt]
    repeat' split
    all_goals exact hresult _ (by simp [hf])
  case deleteForeignDeviceTableEntry =>
    simp only [onDeleteFdtEntry]
    cases ctx.bbmd with
    | none => exact hresult _ (by simp [hf])
    | some s =>
      dsimp only
      split_ifs <;> exact hresult _ (by simp [hf])
  case bvlcResult | readBroadcastDistributionTableAck | readForeignDeviceTableAck =>
    simp only [onAnswer]
    cases ctx.bvlcResponse <;> exact .nothing
  case other => exact .nothing

end RecvContext

/-! ## Broadcasts come to rest -/

section Rest

variable (codes : BvlcCodes) (net : Network ι)

/-- The device has the same distribution table and at most the foreign devices that it had. -/
def Within (first now : RecvContext) : Prop :=
  now.broadcast = first.broadcast ∧ (first.bbmd = none → now.bbmd = none) ∧
    ∀ s, first.bbmd = some s → ∃ t, now.bbmd = some t ∧ t.bdt = s.bdt ∧ t.fdt.Sublist s.fdt

/-- The tables of a device are as large as they get. -/
def Roomy (ctx : RecvContext) : Prop :=
  ∀ s, ctx.bbmd = some s →
    s.bdt.length ≤ BbmdState.maxBdtEntries + 1 ∧ s.fdt.length ≤ BbmdState.maxFdtEntries

/-- The frame neither registers a foreign device nor replaces a distribution table. -/
def Passing (frame : Bytes) : Prop :=
  ∀ msg, Carries codes frame msg → msg.function ≠ .registerForeignDevice ∧
    msg.function ≠ .writeBroadcastDistributionTable

/-- No management device hears what a peer of its table, or it itself, sends to a foreign device
or on its own network. -/
def Network.Quiet (nodes : ι → RecvContext) : Prop :=
  ∀ i j s t dest, (nodes i).bbmd = some s → (nodes j).bbmd = some t →
    (dest = (nodes i).broadcast ∨ ∃ e ∈ s.fdt, e.device = dest) →
      j ∈ net.hears i dest → t.isBdtPeer (net.address i) = false

/-- The receiver forwards what it is sent. -/
def accepts (nodes : ι → RecvContext) (p : Packet ι) : Bool :=
  match (nodes p.receiver).bbmd with
  | some s => s.isBdtPeer p.source
  | none => false

/-- A bound on the datagrams that a frame causes when each address is heard by at most so many
devices, itself included. -/
def frameWeight (listeners : ℕ) (accepted : Bool) : BvlcFunction → ℕ
  | .forwardedNpdu => if accepted then 1 + 513 * listeners else 1
  | .originalBroadcastNpdu | .distributeBroadcastToNetwork =>
      1 + 642 * listeners * (1 + 513 * listeners)
  | .bvlcResult | .readBroadcastDistributionTableAck | .readForeignDeviceTableAck => 1
  | _ => 1 + listeners

/-- The same for a datagram. -/
def packetWeight (listeners : ℕ) (nodes : ι → RecvContext) (p : Packet ι) : ℕ :=
  match decodeBvll codes (p.frame.take RecvContext.recvBufferLength) with
  | .ok msg => frameWeight listeners (accepts nodes p) msg.function
  | .error _ => 1

/-- What a device sends is heard by so many devices each. -/
theorem Network.sum_send_le {listeners : ℕ}
    (hheard : ∀ i dest, (net.hears i dest).length ≤ listeners) (i : ι)
    (sent : List Sent) (weight : Packet ι → ℕ) (bound : ℕ)
    (hbound : ∀ p ∈ net.send i sent, weight p ≤ bound) :
    ((net.send i sent).map weight).sum ≤ sent.length * listeners * bound := by
  induction sent with
  | nil => simp [Network.send]
  | cons x sent ih =>
    have hcons : net.send i (x :: sent) =
        (net.hears i x.dest).map (fun receiver => ⟨receiver, net.address i, x.frame⟩) ++
          net.send i sent := List.flatMap_cons
    rw [hcons] at hbound
    have hrest := ih fun p hp => hbound p (List.mem_append_right _ hp)
    have hfirst := List.sum_le_card_nsmul
      (((net.hears i x.dest).map fun receiver =>
        (⟨receiver, net.address i, x.frame⟩ : Packet ι)).map weight) bound fun w hw => by
          obtain ⟨p, hp, rfl⟩ := List.mem_map.mp hw
          exact hbound p (List.mem_append_left _ hp)
    rw [List.length_map, List.length_map, smul_eq_mul] at hfirst
    have hfew := Nat.mul_le_mul_right bound (hheard i x.dest)
    rw [hcons, List.map_append, List.sum_append, List.length_cons, Nat.add_one_mul, Nat.add_mul]
    omega

/-- Every datagram weighs something. -/
theorem frameWeight_pos (listeners : ℕ) (accepted : Bool) (f : BvlcFunction) :
    0 < frameWeight listeners accepted f := by
  unfold frameWeight
  split
  · split_ifs <;> omega
  all_goals omega

/-- A frame that is answered weighs more than the answer. -/
theorem le_frameWeight_of_asked {f : BvlcFunction} (listeners : ℕ) (accepted : Bool)
    (h : f ≠ .bvlcResult ∧ f ≠ .readBroadcastDistributionTableAck ∧
      f ≠ .readForeignDeviceTableAck ∧ f ≠ .forwardedNpdu) :
    1 + listeners ≤ frameWeight listeners accepted f := by
  obtain ⟨hresult, hbdt, hfdt, hforward⟩ := h
  have hlarge : 1 + listeners ≤ 1 + 642 * listeners * (1 + 513 * listeners) := by
    have hmul : listeners * 1 ≤ listeners * (642 * (1 + 513 * listeners)) :=
      Nat.mul_le_mul_left _ (by omega)
    rw [Nat.mul_comm 642 listeners, Nat.mul_assoc]
    omega
  unfold frameWeight
  split
  · exact absurd rfl hforward
  · exact hlarge
  · exact hlarge
  · exact absurd rfl hresult
  · exact absurd rfl hbdt
  · exact absurd rfl hfdt
  · exact Nat.le_refl _

/-- A broadcast weighs most. -/
theorem packetWeight_le (listeners : ℕ) (nodes : ι → RecvContext) (p : Packet ι) :
    packetWeight codes listeners nodes p ≤ 1 + 642 * listeners * (1 + 513 * listeners) := by
  have hlarge : 513 * listeners ≤ 642 * listeners * (1 + 513 * listeners) := by
    have hmul : listeners * 513 ≤ listeners * (642 * (1 + 513 * listeners)) :=
      Nat.mul_le_mul_left _ (by omega)
    rw [Nat.mul_comm 642 listeners, Nat.mul_assoc]
    omega
  unfold packetWeight frameWeight
  split
  · split
    · split_ifs <;> omega
    all_goals omega
  · omega

/-- An inert frame weighs least. -/
theorem packetWeight_of_inert {listeners : ℕ} {nodes : ι → RecvContext} {p : Packet ι}
    (h : Inert codes p.frame) : packetWeight codes listeners nodes p ≤ 1 := by
  unfold packetWeight
  cases hread : decodeBvll codes (p.frame.take RecvContext.recvBufferLength) with
  | error e => exact Nat.le_refl 1
  | ok msg =>
    dsimp only
    rcases h msg hread with hf | hf | hf <;> rw [hf] <;> exact Nat.le_refl 1

/-- What a forwarded frame weighs depends on whether it is accepted. -/
theorem packetWeight_of_forwards (listeners : ℕ) (nodes : ι → RecvContext) {p : Packet ι}
    {origin : Endpoint} {npdu : Bytes} (h : Forwards codes p.frame origin npdu) :
    packetWeight codes listeners nodes p ≤ if accepts nodes p then 1 + 513 * listeners else 1 := by
  unfold packetWeight
  cases hread : decodeBvll codes (p.frame.take RecvContext.recvBufferLength) with
  | error e =>
    dsimp only
    split_ifs <;> omega
  | ok msg =>
    rw [RecvContext.eq_of_forwards codes h hread]
    exact Nat.le_refl _

/-- A frame that passes leaves a device within what it had. -/
theorem Within.receive {first ctx : RecvContext} (h : Within first ctx) {now : ℕ} {frame : Bytes}
    {sender : Endpoint} (hpass : Passing codes frame) :
    Within first (ctx.receive codes now frame sender).1 := by
  unfold RecvContext.receive
  cases hread : decodeBvll codes (frame.take RecvContext.recvBufferLength) with
  | error e => exact h
  | ok msg =>
    obtain ⟨hbroadcast, hnone, hsome⟩ := h
    obtain ⟨hregister, hwrite⟩ := hpass msg hread
    refine ⟨?_, fun hfirst => ?_, fun s hfirst => ?_⟩
    · obtain ⟨bbmd, waiting, hfixed⟩ := RecvContext.handleBvllMessage_fixed codes now msg sender ctx
      dsimp only
      rw [hfixed]
      exact hbroadcast
    · exact RecvContext.handleBvllMessage_none codes (hnone hfirst)
    · obtain ⟨t, ht, hbdt, hfdt⟩ := hsome s hfirst
      obtain ⟨u, hu, hchanges⟩ := RecvContext.handleBvllMessage_changes codes now msg sender ht
      refine ⟨u, hu, (hchanges.kept.2.2.1 hwrite).trans hbdt, ?_⟩
      cases hchanges with
      | keep => exact hfdt
      | purge => exact List.filter_sublist.trans hfdt
      | register hf => exact absurd hf hregister
      | delete => exact List.filter_sublist.trans hfdt
      | replace _ _ hf => exact absurd hf hwrite

/-- What a device sends when a datagram arrives that it can read, and nothing otherwise. -/
theorem receive_sends (ctx : RecvContext) (now : ℕ) (frame : Bytes) (sender : Endpoint) :
    (∃ msg, Carries codes frame msg ∧
        RecvContext.Sends codes now msg sender ctx (ctx.receive codes now frame sender).2.sent) ∨
      (∀ msg, ¬ Carries codes frame msg) ∧ (ctx.receive codes now frame sender).2.sent = [] := by
  unfold RecvContext.receive Carries
  cases hread : decodeBvll codes (frame.take RecvContext.recvBufferLength) with
  | error e => exact .inr ⟨fun msg h => (by cases h), rfl⟩
  | ok msg => exact .inl ⟨msg, rfl, RecvContext.handleBvllMessage_sends codes⟩

/-- Everything that a device sends passes. -/
theorem RecvContext.Sends.passing {now : ℕ} {msg : BvllMessage} {sender : Endpoint}
    {ctx : RecvContext} {sent : List Sent} (h : Sends codes now msg sender ctx sent) :
    ∀ x ∈ sent, Passing codes x.frame := by
  have hforwards {x : Sent} {origin : Endpoint} {npdu : Bytes}
      (hx : Forwards codes x.frame origin npdu) : Passing codes x.frame := by
    intro found hfound
    rw [eq_of_forwards codes hx hfound]
    exact ⟨by simp, by simp⟩
  intro x hx
  cases h with
  | nothing => cases hx
  | answer _ hinert =>
    intro found hfound
    rcases hinert x hx found hfound with hf | hf | hf <;> rw [hf] <;> exact ⟨by simp, by simp⟩
  | again => exact hforwards ((mem_forwardNpdu codes).mp hx).1
  | spread => exact hforwards ((mem_forwardNpdu codes).mp hx).1

/-- The number of frames that are forwarded. -/
theorem length_forwardNpdu_le (npdu : Bytes) (origin : Endpoint) (targets : List Endpoint)
    (broadcast : Endpoint) :
    (forwardNpdu codes npdu origin targets broadcast).length ≤ targets.length + 1 := by
  unfold forwardNpdu
  rw [List.length_append]
  have htargets := RecvContext.length_sendTo_le (encodeBvllForwarded codes origin npdu) targets
  have hlocal := RecvContext.length_sendTo_le (encodeBvllForwarded codes origin npdu) [broadcast]
  exact Nat.add_le_add htargets hlocal

/-- The datagrams that a device sends, each for one that hears it. -/
theorem Network.mem_send {i : ι} {sent : List Sent} {q : Packet ι} :
    q ∈ net.send i sent ↔ ∃ x ∈ sent,
      q.receiver ∈ net.hears i x.dest ∧ q.source = net.address i ∧ q.frame = x.frame := by
  unfold Network.send
  simp only [List.mem_flatMap, List.mem_map]
  constructor
  · rintro ⟨x, hx, receiver, hreceiver, rfl⟩
    exact ⟨x, hx, hreceiver, rfl, rfl⟩
  · rintro ⟨x, hx, hreceiver, hsource, hframe⟩
    exact ⟨x, hx, q.receiver, hreceiver, by rw [← hsource, ← hframe]⟩

/-- The tables of a device are those that it began with, or have fewer foreign devices. -/
theorem Within.tables {first ctx : RecvContext} (h : Within first ctx) {s : BbmdState}
    (hs : ctx.bbmd = some s) :
    ∃ s₀, first.bbmd = some s₀ ∧ s.bdt = s₀.bdt ∧ s.fdt.Sublist s₀.fdt := by
  obtain ⟨-, hnone, hsome⟩ := h
  cases hfirst : first.bbmd with
  | none =>
    rw [hnone hfirst] at hs
    cases hs
  | some s₀ =>
    obtain ⟨t, ht, hbdt, hfdt⟩ := hsome s₀ hfirst
    obtain rfl := Option.some.inj (hs.symm.trans ht)
    exact ⟨s₀, rfl, hbdt, hfdt⟩

/-- No one forwards what a management device sends on its own network and to foreign devices. -/
theorem Network.Quiet.not_accepts {first : ι → RecvContext} (hquiet : net.Quiet first) {i : ι}
    {s : BbmdState} (hs : (first i).bbmd = some s) {dest : Endpoint}
    (hdest : dest = (first i).broadcast ∨ ∃ e ∈ s.fdt, e.device = dest) {q : Packet ι}
    (hreceiver : q.receiver ∈ net.hears i dest) (hsource : q.source = net.address i) :
    accepts first q = false := by
  unfold accepts
  cases hq : (first q.receiver).bbmd with
  | none => rfl
  | some t =>
    dsimp only
    rw [hsource]
    exact hquiet i q.receiver s t dest hs hq hdest hreceiver

/-- The datagrams that a device sends weigh less than the one that arrives. -/
theorem sum_send_lt {listeners : ℕ}
    (hheard : ∀ i dest, (net.hears i dest).length ≤ listeners)
    {first : ι → RecvContext} (hquiet : net.Quiet first) (hroomy : ∀ i, Roomy (first i)) {now : ℕ}
    {ctx : RecvContext} {p : Packet ι} (hctx : Within (first p.receiver) ctx) :
    ((net.send p.receiver (ctx.receive codes now p.frame p.source).2.sent).map
        (packetWeight codes listeners first)).sum < packetWeight codes listeners first p := by
  rcases receive_sends codes ctx now p.frame p.source with
    ⟨msg, hread, hsends⟩ | ⟨hunread, hnothing⟩
  · have hweight : packetWeight codes listeners first p =
        frameWeight listeners (accepts first p) msg.function := by
      unfold packetWeight
      rw [show decodeBvll codes (p.frame.take RecvContext.recvBufferLength) = .ok msg from hread]
    rw [hweight]
    generalize (ctx.receive codes now p.frame p.source).2.sent = sent at hsends
    cases hsends with
    | nothing => exact frameWeight_pos _ _ _
    | answer _ hinert hone hasked =>
      have hsum := net.sum_send_le hheard p.receiver sent
        (packetWeight codes listeners first) 1 fun q hq => by
          obtain ⟨x, hx, -, -, hframe⟩ := (net.mem_send).mp hq
          exact packetWeight_of_inert codes (hframe ▸ hinert x hx)
      have hasked := le_frameWeight_of_asked listeners (accepts first p) hasked
      have hfew := Nat.mul_le_mul_right listeners hone
      omega
    | again s origin targets hs hforward hpeer hfew htargets =>
      obtain ⟨s₀, hs₀, hbdt, hfdt⟩ := hctx.tables hs
      have haccepts : accepts first p = true := by
        unfold accepts
        rw [hs₀]
        unfold BbmdState.isBdtPeer at hpeer ⊢
        rw [hbdt] at hpeer
        exact hpeer
      have hsum := net.sum_send_le hheard p.receiver
        (forwardNpdu codes msg.payload origin targets ctx.broadcast)
        (packetWeight codes listeners first) 1 fun q hq => by
          obtain ⟨x, hx, hreceiver, hsource, hframe⟩ := (net.mem_send).mp hq
          obtain ⟨hforwards, hdest⟩ := (RecvContext.mem_forwardNpdu codes).mp hx
          have hdeaf : accepts first q = false := by
            refine hquiet.not_accepts net hs₀ ?_ hreceiver hsource
            rcases hdest with hdest | hdest
            · obtain ⟨e, he, hdevice⟩ := htargets _ hdest
              exact .inr ⟨e, hfdt.subset he, hdevice⟩
            · exact .inl (hdest.trans hctx.1)
          have hweight := packetWeight_of_forwards codes listeners first
            (hframe ▸ hforwards)
          rw [hdeaf] at hweight
          exact hweight
      have hcount := length_forwardNpdu_le codes msg.payload origin targets ctx.broadcast
      have hroom := (hroomy p.receiver s₀ hs₀).2
      have hfewer := hfdt.length_le
      unfold BbmdState.maxFdtEntries at hroom
      have hmul := Nat.mul_le_mul_right listeners (show
        (forwardNpdu codes msg.payload origin targets ctx.broadcast).length ≤ 513 by omega)
      have hlarge : frameWeight listeners (accepts first p) msg.function = 1 + 513 * listeners := by
        rw [hforward, haccepts]
        rfl
      omega
    | spread s targets hs hfunction hfew =>
      obtain ⟨s₀, hs₀, hbdt, hfdt⟩ := hctx.tables hs
      have hsum := net.sum_send_le hheard p.receiver
        (forwardNpdu codes msg.payload p.source targets ctx.broadcast)
        (packetWeight codes listeners first) (1 + 513 * listeners) fun q hq => by
          obtain ⟨x, hx, -, -, hframe⟩ := (net.mem_send).mp hq
          have hweight := packetWeight_of_forwards codes listeners first
            (hframe ▸ ((RecvContext.mem_forwardNpdu codes).mp hx).1)
          refine Nat.le_trans hweight ?_
          split_ifs <;> omega
      have hcount := length_forwardNpdu_le codes msg.payload p.source targets ctx.broadcast
      obtain ⟨hroombdt, hroomfdt⟩ := hroomy p.receiver s₀ hs₀
      have hfewer := hfdt.length_le
      rw [hbdt] at hfew
      unfold BbmdState.maxFdtEntries at hroomfdt
      unfold BbmdState.maxBdtEntries at hroombdt
      have hmul := Nat.mul_le_mul_right (1 + 513 * listeners) (Nat.mul_le_mul_right listeners (show
        (forwardNpdu codes msg.payload p.source targets ctx.broadcast).length ≤ 642 by omega))
      have hlarge : frameWeight listeners (accepts first p) msg.function =
          1 + 642 * listeners * (1 + 513 * listeners) := by
        rcases hfunction with hf | hf <;> rw [hf] <;> rfl
      omega
  · rw [hnothing]
    unfold packetWeight
    cases hdecode : decodeBvll codes (p.frame.take RecvContext.recvBufferLength) with
    | error e => exact Nat.zero_lt_one
    | ok msg => exact absurd hdecode (hunread msg)

variable [DecidableEq ι]

/-- The datagrams that a device sends when one arrives weigh less than that one, it sends none
that changes tables, and it keeps within what it had. -/
theorem handle_weight {listeners : ℕ}
    (hheard : ∀ i dest, (net.hears i dest).length ≤ listeners)
    {first : ι → RecvContext} (hquiet : net.Quiet first) (hroomy : ∀ i, Roomy (first i)) (now : ℕ)
    {nodes : ι → RecvContext} (hnodes : ∀ i, Within (first i) (nodes i)) {p : Packet ι}
    (hpass : Passing codes p.frame) :
    ((∀ i, Within (first i) ((net.handle codes now nodes p).1 i)) ∧
        ∀ q ∈ (net.handle codes now nodes p).2.1, Passing codes q.frame) ∧
      ((net.handle codes now nodes p).2.1.map (packetWeight codes listeners first)).sum <
        packetWeight codes listeners first p := by
  refine ⟨⟨fun i => ?_, fun q hq => ?_⟩,
    sum_send_lt codes net hheard hquiet hroomy (hnodes p.receiver)⟩
  · by_cases hi : i = p.receiver
    · subst hi
      unfold Network.handle
      dsimp only
      rw [Function.update_self]
      exact (hnodes _).receive codes hpass
    · unfold Network.handle
      dsimp only
      rw [Function.update_of_ne hi]
      exact hnodes i
  · obtain ⟨x, hx, -, -, hframe⟩ := (net.mem_send).mp hq
    rw [hframe]
    rcases receive_sends codes (nodes p.receiver) now p.frame p.source with
      ⟨msg, -, hsends⟩ | ⟨-, hnothing⟩
    · exact hsends.passing codes x hx
    · rw [hnothing] at hx
      cases hx

/-- When no management device hears what its peers or it itself send on their own networks, and
no frame changes the tables, every run of the datagrams in flight ends, in whichever order they
arrive: each of them causes a bounded number of datagrams. -/
theorem cascade_ends {listeners : ℕ}
    (hheard : ∀ i dest, (net.hears i dest).length ≤ listeners)
    {nodes : ι → RecvContext} (hquiet : net.Quiet nodes) (hroomy : ∀ i, Roomy (nodes i))
    {flight : List (Packet ι)} (hflight : ∀ p ∈ flight, Passing codes p.frame)
    {log : List (ι × ReceivedNpdu)} {is : List (ℕ × ℕ)}
    {last : Cascade.Config (ι → RecvContext) (Packet ι) (ι × ReceivedNpdu)}
    (hrun : Transition.run (Cascade.step (net.handle codes)) ⟨nodes, flight, log⟩ is = some last) :
    is.length ≤ flight.length * (1 + 642 * listeners * (1 + 513 * listeners)) := by
  have hstep (time : ℕ) (later : ι → RecvContext) (p : Packet ι)
      (hlater : ∀ i, Within (nodes i) (later i)) (hpass : Passing codes p.frame) :=
    handle_weight codes net hheard hquiet hroomy time hlater hpass
  have hlength := Cascade.length_add_weight_le
    (fun time later p hlater hpass => (hstep time later p hlater hpass).1)
    (fun time later p hlater hpass => (hstep time later p hlater hpass).2)
    ⟨fun i => ⟨rfl, id, fun s hs => ⟨s, hs, rfl, List.Sublist.refl _⟩⟩, hflight⟩ hrun
  have hflight := List.sum_le_card_nsmul (flight.map (packetWeight codes listeners nodes))
    (1 + 642 * listeners * (1 + 513 * listeners)) fun w hw => by
      obtain ⟨p, -, rfl⟩ := List.mem_map.mp hw
      exact packetWeight_le codes listeners nodes p
  rw [List.length_map, smul_eq_mul] at hflight
  dsimp only at hlength
  omega

end Rest

/-- A management device and another one on the same network. -/
def lineNetwork : Network Bool where
  address i := ⟨⟨10, 0, 0, if i then 1 else 2⟩, 47808⟩
  hears i dest := if dest = ⟨⟨10, 0, 0, 255⟩, 47808⟩ then [!i] else []

/-- The contexts of the two. -/
def lineNodes (i : Bool) : RecvContext :=
  ⟨encodeBipMac (lineNetwork.address i),
    if i then
      some ⟨[⟨lineNetwork.address true, BbmdState.allOnes⟩], [], lineNetwork.address true, []⟩
    else none, ⟨⟨10, 0, 0, 255⟩, 47808⟩, none, false⟩

/-- The broadcast of the other device that reaches the management device. -/
def lineBroadcast : Packet Bool :=
  ⟨true, lineNetwork.address false, [0x81, 0x0b, 0, 6, 1, 0]⟩

/-- Whatever becomes of one broadcast to a management device ends. -/
theorem cascade_ends_line : ∃ most, ∀ is last,
    Transition.run (Cascade.step (lineNetwork.handle standardCodes))
      ⟨lineNodes, [lineBroadcast], ([] : List (Bool × ReceivedNpdu))⟩ is = some last →
    is.length ≤ most := by
  have hheard (i : Bool) (dest : Endpoint) : (lineNetwork.hears i dest).length ≤ 1 := by
    unfold lineNetwork
    dsimp only
    split_ifs <;> simp
  have hquiet : lineNetwork.Quiet lineNodes := by
    intro i j s t dest hs ht hdest hj
    cases i with
    | false => cases hs
    | true =>
      cases j with
      | false => cases ht
      | true =>
        obtain rfl := Option.some.inj hs
        rcases hdest with rfl | ⟨e, he, -⟩
        · simp [lineNetwork, lineNodes] at hj
        · cases he
  have hroomy (i : Bool) : Roomy (lineNodes i) := by
    rintro s hs
    cases i with
    | false => cases hs
    | true =>
      obtain rfl := Option.some.inj hs
      decide
  have hflight : ∀ p ∈ [lineBroadcast], Passing standardCodes p.frame := by
    intro p hp msg hmsg
    rw [List.mem_singleton.mp hp] at hmsg
    have hread : decodeBvll standardCodes (lineBroadcast.frame.take RecvContext.recvBufferLength) =
        .ok ⟨.originalBroadcastNpdu, [1, 0], none, none⟩ := by decide
    obtain rfl := Except.ok.inj (hread.symm.trans hmsg)
    decide
  exact ⟨_, fun is last hrun =>
    cascade_ends standardCodes lineNetwork hheard hquiet hroomy hflight hrun⟩

/-! ## A device that hears itself -/

section Storm

variable [DecidableEq ι] (codes : BvlcCodes) (net : Network ι)

/-- A forwarded frame that the device accepts is on its way to a management device that hears its
own broadcasts. -/
structure Ready (i : ι) (origin : Endpoint) (npdu : Bytes)
    (c : Cascade.Config (ι → RecvContext) (Packet ι) (ι × ReceivedNpdu)) : Prop where
  own : ∃ s, (c.state i).bbmd = some s ∧ s.isBdtPeer (net.address i) = true ∧
    ∃ p ∈ c.flight, p.receiver = i ∧ s.isBdtPeer p.source = true ∧
      Forwards codes p.frame origin npdu ∧ p.frame.length ≤ RecvContext.recvBufferLength
  other : encodeBipMac origin ≠ (c.state i).localMac
  hears : i ∈ net.hears i (c.state i).broadcast

/-- The device hands the packet to its network layer and sends itself the frame once more. -/
theorem Ready.step {i : ι} {origin : Endpoint} {npdu : Bytes}
    {c : Cascade.Config (ι → RecvContext) (Packet ι) (ι × ReceivedNpdu)}
    (h : Ready codes net i origin npdu c) : ∃ index d,
      Cascade.step (net.handle codes) c (index, 0) = some d ∧ Ready codes net i origin npdu d ∧
        d.log = c.log ++ [(i, ⟨npdu, encodeBipMac origin⟩)] := by
  obtain ⟨⟨s, hs, hself, p, hp, rfl, hpeer, hforwards, hfits⟩, hother, hhears⟩ := h
  obtain ⟨index, hindex⟩ := List.getElem?_of_mem hp
  have hreceive : (c.state p.receiver).receive codes 0 p.frame p.source =
      ({ c.state p.receiver with bbmd := some (s.purgeExpired 0) },
        { delivered := [⟨npdu, encodeBipMac origin⟩],
          sent := forwardNpdu codes npdu origin
            (((s.purgeExpired 0).fdt.filter fun e => e.device ≠ origin).map FdtEntry.device)
              (c.state p.receiver).broadcast }) := by
    rw [RecvContext.receive_encodeBvllForwarded codes hforwards hfits]
    unfold RecvContext.handleBvllMessage RecvContext.onForwarded
    dsimp only
    rw [if_neg hother, hs]
    dsimp only
    rw [if_neg (by simp [hpeer])]
  refine ⟨index, _, Cascade.step_eq_some.mpr ⟨p, hindex, rfl⟩, ?_, ?_⟩
  · unfold Network.handle
    dsimp only
    rw [hreceive]
    refine ⟨⟨s.purgeExpired 0, ?_, hself, ⟨p.receiver, net.address p.receiver, p.frame⟩, ?_, rfl,
      hself, hforwards, hfits⟩, ?_, ?_⟩
    · dsimp only
      rw [Function.update_self]
    · refine List.mem_append_right _ ((net.mem_send).mpr
        ⟨⟨(c.state p.receiver).broadcast, p.frame⟩, ?_, hhears, rfl, rfl⟩)
      exact (RecvContext.mem_forwardNpdu codes).mpr ⟨hforwards, .inr rfl⟩
    · dsimp only
      rw [Function.update_self]
      exact hother
    · dsimp only
      rw [Function.update_self]
      exact hhears
  · unfold Network.handle
    dsimp only
    rw [hreceive]
    rfl

/-- A management device that hears its own broadcasts takes a forwarded frame from itself without
end: for every number there is a run in which the packet reaches its network layer so often. -/
theorem storm {i : ι} {origin : Endpoint} {npdu : Bytes}
    {c : Cascade.Config (ι → RecvContext) (Packet ι) (ι × ReceivedNpdu)}
    (h : Ready codes net i origin npdu c) (count : ℕ) : ∃ is d,
      Transition.run (Cascade.step (net.handle codes)) c is = some d ∧
        d.log = c.log ++ List.replicate count (i, ⟨npdu, encodeBipMac origin⟩) := by
  induction count generalizing c with
  | zero => exact ⟨[], c, rfl, by simp⟩
  | succ count ih =>
    obtain ⟨index, d, hstep, hready, hlog⟩ := h.step
    obtain ⟨is, e, hrun, hrest⟩ := ih hready
    refine ⟨(index, 0) :: is, e, Transition.run_cons_eq_some.mpr ⟨d, hstep, hrun⟩, ?_⟩
    rw [hrest, hlog, List.append_assoc, List.replicate_succ]
    rfl

end Storm

/-- A management device that hears its own broadcasts. -/
def echoNetwork : Network Unit where
  address _ := ⟨⟨10, 0, 0, 1⟩, 47808⟩
  hears _ dest := if dest = ⟨⟨10, 0, 0, 255⟩, 47808⟩ then [()] else []

/-- The packet of a device, forwarded. -/
def echoFrame : Bytes := [0x81, 0x04, 0, 12, 10, 0, 3, 9, 0xba, 0xc0, 1, 0]

/-- The device has sent itself the frame. -/
def echoStart : Cascade.Config (Unit → RecvContext) (Packet Unit) (Unit × ReceivedNpdu) :=
  ⟨fun _ => ⟨[10, 0, 0, 1, 0xba, 0xc0],
      some ⟨[⟨⟨⟨10, 0, 0, 1⟩, 47808⟩, BbmdState.allOnes⟩], [], ⟨⟨10, 0, 0, 1⟩, 47808⟩, []⟩,
      ⟨⟨10, 0, 0, 255⟩, 47808⟩, none, false⟩,
    [⟨(), ⟨⟨10, 0, 0, 1⟩, 47808⟩, echoFrame⟩], []⟩

/-- It takes the same packet a thousand times. -/
theorem storm_echo : ∃ is d,
    Transition.run (Cascade.step (echoNetwork.handle standardCodes)) echoStart is = some d ∧
      d.log = List.replicate 1000
        ((), ⟨[1, 0], encodeBipMac ⟨⟨10, 0, 3, 9⟩, 47808⟩⟩) := by
  have hready : Ready standardCodes echoNetwork () ⟨⟨10, 0, 3, 9⟩, 47808⟩ [1, 0] echoStart :=
    ⟨⟨_, rfl, by decide, _, List.mem_singleton_self _, rfl, by decide, rfl, by decide⟩,
      by decide, by decide⟩
  exact storm standardCodes echoNetwork hready 1000

end BacnetTransport
