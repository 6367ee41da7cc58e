import Republisher.Bip6Frame
import Republisher.BipReceive
import Republisher.Overwrite
import Mathlib.Data.List.AList
import Mathlib.Data.List.GetD

/-!
# A device of BACnet/IPv6

A device remembers from which address it last heard each virtual address, answers the questions
for its own one, and hands packets to its network layer. A packet that came directly can be
answered, one that was forwarded cannot: its sender is named by a virtual address, and a packet
is only sent to an address of eighteen bytes.
-/

namespace BacnetTransport

open Wire

/-! ## Addresses -/

/-- The bytes of an address and a port. -/
def encodeBip6Mac (ip : Ipv6Addr) (port : UInt16) : Bytes := ip.octets ++ be port

/-- The address and the port of eighteen bytes. -/
def decodeBip6Mac (mac : Bytes) : Except Error (Ipv6Addr × UInt16) :=
  if h : mac.length = 18 then .ok (⟨mac.take 16, by simp [h]⟩, wordAt mac 16)
  else .error (.decoding 0 s!"BIP6 MAC must be 18 bytes, got {mac.length}")

/-- An address and a port take eighteen bytes. -/
@[simp] theorem length_encodeBip6Mac (ip : Ipv6Addr) (port : UInt16) :
    (encodeBip6Mac ip port).length = 18 := by
  rw [encodeBip6Mac, List.length_append, ip.length_octets, be_length]

/-- An address and a port are read from what they are written as, and only from that. -/
theorem decodeBip6Mac_eq_ok {mac : Bytes} {ip : Ipv6Addr} {port : UInt16} :
    decodeBip6Mac mac = .ok (ip, port) ↔ mac = encodeBip6Mac ip port := by
  have hport (octets : Bytes) (n : UInt16) (h : octets.length = 16) :
      wordAt (octets ++ be n) 16 = n := by
    unfold wordAt byteAt
    rw [List.getD_append_right _ _ _ _ (Nat.le_of_eq h),
      List.getD_append_right _ _ _ _ (by omega), h]
    exact word_high_low n
  unfold decodeBip6Mac
  by_cases hlength : mac.length = 18
  · rw [dif_pos hlength, Except.ok.injEq, Prod.mk.injEq]
    have hoctets : (mac.take 16).length = 16 := by
      rw [List.length_take]
      omega
    constructor
    · rintro ⟨rfl, rfl⟩
      obtain ⟨hi, lo, hrest⟩ := List.length_eq_two.mp (show (mac.drop 16).length = 2 by
        rw [List.length_drop]
        omega)
      have hmac : mac = mac.take 16 ++ be (word hi lo) := by
        rw [be, high_word, low_word, ← hrest, List.take_append_drop]
      have hword : wordAt mac 16 = word hi lo := by
        rw [hmac]
        exact hport _ _ hoctets
      rw [hword]
      exact hmac
    · rintro rfl
      obtain ⟨octets, h⟩ := ip
      refine ⟨?_, hport octets port h⟩
      rw [Ipv6Addr.mk.injEq]
      unfold encodeBip6Mac
      rw [← h, List.take_left]
  · rw [dif_neg hlength]
    simp only [reduceCtorEq, false_iff]
    rintro rfl
    exact hlength (length_encodeBip6Mac ip port)

/-- The group of a broadcast on the link, in the site or in the organization. -/
def multicastGroup (scope : UInt8) : Ipv6Addr :=
  ⟨[0xff, scope, 0, 0, 0, 0, 0, 0, 0, 0, 0, 0, 0, 0, 0xba, 0xc0], rfl⟩

/-- The group that hears what is sent on the link. -/
def bacnetIpv6MulticastLinkLocal : Ipv6Addr := multicastGroup 0x02

/-- The group that hears what is sent in the site. -/
def bacnetIpv6MulticastSiteLocal : Ipv6Addr := multicastGroup 0x05

/-- The group that hears what is sent in the organization. -/
def bacnetIpv6MulticastOrgLocal : Ipv6Addr := multicastGroup 0x08

/-- How far a broadcast goes. -/
inductive Bip6BroadcastScope
  | linkLocal
  | siteLocal
  | organizationLocal
  deriving DecidableEq, Repr

/-- The group that hears a broadcast. -/
def Bip6BroadcastScope.multicastAddr : Bip6BroadcastScope → Ipv6Addr
  | .linkLocal => bacnetIpv6MulticastLinkLocal
  | .siteLocal => bacnetIpv6MulticastSiteLocal
  | .organizationLocal => bacnetIpv6MulticastOrgLocal

/-- The management device that a foreign device registers with. -/
structure Bip6ForeignDeviceConfig where
  bbmdIp : Ipv6Addr
  bbmdPort : UInt16
  ttl : UInt16
  deriving DecidableEq

/-! ## The table of virtual addresses -/

/-- The address that each virtual address was last heard from. -/
abbrev VmacTable := AList fun _ : Bip6Vmac => SocketAddrV6

namespace VmacTable

/-- A virtual address is heard from an address. -/
def learn (table : VmacTable) (vmac : Bip6Vmac) (addr : SocketAddrV6) : VmacTable :=
  table.insert vmac addr

/-- A virtual address that was last heard from an address: the first one in the order in which
the table is gone through. -/
def lookupByAddr (order : List (Σ _ : Bip6Vmac, SocketAddrV6)) (addr : SocketAddrV6) :
    Option Bip6Vmac :=
  (order.find? fun e => e.2 = addr).map Sigma.fst

/-- What the table says of every virtual address. -/
def heard (table : VmacTable) : Bip6Vmac → Option SocketAddrV6 := fun vmac => table.lookup vmac

/-- A virtual address that is heard is the only one of which the table says something else. -/
theorem heard_learn (table : VmacTable) (vmac : Bip6Vmac) (addr : SocketAddrV6) :
    (table.learn vmac addr).heard = Overwrite.write table.heard (vmac, addr) := by
  unfold heard learn Overwrite.write
  funext v
  by_cases hv : v = vmac
  · subst hv
    rw [AList.lookup_insert, Function.update_self]
  · rw [AList.lookup_insert_ne hv, Function.update_of_ne hv]

/-- Whichever way the table is gone through, what is found was last heard from the address. -/
theorem lookupByAddr_cases {table : VmacTable} {order : List (Σ _ : Bip6Vmac, SocketAddrV6)}
    (horder : order.Perm table.entries) (addr : SocketAddrV6) :
    (lookupByAddr order addr = none ∧ ∀ vmac, table.heard vmac ≠ some addr) ∨
      ∃ vmac, lookupByAddr order addr = some vmac ∧ table.heard vmac = some addr := by
  unfold lookupByAddr
  cases hfind : order.find? fun e => e.2 = addr with
  | none =>
    refine .inl ⟨rfl, fun vmac hvmac => ?_⟩
    have hmem := horder.mem_iff.mpr (AList.mem_lookup_iff.mp hvmac)
    simpa using List.find?_eq_none.mp hfind _ hmem
  | some e =>
    obtain ⟨vmac, found⟩ := e
    have hfound : found = addr := by simpa using List.find?_some hfind
    subst hfound
    have hmem := horder.mem_iff.mp (List.mem_of_find?_eq_some hfind)
    exact .inr ⟨vmac, rfl, AList.mem_lookup_iff.mpr hmem⟩

end VmacTable

/-! ## The device -/

/-- A device. -/
structure Bip6Transport where
  port : UInt16
  localMac : Bytes
  sourceVmac : Bip6Vmac
  /-- It has a socket. -/
  started : Bool
  vmacTable : VmacTable
  broadcastScope : Bip6BroadcastScope
  foreignDevice : Option Bip6ForeignDeviceConfig

/-- A datagram that is sent, and where to. -/
structure Sent6 where
  dest : SocketAddrV6
  frame : Bytes
  deriving DecidableEq

/-- What is done with a frame. -/
structure Effects6 where
  delivered : List ReceivedNpdu := []
  sent : List Sent6 := []
  deriving DecidableEq

/-- A datagram that arrives, and where it comes from. -/
structure Arrival6 where
  data : Bytes
  addr : SocketAddrV6

namespace Bip6Transport

/-- The bytes that one datagram is read from. -/
def recvBufferLength : ℕ := 2048

/-- The table after a frame: every sender but the one without an address is remembered. -/
def learnFrom (t : Bip6Transport) (frame : Bvlc6Frame) (addr : SocketAddrV6) : Bip6Transport :=
  if frame.sourceVmac ≠ .zero then
    { t with vmacTable := t.vmacTable.learn frame.sourceVmac addr }
  else t

/-- What is done with a frame. -/
def onFrame (t : Bip6Transport) (frame : Bvlc6Frame) (addr : SocketAddrV6) : Effects6 :=
  match frame.function with
  | .originalUnicast | .originalBroadcast =>
      let sourceMac := encodeBip6Mac addr.ip addr.port
      if sourceMac = t.localMac then {} else { delivered := [⟨frame.payload, sourceMac⟩] }
  | .forwardedNpdu =>
      match decodeForwardedNpduPayload frame.payload with
      | .ok (originatingVmac, _, npdu) =>
          if npdu.isEmpty then {} else { delivered := [⟨npdu, originatingVmac.bytes⟩] }
      | .error _ => {}
  | .virtualAddressResolution =>
      if frame.sourceVmac = t.sourceVmac then
        { sent := [⟨addr, encodeVirtualAddressResolutionAck t.sourceVmac frame.sourceVmac⟩] }
      else {}
  | .addressResolution =>
      match frame.destinationVmac with
      | some target =>
          if target = t.sourceVmac then
            { sent := [⟨addr, encodeAddressResolutionAck t.sourceVmac frame.sourceVmac⟩] }
          else {}
      | none => {}
  -- the other functions only leave a line in the log
  | _ => {}

/-- A datagram arrives. -/
def receive (t : Bip6Transport) (data : Bytes) (addr : SocketAddrV6) : Bip6Transport × Effects6 :=
  match decodeBvlc6 (data.take recvBufferLength) with
  | .error _ => (t, {})
  | .ok frame => (t.learnFrom frame addr, t.onFrame frame addr)

/-- The device after datagrams. -/
def afterFrames (t : Bip6Transport) (arrivals : List Arrival6) : Bip6Transport :=
  arrivals.foldl (fun t a => (t.receive a.data a.addr).1) t

/-- What is sent, unless the socket refuses it. -/
def sendTo (socket : Sent6 → Except Error Unit) (sent : Sent6) : Except Error Sent6 :=
  match socket sent with
  | .error e => .error e
  | .ok () => .ok sent

/-- Sends a packet to one device. The table is gone through in the given order. -/
def sendUnicast (t : Bip6Transport) (socket : Sent6 → Except Error Unit)
    (order : List (Σ _ : Bip6Vmac, SocketAddrV6)) (npdu mac : Bytes) : Except Error Sent6 :=
  if !t.started then .error (.transport "Transport not started")
  else
    match decodeBip6Mac mac with
    | .error e => .error e
    | .ok (ip, port) =>
        let dest : SocketAddrV6 := ⟨ip, port, 0, 0⟩
        let destVmac := (VmacTable.lookupByAddr order dest).getD .zero
        match encodeBvlc6OriginalUnicast t.sourceVmac destVmac npdu with
        | .error e => .error e
        | .ok frame => sendTo socket ⟨dest, frame⟩

/-- Sends a packet to all devices, for a foreign device through its management device. -/
def sendBroadcast (t : Bip6Transport) (socket : Sent6 → Except Error Unit) (npdu : Bytes) :
    Except Error Sent6 :=
  if !t.started then .error (.transport "Transport not started")
  else
    match t.foreignDevice with
    | some config =>
        match encodeBvlc6 .distributeBroadcastToNetwork t.sourceVmac npdu with
        | .error e => .error e
        | .ok frame => sendTo socket ⟨⟨config.bbmdIp, config.bbmdPort, 0, 0⟩, frame⟩
    | none =>
        match encodeBvlc6OriginalBroadcast t.sourceVmac npdu with
        | .error e => .error e
        | .ok frame => sendTo socket ⟨⟨t.broadcastScope.multicastAddr, t.port, 0, 0⟩, frame⟩

/-! ## Whom a device remembers -/

/-- The sender that a datagram names, with the address that it comes from. -/
def senderIn (a : Arrival6) : Option (Bip6Vmac × SocketAddrV6) :=
  match decodeBvlc6 (a.data.take recvBufferLength) with
  | .ok frame => if frame.sourceVmac ≠ .zero then some (frame.sourceVmac, a.addr) else none
  | .error _ => none

/-- No datagram names the sender that has no address. -/
theorem senderIn_ne_zero {a : Arrival6} {e : Bip6Vmac × SocketAddrV6} (h : senderIn a = some e) :
    e.1 ≠ .zero := by
  unfold senderIn at h
  split at h
  · split_ifs at h with hzero
    exact Option.some.inj h ▸ hzero
  · cases h

/-- A datagram changes nothing but what is remembered of its sender. -/
theorem receive_eq (t : Bip6Transport) (a : Arrival6) :
    ∃ table : VmacTable, (t.receive a.data a.addr).1 = { t with vmacTable := table } ∧
      table.heard = Overwrite.replay t.vmacTable.heard (senderIn a).toList := by
  unfold receive senderIn
  cases decodeBvlc6 (a.data.take recvBufferLength) with
  | error e => exact ⟨t.vmacTable, rfl, rfl⟩
  | ok frame =>
    dsimp only
    unfold learnFrom
    split_ifs with hzero
    · exact ⟨t.vmacTable.learn frame.sourceVmac a.addr, rfl, VmacTable.heard_learn ..⟩
    · exact ⟨t.vmacTable, rfl, rfl⟩

/-- Datagrams change nothing but what is remembered of their senders. -/
theorem afterFrames_eq (t : Bip6Transport) (arrivals : List Arrival6) :
    ∃ table : VmacTable, t.afterFrames arrivals = { t with vmacTable := table } ∧
      table.heard = Overwrite.replay t.vmacTable.heard (arrivals.filterMap senderIn) := by
  induction arrivals generalizing t with
  | nil => exact ⟨t.vmacTable, rfl, rfl⟩
  | cons a rest ih =>
    obtain ⟨table, hnext, htable⟩ := t.receive_eq a
    obtain ⟨later, hlater, hheard⟩ := ih { t with vmacTable := table }
    refine ⟨later, ?_, ?_⟩
    · unfold afterFrames
      rw [List.foldl_cons, hnext]
      exact hlater
    · rw [hheard]
      dsimp only
      rw [htable]
      unfold Overwrite.replay
      rw [← List.foldl_append]
      cases hsender : senderIn a with
      | none => rw [List.filterMap_cons_none hsender]; rfl
      | some e => rw [List.filterMap_cons_some hsender]; rfl

/-- What the socket has not refused is sent. -/
theorem sendTo_eq_ok {socket : Sent6 → Except Error Unit} {first sent : Sent6} :
    sendTo socket first = .ok sent ↔ sent = first ∧ socket first = .ok () := by
  unfold sendTo
  cases socket first with
  | error e => simp
  | ok => simp [eq_comm]

/-- What is sent to one device. -/
theorem sendUnicast_eq_ok {t : Bip6Transport} {socket : Sent6 → Except Error Unit}
    {order : List (Σ _ : Bip6Vmac, SocketAddrV6)} {npdu mac : Bytes} {sent : Sent6} :
    t.sendUnicast socket order npdu mac = .ok sent ↔
      t.started = true ∧ bvlc6UnicastHeaderLength + npdu.length ≤ u16Max ∧ socket sent = .ok () ∧
        ∃ ip port, mac = encodeBip6Mac ip port ∧ sent = ⟨⟨ip, port, 0, 0⟩,
          addressedFrame .originalUnicast t.sourceVmac
            ((VmacTable.lookupByAddr order ⟨ip, port, 0, 0⟩).getD .zero) npdu⟩ := by
  unfold sendUnicast
  cases hstarted : t.started with
  | false =>
    rw [if_pos (by simp)]
    simp
  | true =>
    rw [if_neg (by simp), and_iff_right rfl]
    cases hmac : decodeBip6Mac mac with
    | error e =>
      simp only [reduceCtorEq, false_iff]
      rintro ⟨-, -, ip, port, hfound, -⟩
      rw [decodeBip6Mac_eq_ok.mpr hfound] at hmac
      cases hmac
    | ok found =>
      obtain ⟨ip, port⟩ := found
      have hwritten := decodeBip6Mac_eq_ok.mp hmac
      dsimp only
      unfold encodeBvlc6OriginalUnicast
      by_cases hlong : bvlc6UnicastHeaderLength + npdu.length > u16Max
      · rw [if_pos hlong]
        simp only [reduceCtorEq, false_iff]
        omega
      · rw [if_neg hlong, and_iff_right (Nat.le_of_not_lt hlong)]
        dsimp only
        rw [sendTo_eq_ok]
        constructor
        · rintro ⟨rfl, hsocket⟩
          exact ⟨hsocket, ip, port, hwritten, rfl⟩
        · rintro ⟨hsocket, ip', port', hmac', rfl⟩
          have hsame := hmac.symm.trans (decodeBip6Mac_eq_ok.mpr hmac')
          obtain ⟨rfl, rfl⟩ := Prod.mk.inj (Except.ok.inj hsame)
          exact ⟨rfl, hsocket⟩

/-- After any datagrams a packet for one device names the virtual address that was last heard
from its address, whichever of several there are, or none when none was. -/
theorem unicast_names_last_heard {t : Bip6Transport} (hempty : t.vmacTable = ∅)
    (arrivals : List Arrival6) {socket : Sent6 → Except Error Unit}
    {order : List (Σ _ : Bip6Vmac, SocketAddrV6)}
    (horder : order.Perm (t.afterFrames arrivals).vmacTable.entries) {npdu mac : Bytes}
    {sent : Sent6} (hsend : (t.afterFrames arrivals).sendUnicast socket order npdu mac = .ok sent) :
    ∃ vmac, decodeBvlc6 sent.frame = .ok ⟨.originalUnicast, t.sourceVmac, some vmac, npdu⟩ ∧
      mac = encodeBip6Mac sent.dest.ip sent.dest.port ∧
        ((vmac = .zero ∧ ∀ v, ¬ Overwrite.Last (arrivals.filterMap senderIn) v sent.dest) ∨
          (vmac ≠ .zero ∧ Overwrite.Last (arrivals.filterMap senderIn) vmac sent.dest)) := by
  obtain ⟨table, hafter, hheard⟩ := t.afterFrames_eq arrivals
  rw [hafter] at horder hsend
  obtain ⟨-, hfits, -, ip, port, hmac, rfl⟩ := sendUnicast_eq_ok.mp hsend
  have hread := decodeBvlc6_addressedFrame .originalUnicast t.sourceVmac
    ((VmacTable.lookupByAddr order ⟨ip, port, 0, 0⟩).getD .zero) rfl rfl hfits []
  rw [List.append_nil] at hread
  refine ⟨_, hread, hmac, ?_⟩
  have hlast (v : Bip6Vmac) : table.heard v = some ⟨ip, port, 0, 0⟩ ↔
      Overwrite.Last (arrivals.filterMap senderIn) v ⟨ip, port, 0, 0⟩ := by
    rw [hheard, hempty]
    exact Overwrite.replay_eq_some_iff
  rcases VmacTable.lookupByAddr_cases horder ⟨ip, port, 0, 0⟩ with ⟨hnone, hother⟩ | ⟨v, hsome, hv⟩
  · rw [hnone]
    exact .inl ⟨rfl, fun v hv => hother v ((hlast v).mpr hv)⟩
  · rw [hsome]
    obtain ⟨before, after, hevents, hafter⟩ := (hlast v).mp hv
    have hmem : (v, ⟨ip, port, 0, 0⟩) ∈ arrivals.filterMap senderIn := by
      rw [hevents]
      exact List.mem_append_right _ List.mem_cons_self
    obtain ⟨a, -, ha⟩ := List.mem_filterMap.mp hmem
    exact .inr ⟨senderIn_ne_zero ha, before, after, hevents, hafter⟩

/-- The address of a device on one network. -/
def bip6Address (host : UInt8) : SocketAddrV6 :=
  ⟨⟨[0xfd, 0, 0, 0, 0, 0, 0, 0, 0, 0, 0, 0, 0, 0, 0, host], rfl⟩, 0xbac0, 0, 0⟩

/-- A device there that has heard nothing. -/
def bip6Device (host : UInt8) : Bip6Transport :=
  ⟨0xbac0, encodeBip6Mac (bip6Address host).ip (bip6Address host).port, ⟨0, 0, host⟩, true, ∅,
    .siteLocal, none⟩

/-- A socket that sends everything. -/
def openSocket : Sent6 → Except Error Unit := fun _ => .ok ()

/-- A question of the second device. -/
def secondAsks : Arrival6 := ⟨encodeVirtualAddressResolution ⟨0, 0, 2⟩, bip6Address 2⟩

/-- A device that has heard the second one names it in what it sends there. -/
theorem unicast_names_second : ∃ sent,
    ((bip6Device 1).afterFrames [secondAsks]).sendUnicast openSocket
        ((bip6Device 1).afterFrames [secondAsks]).vmacTable.entries [1, 0] (bip6Device 2).localMac =
      .ok sent ∧
    ∃ vmac, decodeBvlc6 sent.frame = .ok ⟨.originalUnicast, ⟨0, 0, 1⟩, some vmac, [1, 0]⟩ ∧
      vmac ≠ .zero := by
  obtain ⟨sent, hsend, hdest⟩ : ∃ sent,
      ((bip6Device 1).afterFrames [secondAsks]).sendUnicast openSocket
          ((bip6Device 1).afterFrames [secondAsks]).vmacTable.entries [1, 0]
          (bip6Device 2).localMac = .ok sent ∧ sent.dest = bip6Address 2 :=
    ⟨_, sendUnicast_eq_ok.mpr ⟨by decide, by decide, rfl, _, _, rfl, rfl⟩, rfl⟩
  obtain ⟨vmac, hread, -, ⟨-, hnone⟩ | ⟨hzero, -⟩⟩ :=
    unicast_names_last_heard rfl [secondAsks] (.refl _) hsend
  · have hevents : [secondAsks].filterMap senderIn = [(⟨0, 0, 2⟩, bip6Address 2)] := by decide
    exact absurd ⟨[], [], hdest ▸ hevents, by simp⟩ (hnone ⟨0, 0, 2⟩)
  · exact ⟨sent, hsend, vmac, hread, hzero⟩

/-! ## Which packets can be answered -/

/-- A packet that was forwarded. -/
def Forwarded (data : Bytes) : Prop :=
  ∃ frame, decodeBvlc6 (data.take recvBufferLength) = .ok frame ∧ frame.function = .forwardedNpdu

/-- The sender of a packet is a virtual address when the packet was forwarded, and otherwise the
address that it came from. -/
theorem delivered_cases {t : Bip6Transport} {data : Bytes} {addr : SocketAddrV6}
    {received : ReceivedNpdu} (h : received ∈ (t.receive data addr).2.delivered) :
    (Forwarded data ∧ ∃ vmac : Bip6Vmac, received.sourceMac = vmac.bytes) ∨
      (¬ Forwarded data ∧ received.sourceMac = encodeBip6Mac addr.ip addr.port ∧
        received.sourceMac ≠ t.localMac) := by
  unfold receive at h
  cases hread : decodeBvlc6 (data.take recvBufferLength) with
  | error e =>
    rw [hread] at h
    cases h
  | ok frame =>
    rw [hread] at h
    dsimp only at h
    have hforwarded : Forwarded data ↔ frame.function = .forwardedNpdu := by
      unfold Forwarded
      rw [hread]
      exact ⟨fun ⟨f, hf, hfunction⟩ => Except.ok.inj hf ▸ hfunction, fun hf => ⟨frame, rfl, hf⟩⟩
    rw [hforwarded]
    unfold onFrame at h
    split at h
    case h_1 hfunction | h_2 hfunction =>
      dsimp only at h
      split_ifs at h with hown
      · cases h
      · obtain rfl := List.mem_singleton.mp h
        exact .inr ⟨by simp [hfunction], rfl, hown⟩
    case h_3 hfunction =>
      split at h
      · split_ifs at h
        · cases h
        · obtain rfl := List.mem_singleton.mp h
          exact .inl ⟨hfunction, _, rfl⟩
      · cases h
    case h_4 => split_ifs at h <;> cases h
    case h_5 =>
      split at h
      · split_ifs at h <;> cases h
      · cases h
    case h_6 => cases h

/-- A packet for one device is handed to the network layer of whoever gets it, unless it comes
from that device itself. -/
theorem receive_originalUnicast (t : Bip6Transport) (source dest : Bip6Vmac) {npdu : Bytes}
    (hfits : bvlc6UnicastHeaderLength + npdu.length ≤ recvBufferLength) {addr : SocketAddrV6}
    (hother : encodeBip6Mac addr.ip addr.port ≠ t.localMac) :
    (t.receive (addressedFrame .originalUnicast source dest npdu) addr).2.delivered =
      [⟨npdu, encodeBip6Mac addr.ip addr.port⟩] := by
  have hwhole : (addressedFrame .originalUnicast source dest npdu).length ≤ recvBufferLength := by
    simpa [addressedFrame, Bip6Vmac.bytes, bvlc6UnicastHeaderLength, Nat.add_comm,
      Nat.add_left_comm] using hfits
  have hshort : bvlc6UnicastHeaderLength + npdu.length ≤ u16Max := by
    unfold recvBufferLength at hfits
    unfold u16Max
    omega
  have hread := decodeBvlc6_addressedFrame .originalUnicast source dest rfl rfl hshort []
  rw [List.append_nil] at hread
  unfold receive
  rw [List.take_of_length_le hwhole, hread]
  unfold onFrame
  dsimp only
  rw [if_neg hother]

/-- A packet that came directly can be answered at any later time, if the socket sends to the
address that it came from and that names neither a flow nor a scope: the answer goes to that
address, and the device that has it hands it to its network layer. No answer can be sent to a
packet that was forwarded. -/
theorem answer_reaches_sender {t : Bip6Transport} {data : Bytes} {addr self : SocketAddrV6}
    {received : ReceivedNpdu} (hreceived : received ∈ (t.receive data addr).2.delivered)
    (hstarted : t.started = true) (hself : t.localMac = encodeBip6Mac self.ip self.port)
    (socket : Sent6 → Except Error Unit) (rest : List Arrival6)
    (order : List (Σ _ : Bip6Vmac, SocketAddrV6)) (answer : Bytes) :
    let sending := (t.afterFrames (⟨data, addr⟩ :: rest)).sendUnicast socket order answer
      received.sourceMac
    (Forwarded data → sending = .error (.decoding 0 "BIP6 MAC must be 18 bytes, got 3")) ∧
      (¬ Forwarded data → addr.flowinfo = 0 ∧ addr.scopeId = 0 →
        (∀ sent, sent.dest = addr → socket sent = .ok ()) →
        bvlc6UnicastHeaderLength + answer.length ≤ recvBufferLength →
        ∃ sent, sending = .ok sent ∧ sent.dest = addr ∧
          ∀ peer : Bip6Transport, peer.localMac = encodeBip6Mac sent.dest.ip sent.dest.port →
            (peer.receive sent.frame self).2.delivered = [⟨answer, t.localMac⟩]) := by
  obtain ⟨table, hafter, -⟩ := t.afterFrames_eq (⟨data, addr⟩ :: rest)
  dsimp only
  rw [hafter]
  rcases delivered_cases hreceived with ⟨hforwarded, vmac, hmac⟩ | ⟨hdirect, hmac, hother⟩
  · refine ⟨fun _ => ?_, fun hdirect => absurd hforwarded hdirect⟩
    have hshort : decodeBip6Mac vmac.bytes =
        .error (.decoding 0 "BIP6 MAC must be 18 bytes, got 3") := by
      unfold decodeBip6Mac
      rw [dif_neg (by simp [Bip6Vmac.bytes]), show vmac.bytes.length = 3 from rfl]
      decide
    unfold sendUnicast
    rw [hmac, hshort, if_neg (by simp [hstarted])]
  · refine ⟨fun hforwarded => absurd hforwarded hdirect, fun _ hplain hsocket hfits => ?_⟩
    have hdest : (⟨addr.ip, addr.port, 0, 0⟩ : SocketAddrV6) = addr := by
      obtain ⟨ip, port, flowinfo, scopeId⟩ := addr
      obtain ⟨rfl, rfl⟩ := hplain
      rfl
    refine ⟨_, sendUnicast_eq_ok.mpr
      ⟨hstarted, ?_, hsocket _ hdest, addr.ip, addr.port, hmac, rfl⟩, hdest, fun peer hpeer => ?_⟩
    · unfold recvBufferLength at hfits
      unfold u16Max
      omega
    · have hdistinct : encodeBip6Mac self.ip self.port ≠ peer.localMac := by
        rw [hpeer, ← hself, ← hmac]
        exact hother.symm
      rw [hself]
      exact receive_originalUnicast peer _ _ hfits hdistinct

/-- A packet of the second device. -/
def secondSends : Bytes := addressedFrame .originalUnicast ⟨0, 0, 2⟩ .zero [1, 0]

/-- It did not come by a management device. -/
theorem not_forwarded_second : ¬ Forwarded secondSends := by
  rintro ⟨frame, hframe, hfunction⟩
  have hread : decodeBvlc6 (secondSends.take recvBufferLength) =
      .ok ⟨.originalUnicast, ⟨0, 0, 2⟩, some .zero, [1, 0]⟩ := by decide
  obtain rfl := Except.ok.inj (hread.symm.trans hframe)
  cases hfunction

/-- Its answer reaches the second device. -/
theorem answer_reaches_second : ∃ sent,
    ((bip6Device 1).afterFrames [⟨secondSends, bip6Address 2⟩]).sendUnicast openSocket [] [1, 4]
        (bip6Device 2).localMac = .ok sent ∧
      ((bip6Device 2).receive sent.frame (bip6Address 1)).2.delivered =
        [⟨[1, 4], (bip6Device 1).localMac⟩] := by
  have hreceived : (⟨[1, 0], (bip6Device 2).localMac⟩ : ReceivedNpdu) ∈
      ((bip6Device 1).receive secondSends (bip6Address 2)).2.delivered := by decide
  have hself : (bip6Device 1).localMac = encodeBip6Mac (bip6Address 1).ip (bip6Address 1).port :=
    rfl
  obtain ⟨sent, hsent, hdest, hdelivered⟩ :=
    (answer_reaches_sender hreceived rfl hself openSocket [] [] [1, 4]).2 not_forwarded_second
      ⟨rfl, rfl⟩ (fun _ _ => rfl) (by decide)
  refine ⟨sent, hsent, hdelivered (bip6Device 2) ?_⟩
  rw [hdest]
  rfl

end Bip6Transport

end BacnetTransport
