import Republisher.BipNetwork

/-!
# Broadcasts between networks with one management device each

Every network has one management device, and each of these has all of them in its distribution
table. A broadcast of another device reaches every device of the other networks exactly once,
whatever the order in which the datagrams arrive. On its own network it arrives twice, once from
the device itself and once from the management device, which alone hears it once.
-/

namespace BacnetTransport

open Wire

/-- Networks with one management device each. A broadcast is heard by the other devices of the
network and by no device outside, and a device hears what is sent to its address. -/
structure Mesh (ι κ : Type*) [DecidableEq ι] where
  address : ι → Endpoint
  subnet : ι → κ
  members : κ → List ι
  manager : κ → ι
  nets : List κ
  broadcast : κ → Endpoint
  address_inj : ∀ {i j}, address i = address j ↔ i = j
  address_ne : ∀ i k, address i ≠ broadcast k
  mem_members : ∀ {i k}, i ∈ members k ↔ subnet i = k
  members_nodup : ∀ k, (members k).Nodup
  subnet_manager : ∀ k, subnet (manager k) = k
  mem_nets : ∀ k, k ∈ nets
  nets_nodup : nets.Nodup
  room : nets.length ≤ BbmdState.maxBdtEntries

namespace Mesh

variable {ι κ : Type*} [DecidableEq ι] (mesh : Mesh ι κ)

/-- The other devices of a network. -/
def others (i : ι) : List ι := (mesh.members (mesh.subnet i)).filter fun j => j ≠ i

/-- All devices. -/
def devices : List ι := mesh.nets.flatMap mesh.members

/-- Who hears what. -/
def network : Network ι where
  address := mesh.address
  hears i dest :=
    if dest = mesh.broadcast (mesh.subnet i) then mesh.others i
    else mesh.devices.filter fun j => mesh.address j = dest

/-- The distribution table of every management device. -/
def table : List BdtEntry :=
  mesh.nets.map fun k => ⟨mesh.address (mesh.manager k), BbmdState.allOnes⟩

/-- A management device. -/
def state (i : ι) : BbmdState := ⟨mesh.table, [], mesh.address i, []⟩

/-- The devices. -/
def nodes (i : ι) : RecvContext where
  localMac := encodeBipMac (mesh.address i)
  bbmd := if i = mesh.manager (mesh.subnet i) then some (mesh.state i) else none
  broadcast := mesh.broadcast (mesh.subnet i)
  bvlcResponse := none
  bdtPersist := false

/-- Another device of the network. -/
theorem mem_others {i j : ι} :
    j ∈ mesh.others i ↔ mesh.subnet j = mesh.subnet i ∧ j ≠ i := by
  unfold others
  rw [List.mem_filter, mesh.mem_members, decide_eq_true_eq]

/-- No device is listed twice. -/
theorem devices_nodup : mesh.devices.Nodup := by
  unfold devices
  refine List.nodup_flatMap.mpr ⟨fun k _ => mesh.members_nodup k, ?_⟩
  refine mesh.nets_nodup.imp fun {k l} hne i hk hl => hne ?_
  rw [← mesh.mem_members.mp hk, ← mesh.mem_members.mp hl]

/-- Every device is listed. -/
theorem mem_devices (i : ι) : i ∈ mesh.devices :=
  List.mem_flatMap.mpr ⟨mesh.subnet i, mesh.mem_nets _, mesh.mem_members.mpr rfl⟩

/-- What is sent to an address is heard by the device that has it. -/
theorem hears_address (i j : ι) : mesh.network.hears i (mesh.address j) = [j] := by
  have hfilter : (mesh.devices.filter fun l => mesh.address l = mesh.address j) =
      mesh.devices.filter fun l => l = j :=
    List.filter_congr fun l _ => decide_eq_decide.mpr mesh.address_inj
  unfold network
  dsimp only
  rw [if_neg (mesh.address_ne j _), hfilter, List.filter_eq,
    List.count_eq_one_of_mem mesh.devices_nodup (mesh.mem_devices j), List.replicate_one]

/-- A broadcast is heard by the other devices of the network. -/
theorem hears_broadcast (i : ι) :
    mesh.network.hears i (mesh.broadcast (mesh.subnet i)) = mesh.others i := by
  unfold network
  exact if_pos rfl

/-- A peer that is addressed itself. -/
theorem directedBroadcast_allOnes (peer : Endpoint) :
    BbmdState.directedBroadcast ⟨peer, BbmdState.allOnes⟩ = peer := by
  have hones (b : UInt8) : b ||| ~~~(0xff : UInt8) = b := by
    have hzero : ~~~(0xff : UInt8) = 0 := by decide
    rw [hzero, UInt8.or_zero]
  unfold BbmdState.directedBroadcast BbmdState.allOnes
  simp only [hones]

/-- A management device as it stands in its network. -/
theorem nodes_manager (k : κ) : mesh.nodes (mesh.manager k) =
    ⟨encodeBipMac (mesh.address (mesh.manager k)), some (mesh.state (mesh.manager k)),
      mesh.broadcast k, none, false⟩ := by
  unfold nodes
  rw [mesh.subnet_manager, if_pos rfl]

/-- A management device has the others as its peers. -/
theorem isBdtPeer_state (i : ι) (k : κ) :
    (mesh.state i).isBdtPeer (mesh.address (mesh.manager k)) = true := by
  unfold BbmdState.isBdtPeer state table
  rw [List.any_map, List.any_eq_true]
  exact ⟨k, mesh.mem_nets k, by simp⟩

variable (codes : BvlcCodes) {now : ℕ} {origin : ι} {npdu frame : Bytes}

/-- The length of a forwarded frame. -/
theorem length_encodeBvllForwarded {origin : Endpoint}
    (h : encodeBvllForwarded codes origin npdu = .ok frame) :
    frame.length = bvllHeaderLength + forwardedAddrLength + npdu.length := by
  obtain ⟨-, rfl⟩ := (encodeBvllForwarded_eq_ok codes).mp h
  rw [List.cons_append, List.cons_append, List.length_cons, List.length_cons, List.length_append,
    length_origin_append, be_length, bvllHeaderLength]
  omega

/-- A device takes a broadcast of another device of its network. -/
theorem receive_original {i : ι} (hplain : ∀ k, i ≠ mesh.manager k) (hother : origin ≠ i)
    (hframe : encodeBvll codes .originalBroadcastNpdu npdu = .ok frame)
    (hfits : frame.length ≤ RecvContext.recvBufferLength) :
    (mesh.nodes i).receive codes now frame (mesh.address origin) =
      (mesh.nodes i, { delivered := [⟨npdu, encodeBipMac (mesh.address origin)⟩] }) := by
  have hmac : encodeBipMac (mesh.address origin) ≠ (mesh.nodes i).localMac := fun h =>
    hother (mesh.address_inj.mp (encodeBipMac_inj.mp h))
  have hnone : (mesh.nodes i).bbmd = none := if_neg (hplain _)
  rw [RecvContext.receive_encodeBvll codes (by simp) (by simp) hframe, if_pos hfits]
  unfold RecvContext.handleBvllMessage RecvContext.onOriginalBroadcast
  dsimp only
  rw [if_neg hmac, hnone]

/-- A device takes a forwarded broadcast unless it is its own. -/
theorem receive_forwarded {i : ι} (hplain : ∀ k, i ≠ mesh.manager k) {source : Endpoint}
    (hframe : encodeBvllForwarded codes (mesh.address origin) npdu = .ok frame)
    (hfits : frame.length ≤ RecvContext.recvBufferLength) :
    (mesh.nodes i).receive codes now frame source =
      (mesh.nodes i,
        if origin = i then {} else
          { delivered := [⟨npdu, encodeBipMac (mesh.address origin)⟩] }) := by
  have hnone : (mesh.nodes i).bbmd = none := if_neg (hplain _)
  have hmac : encodeBipMac (mesh.address origin) = (mesh.nodes i).localMac ↔ origin = i :=
    encodeBipMac_inj.trans mesh.address_inj
  rw [RecvContext.receive_encodeBvllForwarded codes hframe hfits]
  unfold RecvContext.handleBvllMessage RecvContext.onForwarded
  dsimp only
  by_cases hown : origin = i
  · rw [if_pos (hmac.mpr hown), if_pos hown]
  · rw [if_neg (mt hmac.mp hown), if_neg hown, hnone]

/-- A management device takes a broadcast that another one forwards, and spreads it on its own
network. -/
theorem receive_forwarded_manager {k l : κ} (horigin : ∀ k, origin ≠ mesh.manager k)
    (hframe : encodeBvllForwarded codes (mesh.address origin) npdu = .ok frame)
    (hfits : frame.length ≤ RecvContext.recvBufferLength) :
    (mesh.nodes (mesh.manager k)).receive codes now frame (mesh.address (mesh.manager l)) =
      (mesh.nodes (mesh.manager k),
        { delivered := [⟨npdu, encodeBipMac (mesh.address origin)⟩],
          sent := forwardNpdu codes npdu (mesh.address origin) [] (mesh.broadcast k) }) := by
  have hmac : encodeBipMac (mesh.address origin) ≠ encodeBipMac (mesh.address (mesh.manager k)) :=
    fun h => horigin k (mesh.address_inj.mp (encodeBipMac_inj.mp h))
  rw [RecvContext.receive_encodeBvllForwarded codes hframe hfits, mesh.nodes_manager]
  unfold RecvContext.handleBvllMessage RecvContext.onForwarded
  dsimp only
  rw [if_neg hmac, if_neg (by simp [mesh.isBdtPeer_state])]
  rfl

/-- A packet of the device as it reaches a network layer. -/
def copy (origin : ι) (npdu : Bytes) : ReceivedNpdu := ⟨npdu, encodeBipMac (mesh.address origin)⟩

/-- The datagrams that a broadcast of a device causes: its own, and those that the management
devices forward. -/
inductive Caused (origin : ι) (frame forwarded : Bytes) : Packet ι → Prop
  | own {i : ι} (hi : i ∈ mesh.others origin) :
      Caused origin frame forwarded ⟨i, mesh.address origin, frame⟩
  | forwarded (i : ι) (k : κ) :
      Caused origin frame forwarded ⟨i, mesh.address (mesh.manager k), forwarded⟩

/-- The datagrams of a management device that forwards a packet. -/
theorem send_forwardNpdu {forwarded : Bytes}
    (hforwarded : encodeBvllForwarded codes (mesh.address origin) npdu = .ok forwarded) (k : κ)
    (nets : List κ) :
    mesh.network.send (mesh.manager k) (forwardNpdu codes npdu (mesh.address origin)
        (nets.map fun l => mesh.address (mesh.manager l)) (mesh.broadcast k)) =
      (nets.map fun l => ⟨mesh.manager l, mesh.address (mesh.manager k), forwarded⟩) ++
        (mesh.others (mesh.manager k)).map fun i =>
          ⟨i, mesh.address (mesh.manager k), forwarded⟩ := by
  have hspread := mesh.hears_broadcast (mesh.manager k)
  rw [mesh.subnet_manager] at hspread
  unfold forwardNpdu sendTo Network.send
  rw [hforwarded]
  dsimp only
  rw [List.flatMap_append, List.map_map, List.flatMap_map, List.map_singleton,
    List.flatMap_singleton, hspread]
  congr 1
  simp only [Function.comp_apply, mesh.hears_address, List.map_singleton]
  exact List.flatMap_pure_eq_map _ _

/-- How often a packet reaches a device beyond its own network. -/
def reached (origin j : ι) : ℕ := if j = origin then 0 else 1

/-- A packet that a device gets. -/
theorem countP_delivered {i j : ι} (hi : i ≠ origin) :
    [(i, mesh.copy origin npdu)].countP (fun x => x = (j, mesh.copy origin npdu)) =
      if i = j then reached origin j else 0 := by
  unfold reached
  rw [List.countP_singleton]
  by_cases hij : i = j
  · subst hij
    simp [hi]
  · simp [hij]

/-- A device has broadcast a frame. -/
def start (origin : ι) (frame : Bytes) :
    Cascade.Config (ι → RecvContext) (Packet ι) (ι × ReceivedNpdu) :=
  ⟨mesh.nodes, mesh.network.send origin [⟨mesh.broadcast (mesh.subnet origin), frame⟩], []⟩

/-- What is in flight then. -/
theorem start_flight (origin : ι) (frame : Bytes) : (mesh.start origin frame).flight =
    (mesh.others origin).map fun i => ⟨i, mesh.address origin, frame⟩ := by
  unfold start Network.send
  rw [List.flatMap_singleton, mesh.hears_broadcast]
  rfl

variable [DecidableEq κ]

/-- Where a management device forwards a broadcast: to the management devices of the other
networks. -/
theorem forwardingTargets_state (now : ℕ) (horigin : ∀ k, origin ≠ mesh.manager k) (k : κ) :
    (mesh.state (mesh.manager k)).forwardingTargets now (mesh.address origin) =
      ((mesh.nets.filter fun l => l ≠ k).map fun l => mesh.address (mesh.manager l),
        mesh.state (mesh.manager k)) := by
  have hkept (l : κ) : (mesh.address (mesh.manager l) ≠ mesh.address (mesh.manager k) ∧
      mesh.address (mesh.manager l) ≠ mesh.address origin) ↔ l ≠ k := by
    have hmanager : mesh.manager l = mesh.manager k ↔ l = k := by
      constructor
      · intro h
        rw [← mesh.subnet_manager l, h, mesh.subnet_manager]
      · rintro rfl
        rfl
    have hother : mesh.manager l ≠ origin := fun h => horigin l h.symm
    simp only [ne_eq, mesh.address_inj, hmanager, hother, not_false_eq_true, and_true]
  unfold BbmdState.forwardingTargets state table BbmdState.purgeExpired
  simp only [List.filter_map, List.map_map, List.filter_nil, List.map_nil, List.append_nil]
  simp only [Function.comp_def, directedBroadcast_allOnes, hkept]

/-- A management device spreads a broadcast to those of the other networks and on its own
network. -/
theorem receive_original_manager {k : κ} (horigin : ∀ k, origin ≠ mesh.manager k)
    (hframe : encodeBvll codes .originalBroadcastNpdu npdu = .ok frame)
    (hfits : frame.length ≤ RecvContext.recvBufferLength) :
    (mesh.nodes (mesh.manager k)).receive codes now frame (mesh.address origin) =
      (mesh.nodes (mesh.manager k),
        { delivered := [⟨npdu, encodeBipMac (mesh.address origin)⟩],
          sent := forwardNpdu codes npdu (mesh.address origin)
            ((mesh.nets.filter fun l => l ≠ k).map fun l => mesh.address (mesh.manager l))
            (mesh.broadcast k) }) := by
  have hmac : encodeBipMac (mesh.address origin) ≠ encodeBipMac (mesh.address (mesh.manager k)) :=
    fun h => horigin k (mesh.address_inj.mp (encodeBipMac_inj.mp h))
  rw [RecvContext.receive_encodeBvll codes (by simp) (by simp) hframe, if_pos hfits,
    mesh.nodes_manager]
  unfold RecvContext.handleBvllMessage RecvContext.onOriginalBroadcast
  dsimp only
  rw [if_neg hmac, mesh.forwardingTargets_state now horigin k]

/-! ## One broadcast -/

/-- How often a device gets the packet from a datagram and from what that causes. -/
def value (origin j : ι) (frame : Bytes) (p : Packet ι) : ℕ :=
  if p.receiver = mesh.manager (mesh.subnet p.receiver) then
    if p.frame = frame ∨ mesh.subnet p.receiver = mesh.subnet j then reached origin j else 0
  else if p.receiver = j then reached origin j else 0

/-- What a management device spreads on its own network reaches each of its devices. -/
theorem sum_others (origin j : ι) (frame forwarded : Bytes) (k : κ) (source : Endpoint) :
    (if mesh.manager k = j then reached origin j else 0) +
        ((mesh.others (mesh.manager k)).map fun i =>
          mesh.value origin j frame ⟨i, source, forwarded⟩).sum =
      if k = mesh.subnet j then reached origin j else 0 := by
  have hplain : (mesh.others (mesh.manager k)).map (fun i =>
      mesh.value origin j frame ⟨i, source, forwarded⟩) =
        (mesh.others (mesh.manager k)).map fun i => if i = j then reached origin j else 0 := by
    refine List.map_congr_left fun i hi => ?_
    obtain ⟨hsubnet, hother⟩ := mesh.mem_others.mp hi
    rw [mesh.subnet_manager] at hsubnet
    unfold value
    dsimp only
    rw [if_neg (by rw [hsubnet]; exact hother)]
  have hnodup : (mesh.others (mesh.manager k)).Nodup := (mesh.members_nodup _).filter _
  rw [hplain, Cascade.sum_ite_eq hnodup]
  simp only [mesh.mem_others, mesh.subnet_manager]
  by_cases hj : mesh.manager k = j
  · subst hj
    simp [mesh.subnet_manager]
  · simp [hj, Ne.symm hj, eq_comm]

/-- A management device that takes a forwarded packet reaches its network. -/
theorem value_forwarded_manager {j : ι} {forwarded : Bytes} (hne : forwarded ≠ frame) (l : κ)
    (source : Endpoint) : mesh.value origin j frame ⟨mesh.manager l, source, forwarded⟩ =
      if l = mesh.subnet j then reached origin j else 0 := by
  unfold value
  simp [mesh.subnet_manager, hne]

variable {forwarded : Bytes}

/-- What a datagram does: no device changes, what it causes is caused by the broadcast, and the
packet reaches a device as often as the datagram is worth. -/
structure Spreads (origin : ι) (npdu frame forwarded : Bytes) (p : Packet ι)
    (r : (ι → RecvContext) × List (Packet ι) × List (ι × ReceivedNpdu)) : Prop where
  state : r.1 = mesh.nodes
  caused : ∀ q ∈ r.2.1, mesh.Caused origin frame forwarded q
  copies : ∀ x ∈ r.2.2, x.2 = mesh.copy origin npdu
  counted : ∀ j, r.2.2.countP (fun x => x = (j, mesh.copy origin npdu)) +
    (r.2.1.map (mesh.value origin j frame)).sum = mesh.value origin j frame p

/-- A datagram that ends at a device. -/
theorem spreads_plain {p : Packet ι} (hplain : ∀ k, p.receiver ≠ mesh.manager k)
    (hother : p.receiver ≠ origin) : mesh.Spreads origin npdu frame forwarded p
      (mesh.nodes, [], [(p.receiver, mesh.copy origin npdu)]) := by
  refine ⟨rfl, by simp, by simp, fun j => ?_⟩
  unfold value
  rw [if_neg (hplain _)]
  exact mesh.countP_delivered hother

/-- A datagram that a management device forwards to those of other networks and on its own. -/
theorem spreads_manager {k : κ} {nets : List κ} {source : Endpoint} {sent : Bytes}
    (horigin : ∀ k, origin ≠ mesh.manager k) (hnets : nets.Nodup) (hne : forwarded ≠ frame)
    (hk : k ∉ nets)
    (hall : ∀ j, mesh.value origin j frame ⟨mesh.manager k, source, sent⟩ =
      if mesh.subnet j = k ∨ mesh.subnet j ∈ nets then reached origin j else 0) :
    mesh.Spreads origin npdu frame forwarded ⟨mesh.manager k, source, sent⟩
      (mesh.nodes,
        (nets.map fun l => ⟨mesh.manager l, mesh.address (mesh.manager k), forwarded⟩) ++
          (mesh.others (mesh.manager k)).map fun i =>
            ⟨i, mesh.address (mesh.manager k), forwarded⟩,
        [(mesh.manager k, mesh.copy origin npdu)]) := by
  refine ⟨rfl, fun q hq => ?_, by simp, fun j => ?_⟩
  · rcases List.mem_append.mp hq with hq | hq <;>
      obtain ⟨x, -, rfl⟩ := List.mem_map.mp hq <;> exact .forwarded _ _
  · have hown := mesh.sum_others origin j frame forwarded k (mesh.address (mesh.manager k))
    have hfar : ((nets.map fun l => (⟨mesh.manager l, mesh.address (mesh.manager k), forwarded⟩ :
        Packet ι)).map (mesh.value origin j frame)).sum =
          if mesh.subnet j ∈ nets then reached origin j else 0 := by
      rw [List.map_map, ← Cascade.sum_ite_eq hnets]
      exact congrArg List.sum (List.map_congr_left fun l _ =>
        mesh.value_forwarded_manager hne l (mesh.address (mesh.manager k)))
    dsimp only
    rw [mesh.countP_delivered (Ne.symm (horigin k)), List.map_append, List.sum_append, hfar, hall,
      List.map_map, Function.comp_def]
    by_cases hj : mesh.subnet j = k
    · subst hj
      simp only [hk, if_false, true_or, if_true] at hown ⊢
      omega
    · simp only [hj, Ne.symm hj, false_or, if_false] at hown ⊢
      omega

/-- Every datagram that a broadcast causes does so. -/
theorem handle_caused (now : ℕ) (horigin : ∀ k, origin ≠ mesh.manager k)
    (hframe : encodeBvll codes .originalBroadcastNpdu npdu = .ok frame)
    (hforwarded : encodeBvllForwarded codes (mesh.address origin) npdu = .ok forwarded)
    (hfits : forwarded.length ≤ RecvContext.recvBufferLength) {p : Packet ι}
    (hp : mesh.Caused origin frame forwarded p) :
    mesh.Spreads origin npdu frame forwarded p
      (mesh.network.handle codes now mesh.nodes p) := by
  have hlength := RecvContext.length_encodeBvll codes hframe
  have hlength' := length_encodeBvllForwarded codes hforwarded
  have hlonger : frame.length < forwarded.length := by
    rw [hlength, hlength']
    unfold forwardedAddrLength
    omega
  have hne : forwarded ≠ frame := fun h => by
    rw [h] at hlonger
    exact Nat.lt_irrefl _ hlonger
  have hplain {i : ι} (h : i ≠ mesh.manager (mesh.subnet i)) (k : κ) : i ≠ mesh.manager k := by
    rintro rfl
    rw [mesh.subnet_manager] at h
    exact h rfl
  have hfiltered (k : κ) : k ∉ mesh.nets.filter fun l => l ≠ k := by simp
  unfold Network.handle
  dsimp only
  cases hp with
  | @own i hi =>
    obtain ⟨hsubnet, hother⟩ := mesh.mem_others.mp hi
    dsimp only
    by_cases hmanager : i = mesh.manager (mesh.subnet i)
    · generalize mesh.subnet i = k at hmanager
      subst hmanager
      rw [mesh.receive_original_manager codes horigin hframe (by omega), Function.update_eq_self,
        mesh.send_forwardNpdu codes hforwarded]
      refine mesh.spreads_manager horigin (mesh.nets_nodup.filter _) hne (hfiltered k) fun j => ?_
      have hall : mesh.subnet j = k ∨ mesh.subnet j ∈ mesh.nets.filter fun l => l ≠ k := by
        rw [List.mem_filter, decide_eq_true_eq]
        by_cases hj : mesh.subnet j = k
        · exact .inl hj
        · exact .inr ⟨mesh.mem_nets _, hj⟩
      unfold value
      rw [if_pos (by rw [mesh.subnet_manager]), if_pos (.inl rfl), if_pos hall]
    · rw [mesh.receive_original codes (hplain hmanager) (Ne.symm hother) hframe (by omega),
        Function.update_eq_self]
      exact mesh.spreads_plain (p := ⟨i, mesh.address origin, frame⟩) (hplain hmanager) hother
  | forwarded i k =>
    dsimp only
    by_cases hmanager : i = mesh.manager (mesh.subnet i)
    · generalize mesh.subnet i = l at hmanager
      subst hmanager
      rw [mesh.receive_forwarded_manager codes horigin hforwarded hfits, Function.update_eq_self]
      have hsent := mesh.send_forwardNpdu codes hforwarded l []
      rw [List.map_nil, List.map_nil, List.nil_append] at hsent
      rw [hsent]
      refine mesh.spreads_manager horigin List.nodup_nil hne List.not_mem_nil fun j => ?_
      rw [mesh.value_forwarded_manager hne]
      simp [eq_comm]
    · rw [mesh.receive_forwarded codes (hplain hmanager) hforwarded hfits, Function.update_eq_self]
      by_cases hown : origin = i
      · subst hown
        rw [if_pos rfl]
        refine ⟨rfl, by simp [Network.send], by simp, fun j => ?_⟩
        unfold value reached
        rw [if_neg hmanager]
        by_cases hj : origin = j
        · subst hj
          simp [Network.send]
        · simp [Network.send, hj]
      · rw [if_neg hown]
        exact mesh.spreads_plain (p := ⟨i, mesh.address (mesh.manager k), forwarded⟩)
          (hplain hmanager) (Ne.symm hown)

/-! ## Every run -/

/-- How often a packet that a device broadcasts reaches another one. -/
def deliveries (origin j : ι) : ℕ :=
  if j = origin then 0
  else if mesh.subnet j = mesh.subnet origin ∧ j ≠ mesh.manager (mesh.subnet j) then 2
  else 1

/-- What that is worth. -/
theorem value_start (frame : Bytes) (horigin : ∀ k, origin ≠ mesh.manager k) (j : ι) :
    ((mesh.start origin frame).flight.map (mesh.value origin j frame)).sum =
      mesh.deliveries origin j := by
  have hnodup : (mesh.others origin).Nodup := (mesh.members_nodup _).filter _
  have hsplit : (mesh.others origin).map (fun i =>
      mesh.value origin j frame ⟨i, mesh.address origin, frame⟩) =
        (mesh.others origin).map fun i =>
          (if i = mesh.manager (mesh.subnet origin) then reached origin j else 0) +
            if i = j then
              if j = mesh.manager (mesh.subnet origin) then 0 else reached origin j
            else 0 := by
    refine List.map_congr_left fun i hi => ?_
    unfold value
    dsimp only
    rw [(mesh.mem_others.mp hi).1]
    split_ifs <;> simp_all
  rw [mesh.start_flight, List.map_map, Function.comp_def, hsplit, List.sum_map_add,
    Cascade.sum_ite_eq hnodup, Cascade.sum_ite_eq hnodup]
  simp only [mesh.mem_others, mesh.subnet_manager]
  have hmanager : mesh.manager (mesh.subnet origin) ≠ origin := Ne.symm (horigin _)
  unfold deliveries reached
  by_cases hj : j = origin
  · simp [hj]
  · by_cases hsubnet : mesh.subnet j = mesh.subnet origin
    · by_cases hown : j = mesh.manager (mesh.subnet origin) <;>
        simp [hj, hsubnet, hown, hmanager, mesh.subnet_manager]
    · simp [hj, hsubnet, hmanager]

omit [DecidableEq κ] in
/-- No management device hears another one or itself. -/
theorem quiet : mesh.network.Quiet mesh.nodes := by
  intro i j s t dest hs ht hdest hj
  have hmanager {i : ι} {s : BbmdState} (h : (mesh.nodes i).bbmd = some s) :
      i = mesh.manager (mesh.subnet i) ∧ s = mesh.state i := by
    unfold nodes at h
    dsimp only at h
    split_ifs at h with hi
    exact ⟨hi, (Option.some.inj h).symm⟩
  obtain ⟨hi, rfl⟩ := hmanager hs
  obtain ⟨hj', -⟩ := hmanager ht
  rcases hdest with rfl | ⟨e, he, -⟩
  · have hothers := mesh.hears_broadcast i ▸ hj
    obtain ⟨hsubnet, hne⟩ := mesh.mem_others.mp hothers
    rw [hsubnet, ← hi] at hj'
    exact absurd hj' hne
  · cases he

omit [DecidableEq κ] in
/-- The tables of the management devices are small enough. -/
theorem roomy (i : ι) : Roomy (mesh.nodes i) := by
  intro s hs
  unfold nodes at hs
  dsimp only at hs
  split_ifs at hs
  obtain rfl := Option.some.inj hs
  have hroom := mesh.room
  unfold state table
  dsimp only
  rw [List.length_map]
  exact ⟨by omega, Nat.zero_le _⟩

omit [DecidableEq κ] in
/-- No datagram is heard by more devices than there are. -/
theorem length_hears_le (i : ι) (dest : Endpoint) :
    (mesh.network.hears i dest).length ≤ mesh.devices.length := by
  unfold network
  dsimp only
  split_ifs
  · have hsublist : mesh.others i ⊆ mesh.devices := fun j _ => mesh.mem_devices j
    exact (List.subperm_of_subset ((mesh.members_nodup _).filter _) hsublist).length_le
  · exact List.length_filter_le _ _

/-- However the datagrams of a broadcast are delivered, they come to rest, no device has the
packet more often than it should at any time, and every one has it exactly so often when the
network is at rest: once on the other networks. -/
theorem broadcast_delivered (horigin : ∀ k, origin ≠ mesh.manager k)
    (hframe : encodeBvll codes .originalBroadcastNpdu npdu = .ok frame)
    (hfits : bvllHeaderLength + forwardedAddrLength + npdu.length ≤ RecvContext.recvBufferLength)
    {is : List (ℕ × ℕ)} {c : Cascade.Config (ι → RecvContext) (Packet ι) (ι × ReceivedNpdu)}
    (hrun : Transition.run (Cascade.step (mesh.network.handle codes)) (mesh.start origin frame) is =
      some c) :
    (∃ js d, Transition.run (Cascade.step (mesh.network.handle codes)) c js = some d ∧
        d.flight = []) ∧
      ∀ j, c.log.countP (fun x => x = (j, mesh.copy origin npdu)) ≤ mesh.deliveries origin j ∧
        (c.flight = [] → c.log.countP (fun x => x = (j, mesh.copy origin npdu)) =
          mesh.deliveries origin j) := by
  obtain ⟨forwarded, hforwarded⟩ : ∃ forwarded,
      encodeBvllForwarded codes (mesh.address origin) npdu = .ok forwarded := by
    refine ⟨_, (encodeBvllForwarded_eq_ok codes).mpr ⟨?_, rfl⟩⟩
    unfold RecvContext.recvBufferLength at hfits
    unfold u16Max
    omega
  have hlength := length_encodeBvllForwarded codes hforwarded
  have hhandle (now : ℕ) (p : Packet ι) (hp : mesh.Caused origin frame forwarded p) :=
    mesh.handle_caused codes now horigin hframe hforwarded (by omega) hp
  have hsound (now : ℕ) (nodes : ι → RecvContext) (p : Packet ι) (hnodes : nodes = mesh.nodes)
      (hp : mesh.Caused origin frame forwarded p) :
      (mesh.network.handle codes now nodes p).1 = mesh.nodes ∧
        ∀ q ∈ (mesh.network.handle codes now nodes p).2.1,
          mesh.Caused origin frame forwarded q := by
    subst hnodes
    exact ⟨(hhandle now p hp).state, (hhandle now p hp).caused⟩
  have hstart : (mesh.start origin frame).state = mesh.nodes ∧
      ∀ p ∈ (mesh.start origin frame).flight, mesh.Caused origin frame forwarded p := by
    refine ⟨rfl, fun p hp => ?_⟩
    rw [mesh.start_flight] at hp
    obtain ⟨i, hi, rfl⟩ := List.mem_map.mp hp
    exact .own hi
  refine ⟨?_, fun j => ?_⟩
  · have hreached := Transition.run_invariant
      (fun c i d hc hd => Cascade.step_sound hsound hc hd) hstart hrun
    have hless (now : ℕ) (nodes : ι → RecvContext) (p : Packet ι) (hnodes : nodes = mesh.nodes)
        (_ : mesh.Caused origin frame forwarded p) :
        ((mesh.network.handle codes now nodes p).2.1.map
            (packetWeight codes mesh.devices.length mesh.nodes)).sum <
          packetWeight codes mesh.devices.length mesh.nodes p := by
      subst hnodes
      exact sum_send_lt codes mesh.network mesh.length_hears_le mesh.quiet mesh.roomy
        ⟨rfl, id, fun s hs => ⟨s, hs, rfl, List.Sublist.refl _⟩⟩
    exact Cascade.exists_rest 0 hsound hless hreached
  · have hcount := Cascade.countP_add_value_eq hsound (fun now nodes p hnodes hp => by
      subst hnodes
      exact (hhandle now p hp).counted j) hstart hrun
    have hvalue := mesh.value_start frame horigin j
    have hlog : (mesh.start origin frame).log.countP
        (fun x => x = (j, mesh.copy origin npdu)) = 0 := rfl
    rw [hlog, hvalue] at hcount
    refine ⟨by omega, fun hrest => ?_⟩
    rw [hrest] at hcount
    simpa using hcount

end Mesh

/-- Two networks with a management device and another one each. -/
def twoNetworks : Mesh (Bool × Bool) Bool where
  address i := ⟨⟨10, 0, if i.1 then 1 else 0, if i.2 then 1 else 2⟩, 47808⟩
  subnet i := i.1
  members k := [(k, true), (k, false)]
  manager k := (k, true)
  nets := [false, true]
  broadcast k := ⟨⟨10, 0, if k then 1 else 0, 255⟩, 47808⟩
  address_inj := by
    rintro ⟨a, b⟩ ⟨c, d⟩
    revert a b c d
    decide
  address_ne := by
    rintro ⟨a, b⟩ k
    revert a b k
    decide
  mem_members := by
    rintro ⟨a, b⟩ k
    revert a b k
    decide
  members_nodup := by decide
  subnet_manager := by decide
  mem_nets := by decide
  nets_nodup := by decide
  room := by decide

/-- A broadcast of the other device of one network comes to rest, and each device of the two has
it as often as it should. -/
theorem broadcast_delivered_two : ∃ is c,
    Transition.run (Cascade.step (twoNetworks.network.handle standardCodes))
      (twoNetworks.start (false, false) [0x81, 0x0b, 0, 6, 1, 0]) is = some c ∧ c.flight = [] ∧
    ∀ j, c.log.countP (fun x => x = (j, twoNetworks.copy (false, false) [1, 0])) =
      twoNetworks.deliveries (false, false) j := by
  have horigin (k : Bool) : (false, false) ≠ twoNetworks.manager k := by
    cases k <;> decide
  have hframe : encodeBvll standardCodes .originalBroadcastNpdu [1, 0] =
      .ok [0x81, 0x0b, 0, 6, 1, 0] := by decide
  have hfits : bvllHeaderLength + forwardedAddrLength + [(1 : UInt8), 0].length ≤
      RecvContext.recvBufferLength := by decide
  obtain ⟨is, c, hrun, hrest⟩ := (twoNetworks.broadcast_delivered standardCodes horigin hframe
    hfits (show Transition.run _ _ [] = some _ from rfl)).1
  exact ⟨is, c, hrun, hrest, fun j =>
    ((twoNetworks.broadcast_delivered standardCodes horigin hframe hfits hrun).2 j).2 hrest⟩

end BacnetTransport
