import Republisher.Bip6Port
import Republisher.Transition
import Mathlib.Data.UInt
import Mathlib.Data.Fintype.Basic

/-!
# Claiming a virtual address

A device that starts asks the others on its link whether one of them has its virtual address, and
takes another one at random when it is answered within its deadline, three times at most. When
every question and answer arrives in time, no device runs out of attempts and no two devices ask
for the same address at once, then the devices on the link have different virtual addresses.
Devices that ask for the same address at once do not answer each other, and both keep it.
-/

namespace BacnetTransport

open Wire

/-! ## Deriving an address -/

/-- The virtual address of a device instance: its lower 22 bits. -/
def deriveVmacFromDeviceInstance (deviceInstance : UInt32) : Bip6Vmac :=
  let masked := deviceInstance &&& 0x3fffff
  ⟨(masked >>> 16).toUInt8, (masked >>> 8).toUInt8, masked.toUInt8⟩

/-- The virtual address of an address and a port: their bytes folded to three. -/
def deriveVmacFromAddr (addr : SocketAddrV6) : Bip6Vmac :=
  (addr.ip.octets ++ be addr.port).zipIdx.foldl (fun vmac e =>
    match e.2 % 3 with
    | 0 => { vmac with a := vmac.a ^^^ e.1 }
    | 1 => { vmac with b := vmac.b ^^^ e.1 }
    | _ => { vmac with c := vmac.c ^^^ e.1 }) .zero

/-- How often a device takes another address. -/
def maxVmacRetries : ℕ := 3

/-- The bytes that one datagram is read from while a device asks. -/
def checkBufferLength : ℕ := 64

/-- The datagram is an answer of a device that has the virtual address. -/
def collides (vmac : Bip6Vmac) (data : Bytes) : Bool :=
  match decodeBvlc6 (data.take checkBufferLength) with
  | .ok frame => frame.function = .virtualAddressResolutionAck ∧ frame.sourceVmac = vmac
  | .error _ => false

/-! ## The devices on a link -/

variable {ι : Type*}

/-- A datagram on its way to a device. -/
structure Packet6 (ι : Type*) where
  receiver : ι
  source : SocketAddrV6
  frame : Bytes
  deriving DecidableEq

/-- The devices on a link. Each of them hears what another one sends to the group or to its
address. -/
structure Link (ι : Type*) where
  address : ι → SocketAddrV6
  /-- The device as it is configured. -/
  configured : ι → Bip6Transport
  deviceInstance : ι → Option UInt32
  /-- The interface that a device sends to the group on. -/
  interface : ι → UInt32
  hears : ι → SocketAddrV6 → List ι
  group_heard : ∀ {i j}, i ≠ j →
    j ∈ hears i ⟨bacnetIpv6MulticastLinkLocal, (address i).port, 0, interface i⟩
  address_heard : ∀ i j, i ∈ hears j (address i)

/-- What a device does. -/
inductive Node
  | off
  | checking (attempt : ℕ) (vmac : Bip6Vmac)
  | running (t : Bip6Transport)

/-- The devices and the datagrams in flight. -/
structure Claims (ι : Type*) where
  nodes : ι → Node
  flight : List (Packet6 ι)

/-- What happens next. -/
inductive Happening (ι : Type*)
  | start (i : ι)
  /-- A datagram arrives. The address is the one that the receiver takes when it takes another. -/
  | deliver (index : ℕ) (random : Bip6Vmac)
  | deadline (i : ι)
  deriving DecidableEq

namespace Link

variable (link : Link ι)

/-- The virtual address that a device asks for first. -/
def derived (i : ι) : Bip6Vmac :=
  match link.deviceInstance i with
  | some id => deriveVmacFromDeviceInstance id
  | none => deriveVmacFromAddr (link.address i)

/-- The datagrams that a device puts on the link. -/
def send (i : ι) (sent : List Sent6) : List (Packet6 ι) :=
  sent.flatMap fun x =>
    (link.hears i x.dest).map fun receiver => ⟨receiver, link.address i, x.frame⟩

/-- The question of a device for a virtual address. -/
def question (i : ι) (vmac : Bip6Vmac) : Sent6 :=
  ⟨⟨bacnetIpv6MulticastLinkLocal, (link.address i).port, 0, link.interface i⟩,
    encodeVirtualAddressResolution vmac⟩

/-- A device that has started. -/
def begun (i : ι) (vmac : Bip6Vmac) : Bip6Transport :=
  { link.configured i with
    port := (link.address i).port
    localMac := encodeBip6Mac (link.address i).ip (link.address i).port
    sourceVmac := vmac
    started := true }

variable [DecidableEq ι]

/-- A device asks for a virtual address. -/
def ask (c : Claims ι) (i : ι) (attempt : ℕ) (vmac : Bip6Vmac) : Claims ι :=
  ⟨Function.update c.nodes i (.checking attempt vmac),
    c.flight ++ link.send i [link.question i vmac]⟩

/-- A device starts to receive with a virtual address. -/
def begin (c : Claims ι) (i : ι) (vmac : Bip6Vmac) : Claims ι :=
  { c with nodes := Function.update c.nodes i (.running (link.begun i vmac)) }

/-- A datagram arrives. -/
def handle (c : Claims ι) (p : Packet6 ι) (random : Bip6Vmac) : Claims ι :=
  match c.nodes p.receiver with
  | .off => c
  | .checking attempt vmac =>
      if collides vmac p.frame then
        if attempt < maxVmacRetries then link.ask c p.receiver (attempt + 1) random
        else link.begin c p.receiver vmac
      else c
  | .running t =>
      let r := t.receive p.frame p.source
      ⟨Function.update c.nodes p.receiver (.running r.1),
        c.flight ++ link.send p.receiver r.2.sent⟩

/-- The next state, when the event can happen. -/
def step (c : Claims ι) : Happening ι → Option (Claims ι)
  | .start i =>
      match c.nodes i with
      | .off => some (link.ask c i 0 (link.derived i))
      | _ => none
  | .deliver index random =>
      c.flight[index]?.map fun p =>
        link.handle { c with flight := c.flight.eraseIdx index } p random
  | .deadline i =>
      match c.nodes i with
      | .checking _ vmac => some (link.begin c i vmac)
      | _ => none

/-- No device has started. -/
def rest : Claims ι := ⟨fun _ => .off, []⟩

end Link

/-! ## Questions that are answered -/

/-- The virtual address that a device receives with. -/
def Node.holds : Node → Option Bip6Vmac
  | .running t => some t.sourceVmac
  | _ => none

/-- The virtual address that a device asks for. -/
def Node.asks : Node → Option Bip6Vmac
  | .checking _ vmac => some vmac
  | _ => none

namespace Link

variable {link : Link ι} {c d : Claims ι}

/-- A question of the first device is on its way to the second one, or an answer to the first. -/
def Pending (link : Link ι) (flight : List (Packet6 ι)) (i j : ι) (vmac : Bip6Vmac) : Prop :=
  ∃ p ∈ flight, (p.receiver = j ∧ p.source = link.address i ∧
      p.frame = encodeVirtualAddressResolution vmac) ∨
    (p.receiver = i ∧ collides vmac p.frame = true)

/-- Every device that has the virtual address that a device asks for will be heard of. -/
def Answered (link : Link ι) (c : Claims ι) (i : ι) : Prop :=
  ∀ j vmac, i ≠ j → (c.nodes i).asks = some vmac → (c.nodes j).holds = some vmac →
    link.Pending c.flight i j vmac

/-- No two devices have one virtual address. -/
def Distinct (c : Claims ι) : Prop :=
  ∀ i j vmac, i ≠ j → (c.nodes i).holds = some vmac → (c.nodes j).holds ≠ some vmac

/-- What is in flight stays so when more is sent. -/
theorem Pending.mono {flight more : List (Packet6 ι)} {i j : ι} {vmac : Bip6Vmac}
    (h : link.Pending flight i j vmac) (hmore : ∀ p ∈ flight, p ∈ more) :
    link.Pending more i j vmac := by
  obtain ⟨p, hp, hkind⟩ := h
  exact ⟨p, hmore p hp, hkind⟩

/-- What is in flight stays so unless it is what arrives. -/
theorem Pending.eraseIdx {flight : List (Packet6 ι)} {index : ℕ} {p : Packet6 ι} {i j : ι}
    {vmac : Bip6Vmac} (h : link.Pending flight i j vmac) (hp : flight[index]? = some p) :
    link.Pending (flight.eraseIdx index) i j vmac ∨
      (p.receiver = j ∧ p.source = link.address i ∧
        p.frame = encodeVirtualAddressResolution vmac) ∨
      (p.receiver = i ∧ collides vmac p.frame = true) := by
  obtain ⟨q, hq, hkind⟩ := h
  obtain ⟨hindex, rfl⟩ := List.getElem?_eq_some_iff.mp hp
  rcases List.mem_cons.mp ((List.getElem_cons_eraseIdx_perm hindex).mem_iff.mpr hq) with rfl | hq
  · exact .inr hkind
  · exact .inl ⟨q, hq, hkind⟩

/-- A datagram that is sent to a device arrives there. -/
theorem mem_send {i j : ι} {sent : List Sent6} {x : Sent6} (hx : x ∈ sent)
    (hj : j ∈ link.hears i x.dest) : ⟨j, link.address i, x.frame⟩ ∈ link.send i sent :=
  List.mem_flatMap.mpr ⟨x, hx, List.mem_map.mpr ⟨j, hj, rfl⟩⟩

/-- A device that is asked for the virtual address that it has answers. -/
theorem receive_question (t : Bip6Transport) (addr : SocketAddrV6) :
    (t.receive (encodeVirtualAddressResolution t.sourceVmac) addr).2.sent =
      [⟨addr, encodeVirtualAddressResolutionAck t.sourceVmac t.sourceVmac⟩] := by
  have hwhole : (encodeVirtualAddressResolution t.sourceVmac).length ≤
      Bip6Transport.recvBufferLength := by
    simp [encodeVirtualAddressResolution, Bip6Vmac.bytes, Bip6Transport.recvBufferLength]
  unfold Bip6Transport.receive
  rw [List.take_of_length_le hwhole, decodeBvlc6_virtualAddressResolution]
  unfold Bip6Transport.onFrame
  dsimp only
  rw [if_pos rfl]

/-- The answer shows that the address is taken. -/
theorem collides_ack (vmac : Bip6Vmac) :
    collides vmac (encodeVirtualAddressResolutionAck vmac vmac) = true := by
  have hread := decodeBvlc6_addressedFrame .virtualAddressResolutionAck vmac vmac rfl rfl
    (show bvlc6UnicastHeaderLength + ([] : Bytes).length ≤ u16Max by decide) []
  have hwhole : (addressedFrame .virtualAddressResolutionAck vmac vmac []).length ≤
      checkBufferLength := by
    simp [addressedFrame, Bip6Vmac.bytes, checkBufferLength]
  rw [List.append_nil] at hread
  unfold collides encodeVirtualAddressResolutionAck
  rw [List.take_of_length_le hwhole, hread]
  simp

/-- A datagram does not change the virtual address that a device has. -/
theorem sourceVmac_receive (t : Bip6Transport) (data : Bytes) (addr : SocketAddrV6) :
    (t.receive data addr).1.sourceVmac = t.sourceVmac := by
  obtain ⟨table, hnext, -⟩ := t.receive_eq ⟨data, addr⟩
  rw [hnext]

variable [DecidableEq ι]

/-- A device that asks for an address is answered by every device that has it. -/
theorem ask_sound (hdistinct : Distinct c) {i : ι} (hanswered : ∀ k, k ≠ i → link.Answered c k)
    (attempt : ℕ) (vmac : Bip6Vmac) :
    Distinct (link.ask c i attempt vmac) ∧ ∀ k, link.Answered (link.ask c i attempt vmac) k := by
  have hself : (link.ask c i attempt vmac).nodes i = .checking attempt vmac :=
    Function.update_self ..
  have hother {k : ι} (hk : k ≠ i) : (link.ask c i attempt vmac).nodes k = c.nodes k :=
    Function.update_of_ne hk ..
  have hholds {k : ι} {v : Bip6Vmac} (h : ((link.ask c i attempt vmac).nodes k).holds = some v) :
      k ≠ i ∧ (c.nodes k).holds = some v := by
    by_cases hk : k = i
    · subst hk
      rw [hself] at h
      cases h
    · exact ⟨hk, hother hk ▸ h⟩
  refine ⟨fun j k v hne hj hk => hdistinct j k v hne (hholds hj).2 (hholds hk).2,
    fun k j v hne hk hj => ?_⟩
  obtain ⟨hji, hj⟩ := hholds hj
  by_cases hki : k = i
  · subst hki
    rw [hself] at hk
    obtain rfl : vmac = v := Option.some.inj hk
    have hsent := link.mem_send (List.mem_singleton_self (link.question k vmac))
      (link.group_heard hne)
    exact ⟨_, List.mem_append_right _ hsent, .inl ⟨rfl, rfl, rfl⟩⟩
  · rw [hother hki] at hk
    exact (hanswered k hki j v hne hk hj).mono fun p hp => List.mem_append_left _ hp

/-- A device that starts to receive with an address that no other one has or asks for. -/
theorem begin_sound (hdistinct : Distinct c) (hanswered : ∀ k, link.Answered c k) {i : ι}
    {vmac : Bip6Vmac} (hfree : ∀ j, i ≠ j → (c.nodes j).holds ≠ some vmac)
    (halone : ∀ j, i ≠ j → (c.nodes j).asks ≠ some vmac) :
    Distinct (link.begin c i vmac) ∧ ∀ k, link.Answered (link.begin c i vmac) k := by
  have hself : (link.begin c i vmac).nodes i = .running (link.begun i vmac) :=
    Function.update_self ..
  have hother {k : ι} (hk : k ≠ i) : (link.begin c i vmac).nodes k = c.nodes k :=
    Function.update_of_ne hk ..
  refine ⟨fun j k v hne hj hk => ?_, fun k j v hne hk hj => ?_⟩
  · by_cases hji : j = i
    · subst hji
      rw [hself] at hj
      obtain rfl : vmac = v := Option.some.inj hj
      exact hfree k hne (hother hne.symm ▸ hk)
    · by_cases hki : k = i
      · subst hki
        rw [hself] at hk
        obtain rfl : vmac = v := Option.some.inj hk
        exact hfree j hne.symm (hother hji ▸ hj)
      · exact hdistinct j k v hne (hother hji ▸ hj) (hother hki ▸ hk)
  · have hki : k ≠ i := by
      rintro rfl
      rw [hself] at hk
      cases hk
    rw [hother hki] at hk
    by_cases hji : j = i
    · subst hji
      rw [hself] at hj
      obtain rfl : vmac = v := Option.some.inj hj
      exact absurd hk (halone k hki.symm)
    · exact hanswered k j v hne hk (hother hji ▸ hj)

/-- A datagram that is handled by a device that has an address, or by one that is not told that
its address is taken. -/
theorem handle_running_sound (hdistinct : Distinct c) (hanswered : ∀ k, link.Answered c k)
    {index : ℕ} {p : Packet6 ι} (hp : c.flight[index]? = some p) {t : Bip6Transport}
    (hnode : c.nodes p.receiver = .running t) (random : Bip6Vmac) :
    let d := link.handle { c with flight := c.flight.eraseIdx index } p random
    Distinct d ∧ ∀ k, link.Answered d k := by
  intro d
  have hd : d = ⟨Function.update c.nodes p.receiver (.running (t.receive p.frame p.source).1),
      c.flight.eraseIdx index ++ link.send p.receiver (t.receive p.frame p.source).2.sent⟩ := by
    show link.handle _ p random = _
    unfold handle
    dsimp only
    rw [hnode]
  have hself : d.nodes p.receiver = .running (t.receive p.frame p.source).1 := by
    rw [hd]
    exact Function.update_self ..
  have hother {k : ι} (hk : k ≠ p.receiver) : d.nodes k = c.nodes k := by
    rw [hd]
    exact Function.update_of_ne hk ..
  have hholds (k : ι) : (d.nodes k).holds = (c.nodes k).holds := by
    by_cases hk : k = p.receiver
    · rw [hk, hself, hnode]
      exact congrArg some (sourceVmac_receive ..)
    · rw [hother hk]
  have hasks (k : ι) : (d.nodes k).asks = (c.nodes k).asks := by
    by_cases hk : k = p.receiver
    · rw [hk, hself, hnode]
      rfl
    · rw [hother hk]
  refine ⟨fun j k v hne hj hk => hdistinct j k v hne (hholds j ▸ hj) (hholds k ▸ hk),
    fun k j v hne hk hj => ?_⟩
  rw [hasks] at hk
  rw [hholds] at hj
  rcases (hanswered k j v hne hk hj).eraseIdx hp with hkept | ⟨rfl, hsource, hframe⟩ | ⟨rfl, -⟩
  · refine hkept.mono fun q hq => ?_
    rw [hd]
    exact List.mem_append_left _ hq
  -- the question arrives at a device that has the address, and is answered
  · rw [hnode] at hj
    obtain rfl : t.sourceVmac = v := Option.some.inj hj
    have hsent : (⟨link.address k, encodeVirtualAddressResolutionAck t.sourceVmac t.sourceVmac⟩ :
        Sent6) ∈ (t.receive p.frame p.source).2.sent := by
      rw [hframe, hsource, receive_question]
      exact List.mem_singleton_self _
    have hflight := link.mem_send hsent (link.address_heard k p.receiver)
    refine ⟨⟨k, link.address p.receiver, encodeVirtualAddressResolutionAck t.sourceVmac
      t.sourceVmac⟩, ?_, .inr ⟨rfl, collides_ack t.sourceVmac⟩⟩
    rw [hd]
    exact List.mem_append_right _ hflight
  · rw [hnode] at hk
    cases hk

/-- A datagram that is handled, unless it makes a device keep an address that is taken. -/
theorem handle_sound (hdistinct : Distinct c) (hanswered : ∀ k, link.Answered c k)
    {index : ℕ} {p : Packet6 ι} (hp : c.flight[index]? = some p) (random : Bip6Vmac)
    (hretries : ∀ attempt vmac, c.nodes p.receiver = .checking attempt vmac →
      collides vmac p.frame = true → attempt < maxVmacRetries) :
    let d := link.handle { c with flight := c.flight.eraseIdx index } p random
    Distinct d ∧ ∀ k, link.Answered d k := by
  have hnodes {k : ι} (hk : k ≠ p.receiver) (hrunning : (c.nodes p.receiver).holds = none) :
      link.Answered { c with flight := c.flight.eraseIdx index } k := by
    intro j v hne hasks hj
    rcases (hanswered k j v hne hasks hj).eraseIdx hp with hkept | ⟨rfl, -⟩ | ⟨rfl, -⟩
    · exact hkept
    · rw [hrunning] at hj
      cases hj
    · exact absurd rfl hk
  cases hnode : c.nodes p.receiver with
  | running t => exact handle_running_sound hdistinct hanswered hp hnode random
  | off =>
    intro d
    have hd : d = { c with flight := c.flight.eraseIdx index } := by
      show link.handle _ p random = _
      unfold handle
      dsimp only
      rw [hnode]
    rw [hd]
    refine ⟨hdistinct, fun k => ?_⟩
    by_cases hk : k = p.receiver
    · intro j v hne hasks
      rw [hk] at hasks
      change (c.nodes p.receiver).asks = some v at hasks
      rw [hnode] at hasks
      cases hasks
    · exact hnodes hk (by rw [hnode]; rfl)
  | checking attempt vmac =>
    intro d
    by_cases hcollides : collides vmac p.frame = true
    · have hd : d = link.ask { c with flight := c.flight.eraseIdx index } p.receiver (attempt + 1)
          random := by
        show link.handle _ p random = _
        unfold handle
        dsimp only
        rw [hnode]
        dsimp only
        rw [if_pos hcollides, if_pos (hretries attempt vmac hnode hcollides)]
      rw [hd]
      exact ask_sound (c := { c with flight := c.flight.eraseIdx index }) hdistinct
        (fun k hk => hnodes hk (by rw [hnode]; rfl)) _ _
    · have hd : d = { c with flight := c.flight.eraseIdx index } := by
        show link.handle _ p random = _
        unfold handle
        dsimp only
        rw [hnode]
        dsimp only
        rw [if_neg hcollides]
      rw [hd]
      refine ⟨hdistinct, fun k => ?_⟩
      by_cases hk : k = p.receiver
      · intro j v hne hasks hj
        rcases (hanswered k j v hne hasks hj).eraseIdx hp with hkept | ⟨rfl, -⟩ | ⟨-, htaken⟩
        · exact hkept
        · exact absurd hk hne
        · rw [hk] at hasks
          change (c.nodes p.receiver).asks = some v at hasks
          rw [hnode] at hasks
          obtain rfl : vmac = v := Option.some.inj hasks
          exact absurd htaken hcollides
      · exact hnodes hk (by rw [hnode]; rfl)

/-! ## Runs -/

/-- Every question of the device and every answer to it has arrived when its deadline comes. -/
def InTime (link : Link ι) (c : Claims ι) : Happening ι → Prop
  | .deadline i => ∀ vmac ∈ (c.nodes i).asks, ∀ p ∈ c.flight,
      ¬ (p.source = link.address i ∧ p.frame = encodeVirtualAddressResolution vmac) ∧
        ¬ (p.receiver = i ∧ collides vmac p.frame = true)
  | _ => True

/-- No two devices ask for one virtual address. -/
def Alone (c : Claims ι) : Prop :=
  ∀ i j, i ≠ j → ∀ vmac ∈ (c.nodes i).asks, (c.nodes j).asks ≠ some vmac

/-- A device that is told that its address is taken has attempts left. -/
def MayRetry (frame : Bytes) : Node → Prop
  | .checking attempt vmac => collides vmac frame = true → attempt < maxVmacRetries
  | _ => True

/-- No device is told in its last attempt that the address is taken. -/
def Retries (c : Claims ι) : Happening ι → Prop
  | .deliver index _ => ∀ p ∈ c.flight[index]?, MayRetry p.frame (c.nodes p.receiver)
  | _ => True

instance (c : Claims ι) : (h : Happening ι) → Decidable (link.InTime c h)
  | .start _ => isTrue trivial
  | .deliver _ _ => isTrue trivial
  | .deadline i => inferInstanceAs (Decidable (∀ vmac ∈ (c.nodes i).asks, ∀ p ∈ c.flight, _ ∧ _))

instance [Fintype ι] (c : Claims ι) : Decidable (Alone c) :=
  inferInstanceAs (Decidable (∀ i j, i ≠ j → ∀ vmac ∈ (c.nodes i).asks, _))

instance (frame : Bytes) : (node : Node) → Decidable (MayRetry frame node)
  | .off => isTrue trivial
  | .running _ => isTrue trivial
  | .checking attempt vmac =>
      inferInstanceAs (Decidable (collides vmac frame = true → attempt < maxVmacRetries))

instance (c : Claims ι) : (h : Happening ι) → Decidable (Retries c h)
  | .start _ => isTrue trivial
  | .deadline _ => isTrue trivial
  | .deliver index _ =>
      inferInstanceAs (Decidable (∀ p ∈ c.flight[index]?, MayRetry p.frame (c.nodes p.receiver)))

/-- What a step keeps. -/
theorem step_sound (hdistinct : Distinct c) (hanswered : ∀ k, link.Answered c k) {h : Happening ι}
    (hstep : link.step c h = some d) (htime : link.InTime c h) (halone : Alone c)
    (hretries : Retries c h) : Distinct d ∧ ∀ k, link.Answered d k := by
  cases h with
  | start i =>
    unfold step at hstep
    dsimp only at hstep
    cases hnode : c.nodes i with
    | off =>
      rw [hnode] at hstep
      obtain rfl := Option.some.inj hstep
      exact ask_sound hdistinct (fun k _ => hanswered k) _ _
    | checking attempt vmac =>
      rw [hnode] at hstep
      cases hstep
    | running t =>
      rw [hnode] at hstep
      cases hstep
  | deliver index random =>
    obtain ⟨p, hp, rfl⟩ := Option.map_eq_some_iff.mp hstep
    refine handle_sound hdistinct hanswered hp random fun attempt vmac hnode htaken => ?_
    have hlast := hretries p hp
    rw [hnode] at hlast
    exact hlast htaken
  | deadline i =>
    unfold step at hstep
    dsimp only at hstep
    cases hnode : c.nodes i with
    | off =>
      rw [hnode] at hstep
      cases hstep
    | running t =>
      rw [hnode] at hstep
      cases hstep
    | checking attempt vmac =>
      rw [hnode] at hstep
      obtain rfl := Option.some.inj hstep
      have hasks : (c.nodes i).asks = some vmac := by
        rw [hnode]
        rfl
      refine begin_sound hdistinct hanswered (fun j hne hj => ?_) fun j hne =>
        halone i j hne vmac hasks
      obtain ⟨p, hp, ⟨-, hsource, hframe⟩ | hanswer⟩ := hanswered i j vmac hne hasks hj
      · exact (htime vmac hasks p hp).1 ⟨hsource, hframe⟩
      · exact (htime vmac hasks p hp).2 hanswer

/-- When every question and answer arrives in time, no two devices ask for one address at once and
no device runs out of attempts, no two devices that have started have one virtual address. -/
theorem vmacs_distinct {hs : List (Happening ι)}
    (horderly : Transition.Along link.step
      (fun c h _ => link.InTime c h ∧ Alone c ∧ Retries c h) rest hs)
    (hrun : Transition.run link.step rest hs = some c) {i j : ι} {t u : Bip6Transport}
    (hi : c.nodes i = .running t) (hj : c.nodes j = .running u) (hne : i ≠ j) :
    t.sourceVmac ≠ u.sourceVmac := by
  have hthroughout : Transition.Throughout link.step
      (fun c => Distinct c ∧ ∀ k, link.Answered c k) rest hs :=
    Transition.throughout_of_along
      (fun c h d hc hstep hC => step_sound hc.1 hc.2 hstep hC.1 hC.2.1 hC.2.2)
      ⟨fun i j v _ hi => (by cases hi), fun k j v _ hk => (by cases hk)⟩ horderly
  intro hsame
  refine (hthroughout.last hrun).1 i j t.sourceVmac hne ?_ ?_
  · rw [hi]
    rfl
  · rw [hj, hsame]
    rfl

/-- Two devices on one link that are configured with the same instance. -/
def pairLink : Link Bool where
  address i := Bip6Transport.bip6Address (if i then 2 else 1)
  configured i := Bip6Transport.bip6Device (if i then 2 else 1)
  deviceInstance _ := some 7
  interface _ := 0
  hears _ dest :=
    if dest = Bip6Transport.bip6Address 1 then [false]
    else if dest = Bip6Transport.bip6Address 2 then [true]
    else [false, true]
  group_heard := by decide
  address_heard := by decide

/-- The second device starts when the first one has its address, and takes another one. -/
def pairStarts : List (Happening Bool) :=
  [.start false, .deliver 0 .zero, .deliver 0 .zero, .deadline false, .start true,
    .deliver 0 .zero, .deliver 0 .zero, .deliver 0 ⟨1, 2, 3⟩, .deliver 0 .zero, .deliver 0 .zero,
    .deadline true]

/-- The two have different addresses then. -/
theorem vmacs_distinct_pair : ∃ c t u, Transition.run pairLink.step rest pairStarts = some c ∧
    c.nodes false = .running t ∧ c.nodes true = .running u ∧ t.sourceVmac ≠ u.sourceVmac := by
  have horderly : Transition.Along pairLink.step
      (fun c h _ => pairLink.InTime c h ∧ Alone c ∧ Retries c h) rest pairStarts := by
    decide +kernel
  exact ⟨_, _, _, rfl, rfl, rfl, vmacs_distinct horderly rfl rfl rfl Bool.false_ne_true⟩

/-! ## Devices that ask at once -/

/-- A run in which everything arrives in time and no device runs out of attempts. -/
def Timely (link : Link ι) (c : Claims ι) (hs : List (Happening ι)) : Prop :=
  Transition.Along link.step (fun c h _ => link.InTime c h ∧ Retries c h) c hs

/-- Such a run leads from one state to the other. -/
def Reaches (link : Link ι) (c : Claims ι) (hs : List (Happening ι)) (d : Claims ι) : Prop :=
  Transition.run link.step c hs = some d ∧ link.Timely c hs

/-- A step and the run behind it. -/
theorem Reaches.cons {e : Claims ι} {h : Happening ι} {hs : List (Happening ι)}
    (hstep : link.step c h = some d) (htime : link.InTime c h) (hretries : Retries c h)
    (hrest : link.Reaches d hs e) : link.Reaches c (h :: hs) e := by
  obtain ⟨hrun, hall⟩ := hrest
  refine ⟨Transition.run_cons_eq_some.mpr ⟨d, hstep, hrun⟩, fun found hfound => ?_⟩
  obtain rfl : d = found := Option.some.inj (hstep.symm.trans hfound)
  exact ⟨⟨htime, hretries⟩, hall⟩

omit [DecidableEq ι] in
/-- A question is no answer. -/
theorem collides_question (vmac asked : Bip6Vmac) :
    collides vmac (encodeVirtualAddressResolution asked) = false := by
  have hwhole : (encodeVirtualAddressResolution asked).length ≤ checkBufferLength := by
    simp [encodeVirtualAddressResolution, Bip6Vmac.bytes, checkBufferLength]
  unfold collides
  rw [List.take_of_length_le hwhole, decodeBvlc6_virtualAddressResolution]
  simp

/-- Questions that reach only devices that ask themselves change nothing. -/
theorem Reaches.drained {e : Claims ι} {nodes : ι → Node} {hs : List (Happening ι)}
    (flight : List (Packet6 ι)) (hidle : ∀ i, (nodes i).holds = none)
    (hquestions : ∀ p ∈ flight, ∀ vmac, collides vmac p.frame = false)
    (h : link.Reaches ⟨nodes, []⟩ hs e) : link.Reaches ⟨nodes, flight⟩
      (List.replicate flight.length (.deliver 0 .zero) ++ hs) e := by
  induction flight with
  | nil => exact h
  | cons p flight ih =>
    have hnext : link.step ⟨nodes, p :: flight⟩ (.deliver 0 .zero) = some ⟨nodes, flight⟩ := by
      show some (link.handle ⟨nodes, flight⟩ p .zero) = _
      unfold handle
      dsimp only
      cases hnode : nodes p.receiver with
      | off => rfl
      | checking attempt vmac =>
        dsimp only
        rw [if_neg (by simp [hquestions p List.mem_cons_self])]
      | running t =>
        have hholds := hidle p.receiver
        rw [hnode] at hholds
        cases hholds
    refine .cons hnext trivial ?_ (ih fun q hq => hquestions q (List.mem_cons_of_mem _ hq))
    intro q hq
    obtain rfl : p = q := Option.some.inj hq
    unfold MayRetry
    split
    · rw [hquestions p List.mem_cons_self]
      exact fun htaken => absurd htaken Bool.false_ne_true
    · trivial

/-- Two devices start before anything arrives. All that they send arrives before the first of them
has waited long enough. -/
def startsAtOnce (i j : ι) (count : ℕ) : List (Happening ι) :=
  .start i :: .start j :: (List.replicate count (.deliver 0 .zero) ++ [.deadline i, .deadline j])

/-- Two devices whose first virtual addresses are the same both keep it when they start at once,
though every question arrives in time. -/
theorem both_keep {i j : ι} (hne : i ≠ j) (hsame : link.derived i = link.derived j) :
    ∃ count c t u, Transition.run link.step rest (startsAtOnce i j count) = some c ∧
      link.Timely rest (startsAtOnce i j count) ∧ c.flight = [] ∧
      c.nodes i = .running t ∧ c.nodes j = .running u ∧ t.sourceVmac = u.sourceVmac := by
  let asked : ι → Node := Function.update (Function.update (fun _ => .off) i
    (.checking 0 (link.derived i))) j (.checking 0 (link.derived j))
  let flight := link.send i [link.question i (link.derived i)] ++
    link.send j [link.question j (link.derived j)]
  let kept : ι → Node := Function.update (Function.update asked i
    (.running (link.begun i (link.derived i)))) j (.running (link.begun j (link.derived j)))
  have hi : asked i = .checking 0 (link.derived i) := by
    show Function.update _ j _ i = _
    rw [Function.update_of_ne hne, Function.update_self]
  have hj : Function.update asked i (.running (link.begun i (link.derived i))) j =
      .checking 0 (link.derived j) := by
    rw [Function.update_of_ne hne.symm]
    exact Function.update_self ..
  have hidle (k : ι) : (asked k).holds = none := by
    by_cases hkj : k = j
    · rw [hkj, show asked j = .checking 0 (link.derived j) from Function.update_self ..]
      rfl
    · by_cases hki : k = i
      · rw [hki, hi]
        rfl
      · rw [show asked k = .off from (Function.update_of_ne hkj ..).trans
          (Function.update_of_ne hki ..)]
        rfl
  have hquestions : ∀ p ∈ flight, ∀ vmac, collides vmac p.frame = false := by
    intro p hp vmac
    rcases List.mem_append.mp hp with hp | hp <;>
    · obtain ⟨x, hx, hmem⟩ := List.mem_flatMap.mp hp
      obtain ⟨receiver, -, rfl⟩ := List.mem_map.mp hmem
      rw [List.mem_singleton.mp hx]
      exact collides_question vmac _
  have hdeadlines : link.Reaches ⟨asked, []⟩ [.deadline i, .deadline j] ⟨kept, []⟩ := by
    refine .cons (h := .deadline i) (d := ⟨Function.update asked i
      (.running (link.begun i (link.derived i))), []⟩) ?_ (fun _ _ p hp => by cases hp) trivial ?_
    · unfold step
      dsimp only
      rw [hi]
      rfl
    · refine .cons (h := .deadline j) (d := ⟨kept, []⟩) ?_ (fun _ _ p hp => by cases hp) trivial
        ⟨rfl, trivial⟩
      unfold step
      dsimp only
      rw [hj]
      rfl
  have hstarts : link.Reaches rest (startsAtOnce i j flight.length) ⟨kept, []⟩ := by
    refine .cons (h := .start i) rfl trivial trivial ?_
    refine .cons (h := .start j) (d := ⟨asked, flight⟩) ?_ trivial trivial
      (.drained flight hidle hquestions hdeadlines)
    unfold step
    dsimp only
    rw [show (link.ask rest i 0 (link.derived i)).nodes j = .off from
      Function.update_of_ne hne.symm ..]
    rfl
  obtain ⟨hrun, htimely⟩ := hstarts
  refine ⟨flight.length, _, link.begun i (link.derived i), link.begun j (link.derived j), hrun,
    htimely, rfl, ?_, Function.update_self .., hsame⟩
  show Function.update _ j _ i = _
  rw [Function.update_of_ne hne, Function.update_self]

/-- When the two start at once, both have the address of their instance. -/
theorem both_keep_pair : ∃ count c t u,
    Transition.run pairLink.step rest (startsAtOnce false true count) = some c ∧
      pairLink.Timely rest (startsAtOnce false true count) ∧ c.flight = [] ∧
      c.nodes false = .running t ∧ c.nodes true = .running u ∧ t.sourceVmac = u.sourceVmac :=
  both_keep Bool.false_ne_true rfl

end Link

end BacnetTransport
