import Republisher.BipReceive
import Republisher.Cascade
import Republisher.PacketFilter
import Mathlib.Data.List.GetD
import Mathlib.Algebra.Order.BigOperators.Group.List
import Mathlib.Algebra.Order.Ring.Nat
import Mathlib.Algebra.Group.Action.Defs

/-!
# BACnet on Ethernet

A frame is two hardware addresses, a length, three bytes of link control and a packet, padded to
what the network takes. A frame is read whatever padding it has. The packet filter that is handed
to the kernel takes nothing away that the receive loop would do anything with, and the answers to
questions of the link control are never answered themselves.
-/

namespace BacnetTransport

open Wire

/-! ## Frames -/

/-- The six bytes of a hardware address. -/
structure HardwareAddr where
  a : UInt8
  b : UInt8
  c : UInt8
  d : UInt8
  e : UInt8
  f : UInt8
  deriving DecidableEq, Repr

/-- The bytes of a hardware address in order. -/
def HardwareAddr.bytes (mac : HardwareAddr) : Bytes := [mac.a, mac.b, mac.c, mac.d, mac.e, mac.f]

/-- The six bytes from an index on. -/
def hardwareAddrAt (data : Bytes) (index : ℕ) : HardwareAddr :=
  ⟨byteAt data index, byteAt data (index + 1), byteAt data (index + 2), byteAt data (index + 3),
    byteAt data (index + 4), byteAt data (index + 5)⟩

/-- The destination of BACnet. -/
def bacnetLlcDsap : UInt8 := 0x82

/-- The source of BACnet. -/
def bacnetLlcSsap : UInt8 := 0x82

/-- A frame with a packet. -/
def llcControlUi : UInt8 := 0x03

/-- The question for what a station can do. -/
def llcControlXidCmd : UInt8 := 0xaf

/-- The answer. -/
def llcControlXidRsp : UInt8 := 0xbf

/-- The request to send data back. -/
def llcControlTestCmd : UInt8 := 0xe3

/-- The answer. -/
def llcControlTestRsp : UInt8 := 0xf3

/-- The bytes of the link control. -/
def llcHeaderLen : ℕ := 3

/-- The addresses, the length and the link control. -/
def minFrameLen : ℕ := 17

/-- The largest number that is a length. -/
def maxLlcLength : ℕ := 1500

/-- The bytes that the network takes behind the addresses and the length. -/
def minEthernetPayload : ℕ := 46

/-- The address that every station hears. -/
def ethernetBroadcast : HardwareAddr := ⟨0xff, 0xff, 0xff, 0xff, 0xff, 0xff⟩

/-- A frame, taken apart. -/
structure EthernetFrame where
  destination : HardwareAddr
  source : HardwareAddr
  payload : Bytes
  deriving DecidableEq, Repr

/-- What stands in front of a packet. -/
def llcHeader (destination source : HardwareAddr) (length : UInt16) (dsap ssap control : UInt8) :
    Bytes :=
  destination.bytes ++ source.bytes ++ be length ++ [dsap, ssap, control]

/-- A frame with zeros behind it where it is too short for the network. -/
def padded (frame : Bytes) : Bytes :=
  frame ++ List.replicate (14 + minEthernetPayload - frame.length) 0

/-- Writes a frame with a packet. -/
def encodeEthernetFrame (destination source : HardwareAddr) (npdu : Bytes) : Bytes :=
  padded (llcHeader destination source (UInt16.ofNat (llcHeaderLen + npdu.length)) bacnetLlcDsap
    bacnetLlcSsap llcControlUi ++ npdu)

/-- The link control of a frame of BACnet. -/
def checkLlcControl (data : Bytes) : Option UInt8 :=
  if data.length < minFrameLen then none
  else
    let length := (wordAt data 12).toNat
    if ¬ (llcHeaderLen ≤ length ∧ length ≤ maxLlcLength) then none
    else if byteAt data 14 = bacnetLlcDsap ∧ byteAt data 15 = bacnetLlcSsap then
      some (byteAt data 16)
    else none

/-- An answer of the link control. Its source has the bit of an answer. -/
def llcResponse (localMac remoteMac : HardwareAddr) (control : UInt8) (payload : Bytes) : Bytes :=
  padded (llcHeader remoteMac localMac (UInt16.ofNat (llcHeaderLen + payload.length))
    bacnetLlcDsap (bacnetLlcSsap ||| 0x01) control ++ payload)

/-- Says what the station can do. -/
def buildXidResponse (localMac remoteMac : HardwareAddr) : Bytes :=
  llcResponse localMac remoteMac llcControlXidRsp [0x81, 0x01, 0x01]

/-- Sends data back. -/
def buildTestResponse (localMac remoteMac : HardwareAddr) (testData : Bytes) : Bytes :=
  llcResponse localMac remoteMac llcControlTestRsp testData

/-- Reads a frame with a packet. -/
def decodeEthernetFrame (data : Bytes) : Except Error EthernetFrame :=
  if data.length < minFrameLen then .error (.bufferTooShort minFrameLen data.length)
  else
    let length := (wordAt data 12).toNat
    let dsap := byteAt data 14
    let ssap := byteAt data 15
    let control := byteAt data 16
    if length > maxLlcLength then
      .error (.decoding 12 (s!"length field {length} exceeds IEEE 802.3 maximum " ++
        s!"({maxLlcLength}); likely an EtherType"))
    else if length < llcHeaderLen then
      .error (.decoding 12
        s!"length field {length} too small for LLC header ({llcHeaderLen} bytes)")
    else if 14 + length > data.length then .error (.bufferTooShort (14 + length) data.length)
    else if dsap ≠ bacnetLlcDsap then
      .error (.decoding 14
        s!"invalid DSAP: expected 0x{hexByte bacnetLlcDsap}, got 0x{hexByte dsap}")
    else if ssap ≠ bacnetLlcSsap then
      .error (.decoding 15
        s!"invalid SSAP: expected 0x{hexByte bacnetLlcSsap}, got 0x{hexByte ssap}")
    else if control ≠ llcControlUi then
      .error (.decoding 16
        s!"invalid LLC control: expected 0x{hexByte llcControlUi}, got 0x{hexByte control}")
    else
      .ok ⟨hardwareAddrAt data 0, hardwareAddrAt data 6, (data.take (14 + length)).drop 17⟩

/-! ## A station -/

/-- The largest packet. -/
def maxEthernetNpdu : ℕ := 1497

/-- A frame that is sent, and where to. -/
structure EthernetSent where
  dest : HardwareAddr
  frame : Bytes
  deriving DecidableEq, Repr

/-- What is done with a frame. -/
structure EthernetEffects where
  delivered : List ReceivedNpdu := []
  sent : List EthernetSent := []
  deriving DecidableEq, Repr

/-- A station. -/
structure EthernetTransport where
  localMac : HardwareAddr
  /-- It has a socket. -/
  started : Bool
  deriving DecidableEq, Repr

namespace EthernetTransport

/-- The bytes that one frame is read from. -/
def recvBufferLength : ℕ := 2048

/-- Hands a packet to the network layer unless it is the station's own. -/
def deliver (t : EthernetTransport) (data : Bytes) : EthernetEffects :=
  match decodeEthernetFrame data with
  | .ok frame =>
      if frame.source = t.localMac then {}
      else { delivered := [⟨frame.payload, frame.source.bytes⟩] }
  | .error _ => {}

/-- What is done with the bytes that have been read. -/
def onData (t : EthernetTransport) (data : Bytes) : EthernetEffects :=
  match checkLlcControl data with
  | some control =>
      let src := hardwareAddrAt data 6
      if src ≠ t.localMac then
        if control = llcControlXidCmd then { sent := [⟨src, buildXidResponse t.localMac src⟩] }
        else if control = llcControlTestCmd then
          { sent := [⟨src, buildTestResponse t.localMac src (data.drop 17)⟩] }
        else t.deliver data
      else t.deliver data
  | none => t.deliver data

/-- A frame arrives. -/
def receive (t : EthernetTransport) (data : Bytes) : EthernetEffects :=
  t.onData (data.take recvBufferLength)

/-- Sends a packet to one station. -/
def sendUnicast (t : EthernetTransport) (npdu mac : Bytes) : Except Error EthernetSent :=
  if !t.started then .error (.transport "Transport not started")
  else if mac.length ≠ 6 then
    .error (.encoding s!"Ethernet MAC must be 6 bytes, got {mac.length}")
  else if npdu.length > maxEthernetNpdu then
    .error (.encoding
      s!"NPDU too large for Ethernet: {npdu.length} bytes (max {maxEthernetNpdu})")
  else
    let dst := hardwareAddrAt mac 0
    .ok ⟨dst, encodeEthernetFrame dst t.localMac npdu⟩

/-- Sends a packet to all stations. -/
def sendBroadcast (t : EthernetTransport) (npdu : Bytes) : Except Error EthernetSent :=
  t.sendUnicast npdu ethernetBroadcast.bytes

end EthernetTransport

/-! ## The filter in the kernel -/

section Filter

open PacketFilter

/-- The filter: frames of BACnet with a packet, a question or an answer. -/
def bacnetBpfFilter : List Instruction :=
  [⟨BPF_LD ||| BPF_H ||| BPF_ABS, 0, 0, 12⟩,
    ⟨BPF_JMP ||| BPF_JGT ||| BPF_K, 6, 0, 1500⟩,
    ⟨BPF_LD ||| BPF_B ||| BPF_ABS, 0, 0, 14⟩,
    ⟨BPF_JMP ||| BPF_JEQ ||| BPF_K, 0, 4, 0x82⟩,
    ⟨BPF_LD ||| BPF_B ||| BPF_ABS, 0, 0, 15⟩,
    ⟨BPF_ALU ||| BPF_AND ||| BPF_K, 0, 0, 0xfe⟩,
    ⟨BPF_JMP ||| BPF_JEQ ||| BPF_K, 0, 1, 0x82⟩,
    ⟨BPF_RET ||| BPF_K, 0, 0, 65535⟩,
    ⟨BPF_RET ||| BPF_K, 0, 0, 0⟩]

end Filter

/-! ## What is read -/

/-- Six bytes in front of others are a hardware address. -/
theorem exists_hardwareAddr {data : Bytes} (h : 6 ≤ data.length) :
    ∃ (mac : HardwareAddr) (rest : Bytes), data = mac.bytes ++ rest := by
  match data, h with
  | a :: b :: c :: d :: e :: f :: rest, _ => exact ⟨⟨a, b, c, d, e, f⟩, rest, rfl⟩

/-- Enough bytes begin with a header. -/
theorem exists_llcHeader {data : Bytes} (h : 17 ≤ data.length) :
    ∃ destination source length dsap ssap control tail,
      data = llcHeader destination source length dsap ssap control ++ tail := by
  obtain ⟨destination, rest, rfl⟩ := exists_hardwareAddr (show 6 ≤ data.length by omega)
  have hrest : 11 ≤ rest.length := by
    rw [List.length_append, HardwareAddr.bytes] at h
    simp only [List.length_cons, List.length_nil] at h
    omega
  obtain ⟨source, rest, rfl⟩ := exists_hardwareAddr (show 6 ≤ rest.length by omega)
  have hlast : 5 ≤ rest.length := by
    rw [List.length_append, HardwareAddr.bytes] at hrest
    simp only [List.length_cons, List.length_nil] at hrest
    omega
  match rest, hlast with
  | hi :: lo :: dsap :: ssap :: control :: tail, _ =>
    refine ⟨destination, source, word hi lo, dsap, ssap, control, tail, ?_⟩
    simp [llcHeader, be]

section Header

variable {destination source : HardwareAddr} {length : UInt16} {dsap ssap control : UInt8}
  {tail : Bytes}

@[simp] theorem length_llcHeader_append :
    (llcHeader destination source length dsap ssap control ++ tail).length = 17 + tail.length := by
  simp [llcHeader, HardwareAddr.bytes]
  omega

@[simp] theorem wordAt_llcHeader :
    wordAt (llcHeader destination source length dsap ssap control ++ tail) 12 = length :=
  word_high_low length

/-- The bytes of a frame behind its header. -/
theorem drop_take_llcHeader (n : ℕ) (hn : 3 ≤ n) :
    ((llcHeader destination source length dsap ssap control ++ tail).take (14 + n)).drop 17 =
      tail.take (n - 3) := by
  have hlength : (llcHeader destination source length dsap ssap control).length = 17 := rfl
  obtain ⟨m, rfl⟩ := Nat.exists_eq_add_of_le hn
  rw [show 14 + (3 + m) = (llcHeader destination source length dsap ssap control).length + m by
    omega, List.take_length_add_append, ← hlength, List.drop_left, Nat.add_sub_cancel_left]

/-- A frame is read behind a header of BACnet with a length that fits, from the bytes that the
length counts. -/
theorem decodeEthernetFrame_header {frame : EthernetFrame} :
    decodeEthernetFrame (llcHeader destination source length dsap ssap control ++ tail) =
        .ok frame ↔
      (3 ≤ length.toNat ∧ length.toNat ≤ 1500 ∧ length.toNat ≤ 3 + tail.length) ∧
        (dsap = bacnetLlcDsap ∧ ssap = bacnetLlcSsap ∧ control = llcControlUi) ∧
          frame = ⟨destination, source, tail.take (length.toNat - 3)⟩ := by
  have hdsap : byteAt (llcHeader destination source length dsap ssap control ++ tail) 14 = dsap :=
    rfl
  have hssap : byteAt (llcHeader destination source length dsap ssap control ++ tail) 15 = ssap :=
    rfl
  have hcontrol : byteAt (llcHeader destination source length dsap ssap control ++ tail) 16 =
      control := rfl
  have hdestination : hardwareAddrAt
      (llcHeader destination source length dsap ssap control ++ tail) 0 = destination := rfl
  have hsource : hardwareAddrAt
      (llcHeader destination source length dsap ssap control ++ tail) 6 = source := rfl
  unfold decodeEthernetFrame minFrameLen maxLlcLength llcHeaderLen
  dsimp only
  rw [length_llcHeader_append, wordAt_llcHeader, hdsap, hssap, hcontrol, hdestination, hsource,
    if_neg (by omega)]
  by_cases hlong : length.toNat > 1500
  · rw [if_pos hlong]
    simp only [reduceCtorEq, false_iff]
    omega
  by_cases hshort : length.toNat < 3
  · rw [if_neg hlong, if_pos hshort]
    simp only [reduceCtorEq, false_iff]
    omega
  by_cases hcut : 14 + length.toNat > 17 + tail.length
  · rw [if_neg hlong, if_neg hshort, if_pos hcut]
    simp only [reduceCtorEq, false_iff]
    omega
  rw [if_neg hlong, if_neg hshort, if_neg hcut, drop_take_llcHeader _ (Nat.le_of_not_lt hshort),
    and_iff_right (by omega)]
  by_cases hd : dsap = bacnetLlcDsap
  · by_cases hs : ssap = bacnetLlcSsap
    · by_cases hc : control = llcControlUi
      · rw [if_neg (not_not.mpr hd), if_neg (not_not.mpr hs), if_neg (not_not.mpr hc),
          and_iff_right ⟨hd, hs, hc⟩, Except.ok.injEq, eq_comm]
      · rw [if_neg (not_not.mpr hd), if_neg (not_not.mpr hs), if_pos hc]
        simp [hc]
    · rw [if_neg (not_not.mpr hd), if_pos hs]
      simp [hs]
  · rw [if_pos hd]
    simp [hd]

end Header

/-- What a frame is written as in front of its padding. -/
def EthernetFrame.content (frame : EthernetFrame) : Bytes :=
  llcHeader frame.destination frame.source (UInt16.ofNat (llcHeaderLen + frame.payload.length))
    bacnetLlcDsap bacnetLlcSsap llcControlUi ++ frame.payload

/-- A frame is read from what it is written as and whatever stands behind that, and from nothing
else. -/
theorem decodeEthernetFrame_eq_ok_iff (data : Bytes) (frame : EthernetFrame) :
    decodeEthernetFrame data = .ok frame ↔
      frame.payload.length ≤ maxEthernetNpdu ∧ ∃ padding, data = frame.content ++ padding := by
  constructor
  · intro h
    have hlength : 17 ≤ data.length := by
      by_contra hshort
      unfold decodeEthernetFrame minFrameLen at h
      rw [if_pos (Nat.lt_of_not_le hshort)] at h
      cases h
    obtain ⟨destination, source, length, dsap, ssap, control, tail, rfl⟩ :=
      exists_llcHeader hlength
    obtain ⟨⟨hlow, hhigh, hcut⟩, ⟨rfl, rfl, rfl⟩, rfl⟩ := decodeEthernetFrame_header.mp h
    have hcount : llcHeaderLen + (tail.take (length.toNat - 3)).length = length.toNat := by
      rw [List.length_take, llcHeaderLen]
      omega
    refine ⟨?_, tail.drop (length.toNat - 3), ?_⟩
    · unfold maxEthernetNpdu
      unfold llcHeaderLen at hcount
      dsimp only
      omega
    · unfold EthernetFrame.content
      dsimp only
      rw [hcount, UInt16.ofNat_toNat, List.append_assoc, List.take_append_drop]
  · rintro ⟨hfits, padding, rfl⟩
    unfold maxEthernetNpdu at hfits
    have hword : (UInt16.ofNat (llcHeaderLen + frame.payload.length)).toNat =
        3 + frame.payload.length :=
      UInt16.toNat_ofNat_of_lt' (show 3 + frame.payload.length < 65536 by omega)
    unfold EthernetFrame.content
    rw [List.append_assoc, decodeEthernetFrame_header, hword, List.length_append,
      Nat.add_sub_cancel_left, List.take_left]
    exact ⟨by omega, ⟨rfl, rfl, rfl⟩, rfl⟩

/-! ## What the filter takes away -/

/-- The packets that the filter keeps. -/
def Passes (data : Bytes) : Prop :=
  16 ≤ data.length ∧ (wordAt data 12).toNat ≤ 1500 ∧ byteAt data 14 = 0x82 ∧
    byteAt data 15 &&& 0xfe = 0x82

instance (data : Bytes) : Decidable (Passes data) := inferInstanceAs (Decidable (_ ∧ _ ∧ _ ∧ _))

/-- A byte that is there is loaded. -/
theorem byteAt?_eq {data : Bytes} {index : ℕ} (h : index < data.length) :
    PacketFilter.byteAt? data index = some (byteAt data index).toUInt32 := by
  unfold PacketFilter.byteAt? byteAt
  rw [List.getElem?_eq_getElem h, List.getD_eq_getElem _ _ h]
  rfl

/-- A word that is there is loaded. -/
theorem halfAt?_eq {data : Bytes} {index : ℕ} (h : index + 1 < data.length) :
    PacketFilter.halfAt? data index = some (UInt32.ofNat (wordAt data index).toNat) := by
  have hhi := (byteAt data index).toNat_lt
  have hlo := (byteAt data (index + 1)).toNat_lt
  have hword : (wordAt data index).toNat =
      (byteAt data index).toNat * 256 + (byteAt data (index + 1)).toNat :=
    UInt16.toNat_ofNat_of_lt' (show _ < 65536 by omega)
  unfold PacketFilter.halfAt?
  rw [hword]
  unfold byteAt
  rw [List.getElem?_eq_getElem (Nat.lt_of_succ_lt h), List.getElem?_eq_getElem h,
    List.getD_eq_getElem _ _ (Nat.lt_of_succ_lt h), List.getD_eq_getElem _ _ h]

/-- A byte that is not there is not loaded. -/
theorem byteAt?_eq_none {data : Bytes} {index : ℕ} (h : data.length ≤ index) :
    PacketFilter.byteAt? data index = none := by
  unfold PacketFilter.byteAt?
  rw [List.getElem?_eq_none h]
  rfl

/-- A word that is not there is not loaded. -/
theorem halfAt?_eq_none {data : Bytes} {index : ℕ} (h : data.length ≤ index + 1) :
    PacketFilter.halfAt? data index = none := by
  unfold PacketFilter.halfAt?
  rw [List.getElem?_eq_none h]
  cases data[index]? <;> rfl

/-- A byte is compared as the word that it is loaded as. -/
theorem toUInt32_eq_iff {b k : UInt8} : b.toUInt32 = k.toUInt32 ↔ b = k :=
  ⟨fun h => UInt8.toNat_inj.mp (by simpa using congrArg UInt32.toNat h), fun h => h ▸ rfl⟩

open PacketFilter in
/-- The end of the filter keeps a packet when its source is that of BACnet, with the bit of an
answer or without. -/
theorem run_bacnetBpfFilter_ssap (data : Bytes) (a : UInt32) :
    run data (bacnetBpfFilter.drop 4) 0 a =
      some (if 16 ≤ data.length ∧ byteAt data 15 &&& 0xfe = 0x82 then 65535 else 0) := by
  unfold bacnetBpfFilter
  by_cases hssap : 16 ≤ data.length
  · have hload : byteAt? data (15 : UInt32).toNat = some (byteAt data 15).toUInt32 :=
      byteAt?_eq hssap
    have hmasked : (byteAt data 15).toUInt32 &&& 0xfe = 0x82 ↔ byteAt data 15 &&& 0xfe = 0x82 := by
      rw [show (byteAt data 15).toUInt32 &&& 0xfe = (byteAt data 15 &&& 0xfe).toUInt32 from
        (UInt8.toUInt32_and _ 0xfe).symm]
      exact toUInt32_eq_iff (k := 0x82)
    show run data (_ :: _) 0 a = _
    rw [run_loadByte _ _ _ _ _ _ hload, run_and, run_jeq]
    by_cases hbacnet : byteAt data 15 &&& 0xfe = 0x82
    · rw [if_pos (hmasked.mpr hbacnet), if_pos ⟨hssap, hbacnet⟩]
      rfl
    · rw [if_neg (mt hmasked.mp hbacnet), if_neg fun h => hbacnet h.2]
      rfl
  · have hnone : byteAt? data (15 : UInt32).toNat = none :=
      byteAt?_eq_none (show data.length ≤ 15 by omega)
    rw [if_neg fun h => hssap h.1]
    exact run_loadByte_none _ _ _ _ _ _ hnone

open PacketFilter in
/-- The filter behind the length keeps a packet for BACnet from it. -/
theorem run_bacnetBpfFilter_dsap (data : Bytes) (a : UInt32) :
    run data (bacnetBpfFilter.drop 2) 0 a =
      some (if 16 ≤ data.length ∧ byteAt data 14 = 0x82 ∧ byteAt data 15 &&& 0xfe = 0x82 then 65535
        else 0) := by
  have hend := run_bacnetBpfFilter_ssap data (byteAt data 14).toUInt32
  unfold bacnetBpfFilter at hend ⊢
  by_cases hdsap : 15 ≤ data.length
  · have hload : byteAt? data (14 : UInt32).toNat = some (byteAt data 14).toUInt32 :=
      byteAt?_eq hdsap
    have hsame : (byteAt data 14).toUInt32 = 0x82 ↔ byteAt data 14 = 0x82 :=
      toUInt32_eq_iff (k := 0x82)
    show run data (_ :: _) 0 a = _
    rw [run_loadByte _ _ _ _ _ _ hload, run_jeq]
    by_cases hbacnet : byteAt data 14 = 0x82
    · rw [if_pos (hsame.mpr hbacnet)]
      simp only [hbacnet, true_and] at hend ⊢
      exact hend
    · rw [if_neg (mt hsame.mp hbacnet), if_neg fun h => hbacnet h.2.1]
      rfl
  · have hnone : byteAt? data (14 : UInt32).toNat = none :=
      byteAt?_eq_none (show data.length ≤ 14 by omega)
    rw [if_neg fun h => hdsap (Nat.le_of_succ_le h.1)]
    exact run_loadByte_none _ _ _ _ _ _ hnone

open PacketFilter in
/-- The filter keeps the packets with a length, the destination of BACnet and its source, with the
bit of an answer or without. -/
theorem run_bacnetBpfFilter (data : Bytes) :
    run data bacnetBpfFilter 0 0 = some (if Passes data then 65535 else 0) := by
  have hend := run_bacnetBpfFilter_dsap data (UInt32.ofNat (wordAt data 12).toNat)
  unfold bacnetBpfFilter at hend ⊢
  by_cases hword : 14 ≤ data.length
  · have hlong : (1500 : UInt32) < UInt32.ofNat (wordAt data 12).toNat ↔
        1500 < (wordAt data 12).toNat := by
      have hlt := (wordAt data 12).toNat_lt
      rw [UInt32.lt_iff_toNat_lt, UInt32.toNat_ofNat_of_lt' (show _ < 4294967296 by omega)]
      rfl
    have hload : halfAt? data (12 : UInt32).toNat =
        some (UInt32.ofNat (wordAt data 12).toNat) :=
      halfAt?_eq (show 12 + 1 < data.length by omega)
    rw [run_loadHalf _ _ _ _ _ _ hload, run_jgt]
    by_cases hlength : 1500 < (wordAt data 12).toNat
    · have hdropped : ¬ Passes data := fun h => Nat.not_lt_of_le h.2.1 hlength
      rw [if_pos (hlong.mpr hlength), if_neg hdropped]
      rfl
    · unfold Passes
      rw [if_neg (mt hlong.mp hlength)]
      simp only [Nat.le_of_not_lt hlength, true_and]
      exact hend
  · have hnone : halfAt? data (12 : UInt32).toNat = none :=
      halfAt?_eq_none (show data.length ≤ 12 + 1 by omega)
    have hdropped : ¬ Passes data := fun h => hword (Nat.le_trans (by decide) h.1)
    rw [run_loadHalf_none _ _ _ _ _ _ hnone, if_neg hdropped]

/-- A byte in front of the end of what is kept. -/
theorem byteAt_take {data : Bytes} {n index : ℕ} (h : index < n) :
    byteAt (data.take n) index = byteAt data index := by
  unfold byteAt
  rw [List.getD_eq_getElem?_getD, List.getD_eq_getElem?_getD, List.getElem?_take_of_lt h]

/-- Whether a packet passes is seen from its first bytes. -/
theorem passes_take {data : Bytes} {n : ℕ} (h : 16 ≤ n) : Passes (data.take n) ↔ Passes data := by
  unfold Passes wordAt
  rw [byteAt_take (by omega), byteAt_take (by omega), byteAt_take (by omega),
    byteAt_take (by omega), List.length_take]
  constructor
  · rintro ⟨hlength, hrest⟩
    exact ⟨by omega, hrest⟩
  · rintro ⟨hlength, hrest⟩
    exact ⟨by omega, hrest⟩

namespace EthernetTransport

/-- A frame with a header of BACnet passes. -/
theorem passes_llcHeader {destination source : HardwareAddr} {length : UInt16} {control : UInt8}
    {tail : Bytes} (hlength : length.toNat ≤ 1500) :
    Passes (llcHeader destination source length bacnetLlcDsap bacnetLlcSsap control ++ tail) := by
  refine ⟨?_, ?_, rfl, ?_⟩
  · rw [length_llcHeader_append]
    omega
  · rw [wordAt_llcHeader]
    exact hlength
  · show bacnetLlcSsap &&& 0xfe = 0x82
    decide

/-- A packet with a link control of BACnet passes. -/
theorem passes_of_checkLlcControl {data : Bytes} {control : UInt8}
    (h : checkLlcControl data = some control) : Passes data := by
  unfold checkLlcControl at h
  dsimp only at h
  split_ifs at h with hshort hlength hbacnet
  obtain ⟨destination, source, length, dsap, ssap, control, tail, rfl⟩ :=
    exists_llcHeader (Nat.le_of_not_lt hshort)
  obtain ⟨rfl, rfl⟩ : dsap = bacnetLlcDsap ∧ ssap = bacnetLlcSsap := hbacnet
  rw [wordAt_llcHeader] at hlength
  exact passes_llcHeader hlength.2

/-- A packet that is read passes. -/
theorem passes_of_decodeEthernetFrame {data : Bytes} {frame : EthernetFrame}
    (h : decodeEthernetFrame data = .ok frame) : Passes data := by
  have hlength : 17 ≤ data.length := by
    by_contra hshort
    unfold decodeEthernetFrame minFrameLen at h
    rw [if_pos (Nat.lt_of_not_le hshort)] at h
    cases h
  obtain ⟨destination, source, length, dsap, ssap, control, tail, rfl⟩ := exists_llcHeader hlength
  obtain ⟨⟨-, hhigh, -⟩, ⟨rfl, rfl, rfl⟩, -⟩ := decodeEthernetFrame_header.mp h
  exact passes_llcHeader hhigh

/-- A station does nothing with what does not pass. -/
theorem onData_of_not_passes (t : EthernetTransport) {data : Bytes} (h : ¬ Passes data) :
    t.onData data = {} := by
  unfold onData
  cases hcontrol : checkLlcControl data with
  | some control => exact absurd (passes_of_checkLlcControl hcontrol) h
  | none =>
    dsimp only
    unfold deliver
    cases hread : decodeEthernetFrame data with
    | ok frame => exact absurd (passes_of_decodeEthernetFrame hread) h
    | error e => rfl

/-- What a station sends to another one is handed to the network layer there without its
padding. -/
theorem delivered_of_sendUnicast {t peer : EthernetTransport} {npdu mac : Bytes}
    {sent : EthernetSent} (hsend : t.sendUnicast npdu mac = .ok sent)
    (hother : t.localMac ≠ peer.localMac) :
    peer.receive sent.frame = { delivered := [⟨npdu, t.localMac.bytes⟩] } := by
  unfold sendUnicast at hsend
  split_ifs at hsend with hstarted hmac hlong
  obtain rfl := Except.ok.inj hsend
  unfold maxEthernetNpdu at hlong
  have hfits : npdu.length ≤ 1497 := Nat.le_of_not_lt hlong
  have hcut : (encodeEthernetFrame (hardwareAddrAt mac 0) t.localMac npdu).length ≤
      recvBufferLength := by
    unfold encodeEthernetFrame padded recvBufferLength minEthernetPayload
    rw [List.length_append, List.length_replicate, length_llcHeader_append]
    omega
  have hword : (UInt16.ofNat (llcHeaderLen + npdu.length)).toNat = 3 + npdu.length :=
    UInt16.toNat_ofNat_of_lt' (show 3 + npdu.length < 65536 by omega)
  have hread : decodeEthernetFrame (encodeEthernetFrame (hardwareAddrAt mac 0) t.localMac npdu) =
      .ok ⟨hardwareAddrAt mac 0, t.localMac, npdu⟩ := by
    unfold encodeEthernetFrame padded
    rw [List.append_assoc, decodeEthernetFrame_header, hword, List.length_append,
      Nat.add_sub_cancel_left, List.take_left]
    exact ⟨by omega, ⟨rfl, rfl, rfl⟩, rfl⟩
  have hcontrol (control : UInt8) (h : checkLlcControl
      (encodeEthernetFrame (hardwareAddrAt mac 0) t.localMac npdu) = some control) :
      control = llcControlUi := by
    unfold checkLlcControl at h
    dsimp only at h
    split_ifs at h
    exact (Option.some.inj h).symm
  have hdeliver : peer.deliver (encodeEthernetFrame (hardwareAddrAt mac 0) t.localMac npdu) =
      { delivered := [⟨npdu, t.localMac.bytes⟩] } := by
    unfold deliver
    rw [hread]
    exact if_neg hother
  unfold receive onData
  rw [List.take_of_length_le hcut]
  cases hcheck : checkLlcControl (encodeEthernetFrame (hardwareAddrAt mac 0) t.localMac npdu) with
  | none => exact hdeliver
  | some control =>
    dsimp only
    rw [hcontrol control hcheck, if_neg (show ¬ llcControlUi = llcControlXidCmd by decide),
      if_neg (show ¬ llcControlUi = llcControlTestCmd by decide), ite_self]
    exact hdeliver

/-- The filter in front of a station changes nothing: what it keeps of a packet is handled like
the packet, and the station does nothing with the packets that it drops. -/
theorem receive_filtered (t : EthernetTransport) (data : Bytes) :
    ∃ kept, PacketFilter.run data bacnetBpfFilter 0 0 = some kept ∧
      (if kept = 0 then {} else t.receive (data.take kept)) = t.receive data := by
  refine ⟨_, run_bacnetBpfFilter data, ?_⟩
  by_cases hpasses : Passes data
  · rw [if_pos hpasses, if_neg (by decide)]
    unfold receive
    rw [List.take_take, Nat.min_eq_left (by decide)]
  · rw [if_neg hpasses, if_pos rfl]
    exact (t.onData_of_not_passes (mt (passes_take (by decide)).mp hpasses)).symm

end EthernetTransport

/-! ## Questions and answers -/

/-- An answer of the link control is no question. -/
theorem checkLlcControl_llcResponse (localMac remoteMac : HardwareAddr) (control : UInt8)
    (payload : Bytes) (n : ℕ) :
    checkLlcControl ((llcResponse localMac remoteMac control payload).take n) = none := by
  cases hcheck : checkLlcControl ((llcResponse localMac remoteMac control payload).take n) with
  | none => rfl
  | some found =>
    unfold checkLlcControl at hcheck
    dsimp only at hcheck
    split_ifs at hcheck with hshort hlength hbacnet
    unfold minFrameLen at hshort
    rw [List.length_take] at hshort
    have hssap : byteAt (llcResponse localMac remoteMac control payload) 15 =
        bacnetLlcSsap ||| 0x01 := rfl
    rw [byteAt_take (by omega), byteAt_take (by omega), hssap] at hbacnet
    exact absurd hbacnet.2 (by decide)

namespace EthernetTransport

/-- What a station sends is one answer to a question, which is no question itself. -/
theorem receive_sent (t : EthernetTransport) (data : Bytes) :
    (t.receive data).sent = [] ∨
      (checkLlcControl (data.take recvBufferLength)).isSome = true ∧
        ∃ dest control payload,
          (t.receive data).sent = [⟨dest, llcResponse t.localMac dest control payload⟩] := by
  have hdeliver (data : Bytes) : (t.deliver data).sent = [] := by
    unfold deliver
    cases decodeEthernetFrame data with
    | error e => rfl
    | ok frame =>
      dsimp only
      split_ifs <;> rfl
  unfold receive onData
  cases checkLlcControl (data.take recvBufferLength) with
  | none => exact .inl (hdeliver _)
  | some control =>
    dsimp only
    split_ifs
    · exact .inr ⟨rfl, _, _, _, rfl⟩
    · exact .inr ⟨rfl, _, _, _, rfl⟩
    · exact .inl (hdeliver _)
    · exact .inl (hdeliver _)

end EthernetTransport

section Segment

variable {ι : Type*}

/-- A frame on its way to a station. -/
structure EthernetPacket (ι : Type*) where
  receiver : ι
  frame : Bytes

/-- The stations of a network, and who hears what a station sends. -/
structure Segment (ι : Type*) where
  stations : ι → EthernetTransport
  hears : ι → HardwareAddr → List ι

namespace Segment

variable (segment : Segment ι)

/-- A frame arrives. -/
def handle (_ : Unit) (_ : Unit) (p : EthernetPacket ι) :
    Unit × List (EthernetPacket ι) × List (ι × ReceivedNpdu) :=
  let r := (segment.stations p.receiver).receive p.frame
  ((), r.sent.flatMap fun x =>
      (segment.hears p.receiver x.dest).map fun receiver => ⟨receiver, x.frame⟩,
    r.delivered.map fun npdu => (p.receiver, npdu))

/-- A bound on the frames that a frame causes, itself included. -/
def weight (listeners : ℕ) (p : EthernetPacket ι) : ℕ :=
  match checkLlcControl (p.frame.take EthernetTransport.recvBufferLength) with
  | some _ => 1 + listeners
  | none => 1

/-- The frames that a frame causes weigh less than that one. -/
theorem sum_handle_lt {listeners : ℕ}
    (hheard : ∀ i dest, (segment.hears i dest).length ≤ listeners) (p : EthernetPacket ι) :
    ((segment.handle () () p).2.1.map (weight listeners)).sum < weight listeners p := by
  unfold handle
  dsimp only
  rcases (segment.stations p.receiver).receive_sent p.frame with
    hnone | ⟨hasked, dest, control, payload, hone⟩
  · rw [hnone]
    unfold weight
    cases checkLlcControl (p.frame.take EthernetTransport.recvBufferLength) <;>
    · simp
      try omega
  · rw [hone, List.flatMap_singleton]
    have hanswer (i : ι) : weight listeners ⟨i, llcResponse
        (segment.stations p.receiver).localMac dest control payload⟩ = 1 := by
      unfold weight
      rw [checkLlcControl_llcResponse]
    have hweight : weight listeners p = 1 + listeners := by
      obtain ⟨asked, hasked⟩ := Option.isSome_iff_exists.mp hasked
      unfold weight
      rw [hasked]
    have hall (hearers : List ι) : ((hearers.map fun i => (⟨i, llcResponse
        (segment.stations p.receiver).localMac dest control payload⟩ : EthernetPacket ι)).map
          (weight listeners)).sum = hearers.length := by
      induction hearers with
      | nil => rfl
      | cons i hearers ih =>
        rw [List.map_cons, List.map_cons, List.sum_cons, hanswer, ih, List.length_cons,
          Nat.add_comm]
    have hfew := hheard p.receiver dest
    rw [hweight, hall]
    dsimp only
    omega

/-- Every conversation of the link control ends: each frame on the network causes at most one
answer for everyone who hears it, and no answer is answered. -/
theorem conversation_ends {listeners : ℕ}
    (hheard : ∀ i dest, (segment.hears i dest).length ≤ listeners)
    {flight : List (EthernetPacket ι)} {log : List (ι × ReceivedNpdu)} {is : List (ℕ × Unit)}
    {last : Cascade.Config Unit (EthernetPacket ι) (ι × ReceivedNpdu)}
    (hrun : Transition.run (Cascade.step segment.handle) ⟨(), flight, log⟩ is = some last) :
    is.length ≤ flight.length * (1 + listeners) := by
  have hlength := @Cascade.length_add_weight_le _ _ _ _ segment.handle (fun _ => True)
    (fun _ => True) (weight listeners) (fun _ _ _ _ _ => ⟨trivial, fun _ _ => trivial⟩)
    (fun _ _ p _ _ => segment.sum_handle_lt hheard p) _ _ _ ⟨trivial, fun _ _ => trivial⟩ hrun
  have hflight := List.sum_le_card_nsmul (flight.map (weight listeners)) (1 + listeners)
    fun w hw => by
      obtain ⟨p, -, rfl⟩ := List.mem_map.mp hw
      unfold weight
      cases checkLlcControl (p.frame.take EthernetTransport.recvBufferLength) <;> simp
  rw [List.length_map, smul_eq_mul] at hflight
  dsimp only at hlength
  omega

end Segment

/-- Two stations that hear each other. -/
def pairSegment : Segment Bool where
  stations i := ⟨⟨2, 0, 0, 0, 0, if i then 2 else 1⟩, true⟩
  hears i _ := [!i]

/-- A question of the first station. -/
def pairQuestion : EthernetPacket Bool :=
  ⟨true, [2, 0, 0, 0, 0, 2, 2, 0, 0, 0, 0, 1, 0, 3, 0x82, 0x82, 0xaf]⟩

/-- It is answered once, and then nothing more is sent. -/
theorem conversation_ends_pair :
    (∃ last, Transition.run (Cascade.step pairSegment.handle) ⟨(), [pairQuestion], []⟩
        [(0, ()), (0, ())] = some last ∧ last.flight = []) ∧
      ∀ is last, Transition.run (Cascade.step pairSegment.handle)
        ⟨(), [pairQuestion], []⟩ is = some last → is.length ≤ 2 :=
  ⟨⟨_, rfl, by decide⟩, fun _ _ hrun =>
    pairSegment.conversation_ends (fun _ _ => Nat.le_refl 1) hrun⟩

end Segment

end BacnetTransport
