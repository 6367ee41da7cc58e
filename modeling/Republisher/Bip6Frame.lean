import Republisher.Bvll

/-!
# The frames of BACnet/IPv6

A device is named by a virtual address of three bytes. Every frame is a type byte, a function,
the length, the virtual address of its sender and, in four functions, that of a receiver. A
datagram is read as a frame exactly when it begins with what the frame is written as.
-/

namespace BacnetTransport

open Wire

/-- A virtual address. -/
structure Bip6Vmac where
  a : UInt8
  b : UInt8
  c : UInt8
  deriving DecidableEq, Repr

/-- The bytes of a virtual address in order. -/
def Bip6Vmac.bytes (vmac : Bip6Vmac) : Bytes := [vmac.a, vmac.b, vmac.c]

/-- The address that no device has. -/
def Bip6Vmac.zero : Bip6Vmac := ⟨0, 0, 0⟩

/-- The functions that the code tells apart. -/
inductive Bvlc6Function
  | result
  | originalUnicast
  | originalBroadcast
  | addressResolution
  | forwardedAddressResolution
  | addressResolutionAck
  | virtualAddressResolution
  | virtualAddressResolutionAck
  | forwardedNpdu
  | registerForeignDevice
  | deleteForeignDeviceEntry
  | distributeBroadcastToNetwork
  | unknown (byte : UInt8)
  deriving DecidableEq, Repr

namespace Bvlc6Function

/-- The function of a byte. -/
def fromByte (byte : UInt8) : Bvlc6Function :=
  match byte with
  | 0x00 => .result
  | 0x01 => .originalUnicast
  | 0x02 => .originalBroadcast
  | 0x03 => .addressResolution
  | 0x04 => .forwardedAddressResolution
  | 0x05 => .addressResolutionAck
  | 0x06 => .virtualAddressResolution
  | 0x07 => .virtualAddressResolutionAck
  | 0x08 => .forwardedNpdu
  | 0x09 => .registerForeignDevice
  | 0x0a => .deleteForeignDeviceEntry
  | 0x0c => .distributeBroadcastToNetwork
  | other => .unknown other

/-- The byte of a function. -/
def toByte : Bvlc6Function → UInt8
  | .result => 0x00
  | .originalUnicast => 0x01
  | .originalBroadcast => 0x02
  | .addressResolution => 0x03
  | .forwardedAddressResolution => 0x04
  | .addressResolutionAck => 0x05
  | .virtualAddressResolution => 0x06
  | .virtualAddressResolutionAck => 0x07
  | .forwardedNpdu => 0x08
  | .registerForeignDevice => 0x09
  | .deleteForeignDeviceEntry => 0x0a
  | .distributeBroadcastToNetwork => 0x0c
  | .unknown byte => byte

/-- A byte stands for one function. -/
@[simp] theorem toByte_fromByte (byte : UInt8) : (fromByte byte).toByte = byte := by
  unfold fromByte
  split <;> rfl

/-- The frame names a receiver behind its sender. -/
def hasDestVmac : Bvlc6Function → Bool
  | .originalUnicast | .addressResolution | .addressResolutionAck
  | .virtualAddressResolutionAck => true
  | _ => false

end Bvlc6Function

/-- A frame, taken apart. -/
structure Bvlc6Frame where
  function : Bvlc6Function
  sourceVmac : Bip6Vmac
  destinationVmac : Option Bip6Vmac
  payload : Bytes
  deriving DecidableEq, Repr

/-- The type byte of BACnet/IPv6. -/
def bvlc6Type : UInt8 := 0x82

/-- The type, the function, the length and the sender. -/
def bvlc6HeaderLength : ℕ := 7

/-- The same with the receiver. -/
def bvlc6UnicastHeaderLength : ℕ := 10

/-! ## Writing -/

/-- Writes a frame that names no receiver. -/
def encodeBvlc6 (function : Bvlc6Function) (source : Bip6Vmac) (npdu : Bytes) :
    Except Error Bytes :=
  let totalLength := bvlc6HeaderLength + npdu.length
  if totalLength > u16Max then
    .error (.encoding s!"BVLC6 frame length {totalLength} exceeds 16-bit BVLC length field")
  else
    .ok (bvlc6Type :: function.toByte :: be (UInt16.ofNat totalLength) ++ source.bytes ++ npdu)

/-- The bytes of a frame that names a receiver. -/
def addressedFrame (function : Bvlc6Function) (source dest : Bip6Vmac) (npdu : Bytes) : Bytes :=
  bvlc6Type :: function.toByte :: be (UInt16.ofNat (bvlc6UnicastHeaderLength + npdu.length)) ++
    source.bytes ++ dest.bytes ++ npdu

/-- Writes a packet for one device. -/
def encodeBvlc6OriginalUnicast (source dest : Bip6Vmac) (npdu : Bytes) : Except Error Bytes :=
  let totalLength := bvlc6UnicastHeaderLength + npdu.length
  if totalLength > u16Max then
    .error (.encoding
      s!"BVLC6 Original-Unicast-NPDU length {totalLength} exceeds 16-bit BVLC length field")
  else .ok (addressedFrame .originalUnicast source dest npdu)

/-- Writes a packet for all devices. -/
def encodeBvlc6OriginalBroadcast (source : Bip6Vmac) (npdu : Bytes) : Except Error Bytes :=
  encodeBvlc6 .originalBroadcast source npdu

/-- The question whether another device has the virtual address of the sender. -/
def encodeVirtualAddressResolution (source : Bip6Vmac) : Bytes :=
  bvlc6Type :: Bvlc6Function.virtualAddressResolution.toByte ::
    be (UInt16.ofNat bvlc6HeaderLength) ++ source.bytes

/-- The answer of a device that has it. -/
def encodeVirtualAddressResolutionAck (source dest : Bip6Vmac) : Bytes :=
  addressedFrame .virtualAddressResolutionAck source dest []

/-- The answer to the question for the address of the device with a virtual address. -/
def encodeAddressResolutionAck (source dest : Bip6Vmac) : Bytes :=
  addressedFrame .addressResolutionAck source dest []

/-! ## Reading -/

/-- The three bytes from an index on. -/
def bip6VmacAt (data : Bytes) (index : ℕ) : Bip6Vmac :=
  ⟨byteAt data index, byteAt data (index + 1), byteAt data (index + 2)⟩

/-- Reads a frame. -/
def decodeBvlc6 (data : Bytes) : Except Error Bvlc6Frame :=
  if data.length < bvlc6HeaderLength then
    .error (.decoding 0
      s!"BVLC6 frame too short: need {bvlc6HeaderLength} bytes, have {data.length}")
  else if byteAt data 0 ≠ bvlc6Type then
    .error (.decoding 0 s!"BVLC6 expected type 0x82, got 0x{hexByte (byteAt data 0)}")
  else
    let function := Bvlc6Function.fromByte (byteAt data 1)
    let length := (wordAt data 2).toNat
    if length < bvlc6HeaderLength then
      .error (.decoding 2 "BVLC6 length less than header size")
    else if length > data.length then
      .error (.decoding 2 s!"BVLC6 length {length} exceeds data length {data.length}")
    else if function.hasDestVmac then
      if length < bvlc6UnicastHeaderLength then
        .error (.decoding 7 "BVLC6 frame too short for destination VMAC")
      else
        .ok ⟨function, bip6VmacAt data 4, some (bip6VmacAt data 7),
          (data.take length).drop bvlc6UnicastHeaderLength⟩
    else .ok ⟨function, bip6VmacAt data 4, none, (data.take length).drop bvlc6HeaderLength⟩

/-- The sixteen bytes of an IPv6 address. -/
structure Ipv6Addr where
  octets : Bytes
  length_octets : octets.length = 16
  deriving DecidableEq

/-- Where a datagram comes from or goes to, with the interface that a local address belongs to. -/
structure SocketAddrV6 where
  ip : Ipv6Addr
  port : UInt16
  flowinfo : UInt32
  scopeId : UInt32
  deriving DecidableEq

/-- What a forwarded frame carries: the device it comes from and its packet. -/
def decodeForwardedNpduPayload (payload : Bytes) :
    Except Error (Bip6Vmac × SocketAddrV6 × Bytes) :=
  if h : payload.length < 21 then
    .error (.decoding 0
      s!"ForwardedNpdu payload too short: need at least 21 bytes, have {payload.length}")
  else
    .ok (bip6VmacAt payload 0,
      ⟨⟨(payload.drop 3).take 16, by simp; omega⟩, wordAt payload 19, 0, 0⟩, payload.drop 21)

/-! ## What is read is what is written -/

/-- The header of a frame without its receiver. -/
def bvlc6Header (raw : UInt8) (length : UInt16) (source : Bip6Vmac) : Bytes :=
  bvlc6Type :: raw :: be length ++ source.bytes

@[simp] theorem length_bvlc6Header (raw : UInt8) (length : UInt16) (source : Bip6Vmac) :
    (bvlc6Header raw length source).length = 7 := rfl

namespace Bvlc6Frame

/-- What stands behind the header. -/
def body (f : Bvlc6Frame) : Bytes :=
  match f.destinationVmac with
  | some dest => dest.bytes ++ f.payload
  | none => f.payload

/-- The frame has a byte for its function, and a receiver where its function has one. -/
structure WellFormed (f : Bvlc6Frame) : Prop where
  function : .fromByte f.function.toByte = f.function
  receiver : f.destinationVmac.isSome = f.function.hasDestVmac

end Bvlc6Frame

/-- Virtual addresses with the same bytes are the same. -/
theorem bytes_inj {x y : Bip6Vmac} : x.bytes = y.bytes ↔ x = y := by
  obtain ⟨a, b, c⟩ := x
  obtain ⟨d, e, f⟩ := y
  simp [Bip6Vmac.bytes]

/-- Three bytes in front of others are a virtual address. -/
theorem exists_vmac {data : Bytes} (h : 3 ≤ data.length) :
    ∃ (vmac : Bip6Vmac) (rest : Bytes), data = vmac.bytes ++ rest := by
  match data, h with
  | a :: b :: c :: rest, _ => exact ⟨⟨a, b, c⟩, rest, rfl⟩

/-- Enough bytes that begin with the type begin with a header. -/
theorem exists_bvlc6Header {data : Bytes} (hlength : bvlc6HeaderLength ≤ data.length)
    (htype : byteAt data 0 = bvlc6Type) :
    ∃ raw length source tail, data = bvlc6Header raw length source ++ tail := by
  match data, hlength with
  | first :: raw :: hi :: lo :: a :: b :: c :: tail, _ =>
    obtain rfl : first = bvlc6Type := htype
    refine ⟨raw, word hi lo, ⟨a, b, c⟩, tail, ?_⟩
    simp [bvlc6Header, Bip6Vmac.bytes, be]

/-- The bytes of a frame behind its header. -/
theorem drop_take_bvlc6Header {raw : UInt8} {length : UInt16} {source : Bip6Vmac} {tail : Bytes}
    (n m : ℕ) (hn : 7 ≤ n) :
    ((bvlc6Header raw length source ++ tail).take n).drop (7 + m) = (tail.take (n - 7)).drop m := by
  rw [List.take_append, length_bvlc6Header, List.take_of_length_le (by simpa using hn),
    ← length_bvlc6Header raw length source, List.drop_length_add_append]

/-- A frame is read behind a header exactly when the header names its function and its sender and
the bytes that the header counts are its body. -/
theorem decodeBvlc6_header {raw : UInt8} {length : UInt16} {source : Bip6Vmac} {tail : Bytes}
    {f : Bvlc6Frame} : decodeBvlc6 (bvlc6Header raw length source ++ tail) = .ok f ↔
      (7 ≤ length.toNat ∧ length.toNat ≤ 7 + tail.length) ∧
        f.function = .fromByte raw ∧ f.sourceVmac = source ∧
          f.destinationVmac.isSome = f.function.hasDestVmac ∧
            f.body = tail.take (length.toNat - 7) := by
  obtain ⟨function, sender, dest, payload⟩ := f
  have hlength : (bvlc6Header raw length source ++ tail).length = 7 + tail.length := by
    rw [List.length_append, length_bvlc6Header]
  have hword : wordAt (bvlc6Header raw length source ++ tail) 2 = length := word_high_low _
  have htype : ¬ byteAt (bvlc6Header raw length source ++ tail) 0 ≠ bvlc6Type := not_not.mpr rfl
  have hraw : byteAt (bvlc6Header raw length source ++ tail) 1 = raw := rfl
  have hsource : bip6VmacAt (bvlc6Header raw length source ++ tail) 4 = source := rfl
  have hdest : bip6VmacAt (bvlc6Header raw length source ++ tail) 7 = bip6VmacAt tail 0 := rfl
  unfold decodeBvlc6 bvlc6HeaderLength bvlc6UnicastHeaderLength
  dsimp only
  rw [hlength, hword, hraw, hsource, hdest, if_neg (by omega), if_neg htype]
  by_cases hheader : length.toNat < 7
  · rw [if_pos hheader]
    simp only [reduceCtorEq, false_iff]
    omega
  rw [if_neg hheader]
  by_cases hlong : length.toNat > 7 + tail.length
  · rw [if_pos hlong]
    simp only [reduceCtorEq, false_iff]
    omega
  rw [if_neg hlong, drop_take_bvlc6Header length.toNat 0 (Nat.le_of_not_lt hheader),
    drop_take_bvlc6Header length.toNat 3 (Nat.le_of_not_lt hheader), List.drop_zero]
  have hcounted : 7 ≤ length.toNat ∧ length.toNat ≤ 7 + tail.length := by omega
  rw [and_iff_right hcounted]
  by_cases hreceiver : (Bvlc6Function.fromByte raw).hasDestVmac = true
  · rw [if_pos hreceiver]
    by_cases hshort : length.toNat < 10
    · rw [if_pos hshort]
      simp only [reduceCtorEq, false_iff]
      rintro ⟨rfl, -, hsome, hbody⟩
      obtain ⟨vmac, rfl⟩ := Option.isSome_iff_exists.mp (hsome.trans hreceiver)
      have hcount := congrArg List.length hbody
      simp only [Bvlc6Frame.body, Bip6Vmac.bytes, List.length_append, List.length_cons,
        List.length_take] at hcount
      omega
    · rw [if_neg hshort]
      obtain ⟨vmac, rest, rfl⟩ := exists_vmac (show 3 ≤ tail.length by omega)
      have hvmac : bip6VmacAt (vmac.bytes ++ rest) 0 = vmac := rfl
      obtain ⟨count, hcount⟩ := Nat.exists_eq_add_of_le (Nat.le_of_not_lt hshort)
      have hbehind : (vmac.bytes ++ rest).take (length.toNat - 7) =
          vmac.bytes ++ rest.take count := by
        have hskip : length.toNat - 7 = vmac.bytes.length + count := by
          rw [hcount, Bip6Vmac.bytes]
          simp only [List.length_cons, List.length_nil]
          omega
        rw [hskip, List.take_length_add_append]
      rw [hvmac, hbehind, Except.ok.injEq, Bvlc6Frame.mk.injEq]
      constructor
      · rintro ⟨rfl, rfl, rfl, rfl⟩
        exact ⟨rfl, rfl, hreceiver.symm, rfl⟩
      · rintro ⟨rfl, rfl, hsome, hbody⟩
        obtain ⟨found, rfl⟩ := Option.isSome_iff_exists.mp (hsome.trans hreceiver)
        obtain ⟨hsame, rfl⟩ := List.append_inj hbody rfl
        exact ⟨rfl, rfl, by rw [bytes_inj.mp hsame], rfl⟩
  · rw [if_neg hreceiver, Except.ok.injEq, Bvlc6Frame.mk.injEq]
    have hnone : (Bvlc6Function.fromByte raw).hasDestVmac = false := by simpa using hreceiver
    constructor
    · rintro ⟨rfl, rfl, rfl, rfl⟩
      exact ⟨rfl, rfl, hnone.symm, rfl⟩
    · rintro ⟨rfl, rfl, hsome, hbody⟩
      obtain rfl : dest = none := by simpa using hsome.trans hnone
      exact ⟨rfl, rfl, rfl, hbody.symm⟩

/-- When a frame without a receiver is written, and as what. -/
theorem encodeBvlc6_eq_ok {function : Bvlc6Function} {source : Bip6Vmac} {npdu frame : Bytes} :
    encodeBvlc6 function source npdu = .ok frame ↔ 7 + npdu.length ≤ u16Max ∧
      frame = bvlc6Header function.toByte (UInt16.ofNat (7 + npdu.length)) source ++ npdu := by
  unfold encodeBvlc6 bvlc6HeaderLength bvlc6Header
  by_cases hlong : 7 + npdu.length > u16Max
  · rw [if_pos hlong]
    simp only [reduceCtorEq, false_iff]
    omega
  · rw [if_neg hlong, Except.ok.injEq, eq_comm]
    exact (and_iff_right (by omega)).symm

/-- What is read as a frame is well formed and begins with what the frame is written as. -/
theorem written_of_decodeBvlc6 {data : Bytes} {f : Bvlc6Frame} (h : decodeBvlc6 data = .ok f) :
    f.WellFormed ∧ ∃ frame rest, encodeBvlc6 f.function f.sourceVmac f.body = .ok frame ∧
      data = frame ++ rest := by
  have hlength : bvlc6HeaderLength ≤ data.length := by
    by_contra hshort
    unfold decodeBvlc6 at h
    rw [if_pos (Nat.lt_of_not_le hshort)] at h
    cases h
  have htype : byteAt data 0 = bvlc6Type := by
    by_contra hother
    unfold decodeBvlc6 at h
    rw [if_neg (Nat.not_lt_of_le hlength), if_pos hother] at h
    cases h
  obtain ⟨raw, length, source, tail, rfl⟩ := exists_bvlc6Header hlength htype
  obtain ⟨⟨hlow, hhigh⟩, hfunction, hsource, hreceiver, hbody⟩ := decodeBvlc6_header.mp h
  have hword := length.toNat_lt
  have hcount : 7 + f.body.length = length.toNat := by
    rw [hbody, List.length_take]
    omega
  refine ⟨⟨by rw [hfunction, Bvlc6Function.toByte_fromByte], hreceiver⟩, _,
    tail.drop (length.toNat - 7), encodeBvlc6_eq_ok.mpr ⟨?_, rfl⟩, ?_⟩
  · unfold u16Max
    omega
  · rw [hcount, UInt16.ofNat_toNat, hfunction, Bvlc6Function.toByte_fromByte, hsource, hbody,
      List.append_assoc, List.take_append_drop]

/-- A written frame is read, whatever follows it. -/
theorem decodeBvlc6_written {f : Bvlc6Frame} (hf : f.WellFormed) {frame : Bytes}
    (hframe : encodeBvlc6 f.function f.sourceVmac f.body = .ok frame) (rest : Bytes) :
    decodeBvlc6 (frame ++ rest) = .ok f := by
  obtain ⟨hfits, rfl⟩ := encodeBvlc6_eq_ok.mp hframe
  unfold u16Max at hfits
  have hword : (UInt16.ofNat (7 + f.body.length)).toNat = 7 + f.body.length :=
    UInt16.toNat_ofNat_of_lt' (show 7 + f.body.length < 65536 by omega)
  rw [List.append_assoc, decodeBvlc6_header, hword, List.length_append,
    Nat.add_sub_cancel_left, List.take_left]
  exact ⟨by omega, hf.function.symm, rfl, hf.receiver, rfl⟩

/-- A datagram is read as a frame exactly when the frame is well formed and the datagram begins
with what the frame is written as. -/
theorem decodeBvlc6_eq_ok_iff_encode (data : Bytes) (f : Bvlc6Frame) :
    decodeBvlc6 data = .ok f ↔ f.WellFormed ∧
      ∃ frame rest, encodeBvlc6 f.function f.sourceVmac f.body = .ok frame ∧
        data = frame ++ rest := by
  constructor
  · exact written_of_decodeBvlc6
  · rintro ⟨hf, frame, rest, hframe, rfl⟩
    exact decodeBvlc6_written hf hframe rest

/-- A frame that names a receiver is one whose body begins with that. -/
theorem addressedFrame_eq (function : Bvlc6Function) (source dest : Bip6Vmac) (npdu : Bytes) :
    addressedFrame function source dest npdu =
      bvlc6Header function.toByte (UInt16.ofNat (7 + (dest.bytes ++ npdu).length)) source ++
        (dest.bytes ++ npdu) := by
  have hlength : 7 + (dest.bytes ++ npdu).length = bvlc6UnicastHeaderLength + npdu.length := by
    rw [List.length_append, Bip6Vmac.bytes, bvlc6UnicastHeaderLength]
    simp only [List.length_cons, List.length_nil]
    omega
  rw [hlength, ← List.append_assoc]
  rfl

/-- A frame that names a receiver is read back. -/
theorem decodeBvlc6_addressedFrame (function : Bvlc6Function) (source dest : Bip6Vmac)
    {npdu : Bytes} (hfunction : .fromByte function.toByte = function)
    (hreceiver : function.hasDestVmac = true)
    (hfits : bvlc6UnicastHeaderLength + npdu.length ≤ u16Max) (rest : Bytes) :
    decodeBvlc6 (addressedFrame function source dest npdu ++ rest) =
      .ok ⟨function, source, some dest, npdu⟩ := by
  have hwritten : encodeBvlc6 function source (dest.bytes ++ npdu) =
      .ok (addressedFrame function source dest npdu) := by
    refine encodeBvlc6_eq_ok.mpr ⟨?_, addressedFrame_eq ..⟩
    rw [List.length_append, Bip6Vmac.bytes]
    unfold bvlc6UnicastHeaderLength at hfits
    simp only [List.length_cons, List.length_nil]
    omega
  exact decodeBvlc6_written (f := ⟨function, source, some dest, npdu⟩)
    ⟨hfunction, hreceiver.symm⟩ hwritten rest

/-- The question for a virtual address is read back. -/
theorem decodeBvlc6_virtualAddressResolution (source : Bip6Vmac) :
    decodeBvlc6 (encodeVirtualAddressResolution source) =
      .ok ⟨.virtualAddressResolution, source, none, []⟩ := by
  have hwritten : encodeBvlc6 .virtualAddressResolution source [] =
      .ok (encodeVirtualAddressResolution source) := rfl
  have hread := decodeBvlc6_written (f := ⟨.virtualAddressResolution, source, none, []⟩)
    ⟨rfl, rfl⟩ hwritten []
  rwa [List.append_nil] at hread

end BacnetTransport
