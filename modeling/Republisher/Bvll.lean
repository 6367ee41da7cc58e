import Republisher.Wire
import Mathlib.Data.List.Basic

/-!
# The virtual link layer of BACnet/IP

Every datagram is a type byte, a function, the length of the frame and what the function
carries. A forwarded frame names the device it comes from in front of that. What is written
is read back, also with bytes behind the frame, and a frame is read in no other way.
-/

namespace BacnetTransport

open Wire

/-- Bytes as they are sent and received. -/
abbrev Bytes := List UInt8

/-- The four bytes of an IPv4 address. -/
structure Octets where
  a : UInt8
  b : UInt8
  c : UInt8
  d : UInt8
  deriving DecidableEq, Repr

/-- The bytes of an address in order. -/
def Octets.bytes (ip : Octets) : Bytes := [ip.a, ip.b, ip.c, ip.d]

/-- Where a datagram comes from or goes to. -/
structure Endpoint where
  ip : Octets
  port : UInt16
  deriving DecidableEq, Repr

/-- Why a frame is not written or not read, or a request is not answered. -/
inductive Error
  | encoding (message : String)
  | decoding (offset : ℕ) (message : String)
  | bufferTooShort (needed available : ℕ)
  | timeout (seconds : ℕ)
  | transport (message : String)
  deriving DecidableEq, Repr

/-- The functions of the link layer that the code tells apart. -/
inductive BvlcFunction
  | bvlcResult
  | writeBroadcastDistributionTable
  | readBroadcastDistributionTable
  | readBroadcastDistributionTableAck
  | forwardedNpdu
  | registerForeignDevice
  | readForeignDeviceTable
  | readForeignDeviceTableAck
  | deleteForeignDeviceTableEntry
  | distributeBroadcastToNetwork
  | originalUnicastNpdu
  | originalBroadcastNpdu
  | other (raw : UInt8)
  deriving DecidableEq, Repr

/-- The results that the code sends. -/
inductive BvlcResultCode
  | successfulCompletion
  | writeBroadcastDistributionTableNak
  | readBroadcastDistributionTableNak
  | registerForeignDeviceNak
  | readForeignDeviceTableNak
  | deleteForeignDeviceTableEntryNak
  | distributeBroadcastToNetworkNak
  | other (raw : UInt16)
  deriving DecidableEq, Repr

/-- The numbers that the types crate gives the functions and the results. A byte stands for one
function, and each function that has a name has a byte of its own. -/
structure BvlcCodes where
  /-- How a result is shown in a message. -/
  debug : BvlcResultCode → String
  toRaw : BvlcFunction → UInt8
  fromRaw : UInt8 → BvlcFunction
  resultToRaw : BvlcResultCode → UInt16
  resultFromRaw : UInt16 → BvlcResultCode
  toRaw_fromRaw : ∀ raw, toRaw (fromRaw raw) = raw
  fromRaw_toRaw : ∀ f, (∀ raw, f ≠ .other raw) → fromRaw (toRaw f) = f
  resultToRaw_fromRaw : ∀ raw, resultToRaw (resultFromRaw raw) = raw
  resultFromRaw_toRaw :
    ∀ code, (∀ raw, code ≠ .other raw) → resultFromRaw (resultToRaw code) = code

/-- The byte of a function. -/
def functionToRaw : BvlcFunction → UInt8
  | .bvlcResult => 0x00
  | .writeBroadcastDistributionTable => 0x01
  | .readBroadcastDistributionTable => 0x02
  | .readBroadcastDistributionTableAck => 0x03
  | .forwardedNpdu => 0x04
  | .registerForeignDevice => 0x05
  | .readForeignDeviceTable => 0x06
  | .readForeignDeviceTableAck => 0x07
  | .deleteForeignDeviceTableEntry => 0x08
  | .distributeBroadcastToNetwork => 0x09
  | .originalUnicastNpdu => 0x0a
  | .originalBroadcastNpdu => 0x0b
  | .other raw => raw

/-- The function of a byte. -/
def functionFromRaw (raw : UInt8) : BvlcFunction :=
  match raw with
  | 0x00 => .bvlcResult
  | 0x01 => .writeBroadcastDistributionTable
  | 0x02 => .readBroadcastDistributionTable
  | 0x03 => .readBroadcastDistributionTableAck
  | 0x04 => .forwardedNpdu
  | 0x05 => .registerForeignDevice
  | 0x06 => .readForeignDeviceTable
  | 0x07 => .readForeignDeviceTableAck
  | 0x08 => .deleteForeignDeviceTableEntry
  | 0x09 => .distributeBroadcastToNetwork
  | 0x0a => .originalUnicastNpdu
  | 0x0b => .originalBroadcastNpdu
  | other => .other other

/-- The number of a result. -/
def resultToRaw : BvlcResultCode → UInt16
  | .successfulCompletion => 0x0000
  | .writeBroadcastDistributionTableNak => 0x0010
  | .readBroadcastDistributionTableNak => 0x0020
  | .registerForeignDeviceNak => 0x0030
  | .readForeignDeviceTableNak => 0x0040
  | .deleteForeignDeviceTableEntryNak => 0x0050
  | .distributeBroadcastToNetworkNak => 0x0060
  | .other raw => raw

/-- The result of a number. -/
def resultFromRaw (raw : UInt16) : BvlcResultCode :=
  match raw with
  | 0x0000 => .successfulCompletion
  | 0x0010 => .writeBroadcastDistributionTableNak
  | 0x0020 => .readBroadcastDistributionTableNak
  | 0x0030 => .registerForeignDeviceNak
  | 0x0040 => .readForeignDeviceTableNak
  | 0x0050 => .deleteForeignDeviceTableEntryNak
  | 0x0060 => .distributeBroadcastToNetworkNak
  | other => .other other

/-- The numbers of the standard. -/
def standardCodes : BvlcCodes where
  debug _ := "BvlcResultCode"
  toRaw := functionToRaw
  fromRaw := functionFromRaw
  resultToRaw := resultToRaw
  resultFromRaw := resultFromRaw
  toRaw_fromRaw raw := by
    unfold functionFromRaw
    split <;> rfl
  fromRaw_toRaw f h := by
    cases f with
    | other raw => exact absurd rfl (h raw)
    | _ => rfl
  resultToRaw_fromRaw raw := by
    unfold resultFromRaw
    split <;> rfl
  resultFromRaw_toRaw code h := by
    cases code with
    | other raw => exact absurd rfl (h raw)
    | _ => rfl

/-- The type byte of BACnet/IP. -/
def bvlcTypeBacnetIp : UInt8 := 0x81

/-- The type, the function and the length. -/
def bvllHeaderLength : ℕ := 4

/-- The address and the port in front of a forwarded frame. -/
def forwardedAddrLength : ℕ := 6

/-- The largest number of a length field. -/
def u16Max : ℕ := 65535

/-- A frame of the link layer, taken apart. -/
structure BvllMessage where
  function : BvlcFunction
  payload : Bytes
  originatingIp : Option Octets
  originatingPort : Option UInt16
  deriving DecidableEq, Repr

variable (codes : BvlcCodes)

/-- Writes a frame of any function but a forwarded one. -/
def encodeBvll (function : BvlcFunction) (payload : Bytes) : Except Error Bytes :=
  let totalLength := bvllHeaderLength + payload.length
  if totalLength > u16Max then
    .error (.encoding s!"BVLL frame length {totalLength} exceeds 16-bit BVLC length field")
  else
    .ok (bvlcTypeBacnetIp :: codes.toRaw function :: be (UInt16.ofNat totalLength) ++ payload)

/-- Writes a forwarded frame with the address it comes from. -/
def encodeBvllForwarded (origin : Endpoint) (npdu : Bytes) : Except Error Bytes :=
  let totalLength := bvllHeaderLength + forwardedAddrLength + npdu.length
  if totalLength > u16Max then
    .error (.encoding
      s!"BVLL Forwarded-NPDU length {totalLength} exceeds 16-bit BVLC length field")
  else
    .ok (bvlcTypeBacnetIp :: codes.toRaw .forwardedNpdu :: be (UInt16.ofNat totalLength) ++
      (origin.ip.bytes ++ be origin.port ++ npdu))

/-- The byte at an index that the caller has checked. -/
def byteAt (data : Bytes) (index : ℕ) : UInt8 := data.getD index 0

/-- A digit as an upper-case hexadecimal character. -/
def upperHexDigit (n : ℕ) : Char := (Nat.digitChar n).toUpper

/-- A byte as two upper-case hexadecimal digits. -/
def hexByte (b : UInt8) : String :=
  String.ofList [upperHexDigit (b.toNat / 16), upperHexDigit (b.toNat % 16)]

/-- The four bytes from an index on. -/
def octetsAt (data : Bytes) (index : ℕ) : Octets :=
  ⟨byteAt data index, byteAt data (index + 1), byteAt data (index + 2), byteAt data (index + 3)⟩

/-- The word at an index. -/
def wordAt (data : Bytes) (index : ℕ) : UInt16 := word (byteAt data index) (byteAt data (index + 1))

/-- Reads what a frame of a known function and length carries. -/
def decodeBvllBody (function : BvlcFunction) (length : ℕ) (data : Bytes) :
    Except Error BvllMessage :=
  if length < bvllHeaderLength then
    .error (.decoding 2 "BVLL length less than header size")
  else if length > data.length then
    .error (.decoding 2 s!"BVLL length {length} exceeds data length {data.length}")
  else if function = .forwardedNpdu then
    if length < bvllHeaderLength + forwardedAddrLength then
      .error (.decoding 2 "BVLL Forwarded-NPDU too short for originating address")
    else
      .ok ⟨function, (data.take length).drop (bvllHeaderLength + forwardedAddrLength),
        some (octetsAt data 4), some (wordAt data 8)⟩
  else
    .ok ⟨function, (data.take length).drop bvllHeaderLength, none, none⟩

/-- Reads a frame. -/
def decodeBvll (data : Bytes) : Except Error BvllMessage :=
  if data.length < bvllHeaderLength then
    .error (.decoding 0 "BVLL frame too short")
  else if byteAt data 0 ≠ bvlcTypeBacnetIp then
    .error (.decoding 0 ("BVLL expected type 0x81, got 0x" ++ hexByte (byteAt data 0)))
  else
    decodeBvllBody (codes.fromRaw (byteAt data 1)) (wordAt data 2).toNat data

/-- The address of a device on the link: four bytes of address and two of port. -/
def encodeBipMac (device : Endpoint) : Bytes := device.ip.bytes ++ be device.port

/-! ## What is written is read back -/

/-- Writes a message as its fields ask for. -/
def BvllMessage.encode (m : BvllMessage) : Except Error Bytes :=
  match m.originatingIp, m.originatingPort with
  | some ip, some port => encodeBvllForwarded codes ⟨ip, port⟩ m.payload
  | _, _ => encodeBvll codes m.function m.payload

/-- A message whose function has its own byte, with an originating device exactly when it is
forwarded. -/
structure BvllMessage.WellFormed (m : BvllMessage) : Prop where
  function : codes.fromRaw (codes.toRaw m.function) = m.function
  ip : m.originatingIp.isSome = true ↔ m.function = .forwardedNpdu
  port : m.originatingPort.isSome = true ↔ m.function = .forwardedNpdu

/-- What the bytes behind the header of a frame say, which states the length of the frame. -/
def BvllMessage.Behind (m : BvllMessage) (length : ℕ) (tail : Bytes) : Prop :=
  bvllHeaderLength ≤ length ∧ length ≤ bvllHeaderLength + tail.length ∧
    ((m.function = .forwardedNpdu ∧ bvllHeaderLength + forwardedAddrLength ≤ length ∧
        m.payload = (tail.take (length - bvllHeaderLength)).drop forwardedAddrLength ∧
        m.originatingIp = some (octetsAt tail 0) ∧ m.originatingPort = some (wordAt tail 4)) ∨
      (m.function ≠ .forwardedNpdu ∧ m.payload = tail.take (length - bvllHeaderLength) ∧
        m.originatingIp = none ∧ m.originatingPort = none))

/-- Enough bytes for a header. -/
theorem exists_header {data : Bytes} (h : bvllHeaderLength ≤ data.length) :
    ∃ first raw hi lo tail, data = first :: raw :: hi :: lo :: tail :=
  match data, h with
  | first :: raw :: hi :: lo :: tail, _ => ⟨first, raw, hi, lo, tail, rfl⟩

/-- What the bytes behind a header are read as. -/
theorem decodeBvllBody_eq_ok {function : BvlcFunction} {length : ℕ} {first raw hi lo : UInt8}
    {tail : Bytes} {m : BvllMessage} :
    decodeBvllBody function length (first :: raw :: hi :: lo :: tail) = .ok m ↔
      m.function = function ∧ m.Behind length tail := by
  obtain ⟨f, payload, ip, port⟩ := m
  have htake : 4 ≤ length → (first :: raw :: hi :: lo :: tail).take length =
      first :: raw :: hi :: lo :: tail.take (length - 4) := by
    intro h
    obtain ⟨k, rfl⟩ := Nat.exists_eq_add_of_le' h
    rfl
  unfold decodeBvllBody BvllMessage.Behind
  rw [bvllHeaderLength, forwardedAddrLength]
  by_cases hheader : length < 4
  · rw [if_pos hheader]
    simp only [reduceCtorEq, false_iff]
    omega
  rw [if_neg hheader]
  by_cases hlong : length > (first :: raw :: hi :: lo :: tail).length
  · rw [if_pos hlong]
    simp only [List.length_cons] at hlong
    simp only [reduceCtorEq, false_iff]
    omega
  rw [if_neg hlong, htake (by omega)]
  simp only [List.length_cons] at hlong
  by_cases hforward : function = .forwardedNpdu
  · rw [if_pos hforward]
    subst hforward
    by_cases haddr : length < 4 + 6
    · rw [if_pos haddr]
      simp only [reduceCtorEq, false_iff]
      rintro ⟨rfl, -, -, ⟨-, h, -⟩ | ⟨h, -⟩⟩
      · omega
      · exact h rfl
    · rw [if_neg haddr]
      simp only [Except.ok.injEq, BvllMessage.mk.injEq]
      constructor
      · rintro ⟨rfl, rfl, rfl, rfl⟩
        exact ⟨rfl, by omega, by omega, .inl ⟨rfl, by omega, rfl, rfl, rfl⟩⟩
      · rintro ⟨rfl, -, -, ⟨-, -, rfl, rfl, rfl⟩ | ⟨h, -⟩⟩
        · exact ⟨rfl, rfl, rfl, rfl⟩
        · exact absurd rfl h
  · rw [if_neg hforward]
    simp only [Except.ok.injEq, BvllMessage.mk.injEq]
    constructor
    · rintro ⟨rfl, rfl, rfl, rfl⟩
      exact ⟨rfl, by omega, by omega, .inr ⟨hforward, rfl, rfl, rfl⟩⟩
    · rintro ⟨rfl, -, -, ⟨h, -⟩ | ⟨-, rfl, rfl, rfl⟩⟩
      · exact absurd h hforward
      · exact ⟨rfl, rfl, rfl, rfl⟩

/-- A frame is read from its header and the bytes behind it. -/
theorem decodeBvll_eq_ok {data : Bytes} {m : BvllMessage} :
    decodeBvll codes data = .ok m ↔ ∃ raw hi lo tail,
      data = bvlcTypeBacnetIp :: raw :: hi :: lo :: tail ∧ m.function = codes.fromRaw raw ∧
        m.Behind (word hi lo).toNat tail := by
  constructor
  · intro h
    unfold decodeBvll at h
    by_cases hshort : data.length < bvllHeaderLength
    · rw [if_pos hshort] at h
      cases h
    rw [if_neg hshort] at h
    by_cases htype : byteAt data 0 ≠ bvlcTypeBacnetIp
    · rw [if_pos htype] at h
      cases h
    rw [if_neg htype] at h
    obtain ⟨first, raw, hi, lo, tail, rfl⟩ := exists_header (Nat.le_of_not_lt hshort)
    obtain rfl : first = bvlcTypeBacnetIp := not_not.mp htype
    exact ⟨raw, hi, lo, tail, rfl, decodeBvllBody_eq_ok.mp h⟩
  · rintro ⟨raw, hi, lo, tail, rfl, h⟩
    unfold decodeBvll
    rw [if_neg (by simp [bvllHeaderLength]), if_neg (by simp [byteAt])]
    exact decodeBvllBody_eq_ok.mpr h

/-- What stands behind the header of a written message. -/
def BvllMessage.body (m : BvllMessage) : Bytes :=
  match m.originatingIp, m.originatingPort with
  | some ip, some port => ip.bytes ++ be port ++ m.payload
  | _, _ => m.payload

/-- When a frame is written, and as what. -/
theorem encodeBvll_eq_ok {function : BvlcFunction} {payload frame : Bytes} :
    encodeBvll codes function payload = .ok frame ↔
      bvllHeaderLength + payload.length ≤ u16Max ∧ frame = bvlcTypeBacnetIp ::
        codes.toRaw function ::
          be (UInt16.ofNat (bvllHeaderLength + payload.length)) ++ payload := by
  unfold encodeBvll
  by_cases hlong : bvllHeaderLength + payload.length > u16Max
  · rw [if_pos hlong]
    simp only [reduceCtorEq, false_iff]
    omega
  · rw [if_neg hlong, Except.ok.injEq, eq_comm]
    exact (and_iff_right (by omega)).symm

/-- When a forwarded frame is written, and as what. -/
theorem encodeBvllForwarded_eq_ok {origin : Endpoint} {npdu frame : Bytes} :
    encodeBvllForwarded codes origin npdu = .ok frame ↔
      bvllHeaderLength + forwardedAddrLength + npdu.length ≤ u16Max ∧ frame = bvlcTypeBacnetIp ::
        codes.toRaw .forwardedNpdu ::
          be (UInt16.ofNat (bvllHeaderLength + forwardedAddrLength + npdu.length)) ++
            (origin.ip.bytes ++ be origin.port ++ npdu) := by
  unfold encodeBvllForwarded
  by_cases hlong : bvllHeaderLength + forwardedAddrLength + npdu.length > u16Max
  · rw [if_pos hlong]
    simp only [reduceCtorEq, false_iff]
    omega
  · rw [if_neg hlong, Except.ok.injEq, eq_comm]
    exact (and_iff_right (by omega)).symm

/-- The length of an address in front of a payload. -/
theorem length_origin_append (ip : Octets) (port : UInt16) (payload : Bytes) :
    (ip.bytes ++ be port ++ payload).length = forwardedAddrLength + payload.length := by
  simp only [Octets.bytes, forwardedAddrLength, List.length_append, be_length, List.length_cons,
    List.length_nil]

/-- Enough bytes for an address begin with one. -/
theorem exists_origin (tail : Bytes) (h : forwardedAddrLength ≤ tail.length) :
    ∃ (origin : Endpoint) (rest : Bytes), tail = origin.ip.bytes ++ be origin.port ++ rest := by
  match tail, h with
  | a :: b :: c :: d :: hi :: lo :: rest, _ =>
    refine ⟨⟨⟨a, b, c, d⟩, word hi lo⟩, rest, ?_⟩
    simp [Octets.bytes, be]

/-- The address is read where it is written. -/
theorem octetsAt_origin (origin : Endpoint) (rest : Bytes) :
    octetsAt (origin.ip.bytes ++ be origin.port ++ rest) 0 = origin.ip := rfl

/-- The port is read behind the address. -/
theorem wordAt_origin (origin : Endpoint) (rest : Bytes) :
    wordAt (origin.ip.bytes ++ be origin.port ++ rest) 4 = origin.port :=
  word_high_low origin.port

/-- A message that is forwarded has the device it comes from, and no other message has one. -/
theorem BvllMessage.WellFormed.forms {m : BvllMessage} (hm : m.WellFormed codes) :
    (∃ (origin : Endpoint) (payload : Bytes),
      m = ⟨.forwardedNpdu, payload, some origin.ip, some origin.port⟩) ∨
      ∃ function payload, function ≠ .forwardedNpdu ∧ m = ⟨function, payload, none, none⟩ := by
  obtain ⟨function, payload, ip, port⟩ := m
  by_cases hforward : function = .forwardedNpdu
  · obtain ⟨ip, rfl⟩ := Option.isSome_iff_exists.mp (hm.ip.mpr hforward)
    obtain ⟨port, rfl⟩ := Option.isSome_iff_exists.mp (hm.port.mpr hforward)
    exact .inl ⟨⟨ip, port⟩, payload, by rw [hforward]⟩
  · have hip : ip = none := by simpa using mt hm.ip.mp hforward
    have hport : port = none := by simpa using mt hm.port.mp hforward
    exact .inr ⟨function, payload, hforward, by rw [hip, hport]⟩

/-- A message is written as its header and its body, unless it is too long for the length
field. -/
theorem BvllMessage.WellFormed.encode_eq_ok {m : BvllMessage} (hm : m.WellFormed codes)
    {frame : Bytes} : m.encode codes = .ok frame ↔
      bvllHeaderLength + m.body.length ≤ u16Max ∧ frame = bvlcTypeBacnetIp ::
        codes.toRaw m.function ::
          be (UInt16.ofNat (bvllHeaderLength + m.body.length)) ++ m.body := by
  rcases hm.forms with ⟨origin, payload, rfl⟩ | ⟨function, payload, -, rfl⟩
  · have h := @encodeBvllForwarded_eq_ok codes origin payload frame
    rw [Nat.add_assoc, ← length_origin_append origin.ip origin.port] at h
    exact h
  · exact encodeBvll_eq_ok codes

/-- The bytes behind a header say a message exactly when they begin with its body and the
header states the length of that. -/
theorem BvllMessage.WellFormed.behind_iff {m : BvllMessage} (hm : m.WellFormed codes) {length : ℕ}
    {tail : Bytes} : m.Behind length tail ↔
      length = bvllHeaderLength + m.body.length ∧ ∃ rest, tail = m.body ++ rest := by
  rcases hm.forms with ⟨origin, payload, rfl⟩ | ⟨function, payload, hforward, rfl⟩
  · have hbody : (⟨.forwardedNpdu, payload, some origin.ip, some origin.port⟩ : BvllMessage).body =
        origin.ip.bytes ++ be origin.port ++ payload := rfl
    have hcut : ∀ rest : Bytes, (origin.ip.bytes ++ be origin.port ++ rest).length =
        forwardedAddrLength + rest.length := length_origin_append origin.ip origin.port
    rw [hbody]
    constructor
    · rintro ⟨-, hlong, ⟨-, haddr, hpayload, hip, hport⟩ | ⟨h, -⟩⟩
      · obtain ⟨found, rest, rfl⟩ : ∃ (found : Endpoint) (rest : Bytes),
            tail = found.ip.bytes ++ be found.port ++ rest := by
          apply exists_origin
          omega
        rw [octetsAt_origin] at hip
        rw [wordAt_origin] at hport
        obtain ⟨ip, port⟩ := origin
        obtain rfl : ip = found.ip := Option.some.inj hip
        obtain rfl : port = found.port := Option.some.inj hport
        obtain ⟨count, rfl⟩ := Nat.exists_eq_add_of_le haddr
        have hdrop : (found.ip.bytes ++ be found.port ++ rest).drop forwardedAddrLength = rest :=
          rfl
        have hpayload : payload = rest.take count := by
          rw [Nat.add_assoc, Nat.add_sub_cancel_left, List.drop_take, hdrop,
            Nat.add_sub_cancel_left] at hpayload
          exact hpayload
        have hshort : count ≤ rest.length := by
          rw [hcut] at hlong
          omega
        refine ⟨?_, rest.drop count, ?_⟩
        · rw [hcut, hpayload, List.length_take, Nat.min_eq_left hshort]
          omega
        · rw [hpayload, List.append_assoc (found.ip.bytes ++ be found.port),
            List.take_append_drop]
      · exact absurd rfl h
    · rintro ⟨rfl, rest, rfl⟩
      have hbehind : origin.ip.bytes ++ be origin.port ++ payload ++ rest =
          origin.ip.bytes ++ be origin.port ++ (payload ++ rest) := List.append_assoc _ _ _
      have hlength := hcut payload
      have htail := hcut (payload ++ rest)
      have hrest : (payload ++ rest).length = payload.length + rest.length := List.length_append
      rw [← hbehind, hrest] at htail
      refine ⟨by omega, by omega, .inl ⟨rfl, by omega, ?_, ?_, ?_⟩⟩
      · rw [Nat.add_sub_cancel_left, List.take_left]
        rfl
      · rw [hbehind, octetsAt_origin]
      · rw [hbehind, wordAt_origin]
  · have hbody : (⟨function, payload, none, none⟩ : BvllMessage).body = payload := rfl
    rw [hbody]
    constructor
    · rintro ⟨hheader, hlong, ⟨h, -⟩ | ⟨-, rfl, -⟩⟩
      · exact absurd h hforward
      · refine ⟨?_, tail.drop (length - bvllHeaderLength), (List.take_append_drop _ _).symm⟩
        rw [List.length_take]
        omega
    · rintro ⟨rfl, rest, rfl⟩
      have hlength : (payload ++ rest).length = payload.length + rest.length := List.length_append
      refine ⟨by omega, by omega, .inr ⟨hforward, ?_, rfl, rfl⟩⟩
      rw [Nat.add_sub_cancel_left, List.take_left]

/-- What the bytes behind a header say is well formed. -/
theorem BvllMessage.Behind.wellFormed {m : BvllMessage} {length : ℕ} {tail : Bytes} {raw : UInt8}
    (h : m.Behind length tail) (hfunction : m.function = codes.fromRaw raw) :
    m.WellFormed codes := by
  have hcode : codes.fromRaw (codes.toRaw m.function) = m.function := by
    rw [hfunction, codes.toRaw_fromRaw]
  obtain ⟨-, -, ⟨hforward, -, -, hip, hport⟩ | ⟨hforward, -, hip, hport⟩⟩ := h
  · exact ⟨hcode, by simp [hip, hforward], by simp [hport, hforward]⟩
  · exact ⟨hcode, by simp [hip, hforward], by simp [hport, hforward]⟩

/-- What is read as a message begins with what the message is written as. -/
theorem written_of_decodeBvll {data : Bytes} {m : BvllMessage} (h : decodeBvll codes data = .ok m) :
    m.WellFormed codes ∧ ∃ frame rest, m.encode codes = .ok frame ∧ data = frame ++ rest := by
  obtain ⟨raw, hi, lo, tail, rfl, hfunction, hbehind⟩ := (decodeBvll_eq_ok codes).mp h
  have hm := hbehind.wellFormed codes hfunction
  obtain ⟨hlength, rest, rfl⟩ := (hm.behind_iff codes).mp hbehind
  have hword := (word hi lo).toNat_lt
  have hsame : UInt16.ofNat (bvllHeaderLength + m.body.length) = word hi lo := by
    rw [← hlength, UInt16.ofNat_toNat]
  refine ⟨hm, _, rest, (hm.encode_eq_ok codes).mpr ⟨?_, rfl⟩, ?_⟩
  · unfold u16Max
    omega
  · rw [hsame, hfunction, codes.toRaw_fromRaw]
    simp [be]

/-- A written message is read, whatever follows it. -/
theorem decodeBvll_written {m : BvllMessage} (hm : m.WellFormed codes) {frame : Bytes}
    (hframe : m.encode codes = .ok frame) (rest : Bytes) :
    decodeBvll codes (frame ++ rest) = .ok m := by
  obtain ⟨hfits, rfl⟩ := (hm.encode_eq_ok codes).mp hframe
  have hsmall : bvllHeaderLength + m.body.length < 65536 := by
    unfold u16Max at hfits
    omega
  refine (decodeBvll_eq_ok codes).mpr ⟨codes.toRaw m.function,
    high (UInt16.ofNat (bvllHeaderLength + m.body.length)),
    low (UInt16.ofNat (bvllHeaderLength + m.body.length)), m.body ++ rest, ?_, hm.function.symm,
    (hm.behind_iff codes).mpr ⟨?_, rest, rfl⟩⟩
  · simp only [be, List.cons_append, List.nil_append]
  · rw [word_high_low, UInt16.toNat_ofNat_of_lt' hsmall]

/-- A written message that is cut off is not read. -/
theorem decodeBvll_cut {m : BvllMessage} (hm : m.WellFormed codes) {frame : Bytes}
    (hframe : m.encode codes = .ok frame) {cut : ℕ} (hcut : cut < frame.length) :
    ∃ e, decodeBvll codes (frame.take cut) = .error e := by
  obtain ⟨hfits, rfl⟩ := (hm.encode_eq_ok codes).mp hframe
  cases hdecode : decodeBvll codes (List.take cut _) with
  | error e => exact ⟨e, rfl⟩
  | ok found =>
    exfalso
    obtain ⟨raw, hi, lo, tail, hdata, -, -, hlong, -⟩ := (decodeBvll_eq_ok codes).mp hdecode
    have hsmall : bvllHeaderLength + m.body.length < 65536 := by
      unfold u16Max at hfits
      omega
    have hlength := congrArg List.length hdata
    simp only [List.length_take, List.length_cons, List.length_append, be_length] at hlength hcut
    obtain ⟨kept, rfl⟩ := Nat.exists_eq_add_of_le' (show 4 ≤ cut by omega)
    simp only [be, List.cons_append, List.nil_append, List.take_succ_cons, List.cons.injEq] at hdata
    obtain ⟨-, -, rfl, rfl, rfl⟩ := hdata
    rw [word_high_low, UInt16.toNat_ofNat_of_lt' hsmall, List.length_take] at hlong
    unfold bvllHeaderLength at hlong
    omega

/-- A datagram is read as a message exactly when the message is well formed and the datagram
begins with what the message is written as. -/
theorem decodeBvll_eq_ok_iff_encode (data : Bytes) (m : BvllMessage) :
    decodeBvll codes data = .ok m ↔
      m.WellFormed codes ∧ ∃ frame rest, m.encode codes = .ok frame ∧ data = frame ++ rest := by
  constructor
  · exact written_of_decodeBvll codes
  · rintro ⟨hm, frame, rest, hframe, rfl⟩
    exact decodeBvll_written codes hm hframe rest

/-! ## Addresses of devices -/

/-- Devices with one address are one device. -/
theorem encodeBipMac_inj {a b : Endpoint} : encodeBipMac a = encodeBipMac b ↔ a = b := by
  refine ⟨fun h => ?_, fun h => h ▸ rfl⟩
  have hip : octetsAt (encodeBipMac a) 0 = octetsAt (encodeBipMac b) 0 := by rw [h]
  have hport : wordAt (encodeBipMac a) 4 = wordAt (encodeBipMac b) 4 := by rw [h]
  rw [show wordAt (encodeBipMac a) 4 = a.port from word_high_low _,
    show wordAt (encodeBipMac b) 4 = b.port from word_high_low _] at hport
  obtain ⟨ip, port⟩ := a
  exact Endpoint.mk.injEq .. ▸ ⟨hip, hport⟩

end BacnetTransport
