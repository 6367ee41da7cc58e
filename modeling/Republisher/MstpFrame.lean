import Republisher.Bvll
import Republisher.Crc

/-!
# Frames on a serial bus

A frame of MS/TP begins with two fixed bytes. Then come its type, the stations that it goes to and
comes from, the number of bytes that it carries and a check of these five bytes, and then what it
carries with a check of its own. What is written is read back, nothing else is read, and a frame
with a burst of wrong bits is not read at all.
-/

namespace BacnetTransport

open Wire

/-- The two bytes in front of every frame. -/
def preamble : Bytes := [0x55, 0xFF]

/-- The bytes of a header behind the preamble. -/
def headerLength : ℕ := 6

/-- The bytes that a frame can carry. -/
def maxMpduData : ℕ := 1497

/-- The station number of a broadcast. -/
def broadcastMac : UInt8 := 0xFF

/-- The largest number of a master station. -/
def maxMaster : UInt8 := 127

/-- The types of frames. -/
inductive FrameType
  | token
  | pollForMaster
  | replyToPollForMaster
  | testRequest
  | testResponse
  | bacnetDataExpectingReply
  | bacnetDataNotExpectingReply
  | replyPostponed
  | unknown (raw : UInt8)
  deriving DecidableEq, Repr

namespace FrameType

/-- The type that a byte stands for. -/
def fromRaw (val : UInt8) : FrameType :=
  if val = 0x00 then token
  else if val = 0x01 then pollForMaster
  else if val = 0x02 then replyToPollForMaster
  else if val = 0x03 then testRequest
  else if val = 0x04 then testResponse
  else if val = 0x05 then bacnetDataExpectingReply
  else if val = 0x06 then bacnetDataNotExpectingReply
  else if val = 0x07 then replyPostponed
  else unknown val

/-- The byte of a type. -/
def toRaw : FrameType → UInt8
  | token => 0x00
  | pollForMaster => 0x01
  | replyToPollForMaster => 0x02
  | testRequest => 0x03
  | testResponse => 0x04
  | bacnetDataExpectingReply => 0x05
  | bacnetDataNotExpectingReply => 0x06
  | replyPostponed => 0x07
  | unknown raw => raw

/-- A byte is the byte of the type that it stands for. -/
theorem toRaw_fromRaw (val : UInt8) : (fromRaw val).toRaw = val := by
  unfold fromRaw
  split_ifs with h0 h1 h2 h3 h4 h5 h6 h7 <;> first | exact Eq.symm ‹_› | rfl

end FrameType

/-- A frame, taken apart. -/
structure MstpFrame where
  frameType : FrameType
  destination : UInt8
  source : UInt8
  data : Bytes
  deriving DecidableEq, Repr

/-! ## Checks -/

/-- One bit of the check of a header. -/
def crc8Shift (crc : UInt8) : UInt8 := if crc &&& 1 ≠ 0 then (crc >>> 1) ^^^ 0xE0 else crc >>> 1

/-- The table for the check of a header. -/
def crc8Table (i : UInt8) : UInt8 := crc8Shift^[8] i

/-- The register of the check of a header, a byte at a time. -/
def crc8Register (data : Bytes) : UInt8 :=
  data.foldl (fun crc b => crc8Table (crc ^^^ b)) 0xFF

/-- The check of a header. -/
def crc8 (data : Bytes) : UInt8 := ~~~ crc8Register data

/-- The last byte is the check of the bytes in front of it. -/
def crc8Valid (dataWithCrc : Bytes) : Bool :=
  if dataWithCrc.isEmpty then false
  else
    let (data, crcByte) := dataWithCrc.splitAt (dataWithCrc.length - 1)
    crc8 data == byteAt crcByte 0

/-- One bit of the check of what a frame carries. -/
def crc16Shift (crc : UInt16) : UInt16 :=
  if crc &&& 1 ≠ 0 then (crc >>> 1) ^^^ 0xA001 else crc >>> 1

/-- The table for the check of what a frame carries. -/
def crc16Table (i : UInt16) : UInt16 := crc16Shift^[8] i

/-- The register of the check of what a frame carries, a byte at a time. -/
def crc16Register (data : Bytes) : UInt16 :=
  data.foldl (fun crc b => (crc >>> 8) ^^^ crc16Table ((crc ^^^ b.toUInt16) &&& 0xFF)) 0xFFFF

/-- The check of what a frame carries. -/
def crc16 (data : Bytes) : UInt16 := ~~~ crc16Register data

/-- The last two bytes are the check of the bytes in front of them, the lower one first. -/
def crc16Valid (dataWithCrc : Bytes) : Bool :=
  if dataWithCrc.length < 3 then false
  else
    let (data, crcBytes) := dataWithCrc.splitAt (dataWithCrc.length - 2)
    let stored := (byteAt crcBytes 0).toUInt16 ||| (byteAt crcBytes 1).toUInt16 <<< 8
    crc16 data == stored

/-! ## Frames -/

/-- The five bytes of a header that its check covers. -/
def header (frame : MstpFrame) : Bytes :=
  [frame.frameType.toRaw, frame.destination, frame.source,
    UInt8.ofNat (frame.data.length >>> 8), UInt8.ofNat (frame.data.length &&& 0xFF)]

/-- What a frame carries, with its check. -/
def dataWithCheck (data : Bytes) : Bytes :=
  if data.isEmpty then []
  else
    let dcrc := crc16 data
    data ++ [UInt8.ofNat dcrc.toNat, UInt8.ofNat (dcrc >>> 8).toNat]

/-- Writes a frame. -/
def encodeFrame (frame : MstpFrame) : Except Error Bytes :=
  let dataLen := frame.data.length
  if dataLen > maxMpduData then
    .error (.encoding s!"MS/TP data length {dataLen} exceeds maximum {maxMpduData}")
  else
    .ok (preamble ++ header frame ++ [crc8 (header frame)] ++ dataWithCheck frame.data)

/-- Reads a frame, and how many bytes it takes. -/
def decodeFrame (data : Bytes) : Except Error (MstpFrame × ℕ) :=
  if data.length < 2 + headerLength then
    .error (.decoding 0 "MS/TP frame too short")
  else if byteAt data 0 ≠ 0x55 ∨ byteAt data 1 ≠ 0xFF then
    .error (.decoding 0 ("MS/TP expected preamble 0x55 0xFF, got 0x" ++ hexByte (byteAt data 0) ++
      " 0x" ++ hexByte (byteAt data 1)))
  else if !crc8Valid ((data.drop 2).take 6) then
    .error (.decoding 7 "MS/TP header CRC mismatch")
  else
    let frameType := FrameType.fromRaw (byteAt data 2)
    let destination := byteAt data 3
    let source := byteAt data 4
    if source > maxMaster ∧ source ≠ broadcastMac then
      .error (.decoding 4 ("MS/TP source address 0x" ++ hexByte source ++
        " exceeds MAX_MASTER (" ++ toString maxMaster.toNat ++ ")"))
    else if source = broadcastMac then
      .error (.decoding 4 "MS/TP source address cannot be broadcast (0xFF)")
    else
      let dataLength := (wordAt data 5).toNat
      if dataLength > maxMpduData then
        .error (.decoding 5 s!"MS/TP data length {dataLength} exceeds maximum {maxMpduData}")
      else
        let consumed := 2 + headerLength
        if dataLength > 0 then
          let needed := consumed + dataLength + 2
          if data.length < needed then
            .error (.decoding consumed
              (s!"MS/TP frame truncated: need {dataLength + 2} bytes for data+CRC, " ++
                s!"have {data.length - consumed}"))
          else if !crc16Valid ((data.drop consumed).take (dataLength + 2)) then
            .error (.decoding (consumed + dataLength) "MS/TP data CRC mismatch")
          else
            .ok (⟨frameType, destination, source, (data.drop consumed).take dataLength⟩, needed)
        else
          .ok (⟨frameType, destination, source, []⟩, consumed)

/-- Where the first two bytes stand that a frame begins with. -/
def findPreamble : Bytes → Option ℕ
  | a :: b :: rest =>
      if a = 0x55 ∧ b = 0xFF then some 0 else (findPreamble (b :: rest)).map (· + 1)
  | _ => none

/-! ## The checks as registers -/

/-- The bits of bytes in the order in which they are sent. -/
def bits (data : Bytes) : List Bool := data.flatMap fun b => Crc.byteBits b.toBitVec

/-- Eight bits for each byte. -/
theorem length_bits (data : Bytes) : (bits data).length = data.length * 8 := by
  unfold bits
  rw [List.length_flatMap, List.map_congr_left fun b _ => Crc.length_byteBits _, List.map_const',
    List.sum_replicate_nat]

/-- Bytes one after the other. -/
theorem bits_append (xs ys : Bytes) : bits (xs ++ ys) = bits xs ++ bits ys := List.flatMap_append

/-- A bit of the check of a header. -/
theorem crc8Shift_toBitVec (c : UInt8) :
    (crc8Shift c).toBitVec = Crc.shift 0xE0#8 c.toBitVec := by
  have hlow : c &&& 1 ≠ 0 ↔ c.toBitVec.getLsbD 0 = true := by
    rw [← Crc.and_one_ne_zero, ← UInt8.toBitVec_inj.ne]
    rfl
  unfold crc8Shift Crc.shift
  by_cases h : c.toBitVec.getLsbD 0 = true
  · rw [if_pos (hlow.mpr h), if_pos h]
    rfl
  · rw [if_neg (mt hlow.mp h), if_neg h]
    rfl

/-- The check of a header takes one bit after the other. -/
theorem crc8Register_toBitVec (data : Bytes) :
    (crc8Register data).toBitVec = Crc.register 0xE0#8 (BitVec.allOnes 8) (bits data) := by
  have hfold (c : UInt8) : (data.foldl (fun crc b => crc8Table (crc ^^^ b)) c).toBitVec =
      Crc.register 0xE0#8 c.toBitVec (bits data) := by
    induction data generalizing c with
    | nil => rfl
    | cons b data ih =>
      have hbyte : (crc8Table (c ^^^ b)).toBitVec =
          Crc.register 0xE0#8 c.toBitVec (Crc.byteBits b.toBitVec) := by
        rw [Crc.register_byteBits 0xE0#8 (Nat.le_refl 8), BitVec.setWidth_eq]
        exact (Function.Semiconj.iterate_right crc8Shift_toBitVec 8) (c ^^^ b)
      rw [List.foldl_cons, ih, hbyte]
      exact List.foldl_append.symm
  exact hfold 0xFF

/-- A bit of the check of what a frame carries. -/
theorem crc16Shift_toBitVec (c : UInt16) :
    (crc16Shift c).toBitVec = Crc.shift 0xA001#16 c.toBitVec := by
  have hlow : c &&& 1 ≠ 0 ↔ c.toBitVec.getLsbD 0 = true := by
    rw [← Crc.and_one_ne_zero, ← UInt16.toBitVec_inj.ne]
    rfl
  unfold crc16Shift Crc.shift
  by_cases h : c.toBitVec.getLsbD 0 = true
  · rw [if_pos (hlow.mpr h), if_pos h]
    rfl
  · rw [if_neg (mt hlow.mp h), if_neg h]
    rfl

/-- The check of what a frame carries takes one bit after the other. -/
theorem crc16Register_toBitVec (data : Bytes) :
    (crc16Register data).toBitVec = Crc.register 0xA001#16 (BitVec.allOnes 16) (bits data) := by
  have hfold (c : UInt16) : (data.foldl (fun (crc : UInt16) b =>
      (crc >>> 8) ^^^ crc16Table ((crc ^^^ b.toUInt16) &&& 0xFF)) c).toBitVec =
        Crc.register 0xA001#16 c.toBitVec (bits data) := by
    induction data generalizing c with
    | nil => rfl
    | cons b data ih =>
      have hbyte : ((c >>> 8) ^^^ crc16Table ((c ^^^ b.toUInt16) &&& 0xFF)).toBitVec =
          Crc.register 0xA001#16 c.toBitVec (Crc.byteBits b.toBitVec) := by
        have hmask : ((c ^^^ b.toUInt16) &&& 0xFF).toBitVec =
            ((c.toBitVec ^^^ b.toBitVec.setWidth 16).setWidth 8).setWidth 16 := by
          have hplaces : ∀ i < 16, (0xFF#16).getLsbD i = decide (i < 8) := by decide
          have hand : ((c ^^^ b.toUInt16) &&& 0xFF).toBitVec =
              (c.toBitVec ^^^ b.toBitVec.setWidth 16) &&& 0xFF#16 := rfl
          rw [hand]
          apply BitVec.eq_of_getLsbD_eq
          intro i hi
          rw [BitVec.getLsbD_and, hplaces i hi, BitVec.getLsbD_setWidth, BitVec.getLsbD_setWidth]
          simp [hi, Bool.and_comm]
        have hhigh : (c >>> 8).toBitVec = (c.toBitVec ^^^ b.toBitVec.setWidth 16) >>> 8 := by
          have hzero : b.toBitVec.setWidth 16 >>> 8 = 0#16 := by
            apply BitVec.eq_of_getLsbD_eq
            intro i _
            rw [BitVec.getLsbD_ushiftRight, BitVec.getLsbD_setWidth,
              BitVec.getLsbD_of_ge b.toBitVec _ (by omega)]
            simp
          rw [BitVec.ushiftRight_xor_distrib, hzero, BitVec.xor_zero]
          rfl
        have htable : (crc16Table ((c ^^^ b.toUInt16) &&& 0xFF)).toBitVec =
            (Crc.shift 0xA001#16)^[8] ((c ^^^ b.toUInt16) &&& 0xFF).toBitVec :=
          (Function.Semiconj.iterate_right crc16Shift_toBitVec 8) _
        rw [Crc.register_byteBits 0xA001#16 (by omega), Crc.iterate_shift_eight, ← hmask, ← hhigh,
          ← htable]
        rfl
      rw [List.foldl_cons, ih, hbyte]
      exact List.foldl_append.symm
  exact hfold 0xFFFF

/-- Different bytes are sent as different bits. -/
theorem bits_injective : Function.Injective bits := by
  intro xs ys h
  induction xs generalizing ys with
  | nil =>
    have hlength := congrArg List.length h
    rw [length_bits, length_bits] at hlength
    simp only [List.length_nil] at hlength
    exact (List.eq_nil_of_length_eq_zero (by omega)).symm
  | cons x xs ih =>
    cases ys with
    | nil =>
      have hlength := congrArg List.length h
      rw [length_bits, length_bits] at hlength
      simp only [List.length_nil, List.length_cons] at hlength
      omega
    | cons y ys =>
      have hlengths : (Crc.byteBits x.toBitVec).length = (Crc.byteBits y.toBitVec).length :=
        (Crc.length_byteBits _).trans (Crc.length_byteBits _).symm
      have happend : Crc.byteBits x.toBitVec ++ bits xs = Crc.byteBits y.toBitVec ++ bits ys := h
      obtain ⟨hbyte, hrest⟩ := List.append_inj happend hlengths
      have hx := Crc.ofBoolListLE_byteBits x.toBitVec (w := 8)
      rw [hbyte, Crc.ofBoolListLE_byteBits, BitVec.setWidth_eq, BitVec.setWidth_eq] at hx
      rw [UInt8.toBitVec_inj.mp hx, ih hrest]

/-- The check of a header is the byte behind it. -/
theorem crc8Valid_append (data : Bytes) (check : UInt8) :
    crc8Valid (data ++ [check]) = true ↔ crc8 data = check := by
  unfold crc8Valid
  rw [if_neg (by simp), List.length_append, List.length_singleton, Nat.add_sub_cancel]
  simp [List.splitAt_eq, byteAt]

/-- And then all of it leaves a fixed register. -/
theorem crc8Valid_iff_register {data : Bytes} : crc8Valid data = true ↔ data ≠ [] ∧
    Crc.register 0xE0#8 (BitVec.allOnes 8) (bits data) =
      (Crc.shift 0xE0#8)^[8] (BitVec.allOnes 8) := by
  rcases List.eq_nil_or_concat data with rfl | ⟨front, check, rfl⟩
  · simp [crc8Valid]
  · have hbyte : bits [check] = Crc.byteBits check.toBitVec := List.append_nil _
    have hcheck : (BitVec.ofBoolListLE (bits [check])).setWidth 8 = check.toBitVec := by
      rw [hbyte, Crc.ofBoolListLE_byteBits, BitVec.setWidth_eq]
    have hregister := Crc.register_append_eq_iff 0xE0#8 (by decide) (BitVec.allOnes 8) (bits front)
      (show (bits [check]).length = 8 from length_bits [check]) (Nat.le_refl 8) hcheck
    rw [List.concat_eq_append, crc8Valid_append, bits_append, hregister, and_iff_right (by simp),
      crc8, eq_comm, ← UInt8.toBitVec_inj, ← crc8Register_toBitVec]
    rfl

/-- Two bytes as a number, the lower one first. -/
theorem or_shiftLeft_eight (lo hi : UInt8) : lo.toUInt16 ||| hi.toUInt16 <<< 8 = word hi lo := by
  have hlo := lo.toNat_lt
  have hhi := hi.toNat_lt
  have hhigh : (hi.toUInt16 <<< 8).toNat = hi.toNat <<< 8 := by
    rw [UInt16.toNat_shiftLeft, UInt8.toNat_toUInt16]
    refine Nat.mod_eq_of_lt ?_
    rw [show (8 : UInt16).toNat % 16 = 8 by rfl, Nat.shiftLeft_eq]
    omega
  apply UInt16.toNat_inj.mp
  rw [UInt16.toNat_or, hhigh, UInt8.toNat_toUInt16, Nat.or_comm,
    ← Nat.shiftLeft_add_eq_or_of_lt hlo, Nat.shiftLeft_eq, word, UInt16.toNat_ofNat']
  omega

/-- The check of what a frame carries is the two bytes behind it. -/
theorem crc16Valid_append {data : Bytes} (h : data ≠ []) (lo hi : UInt8) :
    crc16Valid (data ++ [lo, hi]) = true ↔ crc16 data = word hi lo := by
  have hpos := List.length_pos_of_ne_nil h
  unfold crc16Valid
  rw [if_neg (by simp; omega), List.length_append, List.length_cons, List.length_singleton,
    Nat.add_sub_cancel]
  simp [List.splitAt_eq, byteAt, or_shiftLeft_eight]

/-- And then all of it leaves a fixed register. -/
theorem crc16Valid_iff_register {data : Bytes} : crc16Valid data = true ↔ 3 ≤ data.length ∧
    Crc.register 0xA001#16 (BitVec.allOnes 16) (bits data) =
      (Crc.shift 0xA001#16)^[16] (BitVec.allOnes 16) := by
  by_cases hlength : 3 ≤ data.length
  · obtain ⟨front, lo, hi, hfront, rfl⟩ : ∃ front lo hi, front ≠ [] ∧ data = front ++ [lo, hi] := by
      have hdrop : (data.drop (data.length - 2)).length = 2 := by
        rw [List.length_drop]
        omega
      obtain ⟨lo, hi, htail⟩ := List.length_eq_two.mp hdrop
      refine ⟨data.take (data.length - 2), lo, hi, fun hnil => ?_, ?_⟩
      · have htake := congrArg List.length hnil
        rw [List.length_take, List.length_nil] at htake
        omega
      · rw [← htail, List.take_append_drop]
    have hcheck : (BitVec.ofBoolListLE (bits [lo, hi])).setWidth 16 = (word hi lo).toBitVec := by
      have hword : (word hi lo).toBitVec =
          lo.toBitVec.setWidth 16 ||| hi.toBitVec.setWidth 16 <<< 8 := by
        rw [← or_shiftLeft_eight]
        rfl
      have hbits : bits [lo, hi] = Crc.byteBits lo.toBitVec ++ Crc.byteBits hi.toBitVec := by
        simp [bits]
      rw [hword]
      apply BitVec.eq_of_getLsbD_eq
      intro i hi
      rw [BitVec.getLsbD_setWidth, BitVec.getLsbD_ofBoolListLE, BitVec.getLsbD_or,
        BitVec.getLsbD_shiftLeft, BitVec.getLsbD_setWidth, BitVec.getLsbD_setWidth, hbits]
      rw [List.getD_eq_getElem?_getD]
      by_cases hlow : i < 8
      · rw [List.getElem?_append_left (by rw [Crc.length_byteBits]; exact hlow),
          Crc.getElem?_byteBits _ hlow]
        simp [hi, hlow]
      · rw [List.getElem?_append_right (by rw [Crc.length_byteBits]; omega), Crc.length_byteBits,
          Crc.getElem?_byteBits _ (by omega), BitVec.getLsbD_of_ge lo.toBitVec i (by omega)]
        have hwide : i - 8 < 16 := by omega
        simp [hi, hlow, hwide]
    have hregister := Crc.register_append_eq_iff 0xA001#16 (by decide) (BitVec.allOnes 16)
      (bits front) (show (bits [lo, hi]).length = 16 from length_bits [lo, hi]) (Nat.le_refl 16)
      hcheck
    rw [crc16Valid_append hfront, bits_append, hregister, and_iff_right hlength,
      crc16, eq_comm, ← UInt16.toBitVec_inj, ← crc16Register_toBitVec]
    rfl
  · rw [crc16Valid, if_pos (by omega)]
    simp [hlength]

/-! ## What is written is read back -/

/-- The type is one that a byte stands for and the source is a master station. -/
structure MstpFrame.WellFormed (f : MstpFrame) : Prop where
  frameType : FrameType.fromRaw f.frameType.toRaw = f.frameType
  source : f.source ≤ maxMaster

/-- The five bytes of a header. -/
theorem header_eq {f : MstpFrame} (h : f.data.length ≤ maxMpduData) :
    header f = [f.frameType.toRaw, f.destination, f.source,
      high (UInt16.ofNat f.data.length), low (UInt16.ofNat f.data.length)] := by
  unfold maxMpduData at h
  have hword : (UInt16.ofNat f.data.length).toNat = f.data.length :=
    UInt16.toNat_ofNat_of_lt' (show f.data.length < 65536 by omega)
  have hlow : UInt8.ofNat (f.data.length &&& 0xFF) = low (UInt16.ofNat f.data.length) := by
    apply UInt8.toNat_inj.mp
    rw [low, hword, show 0xFF = 2 ^ 8 - 1 by rfl, Nat.and_two_pow_sub_one_eq_mod,
      UInt8.toNat_ofNat', UInt8.toNat_ofNat']
    omega
  rw [header, hlow, high, hword, Nat.shiftRight_eq_div_pow]

/-- What a frame carries, with the two bytes of its check. -/
theorem dataWithCheck_eq {data : Bytes} (h : data ≠ []) :
    dataWithCheck data = data ++ [low (crc16 data), high (crc16 data)] := by
  have hhigh : UInt8.ofNat (crc16 data >>> 8).toNat = high (crc16 data) := by
    rw [high, UInt16.toNat_shiftRight, show (8 : UInt16).toNat % 16 = 8 by rfl,
      Nat.shiftRight_eq_div_pow]
  unfold dataWithCheck
  rw [if_neg (by simpa using h), ← hhigh]
  rfl

/-- When a frame is written, and as what. -/
theorem encodeFrame_eq_ok {f : MstpFrame} {frame : Bytes} : encodeFrame f = .ok frame ↔
    f.data.length ≤ maxMpduData ∧
      frame = preamble ++ (header f ++ [crc8 (header f)]) ++ dataWithCheck f.data := by
  unfold encodeFrame
  by_cases hlong : f.data.length > maxMpduData
  · rw [if_pos hlong]
    simp only [reduceCtorEq, false_iff]
    omega
  · rw [if_neg hlong, Except.ok.injEq, eq_comm, ← List.append_assoc preamble]
    exact (and_iff_right (by omega)).symm

/-- What the bytes behind a header say, which states how many the frame carries. -/
def Carried (length : ℕ) (tail data : Bytes) (consumed : ℕ) : Prop :=
  (length = 0 ∧ data = [] ∧ consumed = 2 + headerLength) ∨
    (0 < length ∧ length + 2 ≤ tail.length ∧ crc16Valid (tail.take (length + 2)) = true ∧
      data = tail.take length ∧ consumed = 2 + headerLength + length + 2)

/-- What the bytes behind a preamble are read as. -/
theorem decodeFrame_preamble {kind dest src hi lo check : UInt8} {tail : Bytes} {f : MstpFrame}
    {consumed : ℕ} :
    decodeFrame (preamble ++ [kind, dest, src, hi, lo, check] ++ tail) = .ok (f, consumed) ↔
      crc8Valid [kind, dest, src, hi, lo, check] = true ∧ src ≤ maxMaster ∧
        (word hi lo).toNat ≤ maxMpduData ∧ f.frameType = FrameType.fromRaw kind ∧
          f.destination = dest ∧ f.source = src ∧
            Carried (word hi lo).toNat tail f.data consumed := by
  obtain ⟨frameType, destination, source, data⟩ := f
  have hlength : (preamble ++ [kind, dest, src, hi, lo, check] ++ tail).length =
      tail.length + 8 := by
    simp [preamble]
  have hbehind (n : ℕ) : ((preamble ++ [kind, dest, src, hi, lo, check] ++ tail).drop
      (2 + headerLength)).take n = tail.take n := rfl
  unfold decodeFrame
  rw [if_neg (by rw [hlength, headerLength]; omega), if_neg (by simp [preamble, byteAt])]
  have hheader : ((preamble ++ [kind, dest, src, hi, lo, check] ++ tail).drop 2).take 6 =
      [kind, dest, src, hi, lo, check] := rfl
  rw [hheader]
  by_cases hcheck : crc8Valid [kind, dest, src, hi, lo, check] = true
  swap
  · simp [hcheck]
  rw [if_neg (by simp [hcheck]), and_iff_right hcheck]
  have hsrc : byteAt (preamble ++ [kind, dest, src, hi, lo, check] ++ tail) 4 = src := rfl
  have hlen : wordAt (preamble ++ [kind, dest, src, hi, lo, check] ++ tail) 5 = word hi lo := rfl
  dsimp only
  rw [hsrc, hlen]
  by_cases hmaster : src ≤ maxMaster
  swap
  · -- both branches that refuse a source return an error
    by_cases hbroadcast : src = broadcastMac
    · rw [if_neg (fun h => h.2 hbroadcast), if_pos hbroadcast]
      simp [hmaster]
    · rw [if_pos ⟨by simpa using hmaster, hbroadcast⟩]
      simp [hmaster]
  rw [if_neg (fun h => absurd h.1 (by simpa using hmaster)),
    if_neg (by rintro rfl; exact absurd hmaster (by decide)), and_iff_right hmaster]
  by_cases hlong : (word hi lo).toNat > maxMpduData
  · rw [if_pos hlong]
    simp only [reduceCtorEq, false_iff]
    omega
  rw [if_neg hlong, and_iff_right (by omega), hlength, hbehind, hbehind]
  unfold Carried
  by_cases hempty : (word hi lo).toNat > 0
  · rw [if_pos hempty]
    by_cases hshort : tail.length + 8 < 2 + headerLength + (word hi lo).toNat + 2
    · rw [if_pos hshort]
      unfold headerLength at hshort
      simp only [reduceCtorEq, false_iff]
      omega
    · rw [if_neg hshort]
      unfold headerLength at hshort
      by_cases hdata : crc16Valid (tail.take ((word hi lo).toNat + 2)) = true
      · rw [if_neg (by simp [hdata]), Except.ok.injEq, Prod.mk.injEq, MstpFrame.mk.injEq]
        constructor
        · rintro ⟨⟨rfl, rfl, rfl, rfl⟩, rfl⟩
          exact ⟨rfl, rfl, rfl, .inr ⟨hempty, by omega, hdata, rfl, rfl⟩⟩
        · rintro ⟨rfl, rfl, rfl, ⟨hzero, -⟩ | ⟨-, -, -, rfl, rfl⟩⟩
          · omega
          · exact ⟨⟨rfl, rfl, rfl, rfl⟩, rfl⟩
      · rw [if_pos (by simp [hdata])]
        simp only [reduceCtorEq, false_iff]
        rintro ⟨-, -, -, ⟨hzero, -⟩ | ⟨-, -, hvalid, -⟩⟩
        · omega
        · exact hdata hvalid
  · rw [if_neg hempty, Except.ok.injEq, Prod.mk.injEq, MstpFrame.mk.injEq]
    constructor
    · rintro ⟨⟨rfl, rfl, rfl, rfl⟩, rfl⟩
      exact ⟨rfl, rfl, rfl, .inl ⟨by omega, rfl, rfl⟩⟩
    · rintro ⟨rfl, rfl, rfl, ⟨-, rfl, rfl⟩ | ⟨hpos, -⟩⟩
      · exact ⟨⟨rfl, rfl, rfl, rfl⟩, rfl⟩
      · omega

/-- Enough bytes for a preamble and a header. -/
theorem exists_eight {data : Bytes} (h : 2 + headerLength ≤ data.length) :
    ∃ a b kind dest src hi lo check tail,
      data = a :: b :: kind :: dest :: src :: hi :: lo :: check :: tail :=
  match data, h with
  | a :: b :: kind :: dest :: src :: hi :: lo :: check :: tail, _ =>
    ⟨a, b, kind, dest, src, hi, lo, check, tail, rfl⟩

/-- What is read begins with a preamble and a header. -/
theorem exists_preamble {data : Bytes} {f : MstpFrame} {consumed : ℕ}
    (h : decodeFrame data = .ok (f, consumed)) : ∃ kind dest src hi lo check tail,
      data = preamble ++ [kind, dest, src, hi, lo, check] ++ tail := by
  unfold decodeFrame at h
  by_cases hshort : data.length < 2 + headerLength
  · rw [if_pos hshort] at h
    cases h
  rw [if_neg hshort] at h
  by_cases hpreamble : byteAt data 0 ≠ 0x55 ∨ byteAt data 1 ≠ 0xFF
  · rw [if_pos hpreamble] at h
    cases h
  obtain ⟨hfirst, hsecond⟩ := not_or.mp hpreamble
  obtain ⟨a, b, kind, dest, src, hi, lo, check, tail, rfl⟩ :=
    exists_eight (Nat.le_of_not_lt hshort)
  obtain rfl : a = 0x55 := not_not.mp hfirst
  obtain rfl : b = 0xFF := not_not.mp hsecond
  exact ⟨kind, dest, src, hi, lo, check, tail, rfl⟩

/-- What is read is well formed, and the bytes begin with what it is written as. -/
theorem written_of_decodeFrame {data : Bytes} {f : MstpFrame} {consumed : ℕ}
    (h : decodeFrame data = .ok (f, consumed)) :
    f.WellFormed ∧ ∃ frame rest,
      encodeFrame f = .ok frame ∧ data = frame ++ rest ∧ consumed = frame.length := by
  obtain ⟨kind, dest, src, hi, lo, check, tail, rfl⟩ := exists_preamble h
  obtain ⟨hcheck, hsrc, hshort, hkind, rfl, rfl, hcarried⟩ := decodeFrame_preamble.mp h
  have hraw : f.frameType.toRaw = kind := by rw [hkind, FrameType.toRaw_fromRaw]
  have hheader (hlength : f.data.length = (word hi lo).toNat) :
      header f ++ [crc8 (header f)] = [kind, f.destination, f.source, hi, lo, check] := by
    have hfive : header f = [kind, f.destination, f.source, hi, lo] := by
      rw [header_eq (by omega), hlength, UInt16.ofNat_toNat, high_word, low_word, hraw]
    have hcrc := (crc8Valid_append [kind, f.destination, f.source, hi, lo] check).mp hcheck
    rw [hfive, hcrc]
    rfl
  refine ⟨⟨by rw [hraw, hkind], hsrc⟩, ?_⟩
  rcases hcarried with ⟨hzero, hdata, rfl⟩ | ⟨hpos, hlong, hvalid, hdata, rfl⟩
  · have hlength : f.data.length = (word hi lo).toNat := by rw [hdata, hzero]; rfl
    refine ⟨_, tail, encodeFrame_eq_ok.mpr ⟨by omega, rfl⟩, ?_, ?_⟩
    · rw [hheader hlength, hdata]
      rfl
    · rw [hheader hlength, hdata]
      rfl
  · have hlength : f.data.length = (word hi lo).toNat := by
      rw [hdata, List.length_take]
      omega
    have hne : f.data ≠ [] := by
      rw [← List.length_pos_iff]
      omega
    obtain ⟨lower, upper, htwo⟩ : ∃ lower upper,
        tail.take ((word hi lo).toNat + 2) = f.data ++ [lower, upper] := by
      have hrest : ((tail.drop (word hi lo).toNat).take 2).length = 2 := by
        rw [List.length_take, List.length_drop]
        omega
      obtain ⟨lower, upper, htwo⟩ := List.length_eq_two.mp hrest
      exact ⟨lower, upper, by rw [List.take_add, htwo, ← hdata]⟩
    have hbody : dataWithCheck f.data = tail.take ((word hi lo).toNat + 2) := by
      rw [htwo, crc16Valid_append hne] at hvalid
      rw [dataWithCheck_eq hne, hvalid, low_word, high_word, htwo]
    refine ⟨_, tail.drop ((word hi lo).toNat + 2), encodeFrame_eq_ok.mpr ⟨by omega, rfl⟩,
      ?_, ?_⟩
    · rw [hheader hlength, hbody, List.append_assoc _ (tail.take _), List.take_append_drop]
    · rw [hheader hlength, hbody, List.length_append, List.length_take, Nat.min_eq_left hlong,
        headerLength]
      simp [preamble]
      omega

/-- What is written is read, whatever follows it. -/
theorem decodeFrame_written {f : MstpFrame} (hf : f.WellFormed) {frame : Bytes}
    (hframe : encodeFrame f = .ok frame) (rest : Bytes) :
    decodeFrame (frame ++ rest) = .ok (f, frame.length) := by
  obtain ⟨hshort, rfl⟩ := encodeFrame_eq_ok.mp hframe
  have hlength : (word (high (UInt16.ofNat f.data.length))
      (low (UInt16.ofNat f.data.length))).toNat = f.data.length := by
    unfold maxMpduData at hshort
    rw [word_high_low]
    exact UInt16.toNat_ofNat_of_lt' (show f.data.length < 65536 by omega)
  have hcheck := (crc8Valid_append (header f) (crc8 (header f))).mpr rfl
  rw [header_eq hshort] at hcheck ⊢
  rw [List.append_assoc]
  refine decodeFrame_preamble.mpr ⟨hcheck, hf.source, by rw [hlength]; exact hshort,
    hf.frameType.symm, rfl, rfl, ?_⟩
  rw [hlength]
  by_cases hne : f.data = []
  · rw [hne]
    exact .inl ⟨rfl, rfl, rfl⟩
  · have hbody : (dataWithCheck f.data).length = f.data.length + 2 := by
      rw [dataWithCheck_eq hne]
      simp
    refine .inr ⟨List.length_pos_of_ne_nil hne, ?_, ?_, ?_, ?_⟩
    · rw [List.length_append]
      omega
    · rw [← hbody, List.take_left, dataWithCheck_eq hne, crc16Valid_append hne, word_high_low]
    · rw [dataWithCheck_eq hne, List.append_assoc, List.take_left]
    · rw [List.length_append, hbody]
      simp [preamble, headerLength]
      omega

/-- A frame is read exactly when it is well formed and the bytes begin with what it is written
as. -/
theorem decodeFrame_eq_ok_iff_encode (data : Bytes) (f : MstpFrame) (consumed : ℕ) :
    decodeFrame data = .ok (f, consumed) ↔ f.WellFormed ∧ ∃ frame rest,
      encodeFrame f = .ok frame ∧ data = frame ++ rest ∧ consumed = frame.length := by
  constructor
  · exact written_of_decodeFrame
  · rintro ⟨hf, frame, rest, hframe, rfl, rfl⟩
    exact decodeFrame_written hf hframe rest

/-! ## Wrong bits -/

/-- A burst of wrong bits in a header, its check included. -/
theorem crc8Valid_of_burst {n : ℕ} (hn : n ≤ 8) {xs ys : Bytes}
    (h : Crc.Burst n (bits xs) (bits ys))
    (hne : xs ≠ ys) (hxs : crc8Valid xs = true) : crc8Valid ys = false := by
  by_contra hys
  have hx := (crc8Valid_iff_register.mp hxs).2
  have hy := (crc8Valid_iff_register.mp (Bool.not_eq_false _ ▸ hys)).2
  exact Crc.register_ne_of_burst 0xE0#8 (by decide) hn h (bits_injective.ne hne)
    (hx.trans hy.symm)

/-- A burst of wrong bits in what a frame carries, its check included. -/
theorem crc16Valid_of_burst {n : ℕ} (hn : n ≤ 16) {xs ys : Bytes}
    (h : Crc.Burst n (bits xs) (bits ys)) (hne : xs ≠ ys) (hxs : crc16Valid xs = true) :
    crc16Valid ys = false := by
  by_contra hys
  have hx := (crc16Valid_iff_register.mp hxs).2
  have hy := (crc16Valid_iff_register.mp (Bool.not_eq_false _ ▸ hys)).2
  exact Crc.register_ne_of_burst 0xA001#16 (by decide) hn h (bits_injective.ne hne)
    (hx.trans hy.symm)

/-- A frame that arrives with one burst of wrong bits is not read, whatever comes behind it: up to
eight bits in a row anywhere, and up to sixteen in what the frame carries and its check. -/
theorem decodeFrame_of_burst {f : MstpFrame} {frame altered : Bytes} {n : ℕ}
    (hframe : encodeFrame f = .ok frame) (h : Crc.Burst n (bits frame) (bits altered))
    (hne : frame ≠ altered)
    (hn : n ≤ 8 ∨ n ≤ 16 ∧ altered.take (2 + headerLength) = frame.take (2 + headerLength))
    (rest : Bytes) : ∃ e, decodeFrame (altered ++ rest) = .error e := by
  cases hread : decodeFrame (altered ++ rest) with
  | error e => exact ⟨e, rfl⟩
  | ok found =>
    obtain ⟨g, consumed⟩ := found
    obtain ⟨hshort, rfl⟩ := encodeFrame_eq_ok.mp hframe
    obtain ⟨kind, dest, src, hi, lo, check, tail, hsplit⟩ := exists_preamble hread
    rw [hsplit] at hread
    obtain ⟨hcheck, -, -, -, -, -, hcarried⟩ := decodeFrame_preamble.mp hread
    have hsix : (header f ++ [crc8 (header f)]).length = 6 := rfl
    have hlength : altered.length = 8 + (dataWithCheck f.data).length := by
      have hbits := h.length
      rw [length_bits, length_bits, List.length_append, List.length_append, hsix] at hbits
      simp only [preamble, List.length_cons, List.length_nil] at hbits
      omega
    -- the altered frame, taken apart like the frame
    have hfront : altered.take 8 = preamble ++ [kind, dest, src, hi, lo, check] := by
      have htake := congrArg (List.take 8) hsplit
      rw [List.take_append_of_le_length (by omega)] at htake
      exact htake
    obtain ⟨behind, hbehind⟩ : ∃ behind, altered = preamble ++ [kind, dest, src, hi, lo, check] ++
        behind := ⟨altered.drop 8, by rw [← hfront, List.take_append_drop]⟩
    subst hbehind
    have htail : tail = behind ++ rest := by
      rw [List.append_assoc] at hsplit
      exact (List.append_cancel_left hsplit).symm
    have hsame : behind.length = (dataWithCheck f.data).length := by
      rw [List.length_append] at hlength
      simp only [preamble, List.length_cons, List.length_nil, List.length_append] at hlength
      omega
    rw [bits_append, bits_append, bits_append, bits_append] at h
    have hfronts : (bits preamble ++ bits (header f ++ [crc8 (header f)])).length =
        (bits preamble ++ bits [kind, dest, src, hi, lo, check]).length := by
      rw [List.length_append, List.length_append, length_bits, length_bits, length_bits, hsix]
      rfl
    have hvalid := (crc8Valid_append (header f) (crc8 (header f))).mpr rfl
    have hheader : header f ++ [crc8 (header f)] = [kind, dest, src, hi, lo, check] := by
      rcases hn with hn | ⟨-, hn⟩
      · by_contra hdiffer
        have hleft : Crc.Burst n (bits preamble ++ bits (header f ++ [crc8 (header f)]))
            (bits preamble ++ bits [kind, dest, src, hi, lo, check]) := h.left hfronts
        rw [crc8Valid_of_burst hn (hleft.right rfl) hdiffer hvalid] at hcheck
        cases hcheck
      · have height : preamble ++ [kind, dest, src, hi, lo, check] =
            preamble ++ (header f ++ [crc8 (header f)]) := hn
        exact (List.append_cancel_left height).symm
    have hdiffer : dataWithCheck f.data ≠ behind := by
      rintro rfl
      exact hne (by rw [hheader])
    have hburst := h.right hfronts
    have hword : (word hi lo).toNat = f.data.length := by
      have hfive := header_eq hshort
      rw [hfive] at hheader
      simp only [List.cons_append, List.nil_append, List.cons.injEq] at hheader
      obtain ⟨-, -, -, rfl, rfl, -⟩ := hheader
      unfold maxMpduData at hshort
      rw [word_high_low]
      exact UInt16.toNat_ofNat_of_lt' (show f.data.length < 65536 by omega)
    rw [hword, htail] at hcarried
    by_cases hempty : f.data = []
    · rw [hempty] at hdiffer hsame
      exact absurd (List.eq_nil_of_length_eq_zero hsame).symm hdiffer
    · have hbody : (dataWithCheck f.data).length = f.data.length + 2 := by
        rw [dataWithCheck_eq hempty]
        simp
      have hdata : crc16Valid (dataWithCheck f.data) = true := by
        rw [dataWithCheck_eq hempty, crc16Valid_append hempty, word_high_low]
      rcases hcarried with ⟨hzero, -⟩ | ⟨-, -, hread, -⟩
      · exact absurd (List.eq_nil_of_length_eq_zero hzero) hempty
      · rw [← hbody, ← hsame, List.take_left,
          crc16Valid_of_burst (by omega) hburst hdiffer hdata] at hread
        cases hread

/-- Two bytes of data, sent. -/
def sentBytes : Bytes := [0x55, 0xff, 6, 1, 2, 0, 2, 88, 1, 0, 255, 223]

/-- The same with all bits of the data inverted. -/
def invertedBytes : Bytes := [0x55, 0xff, 6, 1, 2, 0, 2, 88, 254, 255, 255, 223]

/-- A frame whose two bytes of data arrive inverted is not read. -/
theorem decodeFrame_of_inverted : ∃ e, decodeFrame (invertedBytes ++ []) = .error e := by
  have hframe : encodeFrame ⟨.bacnetDataNotExpectingReply, 1, 2, [1, 0]⟩ = .ok sentBytes := by
    decide +kernel
  have hwithin : ∀ i < 96, (bits sentBytes)[i]? ≠ (bits invertedBytes)[i]? →
      64 ≤ i ∧ i < 64 + 16 := by
    decide +kernel
  have hburst : Crc.Burst 16 (bits sentBytes) (bits invertedBytes) := by
    refine ⟨by decide +kernel, 64, fun i hdiffer => ?_⟩
    rcases Nat.lt_or_ge i 96 with hi | hi
    · exact hwithin i hi hdiffer
    · rw [List.getElem?_eq_none hi, List.getElem?_eq_none hi] at hdiffer
      exact absurd rfl hdiffer
  exact decodeFrame_of_burst hframe hburst (by decide) (.inr ⟨by decide, by decide⟩) []

end BacnetTransport
