import Republisher.Bvll

/-!
# Messages of BACnet/SC

A message is a function, a byte that says which parts follow, a number, up to two virtual
addresses, two lists of header options and a payload. Each option says whether another one
follows. A message survives being written exactly when some bytes are read as it.
-/

namespace BacnetTransport

open Wire

/-- The functions of a message. -/
inductive ScFunction
  | result
  | encapsulatedNpdu
  | addressResolution
  | addressResolutionAck
  | advertisement
  | advertisementSolicitation
  | connectRequest
  | connectAccept
  | disconnectRequest
  | disconnectAck
  | heartbeatRequest
  | heartbeatAck
  | proprietaryMessage
  | unknown (raw : UInt8)
  deriving DecidableEq, Repr

/-- The function of a byte. -/
def ScFunction.fromRaw (val : UInt8) : ScFunction :=
  match val with
  | 0x00 => .result
  | 0x01 => .encapsulatedNpdu
  | 0x02 => .addressResolution
  | 0x03 => .addressResolutionAck
  | 0x04 => .advertisement
  | 0x05 => .advertisementSolicitation
  | 0x06 => .connectRequest
  | 0x07 => .connectAccept
  | 0x08 => .disconnectRequest
  | 0x09 => .disconnectAck
  | 0x0A => .heartbeatRequest
  | 0x0B => .heartbeatAck
  | 0x0C => .proprietaryMessage
  | v => .unknown v

/-- The byte of a function. -/
def ScFunction.toRaw : ScFunction → UInt8
  | .result => 0x00
  | .encapsulatedNpdu => 0x01
  | .addressResolution => 0x02
  | .addressResolutionAck => 0x03
  | .advertisement => 0x04
  | .advertisementSolicitation => 0x05
  | .connectRequest => 0x06
  | .connectAccept => 0x07
  | .disconnectRequest => 0x08
  | .disconnectAck => 0x09
  | .heartbeatRequest => 0x0A
  | .heartbeatAck => 0x0B
  | .proprietaryMessage => 0x0C
  | .unknown v => v

/-- Which parts of a message follow its header. -/
structure ScControl where
  hasOriginatingVmac : Bool
  hasDestinationVmac : Bool
  hasDestOptions : Bool
  hasDataOptions : Bool
  deriving DecidableEq, Repr

/-- The control flags as the lower half of a byte. -/
def ScControl.toByte (c : ScControl) : UInt8 :=
  (if c.hasOriginatingVmac then 0x08 else 0) ||| (if c.hasDestinationVmac then 0x04 else 0) |||
    (if c.hasDestOptions then 0x02 else 0) ||| (if c.hasDataOptions then 0x01 else 0)

/-- The control flags of a byte. -/
def ScControl.fromByte (b : UInt8) : ScControl where
  hasOriginatingVmac := b &&& 0x08 ≠ 0
  hasDestinationVmac := b &&& 0x04 ≠ 0
  hasDestOptions := b &&& 0x02 ≠ 0
  hasDataOptions := b &&& 0x01 ≠ 0

/-- A virtual address of six bytes. -/
structure Vmac where
  a : UInt8
  b : UInt8
  c : UInt8
  d : UInt8
  e : UInt8
  f : UInt8
  deriving DecidableEq, Repr

/-- The bytes of a virtual address in order. -/
def Vmac.bytes (vmac : Vmac) : Bytes := [vmac.a, vmac.b, vmac.c, vmac.d, vmac.e, vmac.f]

/-- The address of all devices. -/
def broadcastVmac : Vmac := ⟨0xFF, 0xFF, 0xFF, 0xFF, 0xFF, 0xFF⟩

/-- The address of no device. -/
def unknownVmac : Vmac := ⟨0, 0, 0, 0, 0, 0⟩

/-- Whether an address is that of all devices. -/
def isBroadcastVmac (vmac : Vmac) : Bool := vmac = broadcastVmac

/-- A header option. -/
structure ScOption where
  optionType : UInt8
  mustUnderstand : Bool
  data : Bytes
  deriving DecidableEq, Repr

/-- A message, taken apart. -/
structure ScMessage where
  function : ScFunction
  messageId : UInt16
  originatingVmac : Option Vmac
  destinationVmac : Option Vmac
  destOptions : List ScOption
  dataOptions : List ScOption
  payload : Bytes
  deriving DecidableEq, Repr

/-- The function, the control flags and the number. -/
def scMinHeader : ℕ := 4

/-- The most header options of one list. -/
def maxScOptions : ℕ := 64

/-! ## Writing -/

/-- The byte in front of an option. -/
def scMarker (optionType : UInt8) (moreFollows mustUnderstand hasData : Bool) : UInt8 :=
  (optionType &&& 0x1F) ||| (if moreFollows then 0x80 else 0) |||
    (if mustUnderstand then 0x40 else 0) ||| (if hasData then 0x20 else 0)

/-- An option with its marker, and its length when it has data. The length field holds no more
than its largest number; the data is written as it is. -/
def encodeScOption (moreFollows : Bool) (opt : ScOption) : Bytes :=
  let hasData := !opt.data.isEmpty
  scMarker opt.optionType moreFollows opt.mustUnderstand hasData ::
    (if hasData then be (UInt16.ofNat (min opt.data.length u16Max)) ++ opt.data else [])

/-- The options of a list in order. -/
def encodeScOptions : List ScOption → Bytes
  | [] => []
  | opt :: options => encodeScOption (!options.isEmpty) opt ++ encodeScOptions options

/-- A message as it is sent. -/
def encodeScMessage (msg : ScMessage) : Bytes :=
  let control : ScControl :=
    { hasOriginatingVmac := msg.originatingVmac.isSome
      hasDestinationVmac := msg.destinationVmac.isSome
      hasDestOptions := !msg.destOptions.isEmpty
      hasDataOptions := !msg.dataOptions.isEmpty }
  msg.function.toRaw :: control.toByte :: be msg.messageId ++
    (msg.originatingVmac.elim [] Vmac.bytes ++ (msg.destinationVmac.elim [] Vmac.bytes ++
      (encodeScOptions msg.destOptions ++ (encodeScOptions msg.dataOptions ++ msg.payload))))

/-! ## Reading -/

/-- How far a message is read, and the bytes from there on. -/
structure Cursor where
  offset : ℕ
  rest : Bytes
  deriving DecidableEq, Repr

/-- Reads a virtual address, if there is one. -/
def decodeVmac (present : Bool) (truncated : String) (cursor : Cursor) :
    Except Error (Option Vmac × Cursor) :=
  if present then
    match cursor.rest with
    | a :: b :: c :: d :: e :: f :: rest => .ok (some ⟨a, b, c, d, e, f⟩, ⟨cursor.offset + 6, rest⟩)
    | _ => .error (.decoding cursor.offset truncated)
  else
    .ok (none, cursor)

/-- Reads the data of an option: two bytes of length and as many as these say. -/
def decodeScOptionData (cursor : Cursor) : Except Error (Bytes × Cursor) :=
  match cursor.rest with
  | hi :: lo :: rest =>
    let length := (word hi lo).toNat
    if rest.length < length then
      .error (.decoding (cursor.offset + 2) "SC option data truncated")
    else
      .ok (rest.take length, ⟨cursor.offset + 2 + length, rest.drop length⟩)
  | _ => .error (.decoding cursor.offset "SC option length truncated")

/-- Reads an option, and whether another one follows. -/
def decodeScOption (cursor : Cursor) : Except Error (ScOption × Bool × Cursor) := do
  match cursor.rest with
  | [] => .error (.decoding cursor.offset "SC option truncated")
  | marker :: rest =>
    let behind : Cursor := ⟨cursor.offset + 1, rest⟩
    let (data, stop) ← if marker &&& 0x20 ≠ 0 then decodeScOptionData behind else .ok ([], behind)
    .ok (⟨marker &&& 0x1F, marker &&& 0x40 ≠ 0, data⟩, marker &&& 0x80 ≠ 0, stop)

/-- Reads the options of a list, of which there is room for some. One that there is no room for
is refused when it has been read. -/
def decodeScOptionsIn (room : ℕ) (cursor : Cursor) : Except Error (List ScOption × Cursor) := do
  let (opt, moreFollows, stop) ← decodeScOption cursor
  match room with
  | 0 => .error (.decoding stop.offset "too many SC options")
  | room + 1 =>
    if moreFollows then
      let (options, stop) ← decodeScOptionsIn room stop
      .ok (opt :: options, stop)
    else
      .ok ([opt], stop)

/-- Reads a list of options, if there is one. -/
def decodeScOptions (present : Bool) (cursor : Cursor) : Except Error (List ScOption × Cursor) :=
  if present then decodeScOptionsIn maxScOptions cursor else .ok ([], cursor)

/-- Reads a message. -/
def decodeScMessage (data : Bytes) : Except Error ScMessage := do
  match data with
  | raw :: flags :: hi :: lo :: rest =>
    let control := ScControl.fromByte flags
    let (originatingVmac, cursor) ← decodeVmac control.hasOriginatingVmac
      "truncated originating VMAC" ⟨scMinHeader, rest⟩
    let (destinationVmac, cursor) ← decodeVmac control.hasDestinationVmac
      "truncated destination VMAC" cursor
    let (destOptions, cursor) ← decodeScOptions control.hasDestOptions cursor
    let (dataOptions, cursor) ← decodeScOptions control.hasDataOptions cursor
    .ok ⟨ScFunction.fromRaw raw, word hi lo, originatingVmac, destinationVmac, destOptions,
      dataOptions, cursor.rest⟩
  | _ => .error (.decoding 0 "BACnet/SC message too short")

/-! ## Bytes of flags -/

/-- A byte stands for one function. -/
@[simp] theorem ScFunction.toRaw_fromRaw (raw : UInt8) : (ScFunction.fromRaw raw).toRaw = raw := by
  unfold ScFunction.fromRaw
  split <;> rfl

/-- The control flags are read back from their byte. -/
@[simp] theorem ScControl.fromByte_toByte (c : ScControl) : ScControl.fromByte c.toByte = c := by
  obtain ⟨originating, destination, destOptions, dataOptions⟩ := c
  cases originating <;> cases destination <;> cases destOptions <;> cases dataOptions <;> rfl

/-- What holds of every number below 256 as a byte holds of every byte. -/
theorem forall_byte {p : UInt8 → Prop} (h : ∀ n < 256, p (UInt8.ofNat n)) (b : UInt8) : p b := by
  have hb := h b.toNat b.toNat_lt
  rwa [UInt8.ofNat_toNat] at hb

section Markers

variable (optionType : UInt8) (moreFollows mustUnderstand hasData : Bool)

/-- The type of an option is read back from its marker, as far as the marker has room for it. -/
theorem scMarker_type : scMarker optionType moreFollows mustUnderstand hasData &&& 0x1F =
    optionType &&& 0x1F := by
  revert optionType moreFollows mustUnderstand hasData
  exact forall_byte (by decide +kernel)

/-- The marker says whether another option follows. -/
theorem scMarker_moreFollows :
    decide (scMarker optionType moreFollows mustUnderstand hasData &&& 0x80 ≠ 0) = moreFollows := by
  revert optionType moreFollows mustUnderstand hasData
  exact forall_byte (by decide +kernel)

/-- The marker says whether the option has to be understood. -/
theorem scMarker_mustUnderstand :
    decide (scMarker optionType moreFollows mustUnderstand hasData &&& 0x40 ≠ 0) =
      mustUnderstand := by
  revert optionType moreFollows mustUnderstand hasData
  exact forall_byte (by decide +kernel)

/-- The marker says whether the option has data. -/
theorem scMarker_hasData :
    scMarker optionType moreFollows mustUnderstand hasData &&& 0x20 ≠ 0 ↔ hasData = true := by
  revert optionType moreFollows mustUnderstand hasData
  exact forall_byte (by decide +kernel)

end Markers

/-! ## What is written is read back -/

/-- An option whose type the marker has room for and whose data the length field can count. -/
structure ScOption.WellFormed (opt : ScOption) : Prop where
  type : opt.optionType &&& 0x1F = opt.optionType
  data : opt.data.length ≤ u16Max

/-- A list of options that a message has room for. -/
structure WellFormedOptions (options : List ScOption) : Prop where
  each : ∀ opt ∈ options, opt.WellFormed
  count : options.length ≤ maxScOptions

/-- A message whose function has its own byte and whose options are well formed. -/
structure ScMessage.WellFormed (m : ScMessage) : Prop where
  function : ScFunction.fromRaw m.function.toRaw = m.function
  destOptions : WellFormedOptions m.destOptions
  dataOptions : WellFormedOptions m.dataOptions

/-- An address is read where it is written, if there is one. -/
theorem decodeVmac_written (vmac : Option Vmac) (truncated : String) (offset : ℕ) (rest : Bytes) :
    decodeVmac vmac.isSome truncated ⟨offset, vmac.elim [] Vmac.bytes ++ rest⟩ =
      .ok (vmac, ⟨offset + (vmac.elim [] Vmac.bytes).length, rest⟩) := by
  cases vmac <;> rfl

/-- An option is read back, whatever follows it. -/
theorem decodeScOption_written {opt : ScOption} (hopt : opt.WellFormed) (moreFollows : Bool)
    (offset : ℕ) (rest : Bytes) :
    decodeScOption ⟨offset, encodeScOption moreFollows opt ++ rest⟩ =
      .ok (opt, moreFollows, ⟨offset + (encodeScOption moreFollows opt).length, rest⟩) := by
  obtain ⟨optionType, mustUnderstand, data⟩ := opt
  obtain ⟨htype, hdata⟩ := hopt
  simp only at htype hdata
  simp only [encodeScOption, decodeScOption, List.cons_append, scMarker_type,
    scMarker_mustUnderstand, scMarker_moreFollows, scMarker_hasData, htype]
  cases data with
  | nil => simp [bind, Except.bind]
  | cons first data =>
    have hsmall : (first :: data).length < 65536 := by
      unfold u16Max at hdata
      omega
    have hlength : (UInt16.ofNat (first :: data).length).toNat = (first :: data).length :=
      UInt16.toNat_ofNat_of_lt' hsmall
    simp only [Nat.min_eq_left hdata, be, List.isEmpty_cons, Bool.not_false, if_true,
      List.cons_append, List.nil_append, decodeScOptionData, word_high_low, hlength]
    rw [← List.cons_append, if_neg (by simp), List.take_left, List.drop_left]
    simp only [bind, Except.bind, List.length_cons]
    congr 4
    omega

/-- A list of options is read back, whatever follows it. -/
theorem decodeScOptionsIn_written {options : List ScOption}
    (heach : ∀ opt ∈ options, opt.WellFormed) (hsome : options ≠ []) {room : ℕ}
    (hroom : options.length ≤ room) (offset : ℕ) (rest : Bytes) :
    decodeScOptionsIn room ⟨offset, encodeScOptions options ++ rest⟩ =
      .ok (options, ⟨offset + (encodeScOptions options).length, rest⟩) := by
  induction options generalizing room offset with
  | nil => exact absurd rfl hsome
  | cons opt options ih =>
    obtain ⟨room, rfl⟩ := Nat.exists_eq_add_of_le' (Nat.le_trans (Nat.le_add_left 1 _) hroom)
    have hopt := heach opt List.mem_cons_self
    rw [decodeScOptionsIn, encodeScOptions, List.append_assoc, decodeScOption_written hopt]
    simp only [bind, Except.bind]
    cases options with
    | nil => simp [encodeScOptions]
    | cons second options =>
      rw [ih (fun o ho => heach o (List.mem_cons_of_mem _ ho)) (List.cons_ne_nil _ _)
        (Nat.le_of_succ_le_succ hroom)]
      simp only [List.isEmpty_cons, Bool.not_false, if_true, List.length_append, Nat.add_assoc]

/-- The options of a message are read back, whether it has any or not. -/
theorem decodeScOptions_written {options : List ScOption} (h : WellFormedOptions options)
    (offset : ℕ) (rest : Bytes) :
    decodeScOptions (!options.isEmpty) ⟨offset, encodeScOptions options ++ rest⟩ =
      .ok (options, ⟨offset + (encodeScOptions options).length, rest⟩) := by
  cases options with
  | nil => rfl
  | cons opt options =>
    exact decodeScOptionsIn_written h.each (List.cons_ne_nil _ _) h.count offset rest

/-- A well formed message is read back. -/
theorem decodeScMessage_written {m : ScMessage} (hm : m.WellFormed) :
    decodeScMessage (encodeScMessage m) = .ok m := by
  simp only [decodeScMessage, encodeScMessage, be, List.cons_append, List.nil_append,
    ScControl.fromByte_toByte, decodeVmac_written, bind, Except.bind,
    decodeScOptions_written hm.destOptions, decodeScOptions_written hm.dataOptions,
    word_high_low, hm.function]

/-! ## What is read is well formed -/

/-- The data of an option is no longer than its length field can say. -/
theorem length_of_decodeScOptionData {cursor stop : Cursor} {data : Bytes}
    (h : decodeScOptionData cursor = .ok (data, stop)) : data.length ≤ u16Max := by
  unfold decodeScOptionData at h
  split at h
  · next hi lo rest _ =>
    have hword := (word hi lo).toNat_lt
    dsimp only at h
    split at h
    · cases h
    · obtain ⟨rfl, -⟩ := Prod.mk.injEq .. ▸ Except.ok.inj h
      rw [List.length_take]
      unfold u16Max
      omega
  · cases h

/-- An option that is read is well formed. -/
theorem wellFormed_of_decodeScOption {cursor stop : Cursor} {opt : ScOption} {moreFollows : Bool}
    (h : decodeScOption cursor = .ok (opt, moreFollows, stop)) : opt.WellFormed := by
  unfold decodeScOption at h
  cases hrest : cursor.rest with
  | nil =>
    rw [hrest] at h
    cases h
  | cons marker rest =>
    rw [hrest] at h
    dsimp only at h
    have hmask : marker &&& 0x1F &&& 0x1F = marker &&& 0x1F := UInt8.and_assoc marker 0x1F 0x1F
    split_ifs at h
    · cases hdata : decodeScOptionData ⟨cursor.offset + 1, rest⟩ with
      | error e =>
        rw [hdata] at h
        cases h
      | ok found =>
        rw [hdata] at h
        cases h
        exact ⟨hmask, length_of_decodeScOptionData hdata⟩
    · cases h
      exact ⟨hmask, Nat.zero_le _⟩

/-- A list of options that is read is well formed and no longer than there was room. -/
theorem wellFormed_of_decodeScOptionsIn {room : ℕ} {cursor stop : Cursor} {options : List ScOption}
    (h : decodeScOptionsIn room cursor = .ok (options, stop)) :
    (∀ opt ∈ options, opt.WellFormed) ∧ options.length ≤ room := by
  induction room generalizing cursor stop options with
  | zero =>
    rw [decodeScOptionsIn] at h
    cases hopt : decodeScOption cursor with
    | error e =>
      rw [hopt] at h
      cases h
    | ok found =>
      rw [hopt] at h
      cases h
  | succ room ih =>
    rw [decodeScOptionsIn] at h
    cases hopt : decodeScOption cursor with
    | error e =>
      rw [hopt] at h
      cases h
    | ok found =>
      obtain ⟨opt, moreFollows, next⟩ := found
      have hwell := wellFormed_of_decodeScOption hopt
      rw [hopt] at h
      cases moreFollows with
      | false =>
        cases h
        exact ⟨by simpa using hwell, by simp⟩
      | true =>
        cases hmore : decodeScOptionsIn room next with
        | error e =>
          simp only [bind, Except.bind, if_true, hmore] at h
          cases h
        | ok found =>
          obtain ⟨more, last⟩ := found
          simp only [bind, Except.bind, if_true, hmore] at h
          cases h
          obtain ⟨heach, hcount⟩ := ih hmore
          exact ⟨List.forall_mem_cons.mpr ⟨hwell, heach⟩, Nat.succ_le_succ hcount⟩

/-- The options of a message that is read are well formed, whether it has any or not. -/
theorem wellFormed_of_decodeScOptions {present : Bool} {cursor stop : Cursor}
    {options : List ScOption}
    (h : decodeScOptions present cursor = .ok (options, stop)) : WellFormedOptions options := by
  cases present with
  | false =>
    cases h
    exact ⟨by simp, Nat.zero_le _⟩
  | true =>
    obtain ⟨heach, hcount⟩ := wellFormed_of_decodeScOptionsIn h
    exact ⟨heach, hcount⟩

/-- A message that is read is well formed. -/
theorem wellFormed_of_decodeScMessage {data : Bytes} {m : ScMessage}
    (h : decodeScMessage data = .ok m) : m.WellFormed := by
  match data, h with
  | raw :: flags :: hi :: lo :: rest, h =>
    simp only [decodeScMessage, bind, Except.bind] at h
    split at h
    · cases h
    split at h
    · cases h
    split at h
    · cases h
    next dest hdest =>
    split at h
    · cases h
    next data hdata =>
    cases h
    exact ⟨by rw [ScFunction.toRaw_fromRaw], wellFormed_of_decodeScOptions hdest,
      wellFormed_of_decodeScOptions hdata⟩

/-- A message survives being written exactly when its function has its own byte, the marker has
room for the types of its options, their data fits the length field and no list has more than 64;
and these are the messages that some bytes are read as. -/
theorem decodeScMessage_encodeScMessage (m : ScMessage) :
    (decodeScMessage (encodeScMessage m) = .ok m ↔ m.WellFormed) ∧
      ((∃ data, decodeScMessage data = .ok m) ↔ m.WellFormed) := by
  refine ⟨⟨wellFormed_of_decodeScMessage, decodeScMessage_written⟩, ?_, fun hm => ?_⟩
  · rintro ⟨data, hdata⟩
    exact wellFormed_of_decodeScMessage hdata
  · exact ⟨_, decodeScMessage_written hm⟩

end BacnetTransport
