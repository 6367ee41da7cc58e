import Republisher.BbmdTables

/-!
# The distribution table on the wire, in the file and after a restart

A distribution table is sent and stored as records of ten bytes. The device adds itself to the
table that it is given, so that a table of the largest size becomes too large to be read again.
A restart restores the table in force unless that has happened, and then falls back to the
configured one.
-/

namespace BacnetTransport

open Wire

/-! ## Records of ten bytes -/

/-- Ten bytes. -/
theorem exists_ten {data : Bytes} (h : data.length = 10) :
    ∃ a b c d e f g i j k, data = [a, b, c, d, e, f, g, i, j, k] :=
  match data, h with
  | [a, b, c, d, e, f, g, i, j, k], _ => ⟨a, b, c, d, e, f, g, i, j, k, rfl⟩

/-- The records of the distribution table. -/
def bdtRecord : Record BdtEntry where
  width := bdtEntrySize
  encode := BdtEntry.bytes
  decode chunk := ⟨⟨octetsAt chunk 0, wordAt chunk 4⟩, octetsAt chunk 6⟩
  width_pos := by decide
  length_encode _ := rfl
  decode_encode e := by
    have hport : wordAt e.bytes 4 = e.peer.port := word_high_low _
    rw [hport]
    rfl
  encode_decode data h := by
    obtain ⟨a, b, c, d, e, f, g, i, j, k, rfl⟩ := exists_ten h
    simp [BdtEntry.bytes, Octets.bytes, octetsAt, wordAt, byteAt, be]

/-- A distribution table is read exactly from what it is written as, if it is not too long. -/
theorem decodeBdt_eq_ok {data : Bytes} {entries : List BdtEntry} :
    BbmdState.decodeBdt data = .ok entries ↔
      data = encodeBdtEntries entries ∧ entries.length ≤ BbmdState.maxBdtEntries := by
  unfold BbmdState.decodeBdt
  constructor
  · intro h
    by_cases hwhole : data.length % bdtEntrySize ≠ 0
    · rw [if_pos hwhole] at h
      cases h
    rw [if_neg hwhole] at h
    by_cases hlong : data.length / bdtEntrySize > BbmdState.maxBdtEntries
    · rw [if_pos hlong] at h
      cases h
    rw [if_neg hlong] at h
    have hentries : bdtRecord.decodeAll data = entries := Except.ok.inj h
    have hdvd : bdtRecord.width ∣ data.length := Nat.dvd_of_mod_eq_zero (not_not.mp hwhole)
    refine ⟨?_, ?_⟩
    · rw [← hentries]
      exact (bdtRecord.encodeAll_decodeAll hdvd).symm
    · rw [← hentries, Record.decodeAll, List.length_map, chunks, List.length_map, List.length_range]
      exact Nat.le_of_not_lt hlong
  · rintro ⟨rfl, hshort⟩
    have hlength : (encodeBdtEntries entries).length = entries.length * bdtEntrySize :=
      bdtRecord.length_encodeAll entries
    have hcount : (encodeBdtEntries entries).length / bdtEntrySize = entries.length := by
      rw [hlength]
      exact Nat.mul_div_cancel _ (by decide)
    rw [if_neg (by simp [hlength]), if_neg (by omega)]
    exact congrArg Except.ok (bdtRecord.decodeAll_encodeAll entries)

/-- What is read of a written distribution table. -/
theorem decodeBdt_encodeBdtEntries (entries : List BdtEntry) :
    BbmdState.decodeBdt (encodeBdtEntries entries) =
      if entries.length ≤ BbmdState.maxBdtEntries then .ok entries
      else .error (.decoding 0
        s!"BDT entry count {entries.length} exceeds maximum of {BbmdState.maxBdtEntries}") := by
  by_cases hshort : entries.length ≤ BbmdState.maxBdtEntries
  · rw [if_pos hshort]
    exact decodeBdt_eq_ok.mpr ⟨rfl, hshort⟩
  · have hlength : (encodeBdtEntries entries).length = entries.length * bdtEntrySize :=
      bdtRecord.length_encodeAll entries
    have hcount : (encodeBdtEntries entries).length / bdtEntrySize = entries.length := by
      rw [hlength]
      exact Nat.mul_div_cancel _ (by decide)
    unfold BbmdState.decodeBdt
    rw [if_neg (by simp [hlength]), hcount, if_pos (Nat.lt_of_not_le hshort), if_neg hshort]

namespace BbmdState

/-- The device is in its own distribution table. -/
def HasSelf (s : BbmdState) : Prop := ∃ e ∈ s.bdt, e.peer = s.localDevice

/-- The device is in the table once it has been added. -/
theorem hasSelf_ensureSelfInBdt (s : BbmdState) : s.ensureSelfInBdt.HasSelf := by
  unfold ensureSelfInBdt
  by_cases hself : s.bdt.any (fun e => e.peer = s.localDevice) = true
  · rw [if_pos hself]
    simpa [HasSelf] using hself
  · rw [if_neg hself]
    exact ⟨⟨s.localDevice, allOnes⟩, by simp, rfl⟩

/-- It is not added twice. -/
theorem HasSelf.ensureSelfInBdt {s : BbmdState} (h : s.HasSelf) : s.ensureSelfInBdt = s := by
  unfold BbmdState.ensureSelfInBdt
  rw [if_pos]
  simpa [HasSelf] using h

/-- Adding the device leaves everything but the distribution table. -/
theorem ensureSelfInBdt_eq (s : BbmdState) :
    ∃ bdt, s.ensureSelfInBdt = { s with bdt := bdt } := by
  unfold BbmdState.ensureSelfInBdt
  split_ifs
  · exact ⟨s.bdt, rfl⟩
  · exact ⟨_, rfl⟩

/-- Which table the device is left with by a table that it is given. -/
theorem setBdt_eq_ok {entries : List BdtEntry} {s t : BbmdState} :
    s.setBdt entries = .ok t ↔
      entries.length ≤ maxBdtEntries ∧ t = ensureSelfInBdt { s with bdt := entries } := by
  unfold setBdt
  by_cases hlong : entries.length > maxBdtEntries
  · rw [if_pos hlong]
    simp only [reduceCtorEq, false_iff]
    omega
  · rw [if_neg hlong, Except.ok.injEq, eq_comm]
    exact (and_iff_right (by omega)).symm

/-- The device is added to a table once. -/
theorem length_ensureSelfInBdt (s : BbmdState) :
    s.ensureSelfInBdt.bdt.length ≤ s.bdt.length + 1 := by
  unfold BbmdState.ensureSelfInBdt
  split_ifs
  · omega
  · simp

/-- A table in force is at most by the device itself larger than a table that is accepted. -/
theorem Changes.bdt_length {now : ℕ} {msg : BvllMessage} {sender : Endpoint} {s t : BbmdState}
    (h : s.Changes now msg sender t) (hs : s.bdt.length ≤ maxBdtEntries + 1) :
    t.bdt.length ≤ maxBdtEntries + 1 := by
  cases h with
  | keep | purge | delete => exact hs
  | register =>
    rcases s.registerForeignDevice_cases now sender (wordAt msg.payload 0) with
      ⟨heq, -⟩ | ⟨heq, -, -⟩
    · rw [heq]
      exact hs
    · rw [heq]
      exact hs
  | replace entries t _ _ _ hset =>
    obtain ⟨hshort, rfl⟩ := setBdt_eq_ok.mp hset
    have hlength := length_ensureSelfInBdt { s with bdt := entries }
    dsimp only at hlength
    omega

/-- No frame changes the address of the device or who may change the tables, and only a request
to replace it changes the distribution table. -/
theorem Changes.kept {now : ℕ} {msg : BvllMessage} {sender : Endpoint} {s t : BbmdState}
    (h : s.Changes now msg sender t) :
    t.localDevice = s.localDevice ∧ t.managementAcl = s.managementAcl ∧
      (msg.function ≠ .writeBroadcastDistributionTable → t.bdt = s.bdt) ∧
        (s.HasSelf → t.HasSelf) := by
  cases h with
  | keep | purge | delete => exact ⟨rfl, rfl, fun _ => rfl, id⟩
  | register =>
    rcases s.registerForeignDevice_cases now sender (wordAt msg.payload 0) with
      ⟨heq, -⟩ | ⟨heq, -, -⟩
    · rw [heq]
      exact ⟨rfl, rfl, fun _ => rfl, id⟩
    · rw [heq]
      exact ⟨rfl, rfl, fun _ => rfl, id⟩
  | replace entries t hf _ _ hset =>
    obtain ⟨-, rfl⟩ := setBdt_eq_ok.mp hset
    have hself := hasSelf_ensureSelfInBdt { s with bdt := entries }
    obtain ⟨bdt, heq⟩ := ensureSelfInBdt_eq { s with bdt := entries }
    refine ⟨?_, ?_, fun hother => absurd hf hother, fun _ => hself⟩
    · rw [heq]
    · rw [heq]

end BbmdState

/-! ## Start and restart -/

/-- The table that the device starts with: the stored one if there is one that can be read, and
the configured one otherwise. -/
def initialBdt (config : List BdtEntry) (file : Option Bytes) : List BdtEntry :=
  match file with
  | none => config
  | some data =>
      match BbmdState.decodeBdt data with
      | .ok entries => entries
      | .error _ => config

/-- Starts a broadcast management device. The text of an error is the crate's. -/
def startBbmd (display : Error → String) (device : Endpoint) (config : List BdtEntry)
    (acl : List Octets) (file : Option Bytes) : Except Error BbmdState :=
  match (BbmdState.new device).setBdt (initialBdt config file) with
  | .ok state => .ok { state with managementAcl := acl }
  | .error e => .error (.encoding ("BDT configuration error: " ++ display e))

/-- What the device starts with. -/
theorem startBbmd_eq_ok {display : Error → String} {device : Endpoint} {config : List BdtEntry}
    {acl : List Octets} {file : Option Bytes} {s : BbmdState} :
    startBbmd display device config acl file = .ok s ↔
      (initialBdt config file).length ≤ BbmdState.maxBdtEntries ∧
        s = BbmdState.ensureSelfInBdt ⟨initialBdt config file, [], device, acl⟩ := by
  unfold startBbmd
  cases hset : (BbmdState.new device).setBdt (initialBdt config file) with
  | error e =>
    simp only [reduceCtorEq, false_iff, not_and]
    intro hshort
    rw [BbmdState.setBdt_eq_ok.mpr ⟨hshort, rfl⟩] at hset
    cases hset
  | ok t =>
    obtain ⟨hshort, rfl⟩ := BbmdState.setBdt_eq_ok.mp hset
    rw [Except.ok.injEq, eq_comm, and_iff_right hshort]
    unfold BbmdState.ensureSelfInBdt BbmdState.new
    dsimp only
    split_ifs <;> rfl

namespace RecvContext

variable (codes : BvlcCodes)

end RecvContext

end BacnetTransport
