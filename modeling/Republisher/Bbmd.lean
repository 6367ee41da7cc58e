import Republisher.Bvll
import Republisher.Keyed

/-!
# The tables of a broadcast management device

A device that distributes broadcasts keeps a table of its peers and a table of the foreign
devices that registered with it for some time. The tables are sent and stored as records of
ten bytes.
-/

namespace BacnetTransport

open Wire

/-- The nanoseconds of a second. Readings of the monotonic clock are in nanoseconds. -/
def nanosPerSec : ℕ := 1000000000

/-- The bytes of a record of the distribution table. -/
def bdtEntrySize : ℕ := 10

/-- A peer in the broadcast distribution table. -/
structure BdtEntry where
  peer : Endpoint
  broadcastMask : Octets
  deriving DecidableEq, Repr

/-- A foreign device that registered. -/
structure FdtEntry where
  device : Endpoint
  ttl : UInt16
  registeredAt : ℕ
  deriving DecidableEq, Repr

/-- A foreign device as it is sent. -/
structure FdtEntryWire where
  device : Endpoint
  ttl : UInt16
  secondsRemaining : UInt16
  deriving DecidableEq, Repr

namespace FdtEntry

/-- The seconds that a device has beyond its time to live. -/
def gracePeriod : ℕ := 30

/-- The seconds for which a registration holds. -/
def total (e : FdtEntry) : ℕ := e.ttl.toNat + gracePeriod

/-- The registration does not hold any more. -/
def isExpired (now : ℕ) (e : FdtEntry) : Bool :=
  decide (now - e.registeredAt > e.total * nanosPerSec)

/-- The whole seconds left to a registration, as many as fit into the field. -/
def secondsRemaining (now : ℕ) (e : FdtEntry) : UInt16 :=
  UInt16.ofNat (min (e.total - (now - e.registeredAt) / nanosPerSec) u16Max)

/-- The entry as it is sent. -/
def toWire (now : ℕ) (e : FdtEntry) : FdtEntryWire :=
  ⟨e.device, e.ttl, e.secondsRemaining now⟩

end FdtEntry

/-- A record of the distribution table. -/
def BdtEntry.bytes (e : BdtEntry) : Bytes :=
  e.peer.ip.bytes ++ be e.peer.port ++ e.broadcastMask.bytes

/-- A record of the table of foreign devices. -/
def FdtEntryWire.bytes (e : FdtEntryWire) : Bytes :=
  e.device.ip.bytes ++ be e.device.port ++ (be e.ttl ++ be e.secondsRemaining)

/-- Writes entries of a distribution table. -/
def encodeBdtEntries (entries : List BdtEntry) : Bytes := entries.flatMap BdtEntry.bytes

/-- The tables of a device and the address it has itself. -/
structure BbmdState where
  bdt : List BdtEntry
  fdt : List FdtEntry
  localDevice : Endpoint
  managementAcl : List Octets
  deriving DecidableEq, Repr

namespace BbmdState

/-- A device with empty tables. -/
def new (localDevice : Endpoint) : BbmdState := ⟨[], [], localDevice, []⟩

/-! ## The distribution table -/

/-- The entries that a distribution table may be given. -/
def maxBdtEntries : ℕ := 128

/-- The mask of a peer that is addressed itself. -/
def allOnes : Octets := ⟨0xff, 0xff, 0xff, 0xff⟩

/-- Adds the device itself to its distribution table unless it is there. -/
def ensureSelfInBdt (s : BbmdState) : BbmdState :=
  if s.bdt.any fun e => e.peer = s.localDevice then s
  else { s with bdt := s.bdt ++ [⟨s.localDevice, allOnes⟩] }

/-- Replaces the distribution table. -/
def setBdt (entries : List BdtEntry) (s : BbmdState) : Except Error BbmdState :=
  if entries.length > maxBdtEntries then
    .error (.encoding s!"BDT size {entries.length} exceeds maximum of {maxBdtEntries}")
  else
    .ok { s with bdt := entries }.ensureSelfInBdt

/-- Writes the distribution table. -/
def encodeBdt (s : BbmdState) : Bytes := s.bdt.flatMap BdtEntry.bytes

/-- Reads a distribution table. -/
def decodeBdt (data : Bytes) : Except Error (List BdtEntry) :=
  if data.length % bdtEntrySize ≠ 0 then
    .error (.decoding 0 s!"BDT data length {data.length} not a multiple of {bdtEntrySize}")
  else
    let count := data.length / bdtEntrySize
    if count > maxBdtEntries then
      .error (.decoding 0 s!"BDT entry count {count} exceeds maximum of {maxBdtEntries}")
    else
      .ok ((chunks bdtEntrySize data).map fun chunk =>
        ⟨⟨octetsAt chunk 0, wordAt chunk 4⟩, octetsAt chunk 6⟩)

/-! ## The table of foreign devices -/

/-- The foreign devices that there is room for. -/
def maxFdtEntries : ℕ := 512

/-- Registers a foreign device, or registers it again. -/
def registerForeignDevice (now : ℕ) (device : Endpoint) (ttl : UInt16) (s : BbmdState) :
    BvlcResultCode × BbmdState :=
  match s.fdt.findIdx? fun e => e.device == device with
  | some index =>
      (.successfulCompletion,
        { s with fdt := s.fdt.modify index fun e => { e with ttl := ttl, registeredAt := now } })
  | none =>
      if s.fdt.length ≥ maxFdtEntries then (.registerForeignDeviceNak, s)
      else (.successfulCompletion, { s with fdt := s.fdt ++ [⟨device, ttl, now⟩] })

/-- Deletes a foreign device. -/
def deleteForeignDevice (device : Endpoint) (s : BbmdState) : BvlcResultCode × BbmdState :=
  let fdt := s.fdt.filter fun e => e.device ≠ device
  (if fdt.length < s.fdt.length then .successfulCompletion else .deleteForeignDeviceTableEntryNak,
    { s with fdt := fdt })

/-- Forgets the registrations that do not hold any more. -/
def purgeExpired (now : ℕ) (s : BbmdState) : BbmdState :=
  { s with fdt := s.fdt.filter fun e => !e.isExpired now }

/-- Writes the table of foreign devices. -/
def encodeFdt (now : ℕ) (s : BbmdState) : Bytes × BbmdState :=
  let s := s.purgeExpired now
  (s.fdt.flatMap fun e => (e.toWire now).bytes, s)

/-! ## Who may do what, and where broadcasts go -/

/-- The sender is in the distribution table. -/
def isBdtPeer (sender : Endpoint) (s : BbmdState) : Bool := s.bdt.any fun e => e.peer = sender

/-- The sender is registered. -/
def isRegisteredForeignDevice (now : ℕ) (sender : Endpoint) (s : BbmdState) :
    Bool × BbmdState :=
  let s := s.purgeExpired now
  (s.fdt.any fun e => e.device = sender, s)

/-- The sender may change the tables. Without a list every sender may. -/
def isManagementAllowed (source : Octets) (s : BbmdState) : Bool :=
  s.managementAcl.isEmpty || s.managementAcl.contains source

/-- The address at which a peer's network hears broadcasts. -/
def directedBroadcast (e : BdtEntry) : Endpoint :=
  ⟨⟨e.peer.ip.a ||| ~~~e.broadcastMask.a, e.peer.ip.b ||| ~~~e.broadcastMask.b,
    e.peer.ip.c ||| ~~~e.broadcastMask.c, e.peer.ip.d ||| ~~~e.broadcastMask.d⟩, e.peer.port⟩

/-- Where a broadcast of a device goes: to the peers and the foreign devices, but neither to the
device itself nor to the one that sent it. -/
def forwardingTargets (now : ℕ) (exclude : Endpoint) (s : BbmdState) :
    List Endpoint × BbmdState :=
  let s := s.purgeExpired now
  (((s.bdt.filter fun e => e.peer ≠ s.localDevice ∧ e.peer ≠ exclude).map directedBroadcast) ++
    (s.fdt.filter fun e => e.device ≠ exclude).map FdtEntry.device, s)

end BbmdState

end BacnetTransport
