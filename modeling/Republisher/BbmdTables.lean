import Republisher.BipReceive
import Republisher.Leases
import Mathlib.Data.Nat.Basic

/-!
# The tables over a run of frames

Every frame does one of a few things to the tables. Two invariants follow for all runs: the
foreign devices are distinct and at most as many as there is room for, and the distribution
table has the device itself and changes only for senders that may change it. A foreign device is
registered exactly while its last registration holds.
-/

namespace BacnetTransport

open Wire

namespace BbmdState

/-! ## What a frame does to the tables -/

/-- The device that a request names. -/
def requestedDevice (payload : Bytes) : Endpoint := ⟨octetsAt payload 0, wordAt payload 4⟩

/-- What a frame of a sender does to the tables. -/
inductive Changes (now : ℕ) (msg : BvllMessage) (sender : Endpoint) (s : BbmdState) :
    BbmdState → Prop
  | keep (hregister : msg.function = .registerForeignDevice → msg.payload.length < 2)
      (hdelete : msg.function = .deleteForeignDeviceTableEntry →
        ¬ (s.isManagementAllowed sender.ip = true ∧ 6 ≤ msg.payload.length)) :
      Changes now msg sender s s
  | purge (hregister : msg.function ≠ .registerForeignDevice)
      (hdelete : msg.function ≠ .deleteForeignDeviceTableEntry) :
      Changes now msg sender s (s.purgeExpired now)
  | register (hfunction : msg.function = .registerForeignDevice) (hlong : 2 ≤ msg.payload.length) :
      Changes now msg sender s (s.registerForeignDevice now sender (wordAt msg.payload 0)).2
  | delete (hfunction : msg.function = .deleteForeignDeviceTableEntry)
      (hallowed : s.isManagementAllowed sender.ip = true) (hlong : 6 ≤ msg.payload.length) :
      Changes now msg sender s (s.deleteForeignDevice (requestedDevice msg.payload)).2
  | replace (entries : List BdtEntry) (t : BbmdState)
      (hfunction : msg.function = .writeBroadcastDistributionTable)
      (hallowed : s.isManagementAllowed sender.ip = true)
      (hentries : decodeBdt msg.payload = .ok entries) (hset : s.setBdt entries = .ok t) :
      Changes now msg sender s t

/-! ## The operations on the table of foreign devices -/

/-- When the registration stops to hold. -/
def ends (e : FdtEntry) : ℕ := e.registeredAt + e.total * nanosPerSec + 1

/-- A registration has expired when its end has come. -/
theorem isExpired_iff {now : ℕ} {e : FdtEntry} (h : e.registeredAt ≤ now) :
    e.isExpired now = true ↔ ends e ≤ now := by
  unfold FdtEntry.isExpired ends
  rw [decide_eq_true_iff]
  omega

/-- A registration that is accepted puts the device into the table, or renews it there. -/
theorem registerForeignDevice_cases (now : ℕ) (device : Endpoint) (ttl : UInt16)
    (s : BbmdState) :
    (s.registerForeignDevice now device ttl = (.successfulCompletion,
        { s with fdt := Keyed.upsert FdtEntry.device ⟨device, ttl, now⟩ s.fdt }) ∧
      ((∃ e ∈ s.fdt, e.device = device) ∨ s.fdt.length < maxFdtEntries)) ∨
    (s.registerForeignDevice now device ttl = (.registerForeignDeviceNak, s) ∧
      (∀ e ∈ s.fdt, e.device ≠ device) ∧ maxFdtEntries ≤ s.fdt.length) := by
  unfold registerForeignDevice Keyed.upsert
  cases hindex : s.fdt.findIdx? fun e => e.device == device with
  | some index =>
    obtain ⟨hlt, hsame, -⟩ := List.findIdx?_eq_some_iff_getElem.mp hindex
    have hdevice : s.fdt[index].device = device := beq_iff_eq.mp hsame
    refine .inl ⟨?_, .inl ⟨s.fdt[index], List.getElem_mem hlt, hdevice⟩⟩
    have hrenewed : s.fdt.modify index (fun e => { e with ttl := ttl, registeredAt := now }) =
        s.fdt.set index ⟨device, ttl, now⟩ := by
      rw [List.modify_eq_take_cons_drop hlt, List.set_eq_take_append_cons_drop, if_pos hlt, hdevice]
    dsimp only
    rw [hrenewed]
  | none =>
    have hnew : ∀ e ∈ s.fdt, e.device ≠ device := fun e he =>
      beq_eq_false_iff_ne.mp (List.findIdx?_eq_none_iff.mp hindex e he)
    dsimp only
    by_cases hfull : s.fdt.length ≥ maxFdtEntries
    · rw [if_pos hfull]
      exact .inr ⟨rfl, hnew, hfull⟩
    · rw [if_neg hfull]
      exact .inl ⟨rfl, .inr (by omega)⟩

/-- Foreign devices are distinct, there is room for them, and they registered before now. -/
structure FdtInv (now : ℕ) (s : BbmdState) : Prop where
  nodup : (s.fdt.map FdtEntry.device).Nodup
  length : s.fdt.length ≤ maxFdtEntries
  past : ∀ e ∈ s.fdt, e.registeredAt ≤ now

/-- Time passes. -/
theorem FdtInv.later {now later : ℕ} {s : BbmdState} (h : s.FdtInv now) (hlater : now ≤ later) :
    s.FdtInv later :=
  ⟨h.nodup, h.length, fun e he => Nat.le_trans (h.past e he) hlater⟩

/-- Fewer foreign devices. -/
theorem FdtInv.filter {now : ℕ} {s t : BbmdState} (h : s.FdtInv now) {p : FdtEntry → Bool}
    (ht : t.fdt = s.fdt.filter p) : t.FdtInv now := by
  refine ⟨?_, ?_, fun e he => ?_⟩
  · rw [ht]
    exact h.nodup.sublist (List.filter_sublist.map FdtEntry.device)
  · rw [ht]
    exact Nat.le_trans (List.length_filter_le _ _) h.length
  · rw [ht] at he
    exact h.past e (List.mem_of_mem_filter he)

/-- A registration keeps the foreign devices distinct and within their room. -/
theorem FdtInv.register {now : ℕ} {s : BbmdState} (h : s.FdtInv now) (device : Endpoint)
    (ttl : UInt16) : (s.registerForeignDevice now device ttl).2.FdtInv now := by
  rcases s.registerForeignDevice_cases now device ttl with ⟨heq, hroom⟩ | ⟨heq, -, -⟩
  · rw [heq]
    refine ⟨Keyed.nodup_map_upsert h.nodup _, ?_, fun e he => ?_⟩
    · have hlength := h.length
      have hgrown := @Keyed.length_upsert _ _ _ FdtEntry.device ⟨device, ttl, now⟩ s.fdt
      dsimp only at hgrown ⊢
      rw [hgrown]
      split_ifs with hnew
      · rcases hroom with ⟨e, he, hdevice⟩ | hroom
        · exact absurd hdevice (hnew e he)
        · omega
      · omega
    · by_cases hdevice : e.device = device
      · have hfound := @Keyed.find?_upsert_self _ _ _ FdtEntry.device ⟨device, ttl, now⟩ s.fdt
        have hsame := (Keyed.find?_key_eq_some_iff (Keyed.nodup_map_upsert h.nodup _)).mpr
          ⟨he, hdevice⟩
        obtain rfl := Option.some.inj (hfound.symm.trans hsame)
        exact Nat.le_refl now
      · exact h.past e ((Keyed.mem_upsert_of_ne hdevice s.fdt).mp he)
  · rw [heq]
    exact h

/-- When the registration of each device stops to hold. -/
def table (s : BbmdState) (device : Endpoint) : Option ℕ :=
  (s.fdt.find? fun e => e.device == device).map ends

/-- A device is in the table with the end of its entry. -/
theorem FdtInv.table_eq_some {now : ℕ} {s : BbmdState} (h : s.FdtInv now) {device : Endpoint}
    {last : ℕ} : s.table device = some last ↔ ∃ e ∈ s.fdt, e.device = device ∧ ends e = last := by
  unfold table
  simp only [Option.map_eq_some_iff, Keyed.find?_key_eq_some_iff h.nodup, and_assoc]

/-- Forgetting what has expired is forgetting what has ended. -/
theorem FdtInv.forgets_purge {now : ℕ} {s : BbmdState} (h : s.FdtInv now) :
    Lease.Forgets now s.table (s.purgeExpired now).table := by
  intro device
  unfold table purgeExpired
  dsimp only
  rw [Keyed.find?_filter_key h.nodup]
  cases hfind : s.fdt.find? fun e => e.device == device with
  | none => exact .inl rfl
  | some e =>
    have hpast := h.past e (List.mem_of_find?_eq_some hfind)
    by_cases hexpired : e.isExpired now = true
    · refine .inr ⟨by simp [Option.filter, hexpired], fun last hlast => ?_⟩
      rw [← Option.some.inj hlast]
      exact (isExpired_iff hpast).mp hexpired
    · exact .inl (by simp [Option.filter, hexpired])

/-- A device is registered exactly when the table says that it is. -/
theorem FdtInv.isRegistered_iff {now : ℕ} {s : BbmdState} (h : s.FdtInv now) (device : Endpoint) :
    (s.isRegisteredForeignDevice now device).1 = true ↔ Lease.Live s.table now device := by
  unfold isRegisteredForeignDevice purgeExpired Lease.Live
  simp only [h.table_eq_some, List.any_eq_true, List.mem_filter, decide_eq_true_eq]
  constructor
  · rintro ⟨e, ⟨he, hholds⟩, hdevice⟩
    refine ⟨ends e, ⟨e, he, hdevice, rfl⟩, Nat.lt_of_not_le fun hended => ?_⟩
    rw [(isExpired_iff (h.past e he)).mpr hended] at hholds
    cases hholds
  · rintro ⟨_, ⟨e, he, hdevice, rfl⟩, hlive⟩
    refine ⟨e, ⟨he, ?_⟩, hdevice⟩
    have hholds : e.isExpired now ≠ true := fun hexpired =>
      absurd ((isExpired_iff (h.past e he)).mp hexpired) (by omega)
    simpa using hholds

/-- An accepted registration is entered in the table. -/
theorem table_upsert (device : Endpoint) (ttl : UInt16) (now : ℕ) (s : BbmdState) :
    table { s with fdt := Keyed.upsert FdtEntry.device ⟨device, ttl, now⟩ s.fdt } =
      Function.update s.table device (some (ends ⟨device, ttl, now⟩)) := by
  funext other
  unfold table
  dsimp only
  by_cases hother : other = device
  · subst hother
    rw [Function.update_self,
      @Keyed.find?_upsert_self _ _ _ FdtEntry.device ⟨other, ttl, now⟩ s.fdt, Option.map_some]
  · rw [Function.update_of_ne hother,
      @Keyed.find?_upsert_of_ne _ _ _ FdtEntry.device _ _ (Ne.symm hother) s.fdt]

/-- A device that is deleted leaves the table. -/
theorem table_delete (device : Endpoint) (s : BbmdState) :
    (s.deleteForeignDevice device).2.table = Function.update s.table device none := by
  funext other
  unfold table deleteForeignDevice
  dsimp only
  rw [List.find?_filter]
  by_cases hother : other = device
  · subst hother
    rw [Function.update_self, List.find?_eq_none.mpr]
    · rfl
    · intro e _
      simp
  · rw [Function.update_of_ne hother]
    congr 2
    funext e
    by_cases he : e.device = other
    · simp [he, hother]
    · simp [he]

/-- A distribution table that is accepted leaves the foreign devices. -/
theorem fdt_setBdt {entries : List BdtEntry} {s t : BbmdState} (h : s.setBdt entries = .ok t) :
    t.fdt = s.fdt := by
  unfold setBdt ensureSelfInBdt at h
  by_cases hlong : entries.length > maxBdtEntries
  · rw [if_pos hlong] at h
    cases h
  · rw [if_neg hlong, Except.ok.injEq] at h
    rw [← h]
    split_ifs <;> rfl

/-- The registration or the deletion that a frame is. A registration that is refused is none. -/
def leaseEvents (now : ℕ) (msg : BvllMessage) (sender : Endpoint) (s : BbmdState) :
    List (Lease.Event Endpoint ℕ) :=
  match msg.function with
  | .registerForeignDevice =>
      let ttl := wordAt msg.payload 0
      if 2 ≤ msg.payload.length ∧
          (s.registerForeignDevice now sender ttl).1 = .successfulCompletion then
        [.grant sender (ends ⟨sender, ttl, now⟩)]
      else []
  | .deleteForeignDeviceTableEntry =>
      if s.isManagementAllowed sender.ip = true ∧ 6 ≤ msg.payload.length then
        [.revoke (requestedDevice msg.payload)]
      else []
  | _ => []

/-- Forgetting again at the same time changes nothing. -/
theorem purgeExpired_again (now : ℕ) (s : BbmdState) :
    (s.purgeExpired now).purgeExpired now = s.purgeExpired now := by
  unfold purgeExpired
  simp only [List.filter_filter, Bool.and_self]

/-- A frame keeps the foreign devices distinct and within their room. -/
theorem Changes.inv {now : ℕ} {msg : BvllMessage} {sender : Endpoint} {s t : BbmdState}
    (h : s.Changes now msg sender t) (hs : s.FdtInv now) : t.FdtInv now := by
  cases h with
  | keep => exact hs
  | purge => exact hs.filter rfl
  | register => exact hs.register sender _
  | delete => exact hs.filter rfl
  | replace entries t _ _ _ hset =>
    have hfdt := fdt_setBdt hset
    exact ⟨hfdt ▸ hs.nodup, hfdt ▸ hs.length, hfdt ▸ hs.past⟩

/-- A table that agrees with a history still does after a frame, which adds to the history the
registration or the deletion that it is. -/
theorem Changes.sameFrom {now : ℕ} {msg : BvllMessage} {sender : Endpoint} {s t : BbmdState}
    (h : s.Changes now msg sender t) (hs : s.FdtInv now) {history : List (Lease.Event Endpoint ℕ)}
    (hsame : Lease.SameFrom now s.table (Lease.replay history)) :
    Lease.SameFrom now t.table (Lease.replay (history ++ s.leaseEvents now msg sender)) := by
  have hnone (hevents : s.leaseEvents now msg sender = [])
      (htable : Lease.Forgets now s.table t.table) :
      Lease.SameFrom now t.table (Lease.replay (history ++ s.leaseEvents now msg sender)) := by
    rw [hevents, List.append_nil]
    exact hsame.forget htable
  cases h with
  | keep hregister hdelete =>
    refine hnone ?_ fun device => .inl rfl
    unfold leaseEvents
    split
    · rename_i hf
      exact if_neg fun hboth => absurd hboth.1 (by have := hregister hf; omega)
    · rename_i hf
      exact if_neg (hdelete hf)
    · rfl
  | purge hregister hdelete =>
    refine hnone ?_ hs.forgets_purge
    unfold leaseEvents
    split
    · rename_i hf
      exact absurd hf hregister
    · rename_i hf
      exact absurd hf hdelete
    · rfl
  | register hf hlong =>
    rcases s.registerForeignDevice_cases now sender (wordAt msg.payload 0) with
      ⟨heq, -⟩ | ⟨heq, -, -⟩
    · have hevents : s.leaseEvents now msg sender =
          [.grant sender (ends ⟨sender, wordAt msg.payload 0, now⟩)] := by
        unfold leaseEvents
        rw [hf]
        exact if_pos ⟨hlong, congrArg Prod.fst heq⟩
      rw [heq, hevents, Lease.replay_concat, table_upsert]
      exact hsame.update sender _
    · refine hnone ?_ ?_
      · unfold leaseEvents
        rw [hf]
        refine if_neg fun hboth => ?_
        rw [heq] at hboth
        cases hboth.2
      · rw [heq]
        exact fun device => .inl rfl
  | delete hf hallowed hlong =>
    have hevents : s.leaseEvents now msg sender = [.revoke (requestedDevice msg.payload)] := by
      unfold leaseEvents
      rw [hf]
      exact if_pos ⟨hallowed, hlong⟩
    rw [hevents, Lease.replay_concat, table_delete]
    exact hsame.update _ none
  | replace entries t hf _ _ hset =>
    refine hnone ?_ fun device => .inl ?_
    · unfold leaseEvents
      rw [hf]
    · unfold table
      rw [fdt_setBdt hset]

/-- The tables agree from now on, except in what they say of some devices. -/
structure AgreesApartFrom (s : BbmdState) (devices : List Endpoint) (now : ℕ) (t : BbmdState) :
    Prop where
  bdt : t.bdt = s.bdt
  acl : t.managementAcl = s.managementAcl
  live : ∀ later, now ≤ later → ∀ device, device ∉ devices →
    (Lease.Live t.table later device ↔ Lease.Live s.table later device)

/-- Tables that agree apart from some devices and then apart from others. -/
theorem AgreesApartFrom.trans {s t u : BbmdState} {devices others : List Endpoint} {now later : ℕ}
    (h : s.AgreesApartFrom devices now t) (hnext : t.AgreesApartFrom others later u)
    (hlater : now ≤ later) : s.AgreesApartFrom (devices ++ others) later u := by
  refine ⟨hnext.bdt.trans h.bdt, hnext.acl.trans h.acl, fun time htime device hdevice => ?_⟩
  rw [List.mem_append, not_or] at hdevice
  exact (hnext.live time htime device hdevice.2).trans
    (h.live time (Nat.le_trans hlater htime) device hdevice.1)

/-- A frame of a sender that may not change the tables changes at most what they say of the
sender. -/
theorem Changes.agrees {now : ℕ} {msg : BvllMessage} {sender : Endpoint} {s t : BbmdState}
    (h : s.Changes now msg sender t) (hs : s.FdtInv now)
    (hstranger : s.isManagementAllowed sender.ip = false) :
    s.AgreesApartFrom [sender] now t := by
  cases h with
  | keep => exact ⟨rfl, rfl, fun _ _ _ _ => Iff.rfl⟩
  | purge =>
    exact ⟨rfl, rfl, fun later hlater device _ => hs.forgets_purge.live hlater device⟩
  | register =>
    rcases s.registerForeignDevice_cases now sender (wordAt msg.payload 0) with
      ⟨heq, -⟩ | ⟨heq, -, -⟩
    · rw [heq]
      refine ⟨rfl, rfl, fun later _ device hdevice => ?_⟩
      unfold Lease.Live
      rw [table_upsert, Function.update_of_ne fun hsame => hdevice (List.mem_singleton.mpr hsame)]
    · rw [heq]
      exact ⟨rfl, rfl, fun _ _ _ _ => Iff.rfl⟩
  | delete _ hallowed => exact absurd hallowed (by simp [hstranger])
  | replace _ _ _ hallowed => exact absurd hallowed (by simp [hstranger])

end BbmdState

namespace RecvContext

variable (codes : BvlcCodes) {now : ℕ} {msg : BvllMessage} {sender : Endpoint}
  {ctx : RecvContext} {s : BbmdState}

/-- A device without tables does not get any. -/
theorem handleBvllMessage_none (h : ctx.bbmd = none) :
    (ctx.handleBvllMessage codes now msg sender).1.bbmd = none := by
  unfold handleBvllMessage
  cases hf : msg.function
  case originalUnicastNpdu =>
    simp only [onOriginalUnicast]
    split_ifs <;> exact h
  case originalBroadcastNpdu =>
    simp only [onOriginalBroadcast, h]
    split_ifs <;> exact h
  case forwardedNpdu =>
    simp only [onForwarded, h]
    split
    · split_ifs <;> exact h
    · exact h
  case distributeBroadcastToNetwork =>
    simp only [onDistribute, h]
    split_ifs <;> exact h
  case bvlcResult | readBroadcastDistributionTableAck | readForeignDeviceTableAck =>
    simp only [onAnswer]
    cases ctx.bvlcResponse <;> exact h
  all_goals simp [onRegister, onReadBdt, onWriteBdt, onReadFdt, onDeleteFdtEntry, h]

/-- A frame does to the tables one of the things that frames do. -/
theorem handleBvllMessage_changes (now : ℕ) (msg : BvllMessage) (sender : Endpoint)
    (h : ctx.bbmd = some s) :
    ∃ t, (ctx.handleBvllMessage codes now msg sender).1.bbmd = some t ∧
      s.Changes now msg sender t := by
  have hkeep (hregister : msg.function ≠ .registerForeignDevice)
      (hdelete : msg.function ≠ .deleteForeignDeviceTableEntry) : s.Changes now msg sender s :=
    .keep (fun hf => absurd hf hregister) fun hf => absurd hf hdelete
  unfold handleBvllMessage
  cases hf : msg.function
  case originalUnicastNpdu =>
    simp only [onOriginalUnicast]
    split_ifs <;> exact ⟨s, h, hkeep (by simp [hf]) (by simp [hf])⟩
  case originalBroadcastNpdu =>
    simp only [onOriginalBroadcast, h]
    split_ifs
    · exact ⟨s, h, hkeep (by simp [hf]) (by simp [hf])⟩
    · exact ⟨_, rfl, .purge (by simp [hf]) (by simp [hf])⟩
  case forwardedNpdu =>
    simp only [onForwarded, h]
    split
    · split_ifs
      · exact ⟨s, h, hkeep (by simp [hf]) (by simp [hf])⟩
      · exact ⟨s, h, hkeep (by simp [hf]) (by simp [hf])⟩
      · exact ⟨_, rfl, .purge (by simp [hf]) (by simp [hf])⟩
    · exact ⟨s, h, hkeep (by simp [hf]) (by simp [hf])⟩
  case distributeBroadcastToNetwork =>
    have hpurge : s.Changes now msg sender (s.purgeExpired now) :=
      .purge (by simp [hf]) (by simp [hf])
    simp only [onDistribute, h]
    split_ifs
    · exact ⟨s, h, hkeep (by simp [hf]) (by simp [hf])⟩
    · exact ⟨_, rfl, hpurge⟩
    · exact ⟨_, congrArg some (s.purgeExpired_again now), hpurge⟩
  case registerForeignDevice =>
    simp only [onRegister, h]
    split_ifs with hshort
    · exact ⟨s, h, .keep (fun _ => hshort) (by simp [hf])⟩
    · exact ⟨_, rfl, .register hf (by omega)⟩
  case readBroadcastDistributionTable =>
    simp only [onReadBdt, h]
    exact ⟨s, rfl, hkeep (by simp [hf]) (by simp [hf])⟩
  case readForeignDeviceTable =>
    simp only [onReadFdt, h]
    exact ⟨_, rfl, .purge (by simp [hf]) (by simp [hf])⟩
  case writeBroadcastDistributionTable =>
    have hsame := hkeep (by simp [hf]) (by simp [hf])
    simp only [onWriteBdt, h]
    by_cases hacl : s.isManagementAllowed sender.ip = true
    · rw [if_neg (by simp [hacl])]
      cases hentries : BbmdState.decodeBdt msg.payload with
      | error e => exact ⟨s, h, hsame⟩
      | ok entries =>
        dsimp only
        cases hset : s.setBdt entries with
        | error e => exact ⟨s, h, hsame⟩
        | ok t => exact ⟨t, rfl, .replace entries t hf hacl hentries hset⟩
    · rw [if_pos (by simpa using hacl)]
      exact ⟨s, h, hsame⟩
  case deleteForeignDeviceTableEntry =>
    simp only [onDeleteFdtEntry, h]
    split_ifs with hacl hlong
    · refine ⟨s, h, .keep (by simp [hf]) fun _ hboth => ?_⟩
      rw [hboth.1] at hacl
      cases hacl
    · exact ⟨_, rfl, .delete hf (by simpa using hacl) hlong⟩
    · exact ⟨s, h, .keep (by simp [hf]) fun _ hboth => hlong hboth.2⟩
  case bvlcResult | readBroadcastDistributionTableAck | readForeignDeviceTableAck =>
    simp only [onAnswer]
    cases ctx.bvlcResponse <;> exact ⟨s, h, hkeep (by simp [hf]) (by simp [hf])⟩
  case other => exact ⟨s, h, hkeep (by simp [hf]) (by simp [hf])⟩

/-- What the receive loop works with apart from the tables and the waiting request stays. -/
theorem handleBvllMessage_fixed (now : ℕ) (msg : BvllMessage) (sender : Endpoint)
    (ctx : RecvContext) : ∃ bbmd waiting,
    (ctx.handleBvllMessage codes now msg sender).1 =
      { ctx with bbmd := bbmd, bvlcResponse := waiting } := by
  unfold handleBvllMessage onOriginalUnicast onOriginalBroadcast onForwarded onDistribute
    onRegister onReadBdt onWriteBdt onReadFdt onDeleteFdtEntry onAnswer
  cases msg.function <;> dsimp only
  all_goals repeat' split
  all_goals exact ⟨_, _, rfl⟩

end RecvContext

/-! ## Runs of frames -/

/-- A datagram that arrives. -/
structure Arrival where
  time : ℕ
  data : Bytes
  sender : Endpoint

namespace RecvContext

variable (codes : BvlcCodes)

/-- The context after the datagrams. -/
def afterFrames (ctx : RecvContext) : List Arrival → RecvContext
  | [] => ctx
  | a :: rest => (ctx.receive codes a.time a.data a.sender).1.afterFrames rest

/-- What every frame keeps of the tables, every run keeps. -/
theorem afterFrames_invariant {P : BbmdState → Prop} (hstep : ∀ {now msg sender s t},
      BbmdState.Changes now msg sender s t → P s → P t) {ctx : RecvContext} {s : BbmdState}
    (hctx : ctx.bbmd = some s) (hs : P s) (arrivals : List Arrival) :
    ∃ t, (ctx.afterFrames codes arrivals).bbmd = some t ∧ P t := by
  induction arrivals generalizing ctx s with
  | nil => exact ⟨s, hctx, hs⟩
  | cons a rest ih =>
    have hnext : ∃ t, (ctx.receive codes a.time a.data a.sender).1.bbmd = some t ∧ P t := by
      unfold receive
      cases decodeBvll codes (a.data.take recvBufferLength) with
      | error e => exact ⟨s, hctx, hs⟩
      | ok msg =>
        obtain ⟨t, ht, hchanges⟩ := handleBvllMessage_changes codes a.time msg a.sender hctx
        exact ⟨t, ht, hstep hchanges hs⟩
    obtain ⟨t, ht, hP⟩ := hnext
    exact ih ht hP

/-- The registration or the deletion that a datagram is. -/
def frameEvents (ctx : RecvContext) (a : Arrival) : List (Lease.Event Endpoint ℕ) :=
  match ctx.bbmd, decodeBvll codes (a.data.take recvBufferLength) with
  | some s, .ok msg => s.leaseEvents a.time msg a.sender
  | _, _ => []

/-- The accepted registrations and the deletions of a run, each with the time at which it ends. -/
def leaseHistory (ctx : RecvContext) : List Arrival → List (Lease.Event Endpoint ℕ)
  | [] => []
  | a :: rest =>
      ctx.frameEvents codes a ++ (ctx.receive codes a.time a.data a.sender).1.leaseHistory rest

/-- One datagram keeps the table in agreement with the history. -/
theorem receive_sameFrom {ctx : RecvContext} {s : BbmdState} (hctx : ctx.bbmd = some s)
    (a : Arrival) (hs : s.FdtInv a.time) {history : List (Lease.Event Endpoint ℕ)}
    (hsame : Lease.SameFrom a.time s.table (Lease.replay history)) :
    ∃ t, (ctx.receive codes a.time a.data a.sender).1.bbmd = some t ∧ t.FdtInv a.time ∧
      Lease.SameFrom a.time t.table (Lease.replay (history ++ ctx.frameEvents codes a)) := by
  unfold receive frameEvents
  rw [hctx]
  cases hdecode : decodeBvll codes (a.data.take recvBufferLength) with
  | error e => exact ⟨s, hctx, hs, by simpa using hsame⟩
  | ok msg =>
    obtain ⟨t, ht, hchanges⟩ := handleBvllMessage_changes codes a.time msg a.sender hctx
    exact ⟨t, ht, hchanges.inv hs, hchanges.sameFrom hs hsame⟩

/-- A run of datagrams keeps the table in agreement with the history. -/
theorem afterFrames_sameFrom {ctx : RecvContext} {s : BbmdState} (hctx : ctx.bbmd = some s)
    {arrivals : List Arrival} {start now : ℕ} (hs : s.FdtInv start)
    {history : List (Lease.Event Endpoint ℕ)}
    (hsame : Lease.SameFrom start s.table (Lease.replay history))
    (hclock : (start :: arrivals.map Arrival.time ++ [now]).Pairwise (· ≤ ·)) :
    ∃ t, (ctx.afterFrames codes arrivals).bbmd = some t ∧ t.FdtInv now ∧
      Lease.SameFrom now t.table
        (Lease.replay (history ++ ctx.leaseHistory codes arrivals)) := by
  induction arrivals generalizing ctx s start history with
  | nil =>
    have hnow : start ≤ now := by simpa using hclock
    exact ⟨s, hctx, hs.later hnow, by simpa [leaseHistory] using hsame.later hnow⟩
  | cons a rest ih =>
    rw [List.map_cons, List.cons_append, List.pairwise_cons] at hclock
    have hlater : start ≤ a.time := hclock.1 _ (by simp)
    obtain ⟨t, ht, hinv, hsame⟩ := receive_sameFrom codes hctx a (hs.later hlater)
      (hsame.later hlater)
    have hrest := ih ht hinv hsame hclock.2
    rw [List.append_assoc] at hrest
    exact hrest

/-- A device that starts without foreign devices has a table that agrees with the history. -/
theorem afterFrames_of_empty {ctx : RecvContext} {s : BbmdState} (hctx : ctx.bbmd = some s)
    (hempty : s.fdt = []) {arrivals : List Arrival} {now : ℕ}
    (hclock : (arrivals.map Arrival.time ++ [now]).Pairwise (· ≤ ·)) :
    ∃ t, (ctx.afterFrames codes arrivals).bbmd = some t ∧ t.FdtInv now ∧
      Lease.SameFrom now t.table (Lease.replay (ctx.leaseHistory codes arrivals)) := by
  have hs : s.FdtInv 0 := ⟨by simp [hempty], by simp [hempty], by simp [hempty]⟩
  have htable : s.table = fun _ => none := by
    funext device
    simp [BbmdState.table, hempty]
  have hsame : Lease.SameFrom 0 s.table (Lease.replay []) := htable ▸ Lease.SameFrom.refl 0 _
  exact afterFrames_sameFrom codes hctx hs hsame
    (List.pairwise_cons.mpr ⟨fun _ _ => Nat.zero_le _, hclock⟩)

/-- A device that starts without foreign devices has at every later time those registered whose
last accepted registration has not ended and was not deleted, distinct ones and at most as many
as there is room for. -/
theorem registered_iff_lastAccepted {ctx : RecvContext} {s : BbmdState} (hctx : ctx.bbmd = some s)
    (hempty : s.fdt = []) (arrivals : List Arrival) (now : ℕ)
    (hclock : (arrivals.map Arrival.time ++ [now]).Pairwise (· ≤ ·)) :
    ∃ t, (ctx.afterFrames codes arrivals).bbmd = some t ∧
      (t.fdt.map FdtEntry.device).Nodup ∧ t.fdt.length ≤ BbmdState.maxFdtEntries ∧
        ∀ device, (t.isRegisteredForeignDevice now device).1 = true ↔
          ∃ before ends after, ctx.leaseHistory codes arrivals =
              before ++ .grant device ends :: after ∧
            now < ends ∧ ∀ e ∈ after, e.key ≠ device := by
  obtain ⟨t, ht, hinv, hsame⟩ := afterFrames_of_empty codes hctx hempty hclock
  refine ⟨t, ht, hinv.nodup, hinv.length, fun device => ?_⟩
  rw [hinv.isRegistered_iff, hsame now (Nat.le_refl now), Lease.live_replay_last_iff]

/-- A management device without entries that takes changes from one address. -/
def bareDevice : RecvContext :=
  ⟨[10, 0, 0, 1, 0xba, 0xc0], some ⟨[], [], ⟨⟨10, 0, 0, 1⟩, 47808⟩, [⟨10, 0, 0, 2⟩]⟩,
    ⟨⟨10, 0, 0, 255⟩, 47808⟩, none, false⟩

/-- A registration for a minute. -/
def registration : Arrival := ⟨0, [0x81, 0x05, 0, 6, 0, 60], ⟨⟨10, 0, 1, 9⟩, 47808⟩⟩

/-- A device that registers for a minute is registered for ninety seconds and no longer. -/
theorem registered_for_a_minute :
    (∃ t, (bareDevice.afterFrames standardCodes [registration]).bbmd = some t ∧
      (t.isRegisteredForeignDevice (90 * nanosPerSec) registration.sender).1 = true) ∧
    ∃ t, (bareDevice.afterFrames standardCodes [registration]).bbmd = some t ∧
      (t.isRegisteredForeignDevice (90 * nanosPerSec + 1) registration.sender).1 = false := by
  have hhistory : bareDevice.leaseHistory standardCodes [registration] =
      [.grant registration.sender (90 * nanosPerSec + 1)] := by
    have hread : decodeBvll standardCodes (registration.data.take recvBufferLength) =
        .ok ⟨.registerForeignDevice, [0, 60], none, none⟩ := by decide
    unfold leaseHistory frameEvents
    rw [hread]
    simp [leaseHistory, bareDevice, BbmdState.leaseEvents, BbmdState.registerForeignDevice,
      BbmdState.maxFdtEntries]
    decide
  constructor
  · obtain ⟨t, ht, -, -, h⟩ := registered_iff_lastAccepted standardCodes
      (show bareDevice.bbmd = some _ from rfl) rfl [registration] (90 * nanosPerSec) (by decide)
    exact ⟨t, ht, (h _).mpr ⟨[], _, [], hhistory, by decide, by simp⟩⟩
  · obtain ⟨t, ht, -, -, h⟩ := registered_iff_lastAccepted standardCodes
      (show bareDevice.bbmd = some _ from rfl) rfl [registration] (90 * nanosPerSec + 1) (by decide)
    refine ⟨t, ht, ?_⟩
    rw [Bool.eq_false_iff]
    intro hlive
    obtain ⟨before, ends, after, hsplit, hlater, -⟩ := (h _).mp hlive
    rw [hhistory] at hsplit
    rcases before with _ | ⟨e, before⟩
    · injection hsplit with hfirst
      injection hfirst
      omega
    · simp at hsplit

/-! ## Senders that may not change the tables -/

/-- A datagram of a sender that may not change the tables. -/
theorem receive_agrees {ctx : RecvContext} {s : BbmdState} (hctx : ctx.bbmd = some s) (a : Arrival)
    (hs : s.FdtInv a.time) (hstranger : s.isManagementAllowed a.sender.ip = false) :
    ∃ t, (ctx.receive codes a.time a.data a.sender).1.bbmd = some t ∧ t.FdtInv a.time ∧
      s.AgreesApartFrom [a.sender] a.time t := by
  unfold receive
  cases decodeBvll codes (a.data.take recvBufferLength) with
  | error e => exact ⟨s, hctx, hs, rfl, rfl, fun _ _ _ _ => Iff.rfl⟩
  | ok msg =>
    obtain ⟨t, ht, hchanges⟩ := handleBvllMessage_changes codes a.time msg a.sender hctx
    exact ⟨t, ht, hchanges.inv hs, hchanges.agrees hs hstranger⟩

/-- A run of datagrams of such senders. -/
theorem afterFrames_agrees {ctx : RecvContext} {s : BbmdState} (hctx : ctx.bbmd = some s)
    {arrivals : List Arrival} {start now : ℕ} (hs : s.FdtInv start)
    (hclock : (start :: arrivals.map Arrival.time ++ [now]).Pairwise (· ≤ ·))
    (hstrangers : ∀ a ∈ arrivals, s.isManagementAllowed a.sender.ip = false) :
    ∃ t, (ctx.afterFrames codes arrivals).bbmd = some t ∧ t.FdtInv now ∧
      s.AgreesApartFrom (arrivals.map Arrival.sender) now t := by
  induction arrivals generalizing ctx s start with
  | nil =>
    have hnow : start ≤ now := by simpa using hclock
    exact ⟨s, hctx, hs.later hnow, rfl, rfl, fun _ _ _ _ => Iff.rfl⟩
  | cons a rest ih =>
    rw [List.map_cons, List.cons_append, List.pairwise_cons] at hclock
    have hlater : start ≤ a.time := hclock.1 _ (by simp)
    have hnow : a.time ≤ now := (List.pairwise_cons.mp hclock.2).1 _ (by simp)
    obtain ⟨t, ht, hinv, hagree⟩ := receive_agrees codes hctx a (hs.later hlater)
      (hstrangers a List.mem_cons_self)
    have hrest : ∀ b ∈ rest, t.isManagementAllowed b.sender.ip = false := by
      intro b hb
      unfold BbmdState.isManagementAllowed
      rw [hagree.acl]
      exact hstrangers b (List.mem_cons_of_mem _ hb)
    obtain ⟨u, hu, huinv, huagree⟩ := ih ht hinv hclock.2 hrest
    exact ⟨u, hu, huinv, hagree.trans huagree hnow⟩

/-- What a run of datagrams leaves when none of its senders may change the tables: the
distribution table, and of every device that sends nothing whether it is registered. -/
theorem strangers_change_nothing {ctx : RecvContext} {s : BbmdState} (hctx : ctx.bbmd = some s)
    {arrivals : List Arrival} {start now : ℕ} (hs : s.FdtInv start)
    (hclock : (start :: arrivals.map Arrival.time ++ [now]).Pairwise (· ≤ ·))
    (hstrangers : ∀ a ∈ arrivals, s.isManagementAllowed a.sender.ip = false) :
    ∃ t, (ctx.afterFrames codes arrivals).bbmd = some t ∧ t.bdt = s.bdt ∧
      t.managementAcl = s.managementAcl ∧ ∀ device, (∀ a ∈ arrivals, a.sender ≠ device) →
        (t.isRegisteredForeignDevice now device).1 =
          (s.isRegisteredForeignDevice now device).1 := by
  obtain ⟨t, ht, hinv, hagree⟩ := afterFrames_agrees codes hctx hs hclock hstrangers
  have hnow : start ≤ now := (List.pairwise_cons.mp hclock).1 _ (by simp)
  refine ⟨t, ht, hagree.bdt, hagree.acl, fun device hsilent => ?_⟩
  rw [Bool.eq_iff_iff, hinv.isRegistered_iff, (hs.later hnow).isRegistered_iff]
  refine hagree.live now (Nat.le_refl now) device fun hmem => ?_
  obtain ⟨a, ha, hsender⟩ := List.mem_map.mp hmem
  exact hsilent a ha hsender

/-- A device at an address that may not change the tables. -/
def stranger : Arrival := ⟨5, [0x81, 0x08, 0, 10, 10, 0, 1, 9, 0xba, 0xc0], ⟨⟨10, 0, 0, 7⟩, 47808⟩⟩

/-- A management device at which a foreign device is registered. -/
def busyDevice : BbmdState :=
  ⟨[⟨⟨⟨10, 0, 0, 1⟩, 47808⟩, BbmdState.allOnes⟩], [⟨registration.sender, 60, 0⟩],
    ⟨⟨10, 0, 0, 1⟩, 47808⟩, [⟨10, 0, 0, 2⟩]⟩

/-- A stranger that asks to delete a foreign device leaves it registered. -/
theorem stranger_changes_nothing :
    ∃ t, (afterFrames standardCodes { bareDevice with bbmd := some busyDevice }
        [stranger]).bbmd = some t ∧ t.bdt = busyDevice.bdt ∧
      (t.isRegisteredForeignDevice (80 * nanosPerSec) registration.sender).1 = true := by
  obtain ⟨t, ht, hbdt, -, hkept⟩ := strangers_change_nothing standardCodes
    (show RecvContext.bbmd { bareDevice with bbmd := some busyDevice } = some busyDevice from rfl)
    (show busyDevice.FdtInv 0 from ⟨by decide, by decide, by decide⟩)
    (show (0 :: [stranger].map Arrival.time ++ [80 * nanosPerSec]).Pairwise (· ≤ ·) by decide)
    (by simp [stranger, busyDevice, BbmdState.isManagementAllowed])
  refine ⟨t, ht, hbdt, (hkept registration.sender ?_).trans (by decide)⟩
  simp [stranger, registration]

end RecvContext

end BacnetTransport
