import Republisher.Fields
import Republisher.Network

/-!
# Numbers that fit where they are stored

Numbers come into the configuration as `u64`: a field of kind `U32` is parsed as one, and the
poll interval and the keep-alive time are only bounded from below. This file says which requests
store numbers that fit: a field of kind `U32` holds a `u32`, and no number is above the largest
`i64`.
-/

namespace Republisher

variable {Disk : Type}

/-- `u32::MAX`. -/
def u32Max : ℕ := 4294967295

/-- `i64::MAX`. -/
def i64Max : ℕ := 9223372036854775807

/-! ## Integers of 64 bits with a sign -/

mutual
/-- No integer in the value is above `i64Max`. -/
def Json.withinI64 : Json → Bool
  | .number (.posInt n) => decide (n.toNat ≤ i64Max)
  | .array items => Json.withinI64Items items
  | .object members => Json.withinI64Members members
  | _ => true

/-- No integer in the items is. -/
def Json.withinI64Items : List Json → Bool
  | [] => true
  | x :: xs => x.withinI64 && Json.withinI64Items xs

/-- No integer in the members is. -/
def Json.withinI64Members : List (String × Json) → Bool
  | [] => true
  | (_, x) :: xs => x.withinI64 && Json.withinI64Members xs
end

/-- No integer in the field values is. -/
def valuesWithinI64 (addressing : Addressing) : Bool :=
  addressing.toList.all fun (_, value) => value.withinI64

/-- No integer in the point is. -/
def PointConfig.withinI64 (point : PointConfig) : Bool :=
  valuesWithinI64 point.addressing && decide (point.pollIntervalSecs.toNat ≤ i64Max)

/-- No integer in the configuration is. -/
def AppConfig.withinI64 (config : AppConfig) : Bool :=
  config.points.all PointConfig.withinI64 &&
    config.connections.toList.all (fun (_, addressing) => valuesWithinI64 addressing) &&
      decide (config.mqtt.keepAliveSecs.toNat ≤ i64Max)

/-- What holds of all entries of a map holds of what is stored under each key. -/
theorem all_toList_iff {α : Type} (map : StringMap α) (p : α → Bool) :
    map.toList.all (fun (_, value) => p value) = true ↔
      ∀ key value, map.get? key = some value → p value = true := by
  rw [List.all_eq_true]
  constructor
  · intro h key value hvalue
    exact h (key, value) (Std.ExtTreeMap.mem_toList_iff_getElem?_eq_some.mpr hvalue)
  · rintro h ⟨key, value⟩ hmem
    exact h key value (Std.ExtTreeMap.mem_toList_iff_getElem?_eq_some.mp hmem)

/-- The three places of a configuration that hold numbers. -/
theorem AppConfig.withinI64_iff (config : AppConfig) :
    config.withinI64 = true ↔ (∀ point ∈ config.points, point.withinI64 = true) ∧
      (∀ key addressing, config.connections.get? key = some addressing →
        valuesWithinI64 addressing = true) ∧ config.mqtt.keepAliveSecs.toNat ≤ i64Max := by
  rw [AppConfig.withinI64, Bool.and_eq_true, Bool.and_eq_true, decide_eq_true_eq, all_toList_iff,
    List.all_eq_true, and_assoc]

/-! ## The numbers of a request -/

/-- The numbers of stored field values fit: one in a field of kind `U32` is a `u32`, and none
is above `i64Max`. -/
def FieldsInRange (specs : List FieldSpec) (addressing : Addressing) : Prop :=
  (∀ spec ∈ specs, spec.kind = .u32 → ∀ n,
      addressing.get? spec.key = some (.number (.posInt n)) → n.toNat ≤ u32Max) ∧
    valuesWithinI64 addressing = true

/-- A text for a field of kind `U32` that reads as a number reads as a `u32`. -/
def TextsInRange (specs : List FieldSpec) (values : FieldValues) : Prop :=
  ∀ key spec, fieldOf specs key = some spec → spec.kind = .u32 → ∀ n,
    parseU64 (trim ((values.get? key).getD "")) = some n → n.toNat ≤ u32Max

/-- The requests that put numbers of their own into the configuration. -/
def Request.PutsNumbers : Request → Prop
  | .setConnection _ | .savePoint _ | .putSettings _ => True
  | _ => False

/-- Every number that the request put into the configuration fits where it is stored. -/
def Request.StoresInRange (w : WebState Disk) (r : Request) (before after : AppConfig) : Prop :=
  match r with
  | .setConnection _ => ∀ caps, w.caps before.protocol = some caps →
      FieldsInRange caps.connectionFields (after.connection w.core)
  | .savePoint req => ∀ caps point, w.caps before.protocol = some caps →
      after.points[req.index.getD before.points.length]? = some point →
        FieldsInRange caps.addressingFields point.addressing ∧
          point.pollIntervalSecs.toNat ≤ i64Max
  | .putSettings _ => after.mqtt.keepAliveSecs.toNat ≤ i64Max
  | _ => True

/-- Every number in the request is one that fits. -/
def Request.SendsInRange (w : WebState Disk) (r : Request) (config : AppConfig) : Prop :=
  match r with
  | .setConnection values => ∀ caps, w.caps config.protocol = some caps →
      TextsInRange caps.connectionFields values
  | .savePoint req => ∀ caps, w.caps config.protocol = some caps →
      TextsInRange caps.addressingFields req.addressing ∧ req.pollIntervalSecs.toNat ≤ i64Max
  | .putSettings req => req.mqtt.keepAliveSecs.toNat ≤ i64Max
  | _ => True

/-- The largest of a number and one fits exactly when the number does. -/
theorem max_one_le_iff (n : UInt64) : (max n 1).toNat ≤ i64Max ↔ n.toNat ≤ i64Max := by
  have hmax : max n 1 = if n ≤ 1 then 1 else n := rfl
  by_cases h : n ≤ 1
  · have hn : n.toNat ≤ 1 := UInt64.le_iff_toNat_le.mp h
    rw [hmax, if_pos h]
    exact iff_of_true (by decide) (hn.trans (by decide))
  · rw [hmax, if_neg h]

/-! ## Field values -/

/-- The value stored for a field is within 64 bits when the text of a number is in range. -/
theorem fieldValue_withinI64 {spec : FieldSpec} {raw : String}
    (h : spec.kind = .u32 → ∀ n, parseU64 (trim raw) = some n → n.toNat ≤ u32Max) :
    (fieldValue spec raw).withinI64 = true := by
  cases hkind : spec.kind with
  | u32 =>
    simp only [fieldValue, hkind]
    cases hparse : parseU64 (trim raw) with
    | none => rfl
    | some n => exact decide_eq_true ((h hkind n hparse).trans (by decide))
  | _ =>
    simp only [fieldValue, hkind]
    rfl

/-- The stored field values fit exactly when the texts do. -/
theorem fieldsInRange_buildAddressing_iff (specs : List FieldSpec) (values : FieldValues) :
    FieldsInRange specs (buildAddressing specs values) ↔ TextsInRange specs values := by
  constructor
  · rintro ⟨hnumbers, -⟩ key spec hfield hkind n hparse
    have hkey : spec.key = key := fieldOf_key hfield
    refine hnumbers spec (List.mem_reverse.mp (List.mem_of_find?_eq_some hfield)) hkind n ?_
    rw [hkey, buildAddressing_get?, hfield, Option.map_some, fieldValue, hkind]
    simp only [hparse]
  · intro htexts
    constructor
    · intro spec hspec hkind n hstored
      rw [buildAddressing_get?] at hstored
      obtain ⟨last, hfield, hvalue⟩ := Option.map_eq_some_iff.mp hstored
      -- a later field with the same key decides what is stored
      cases hlast : last.kind with
      | u32 =>
        simp only [fieldValue, hlast] at hvalue
        cases hparse : parseU64 (trim ((values.get? spec.key).getD "")) with
        | none => simp only [hparse, reduceCtorEq] at hvalue
        | some m =>
          simp only [hparse, Json.number.injEq, JsonNumber.posInt.injEq] at hvalue
          subst hvalue
          exact htexts spec.key last hfield hlast _ hparse
      | _ => simp [fieldValue, hlast] at hvalue
    · refine (all_toList_iff _ Json.withinI64).mpr fun key value hstored => ?_
      rw [buildAddressing_get?] at hstored
      obtain ⟨spec, hfield, rfl⟩ := Option.map_eq_some_iff.mp hstored
      exact fieldValue_withinI64 fun hkind n hparse => htexts key spec hfield hkind n hparse

/-! ## Requests -/

/-- What is known of `connection_mut`: it writes one stored connection and leaves the others. -/
def Core.WritesOneConnection (core : Core Disk) : Prop :=
  ∀ protocol connections addressing key stored,
    (core.setConnection protocol connections addressing).get? key = some stored →
      stored = addressing ∨ connections.get? key = some stored

/-- The point that a save puts into the list, where the list has it afterwards. -/
theorem Request.edit_savePoint {w : WebState Disk} {req : PointReq} {shared edited : Shared}
    (hedit : Request.edit w (.savePoint req) shared = some edited) :
    ∃ caps points, w.caps shared.config.protocol = some caps ∧
      edited = shared.withPoints points ∧
      points[req.index.getD shared.config.points.length]? = some (req.point caps) ∧
      ∀ point ∈ points, point = req.point caps ∨ point ∈ shared.config.points := by
  obtain ⟨caps, hcaps, hpoint⟩ := Option.bind_eq_some_iff.mp hedit
  cases hindex : req.index with
  | none =>
    simp only [hindex, Option.some.injEq] at hpoint
    refine ⟨caps, _, hcaps, hpoint.symm, ?_, ?_⟩
    · rw [Option.getD_none, List.getElem?_append_right (le_refl _), Nat.sub_self,
        List.getElem?_cons_zero]
    · intro point hmem
      rw [List.mem_append, List.mem_singleton] at hmem
      exact hmem.symm
  | some index =>
    simp only [hindex, Option.ite_none_right_eq_some, Option.some.injEq] at hpoint
    obtain ⟨hlt, hedited⟩ := hpoint
    refine ⟨caps, _, hcaps, hedited.symm, List.getElem?_set_self hlt, ?_⟩
    exact fun point hmem => (List.mem_or_eq_of_mem_set hmem).symm

/-- The numbers that a request stores fit exactly when those it sends do. -/
theorem Request.storesInRange_iff {w : WebState Disk} (hcore : LawfulConnection w.core)
    {r : Request} {shared edited : Shared} (hedit : r.edit w shared = some edited) :
    r.StoresInRange w shared.config edited.config ↔ r.SendsInRange w shared.config := by
  cases r with
  | setConnection values =>
    obtain ⟨caps, hcaps, rfl⟩ := Option.map_eq_some_iff.mp hedit
    refine forall₂_congr fun caps' hcaps' => ?_
    obtain rfl := Option.some.inj (hcaps.symm.trans hcaps')
    have hstored : (shared.config.setConnection w.core
        (buildAddressing caps.connectionFields values)).connection w.core =
          buildAddressing caps.connectionFields values :=
      (hcore.connection_setConnection ..).trans (if_pos rfl)
    rw [hstored]
    exact fieldsInRange_buildAddressing_iff caps.connectionFields values
  | savePoint req =>
    obtain ⟨caps, points, hcaps, rfl, hsaved, -⟩ := Request.edit_savePoint hedit
    have hpoint : FieldsInRange caps.addressingFields (req.point caps).addressing ∧
        (req.point caps).pollIntervalSecs.toNat ≤ i64Max ↔
          TextsInRange caps.addressingFields req.addressing ∧
            req.pollIntervalSecs.toNat ≤ i64Max :=
      and_congr (fieldsInRange_buildAddressing_iff caps.addressingFields req.addressing)
        (max_one_le_iff req.pollIntervalSecs)
    constructor
    · intro h caps' hcaps'
      obtain rfl := Option.some.inj (hcaps.symm.trans hcaps')
      exact hpoint.mp (h caps _ hcaps hsaved)
    · intro h caps' point hcaps' hfound
      obtain rfl := Option.some.inj (hcaps.symm.trans hcaps')
      obtain rfl := Option.some.inj (hsaved.symm.trans hfound)
      exact hpoint.mpr (h caps hcaps)
  | putSettings req =>
    obtain rfl := Option.some.inj hedit
    exact max_one_le_iff req.mqtt.keepAliveSecs
  | _ => exact Iff.rfl

/-- A request whose numbers fit keeps all numbers of the configuration within 64 bits. -/
theorem Request.edit_withinI64 {w : WebState Disk} (hwrites : w.core.WritesOneConnection)
    {r : Request} (hr : r.PutsNumbers) {shared edited : Shared}
    (hedit : r.edit w shared = some edited) (hsends : r.SendsInRange w shared.config)
    (h : shared.config.withinI64 = true) : edited.config.withinI64 = true := by
  rw [AppConfig.withinI64_iff] at h ⊢
  obtain ⟨hpoints, hconnections, hkeepAlive⟩ := h
  cases r with
  | setConnection values =>
    obtain ⟨caps, hcaps, rfl⟩ := Option.map_eq_some_iff.mp hedit
    refine ⟨hpoints, fun key stored hstored => ?_, hkeepAlive⟩
    rcases hwrites _ _ _ _ _ hstored with rfl | hbefore
    · exact ((fieldsInRange_buildAddressing_iff _ values).mpr (hsends caps hcaps)).2
    · exact hconnections key stored hbefore
  | savePoint req =>
    obtain ⟨caps, points, hcaps, rfl, -, hmem⟩ := Request.edit_savePoint hedit
    refine ⟨fun point hpoint => ?_, hconnections, hkeepAlive⟩
    rcases hmem point hpoint with rfl | hold
    · obtain ⟨htexts, hpoll⟩ := hsends caps hcaps
      rw [PointConfig.withinI64, Bool.and_eq_true, decide_eq_true_eq]
      exact ⟨((fieldsInRange_buildAddressing_iff _ req.addressing).mpr htexts).2,
        (max_one_le_iff req.pollIntervalSecs).mpr hpoll⟩
    · exact hpoints point hold
  | putSettings req =>
    obtain rfl := Option.some.inj hedit
    exact ⟨hpoints, hconnections, (max_one_le_iff req.mqtt.keepAliveSecs).mpr hsends⟩
  | _ => exact hr.elim

/-- Every number that `set_connection`, `save_point` or `put_settings` puts into the
configuration fits where it is stored, and leaves all numbers of the configuration within 64 bits
if they were, exactly when the numbers that the request sends fit. -/
theorem WebState.stores_in_range_iff (w : WebState Disk) (hcore : LawfulConnection w.core)
    (hwrites : w.core.WritesOneConnection) {r : Request} (hr : r.PutsNumbers) {s : Server Disk}
    {edited : Shared} (hedit : r.edit w s.shared = some edited) :
    let after := (w.handle r s).2.shared.config
    (r.StoresInRange w s.shared.config after ∧
        (s.shared.config.withinI64 = true → after.withinI64 = true)) ↔
      r.SendsInRange w s.shared.config := by
  have hafter := (w.handle_edit_shared hedit).2.config
  intro after
  have hconfig : after = edited.config := hafter.symm
  rw [hconfig, Request.storesInRange_iff hcore hedit]
  exact ⟨And.left, fun hsends => ⟨hsends, Request.edit_withinI64 hwrites hr hedit hsends⟩⟩

/-! ## A daemon with fields for numbers -/

/-- A protocol with a number for the connection and a number for a point. -/
def numericProtocol : Capabilities :=
  { plainProtocol "bacnet" with
    connectionFields := [plainField "port" .u32]
    addressingFields := [plainField "instance" .u32] }

/-- The in-memory daemon with this protocol. -/
def numericState : WebState MemoryDisk where
  core := memoryCore
  registry :=
    { capabilities := [numericProtocol], ids := ["bacnet"], registered := fun id => id == "bacnet" }
  configPath := "/data/config.toml"

/-- The request that adds a point with the given number and poll interval. -/
def numericPoint (number : String) (pollIntervalSecs : UInt64) : Request :=
  .savePoint
    { index := none
      tagPath := "a"
      pollIntervalSecs
      addressing := (∅ : FieldValues).insert "instance" number }

/-- The daemon at boot, without points. -/
def numericServer : Server MemoryDisk :=
  numericState.new (plainConfig []) "Loaded saved configuration" ⟨some (plainConfig []), true⟩

/-- A point with the largest instance number is saved. -/
theorem instance_number_fits :
    let after := (numericState.handle (numericPoint "4294967295" 10) numericServer).2.shared.config
    (numericPoint "4294967295" 10).StoresInRange numericState (plainConfig []) after ∧
      after.withinI64 = true := by
  have hcore : LawfulConnection numericState.core := memoryCore_lawfulConnection
  have hwrites : numericState.core.WritesOneConnection := by
    intro protocol connections addressing key stored hstored
    simp only [numericState, memoryCore, Std.ExtTreeMap.get?_eq_getElem?,
      Std.ExtTreeMap.getElem?_insert, Std.LawfulEqCmp.compare_eq_iff_eq] at hstored
    by_cases hkey : protocol = key
    · rw [if_pos hkey] at hstored
      exact .inl (Option.some.inj hstored).symm
    · rw [if_neg hkey] at hstored
      exact .inr hstored
  have hfits := (numericState.stores_in_range_iff hcore hwrites
    (r := numericPoint "4294967295" 10) trivial (s := numericServer)
    (Option.some_get (by decide)).symm).mpr
  have hsends : (numericPoint "4294967295" 10).SendsInRange numericState (plainConfig []) := by
    intro caps hcaps
    obtain rfl : numericProtocol = caps := Option.some.inj hcaps
    refine ⟨fun key spec hfield hkind n hparse => ?_, by decide⟩
    have hkey : key = "instance" := by
      have hmem := List.mem_reverse.mp (List.mem_of_find?_eq_some hfield)
      rw [← fieldOf_key hfield, List.mem_singleton.mp hmem]
      rfl
    subst hkey
    have hread : parseU64 (trim "4294967295") = some 4294967295 := by decide
    obtain rfl : (4294967295 : UInt64) = n := Option.some.inj (hread.symm.trans hparse)
    decide
  obtain ⟨hstores, hwithin⟩ := hfits hsends
  exact ⟨hstores, hwithin (by decide)⟩

/-- An instance number above `u32Max` is accepted and stored. -/
theorem large_number_accepted :
    (numericState.handle (numericPoint "4294967296" 10) numericServer).1 = .ok .ok ∧
      ¬ (numericPoint "4294967296" 10).StoresInRange numericState numericServer.shared.config
        (numericState.handle (numericPoint "4294967296" 10) numericServer).2.shared.config := by
  refine ⟨by decide, fun h => ?_⟩
  have hstored := (h numericProtocol _ (by decide) (Option.some_get (by decide)).symm).1.1
    (plainField "instance" .u32) List.mem_cons_self rfl 4294967296 (by decide)
  revert hstored
  decide

end Republisher
