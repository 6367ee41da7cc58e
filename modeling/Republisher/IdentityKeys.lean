import Republisher.PointTable
import Republisher.Rendering

/-!
# The keys of identities

A status is sent under the key of a point's identity: the addressing, each entry printed as
`key=value`, with commas between them. The texts of the values can be told apart, but the keys
are printed as they are. This file says from which sources of points the keys tell exactly the
identities apart, so that a status reaches the rows it is about and no others.
-/

namespace Republisher

open Delimited

variable {Disk : Type}

/-! ## Comparison of identities -/

/-- A number that is not the zero with a minus sign. -/
def JsonNumber.NotNegativeZero (n : JsonNumber) : Prop := n ≠ .float negativeZeroBits

instance : DecidablePred JsonNumber.NotNegativeZero :=
  fun n => inferInstanceAs (Decidable (n ≠ .float negativeZeroBits))

/-- Another number is compared as it is. -/
theorem JsonNumber.oneZero_eq {n : JsonNumber} (h : n.NotNegativeZero) : n.oneZero = n := by
  cases n with
  | float bits =>
    have hbits : bits ≠ negativeZeroBits := fun hzero => h (hzero ▸ rfl)
    rw [oneZero, if_neg hbits]
  | _ => rfl

mutual
/-- A value without that zero is compared as it is. -/
theorem Json.oneZero_eq : ∀ v : Json, v.All JsonNumber.NotNegativeZero → v.oneZero = v
  | .null, _ => rfl
  | .bool _, _ => rfl
  | .number _, h => congrArg Json.number (JsonNumber.oneZero_eq h)
  | .string _, _ => rfl
  | .array items, h => congrArg Json.array (Json.oneZeroItems_eq items h)
  | .object members, h => congrArg Json.object (Json.oneZeroMembers_eq members h)

/-- So is an array body without that zero. -/
theorem Json.oneZeroItems_eq : ∀ items : List Json,
    Json.AllItems JsonNumber.NotNegativeZero items → Json.oneZeroItems items = items
  | [], _ => rfl
  | x :: xs, h => by rw [Json.oneZeroItems, Json.oneZero_eq x h.1, Json.oneZeroItems_eq xs h.2]

/-- So is an object body without that zero. -/
theorem Json.oneZeroMembers_eq : ∀ members : List (String × Json),
    Json.AllMembers JsonNumber.NotNegativeZero members → Json.oneZeroMembers members = members
  | [], _ => rfl
  | (k, x) :: xs, h => by
    rw [Json.oneZeroMembers, Json.oneZero_eq x h.1, Json.oneZeroMembers_eq xs h.2]
end

/-- An identity without that zero is compared as it is. -/
theorem PointIdentity.canonical_eq {identity : PointIdentity}
    (h : ∀ entry ∈ identity.addressing.toList, entry.2.All JsonNumber.NotNegativeZero) :
    identity.canonical = identity := by
  obtain ⟨addressing⟩ := identity
  refine congrArg PointIdentity.mk (Std.ExtTreeMap.toList_inj.mp ?_)
  rw [Std.ExtTreeMap.toList_map]
  refine (List.map_congr_left fun entry hentry => ?_).trans addressing.toList.map_id
  exact Prod.ext rfl (Json.oneZero_eq entry.2 (h entry hentry))

/-! ## Sources of points -/

/-- A source of points: the characters its addressing keys are written with, and whether its
values may hold the zero with a minus sign. -/
structure AddressingSource where
  keyChar : Char → Prop
  negativeZero : Prop

/-- The values of the source. -/
def AddressingSource.Holds (source : AddressingSource) (v : Json) : Prop :=
  v.Valid ∧ (source.negativeZero ∨ v.All JsonNumber.NotNegativeZero)

/-- The addressing can come from the source. -/
def AddressingSource.Gives (source : AddressingSource) (addressing : Addressing) : Prop :=
  ∀ entry ∈ addressing.toList,
    (∀ c ∈ entry.1.toList, source.keyChar c) ∧ source.Holds entry.2

/-- The identity of a point holds its addressing. -/
def Core.HoldsAddressing (core : Core Disk) : Prop :=
  ∀ p : PointConfig, core.fromPoint p = ⟨p.addressing⟩

/-- Points of the source have one key exactly when their identities are equal. -/
def AddressingSource.KeysIdentify (source : AddressingSource) (core : Core Disk) : Prop :=
  ∀ p q : PointConfig, source.Gives p.addressing → source.Gives q.addressing →
    (identityKey core p = identityKey core q ↔ core.identity p = core.identity q)

/-- The outcome of a publication is sent under the key of each point with that identity. -/
def AddressingSource.PublishKeysMatch (source : AddressingSource) (w : WebState Disk) : Prop :=
  ∀ (s : Server Disk) (p : PointConfig) (identity : PointIdentity) (error : Option String),
    source.Gives p.addressing → source.Gives identity.addressing →
    identity.canonical = w.core.identity p →
    ∃ status, (w.applyEvent (.pointPublish identity error) s).events =
      s.events ++ [.statuses ((∅ : StatusDtos).insert (identityKey w.core p) status)]

/-- The statuses a delta sends by key. -/
def Delta.changed : Delta → Option StatusDtos
  | .samples _ changed | .statuses changed => some changed
  | _ => none

/-- The event sends one delta, which names the configured points whose entry it changes and no
others, and shows their new status. -/
def WebState.UpdatesExactly (w : WebState Disk) (s : Server Disk) (e : WorkerEvent)
    (ids : List PointIdentity) : Prop :=
  ∃ d changed, (w.applyEvent e s).events = s.events ++ [d] ∧ d.changed = some changed ∧
    (∀ point ∈ s.shared.config.points,
      identityKey w.core point ∈ changed ↔
        w.core.identity point ∈ ids.map PointIdentity.canonical) ∧
    ∀ table : PointTable, table.Shows w.core s.shared →
      (showTable table d).Shows w.core (w.applyEvent e s).shared

/-- With points of the source, every event that sends statuses by key updates exactly the
points it is about. -/
def AddressingSource.DeltasExact (source : AddressingSource) (w : WebState Disk) : Prop :=
  ∀ (s : Server Disk) (e : WorkerEvent) (ids : List PointIdentity),
    e.reports w.core = some ids →
    (∀ point ∈ s.shared.config.points, source.Gives point.addressing) →
    (∀ id ∈ ids, source.Gives id.addressing) → w.UpdatesExactly s e ids

/-- The source has one zero, and no key of it can imitate an entry: the keys have no equals
sign, or no comma, or characters with which no value can be written. -/
def AddressingSource.Unambiguous (source : AddressingSource) (floatText : UInt64 → String) :
    Prop :=
  ¬ source.negativeZero ∧
    ¬ (source.keyChar '=' ∧ source.keyChar ',' ∧
      ∃ v, source.Holds v ∧ ∀ c ∈ valueText floatText v, source.keyChar c)

/-- An addressing of a source with one zero is compared as it is. -/
theorem AddressingSource.Unambiguous.canonical_eq {source : AddressingSource}
    {floatText : UInt64 → String} (h : source.Unambiguous floatText) {identity : PointIdentity}
    (hgives : source.Gives identity.addressing) : identity.canonical = identity :=
  PointIdentity.canonical_eq fun entry hentry => (hgives entry hentry).2.2.resolve_left h.1

/-- The identity of a point of such a source is its addressing. -/
theorem AddressingSource.Unambiguous.identity_eq {core : Core Disk}
    (hidentity : core.HoldsAddressing) {source : AddressingSource}
    (h : source.Unambiguous core.floatText) {p : PointConfig} (hp : source.Gives p.addressing) :
    core.identity p = ⟨p.addressing⟩ := by
  rw [Core.identity, hidentity p, h.canonical_eq hp]

/-! ## Keys as texts of entries -/

/-- The entries of an addressing, with the characters of their keys. -/
def keyEntries (addressing : Addressing) : List (List Char × Json) :=
  addressing.toList.map fun entry => (entry.1.toList, entry.2)

/-- The key of an identity is the text of its entries. -/
theorem toList_addressingKey (core : Core Disk) (addressing : Addressing) :
    (addressingKey core addressing).toList =
      keyMarks.entries (valueText core.floatText) (keyEntries addressing) := by
  rw [addressingKey, String.toList_intercalate, List.map_map, Marks.entries, keyEntries,
    List.map_map]
  refine congrArg _ (List.map_congr_left fun entry _ => ?_)
  show (entry.1 ++ "=" ++ entry.2.render core.floatText).toList =
    entry.1.toList ++ '=' :: valueText core.floatText entry.2
  rw [String.toList_append, String.toList_append, List.append_assoc]
  rfl

/-- The entries determine the addressing. -/
theorem keyEntries_inj {a b : Addressing} (h : keyEntries a = keyEntries b) : a = b := by
  refine Std.ExtTreeMap.toList_inj.mp ((List.map_injective_iff.mpr ?_) h)
  rintro ⟨k, v⟩ ⟨l, w⟩ hentry
  obtain ⟨hkey, hvalue⟩ := Prod.mk.inj hentry
  exact Prod.ext (String.toList_injective hkey) hvalue

/-- The entries of an addressing of the source. -/
theorem AddressingSource.Gives.entries {source : AddressingSource} {addressing : Addressing}
    (h : source.Gives addressing) : ∀ entry ∈ keyEntries addressing,
      (∀ c ∈ entry.1, source.keyChar c) ∧ source.Holds entry.2 := by
  intro entry hentry
  obtain ⟨original, horiginal, rfl⟩ := List.mem_map.mp hentry
  exact h original horiginal

/-- No key of the source has a character that the source does not have. -/
theorem AddressingSource.Gives.entries_without {source : AddressingSource}
    {addressing : Addressing} (h : source.Gives addressing) {c : Char}
    (hc : ¬ source.keyChar c) :
    ∀ entry ∈ keyEntries addressing, c ∉ entry.1 ∧ source.Holds entry.2 := by
  intro entry hentry
  obtain ⟨hchars, hvalue⟩ := h.entries entry hentry
  exact ⟨fun hmem => hc (hchars c hmem), hvalue⟩

/-- The text of a value of the source is told apart in front of a comma and at the end. -/
theorem AddressingSource.Holds.tellsApart {floatText : UInt64 → String}
    (hfloat : PrintsFloats floatText) {source : AddressingSource} {v : Json}
    (hv : source.Holds v) : TellsApart (valueText floatText) source.Holds keyMarks.Stops v := by
  refine (valueText_tellsApart hfloat hv.1).mono (fun _ h => h.1) ?_
  rintro _ (rfl | ⟨rest, rfl⟩) c hc
  · cases hc
  · obtain rfl := Option.some.inj hc
    decide

/-- The empty string is written with quotation marks only. -/
theorem valueText_emptyString (floatText : UInt64 → String) :
    valueText floatText (.string "") = [Char.ofNat 34, Char.ofNat 34] := by
  rw [valueText, Json.render]
  rfl

/-- Identities of an unambiguous source with one key are the same. -/
theorem AddressingSource.Unambiguous.addressingKey_inj {core : Core Disk}
    (hfloat : PrintsFloats core.floatText) {source : AddressingSource}
    (h : source.Unambiguous core.floatText) {a b : Addressing} (ha : source.Gives a)
    (hb : source.Gives b) (hkey : addressingKey core a = addressingKey core b) : a = b := by
  have htext := congrArg String.toList hkey
  rw [toList_addressingKey, toList_addressingKey] at htext
  have hvalue : ∀ v, source.Holds v →
      TellsApart (valueText core.floatText) source.Holds keyMarks.Stops v :=
    fun v hv => hv.tellsApart hfloat
  have hbalanced : ∀ v, source.Holds v → keyMarks.Balanced (valueText core.floatText v) :=
    fun v hv => valueText_balanced hfloat hv.1
  refine keyEntries_inj ?_
  by_cases hsign : source.keyChar '='
  · by_cases hcomma : source.keyChar ','
    · have hvalues : ∀ v, source.Holds v →
          ∃ c ∈ valueText core.floatText v, ¬ source.keyChar c := by
        intro v hv
        by_contra hnone
        push Not at hnone
        exact h.2 ⟨hsign, hcomma, v, hv, hnone⟩
      have hquote : ¬ source.keyChar keyMarks.quote := by
        intro hquote
        obtain ⟨c, hc, hnot⟩ := hvalues (.string "") ⟨trivial, .inr trivial⟩
        rw [valueText_emptyString] at hc
        simp only [List.mem_cons, List.not_mem_nil, or_false, or_self] at hc
        exact hnot (hc ▸ hquote)
      exact Marks.entries_inj_of_values hquote hvalues hbalanced hvalue ha.entries hb.entries
        htext
    · exact Marks.entries_inj_of_comma hbalanced hvalue (ha.entries_without hcomma)
        (hb.entries_without hcomma) htext
  · exact Marks.entries_inj_of_sign hvalue (ha.entries_without hsign) (hb.entries_without hsign)
      htext

/-- Points of an unambiguous source have one key exactly when their identities are equal. -/
theorem AddressingSource.Unambiguous.keysIdentify {core : Core Disk}
    (hidentity : core.HoldsAddressing) (hfloat : PrintsFloats core.floatText)
    {source : AddressingSource} (h : source.Unambiguous core.floatText) :
    source.KeysIdentify core := by
  intro p q hp hq
  rw [h.identity_eq hidentity hp, h.identity_eq hidentity hq, identityKey, identityKey,
    hidentity p, hidentity q, PointIdentity.mk.injEq]
  exact ⟨h.addressingKey_inj hfloat hp hq, fun hsame => by rw [hsame]⟩

/-! ## What is sent by key -/

/-- The statuses are sent under the keys of the identities. -/
def Named (core : Core Disk) (ids : List PointIdentity) (changed : StatusDtos) : Prop :=
  ∀ key, key ∈ changed ↔ ∃ id ∈ ids, addressingKey core id.addressing = key

/-- Nothing is sent under no key. -/
theorem Named.nil (core : Core Disk) : Named core [] ∅ := fun key => by simp

/-- One more status. -/
theorem Named.insert {core : Core Disk} {ids : List PointIdentity} {changed : StatusDtos}
    (h : Named core ids changed) (id : PointIdentity) (status : PointStatusDto) :
    Named core (ids ++ [id]) (changed.insert (addressingKey core id.addressing) status) := by
  intro key
  rw [AList.mem_insert, h key]
  constructor
  · rintro (rfl | ⟨other, hother, hkey⟩)
    · exact ⟨id, by simp, rfl⟩
    · exact ⟨other, List.mem_append_left _ hother, hkey⟩
  · rintro ⟨other, hother, rfl⟩
    rcases List.mem_append.mp hother with hother | hother
    · exact .inr ⟨other, hother, rfl⟩
    · exact .inl (by rw [List.mem_singleton.mp hother])

/-- One more report of a batch. -/
theorem Named.record {core : Core Disk} {ids : List PointIdentity} {id : PointIdentity}
    {before after : Batch} (h : Named core ids before.changed)
    (hrecords : Batch.Records core id before after) : Named core (ids ++ [id]) after.changed := by
  obtain ⟨status, -, hchanged⟩ := hrecords
  rw [hchanged]
  exact h.insert id _

/-- An event that sends statuses by key sends one delta, with the keys of its identities. -/
theorem WebState.applyEvent_named (w : WebState Disk) (s : Server Disk) {e : WorkerEvent}
    {ids : List PointIdentity} (h : e.reports w.core = some ids) :
    ∃ d changed, (w.applyEvent e s).events = s.events ++ [d] ∧ d.changed = some changed ∧
      Named w.core ids changed := by
  cases e with
  | samples samples =>
    obtain rfl := Option.some.inj h
    exact ⟨_, _, rfl, rfl, Batch.records_induction
      (motive := fun ids batch => Named w.core ids batch.changed) (applySample_records w.core)
      (.nil w.core) (fun _ _ _ _ h => h.record) samples⟩
  | failures failures =>
    obtain rfl := Option.some.inj h
    exact ⟨_, _, rfl, rfl, Batch.records_induction
      (motive := fun ids batch => Named w.core ids batch.changed) (applyFailure_records w.core)
      (.nil w.core) (fun _ _ _ _ h => h.record) failures⟩
  | pointPublish identity error =>
    obtain rfl := Option.some.inj h
    exact ⟨_, _, rfl, rfl, (Named.nil w.core).insert identity _⟩
  | _ => cases h

/-- A table that shows the points goes on showing them after the one delta of an event, when
the keys are apart. -/
theorem PointTable.Shows.event {w : WebState Disk} {s : Server Disk} {e : WorkerEvent}
    {ids : List PointIdentity} (hids : e.reports w.core = some ids)
    (hapart : s.shared.KeysApart w.core ids) {d : Delta} {changed : StatusDtos}
    (hevents : (w.applyEvent e s).events = s.events ++ [d]) (hd : d.changed = some changed)
    {table : PointTable} (h : table.Shows w.core s.shared) :
    (showTable table d).Shows w.core (w.applyEvent e s).shared := by
  obtain ⟨shared, ds, htells, hspeaks⟩ := w.applyEvent_told e s
  obtain ⟨said, hsaid, hds, -⟩ := hspeaks.events
  obtain rfl : said = [d] := List.append_cancel_left (hsaid.symm.trans hevents)
  have hone : ds = [d] := by
    rw [← hds]
    cases d <;> first | rfl | cases hd
  have htold : w.PointsTold s (.event e) := fun ids' hids' => by
    obtain rfl := Option.some.inj (hids.symm.trans hids')
    exact hapart
  have hshows := PointTable.Shows.tells htells htold h
  rw [hone] at hshows
  refine hshows.congr ?_
  show pointsJson w.core (w.act s (.event e)).shared = pointsJson w.core shared
  unfold pointsJson
  rw [hspeaks.shared.config, hspeaks.shared.statuses]

/-- The keys of an unambiguous source are apart. -/
theorem AddressingSource.Unambiguous.keysApart {core : Core Disk}
    (hidentity : core.HoldsAddressing) (hfloat : PrintsFloats core.floatText)
    {source : AddressingSource} (h : source.Unambiguous core.floatText) {shared : Shared}
    {ids : List PointIdentity} (hpoints : ∀ p ∈ shared.config.points, source.Gives p.addressing)
    (hids : ∀ id ∈ ids, source.Gives id.addressing) : shared.KeysApart core ids := by
  have hkeys := h.keysIdentify hidentity hfloat
  refine ⟨fun point hpoint id hid => ?_, fun point hpoint other hother =>
    (hkeys other point (hpoints other hother) (hpoints point hpoint)).mp⟩
  rw [identityKey, hidentity point, h.canonical_eq (hids id hid),
    h.identity_eq hidentity (hpoints point hpoint)]
  constructor
  · intro hkey
    exact congrArg PointIdentity.mk
      (h.addressingKey_inj hfloat (hids id hid) (hpoints point hpoint) hkey)
  · rintro rfl
    rfl

/-- With points of an unambiguous source, the outcome of a publication is sent under the key of
its point. -/
theorem AddressingSource.Unambiguous.publishKeysMatch {w : WebState Disk}
    (hidentity : w.core.HoldsAddressing) {source : AddressingSource}
    (h : source.Unambiguous w.core.floatText) : source.PublishKeysMatch w := by
  intro s p identity error hp hgives hsame
  rw [h.canonical_eq hgives, h.identity_eq hidentity hp] at hsame
  rw [identityKey, hidentity p, ← hsame]
  exact ⟨_, rfl⟩

/-- With points of an unambiguous source, statuses sent by key update exactly the points they
are about. -/
theorem AddressingSource.Unambiguous.deltasExact {w : WebState Disk}
    (hidentity : w.core.HoldsAddressing) (hfloat : PrintsFloats w.core.floatText)
    {source : AddressingSource} (h : source.Unambiguous w.core.floatText) :
    source.DeltasExact w := by
  intro s e ids hreports hpoints hids
  obtain ⟨d, changed, hevents, hd, hnamed⟩ := w.applyEvent_named s hreports
  have hapart := h.keysApart hidentity hfloat hpoints hids
  refine ⟨d, changed, hevents, hd, fun point hpoint => ?_, fun table htable =>
    htable.event hreports hapart hevents hd⟩
  rw [hnamed]
  constructor
  · rintro ⟨id, hid, hkey⟩
    exact List.mem_map.mpr ⟨id, hid, (hapart.reported point hpoint id hid).mp hkey⟩
  · intro hmem
    obtain ⟨id, hid, hsame⟩ := List.mem_map.mp hmem
    exact ⟨id, hid, (hapart.reported point hpoint id hid).mpr hsame⟩

/-! ## Sources that are ambiguous -/

/-- A point with the given addressing. -/
def addressedPoint (addressing : Addressing) : PointConfig :=
  { plainPoint "" with addressing }

/-- If the keys identify, the source has one zero: the two zeros are equal and printed
differently. -/
theorem AddressingSource.KeysIdentify.one_zero {core : Core Disk}
    (hidentity : core.HoldsAddressing) (hfloat : PrintsFloats core.floatText)
    {source : AddressingSource} (h : source.KeysIdentify core) : ¬ source.negativeZero := by
  intro hzero
  let zero (bits : UInt64) : Addressing := (∅ : Addressing).insert "" (.number (.float bits))
  have hgives (bits : UInt64) (hbits : JsonNumber.Valid (.float bits)) :
      source.Gives (zero bits) := by
    intro entry hentry
    rw [List.mem_singleton.mp hentry]
    exact ⟨by simp, hbits, .inl hzero⟩
  have hsame := (h (addressedPoint (zero 0)) (addressedPoint (zero negativeZeroBits))
    (hgives 0 (by decide)) (hgives negativeZeroBits (by decide))).mpr (by
      rw [Core.identity, Core.identity, hidentity, hidentity]
      rfl)
  rw [identityKey, identityKey, hidentity, hidentity] at hsame
  have htext : "" ++ "=" ++ core.floatText 0 = "" ++ "=" ++ core.floatText negativeZeroBits :=
    hsame
  have hlist := congrArg String.toList htext
  simp only [String.toList_append] at hlist
  exact absurd (hfloat.inj 0 negativeZeroBits (by decide) (by decide)
    (String.toList_injective (List.append_cancel_left hlist))) (by decide)

/-- If the keys identify, no key of the source can imitate an entry. -/
theorem AddressingSource.KeysIdentify.no_imitation {core : Core Disk}
    (hidentity : core.HoldsAddressing) {source : AddressingSource}
    (h : source.KeysIdentify core) (hsign : source.keyChar '=') (hcomma : source.keyChar ',')
    {v : Json} (hv : source.Holds v) :
    ¬ ∀ c ∈ valueText core.floatText v, source.keyChar c := by
  intro hchars
  -- the entries of two keys, and the same text with one key in place of the first entry
  let two : Addressing := ((∅ : Addressing).insert "" v).insert "," .null
  let imitation := String.ofList ('=' :: (valueText core.floatText v ++ [',', ',']))
  let one : Addressing := (∅ : Addressing).insert imitation .null
  have hnull : source.Holds .null := ⟨trivial, .inr trivial⟩
  have htwo : source.Gives two := by
    intro entry hentry
    have hentry : entry ∈ [("", v), (",", Json.null)] := hentry
    rcases List.mem_pair.mp hentry with rfl | rfl
    · exact ⟨by simp, hv⟩
    · exact ⟨by simpa using hcomma, hnull⟩
  have hone : source.Gives one := by
    intro entry hentry
    rw [List.mem_singleton.mp hentry]
    refine ⟨fun c hc => ?_, hnull⟩
    rw [String.toList_ofList] at hc
    simp only [List.mem_cons, List.mem_append, List.not_mem_nil, or_false, or_self] at hc
    rcases hc with rfl | hc | rfl
    · exact hsign
    · exact hchars c hc
    · exact hcomma
  have hequal := (h (addressedPoint two) (addressedPoint one) htwo hone).mp (by
    rw [identityKey, identityKey, hidentity, hidentity]
    refine String.toList_injective ?_
    rw [toList_addressingKey, toList_addressingKey]
    show [','].intercalate [[] ++ '=' :: valueText core.floatText v,
      [','] ++ '=' :: valueText core.floatText .null] =
        [','].intercalate [imitation.toList ++ '=' :: valueText core.floatText .null]
    rw [String.toList_ofList]
    simp [List.intercalate])
  rw [Core.identity, Core.identity, hidentity, hidentity] at hequal
  have hcount : 2 = 1 := congrArg (fun identity => identity.addressing.toList.length) hequal
  exact absurd hcount (by decide)

/-- The keys tell exactly the identities apart, the outcome of a publication is sent under the
key of its point, and statuses sent by key update exactly the points they are about, for all
points of a source exactly when the source is unambiguous. -/
theorem AddressingSource.keys_identify_iff (w : WebState Disk)
    (hidentity : w.core.HoldsAddressing) (hfloat : PrintsFloats w.core.floatText)
    (source : AddressingSource) :
    source.KeysIdentify w.core ∧ source.PublishKeysMatch w ∧ source.DeltasExact w ↔
      source.Unambiguous w.core.floatText := by
  constructor
  · rintro ⟨hkeys, -, -⟩
    refine ⟨hkeys.one_zero hidentity hfloat, ?_⟩
    rintro ⟨hsign, hcomma, v, hv, hchars⟩
    exact hkeys.no_imitation hidentity hsign hcomma hv hchars
  · intro h
    exact ⟨h.keysIdentify hidentity hfloat, h.publishKeysMatch hidentity,
      h.deltasExact hidentity hfloat⟩

/-! ## Sources in the in-memory daemon -/

/-- The text of a float: its sign, and its other bits as a number. The zeros are printed as
`serde_json` prints them. -/
def plainFloatText (bits : UInt64) : String :=
  (if bits < negativeZeroBits then "" else "-") ++ toString (bits % negativeZeroBits).toNat ++ ".0"

/-- The in-memory daemon with texts for floats. -/
def printingState : WebState MemoryDisk :=
  { memoryState with core := { memoryCore with floatText := plainFloatText } }

/-- Addressing with letters and digits for keys. -/
def namedFields : AddressingSource where
  keyChar c := c.isAlphanum = true
  negativeZero := False

/-- The characters of the text of a float. -/
theorem toList_plainFloatText (bits : UInt64) :
    (plainFloatText bits).toList = (if bits < negativeZeroBits then [] else ['-']) ++
      (toString (bits % negativeZeroBits).toNat).toList ++ ['.', '0'] := by
  rw [plainFloatText, String.toList_append, String.toList_append]
  by_cases h : bits < negativeZeroBits
  · rw [if_pos h, if_pos h]
    rfl
  · rw [if_neg h, if_neg h]
    rfl

/-- The sign and the other bits make the float. -/
theorem plainFloatText_prints : PrintsFloats plainFloatText where
  inj a b _ _ h := by
    have hlist := congrArg String.toList h
    rw [toList_plainFloatText, toList_plainFloatText] at hlist
    have hdigits := List.append_cancel_right hlist
    have hcross (n : ℕ) (text : List Char) : (toString n).toList ≠ ['-'] ++ text := by
      intro h
      refine not_mem_toString (n := n) (c := '-') rfl ?_
      rw [h]
      exact List.mem_cons_self
    have hsame {m n : ℕ} (h : (toString m).toList = (toString n).toList) : m = n :=
      toString_inj (String.toList_injective h)
    have hzero : negativeZeroBits.toNat = 9223372036854775808 := rfl
    have ha := a.toNat_lt
    have hb := b.toNat_lt
    refine UInt64.toNat_inj.mp ?_
    simp only [UInt64.lt_iff_toNat_lt, UInt64.toNat_mod, hzero] at hdigits
    split at hdigits
    · split at hdigits
      · have hmod := hsame hdigits
        omega
      · exact absurd hdigits (hcross _ _)
    · split at hdigits
      · exact absurd hdigits.symm (hcross _ _)
      · have hmod := hsame (List.append_cancel_left hdigits)
        omega
  chars bits _ c hc := by
    rw [toList_plainFloatText, List.mem_append, List.mem_append] at hc
    rcases hc with (hc | hc) | hc
    · split at hc
      · cases hc
      · rw [List.mem_singleton.mp hc]
        rfl
    · exact isNumberChar_of_isDigit (isDigit_of_mem_toString hc)
    · rcases List.mem_pair.mp hc with rfl | rfl <;> rfl
  marked bits _ := by
    rw [toList_plainFloatText]
    exact .inl (List.mem_append_right _ List.mem_cons_self)

/-- With letters and digits for keys every status reaches the rows it is about. -/
theorem named_fields_identify :
    namedFields.KeysIdentify printingState.core ∧ namedFields.PublishKeysMatch printingState ∧
      namedFields.DeltasExact printingState :=
  (AddressingSource.keys_identify_iff printingState (fun _ => rfl) plainFloatText_prints
    namedFields).mpr ⟨id, fun h => absurd (show ('=').isAlphanum = true from h.1) (by decide)⟩

/-- A point with two entries. -/
def pairPoint : PointConfig :=
  addressedPoint (((∅ : Addressing).insert "a" (.number (.posInt 1))).insert "b"
    (.number (.posInt 2)))

/-- A point whose one key is written like an entry and the next key. -/
def imitatingPoint : PointConfig :=
  addressedPoint ((∅ : Addressing).insert "a=1,b" (.number (.posInt 2)))

/-- The two points have different identities and one key, and a reading of the first is shown
on the row of the second, whose status has not changed. -/
theorem imitated_key_shows_other_point :
    let s := memoryServer [pairPoint, imitatingPoint] true
    let t := memoryState.acts s
      [.event (.samples [{ plainSample "a" "21" with point := pairPoint }])]
    identityKey memoryCore pairPoint = identityKey memoryCore imitatingPoint ∧
      memoryCore.identity pairPoint ≠ memoryCore.identity imitatingPoint ∧
      t.shared.statuses.lookup (memoryCore.identity imitatingPoint) = none ∧
      (pointsJson memoryCore t.shared).map (fun row => row.status.state) = ["ok", "unknown"] ∧
      (memoryState.follow plainStringify .initial s t).points.map (fun row => row.status.state) =
        ["ok", "ok"] := by
  decide

end Republisher
