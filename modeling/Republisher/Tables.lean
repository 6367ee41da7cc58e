import Mathlib.Data.List.AList
import Mathlib.Data.List.Dedup
import Mathlib.Data.List.Induction

/-!
# Counting in a table

A table files values under keys, so a list of keyed values that is filed into a table loses
those that a later one replaces. This file relates counts over the table to counts over the
list, for arbitrary keys and values.
-/

namespace Table

variable {α κ ν : Type} [DecidableEq κ] {mark : ν → Bool} {table : AList fun _ : κ => ν}

/-- How many entries of the table have a marked value. -/
def marked (mark : ν → Bool) (table : AList fun _ : κ => ν) : ℕ :=
  table.entries.countP fun entry => mark entry.2

/-- The value under a key is marked. -/
def markedAt (mark : ν → Bool) (table : AList fun _ : κ => ν) (key : κ) : Bool :=
  (table.lookup key).any mark

/-- The values of the list are filed one after the other. -/
def fill (pairs : List (κ × ν)) (table : AList fun _ : κ => ν) : AList fun _ : κ => ν :=
  pairs.foldl (fun table pair => table.insert pair.1 pair.2) table

/-- How many of the listed keys with the property are listed again. -/
def repeated (p : κ → Bool) : List κ → ℕ
  | [] => 0
  | key :: keys => (p key && keys.contains key).toNat + repeated p keys

/-- The marked entries under none of the keys. -/
def strays (mark : ν → Bool) (table : AList fun _ : κ => ν) (keys : List κ) : ℕ :=
  table.entries.countP fun entry => mark entry.2 && !keys.contains entry.1

@[simp] theorem markedAt_insert (key : κ) (value : ν) :
    markedAt mark (table.insert key value) key = mark value := by
  rw [markedAt, AList.lookup_insert, Option.any_some]

/-- Filing a value under one key leaves the others. -/
theorem markedAt_insert_ne {key other : κ} (h : other ≠ key) (value : ν) :
    markedAt mark (table.insert key value) other = markedAt mark table other := by
  rw [markedAt, markedAt, AList.lookup_insert_ne h]

/-- A filed value replaces the one under its key. -/
theorem marked_insert (mark : ν → Bool) (table : AList fun _ : κ => ν) (key : κ) (value : ν) :
    marked mark (table.insert key value) + (markedAt mark table key).toNat =
      marked mark table + (mark value).toNat := by
  have hinsert : marked mark (table.insert key value) =
      (table.entries.kerase key).countP (fun entry => mark entry.2) + (mark value).toNat := by
    rw [marked, AList.entries_insert, List.countP_cons]
    cases mark value <;> rfl
  by_cases hkey : key ∈ table
  · obtain ⟨old, before, after, hbefore, hentries, herase⟩ :=
      List.exists_of_kerase (AList.mem_keys.mp hkey)
    have hlookup : table.lookup key = some old := by
      rw [AList.lookup, hentries, List.dlookup_append, List.dlookup_eq_none.mpr hbefore]
      simp
    rw [hinsert, herase, markedAt, hlookup, Option.any_some, marked, hentries,
      List.countP_append, List.countP_append, List.countP_cons]
    cases mark old
    · simp
    · simp
      omega
  · rw [hinsert, List.kerase_of_notMem_keys hkey, markedAt, AList.lookup_eq_none.mpr hkey]
    rfl

/-! ## A list that is filed into an empty table -/

/-- One more value is filed last. -/
theorem fill_append (pairs : List (κ × ν)) (pair : κ × ν) :
    fill (pairs ++ [pair]) table = (fill pairs table).insert pair.1 pair.2 := by
  rw [fill, List.foldl_append]
  rfl

/-- What is filed comes from the list. -/
theorem mem_of_lookup_fill {pairs : List (κ × ν)} {key : κ} {value : ν}
    (h : (fill pairs ∅).lookup key = some value) : (key, value) ∈ pairs := by
  induction pairs using List.reverseRecOn with
  | nil => cases h
  | append_singleton pairs pair ih =>
    rw [fill_append] at h
    by_cases hkey : key = pair.1
    · subst hkey
      rw [AList.lookup_insert] at h
      obtain rfl := Option.some.inj h
      exact List.mem_append_right _ (List.mem_singleton.mpr rfl)
    · rw [AList.lookup_insert_ne hkey] at h
      exact List.mem_append_left _ (ih h)

/-- No marked value is followed by another value of its key. -/
def MarkedLast (mark : ν → Bool) (pairs : List (κ × ν)) : Prop :=
  pairs.Pairwise fun earlier later => earlier.1 = later.1 → mark earlier.2 = false

/-- A marked value that nothing replaces is found under its key. -/
theorem markedAt_fill {pairs : List (κ × ν)} (h : MarkedLast mark pairs) {pair : κ × ν}
    (hmem : pair ∈ pairs) (hmark : mark pair.2 = true) :
    markedAt mark (fill pairs ∅) pair.1 = true := by
  induction pairs using List.reverseRecOn with
  | nil => cases hmem
  | append_singleton pairs last ih =>
    obtain ⟨hpairs, -, hlast⟩ := List.pairwise_append.mp h
    rw [fill_append]
    rcases List.mem_append.mp hmem with hmem | hmem
    · have hkey : pair.1 ≠ last.1 := by
        intro hkey
        have hfalse := hlast pair hmem last List.mem_cons_self hkey
        rw [hmark] at hfalse
        cases hfalse
      rw [markedAt_insert_ne hkey]
      exact ih hpairs hmem
    · obtain rfl := List.mem_singleton.mp hmem
      rw [markedAt_insert]
      exact hmark

/-- A list has at least as many marked values as the table it is filed into, and as many
exactly when no marked value is replaced. -/
theorem marked_fill (mark : ν → Bool) (pairs : List (κ × ν)) :
    marked mark (fill pairs ∅) ≤ pairs.countP (fun pair => mark pair.2) ∧
      (marked mark (fill pairs ∅) = pairs.countP (fun pair => mark pair.2) ↔
        MarkedLast mark pairs) := by
  induction pairs using List.reverseRecOn with
  | nil => exact ⟨Nat.le_refl _, iff_of_true rfl List.Pairwise.nil⟩
  | append_singleton pairs last ih =>
    obtain ⟨hle, hiff⟩ := ih
    have hinsert := marked_insert mark (fill pairs ∅) last.1 last.2
    have hcount : (pairs ++ [last]).countP (fun pair => mark pair.2) =
        pairs.countP (fun pair => mark pair.2) + (mark last.2).toNat := by
      rw [List.countP_append, List.countP_singleton]
      cases mark last.2 <;> rfl
    rw [fill_append, hcount]
    refine ⟨by omega, ?_⟩
    have hsplit : marked mark ((fill pairs ∅).insert last.1 last.2) =
          pairs.countP (fun pair => mark pair.2) + (mark last.2).toNat ↔
        MarkedLast mark pairs ∧ markedAt mark (fill pairs ∅) last.1 = false := by
      rw [← hiff, ← Bool.toNat_eq_zero]
      omega
    have happend : MarkedLast mark (pairs ++ [last]) ↔
        MarkedLast mark pairs ∧ ∀ pair ∈ pairs, pair.1 = last.1 → mark pair.2 = false := by
      simp [MarkedLast, List.pairwise_append]
    rw [hsplit, happend]
    refine and_congr_right fun hpairs => ⟨fun hlast pair hmem hkey => ?_, fun hlast => ?_⟩
    · cases hmark : mark pair.2 with
      | false => rfl
      | true =>
        have hfound := markedAt_fill hpairs hmem hmark
        rw [hkey, hlast] at hfound
        cases hfound
    · cases hlookup : (fill pairs ∅).lookup last.1 with
      | none => rw [markedAt, hlookup, Option.any_none]
      | some value =>
        rw [markedAt, hlookup, Option.any_some]
        exact hlast _ (mem_of_lookup_fill hlookup) rfl

/-! ## Listed keys -/

/-- Under one key there is at most one value. -/
theorem countP_key (mark : ν → Bool) (table : AList fun _ : κ => ν) (key : κ) :
    table.entries.countP (fun entry => mark entry.2 && entry.1 == key) =
      (markedAt mark table key).toNat := by
  by_cases hkey : key ∈ table
  · obtain ⟨value, before, after, hbefore, hentries, -⟩ :=
      List.exists_of_kerase (AList.mem_keys.mp hkey)
    have hlookup : table.lookup key = some value := by
      rw [AList.lookup, hentries, List.dlookup_append, List.dlookup_eq_none.mpr hbefore]
      simp
    have hnodup := table.nodupKeys
    rw [hentries, List.nodupKeys_middle, List.nodupKeys_cons] at hnodup
    have hnone {rest : List (Sigma fun _ : κ => ν)} (hrest : key ∉ rest.keys) :
        rest.countP (fun entry => mark entry.2 && entry.1 == key) = 0 := by
      refine List.countP_eq_zero.mpr fun entry hentry hboth => ?_
      obtain rfl := beq_iff_eq.mp (Bool.and_eq_true_iff.mp hboth).2
      exact hrest (List.mem_keys_of_mem hentry)
    have hafter : key ∉ after.keys := fun hmem => hnodup.1 (by
      rw [List.keys, List.map_append]
      exact List.mem_append_right _ hmem)
    rw [hentries, List.countP_append, List.countP_cons, hnone hbefore, hnone hafter, markedAt,
      hlookup, Option.any_some]
    cases mark value <;> simp
  · rw [markedAt, AList.lookup_eq_none.mpr hkey, Option.any_none]
    refine List.countP_eq_zero.mpr fun entry hentry hboth => ?_
    obtain rfl := beq_iff_eq.mp (Bool.and_eq_true_iff.mp hboth).2
    exact hkey (AList.mem_keys.mpr (List.mem_keys_of_mem hentry))

/-- What satisfies one of two conditions is counted twice when it satisfies both. -/
theorem countP_or_add_and {γ : Type} (p q : γ → Bool) (items : List γ) :
    items.countP (fun x => p x || q x) + items.countP (fun x => p x && q x) =
      items.countP p + items.countP q := by
  induction items with
  | nil => rfl
  | cons x items ih =>
    rw [List.countP_cons, List.countP_cons, List.countP_cons, List.countP_cons]
    cases p x <;> cases q x <;> simp <;> omega

/-- Keys that are listed once are not listed again. -/
theorem repeated_of_nodup (p : κ → Bool) {keys : List κ} (h : keys.Nodup) :
    repeated p keys = 0 := by
  induction keys with
  | nil => rfl
  | cons key keys ih =>
    obtain ⟨hkey, hkeys⟩ := List.nodup_cons.mp h
    have hfirst : keys.contains key = false := by simpa using hkey
    rw [repeated, ih hkeys, hfirst, Bool.and_false]
    rfl

/-- As many listed keys are marked as there are marked entries under listed keys, apart from
those that are listed again. -/
theorem countP_listed (mark : ν → Bool) (table : AList fun _ : κ => ν) (keys : List κ) :
    table.entries.countP (fun entry => mark entry.2 && keys.contains entry.1) +
        repeated (markedAt mark table) keys =
      keys.countP (markedAt mark table) := by
  induction keys with
  | nil => simp [repeated]
  | cons key keys ih =>
    have hsplit := countP_or_add_and (fun entry => mark entry.2 && entry.1 == key)
      (fun entry => mark entry.2 && keys.contains entry.1) table.entries
    have hor : table.entries.countP (fun entry =>
          (mark entry.2 && entry.1 == key) || (mark entry.2 && keys.contains entry.1)) =
        table.entries.countP (fun entry => mark entry.2 && (key :: keys).contains entry.1) := by
      refine congrArg (fun p => table.entries.countP p) (funext fun entry => ?_)
      rw [List.contains_cons, Bool.and_or_distrib_left]
    have hand : table.entries.countP (fun entry =>
          (mark entry.2 && entry.1 == key) && (mark entry.2 && keys.contains entry.1)) =
        (markedAt mark table key && keys.contains key).toNat := by
      have hentry : (fun entry : Sigma fun _ : κ => ν =>
            (mark entry.2 && entry.1 == key) && (mark entry.2 && keys.contains entry.1)) =
          fun entry => (mark entry.2 && entry.1 == key) && keys.contains key := by
        funext entry
        by_cases hkey : entry.1 = key
        · rw [hkey]
          cases mark entry.2 <;> simp
        · rw [beq_eq_false_iff_ne.mpr hkey, Bool.and_false, Bool.false_and, Bool.false_and]
      rw [hentry]
      cases hagain : keys.contains key with
      | false => simp
      | true => simpa using countP_key mark table key
    rw [hor, hand, countP_key] at hsplit
    rw [List.countP_cons, repeated, ← ih]
    cases hmarked : markedAt mark table key <;> simp [hmarked] at hsplit ⊢ <;> omega

/-- The marked entries are those under listed keys and the strays. -/
theorem marked_add_repeated (mark : ν → Bool) (table : AList fun _ : κ => ν) (keys : List κ) :
    marked mark table + repeated (markedAt mark table) keys =
      keys.countP (markedAt mark table) + strays mark table keys := by
  have hsplit : marked mark table =
      table.entries.countP (fun entry => mark entry.2 && keys.contains entry.1) +
        strays mark table keys := by
    rw [marked, strays, List.countP_eq_countP_filter_add _ _ fun entry =>
      keys.contains entry.1, List.countP_filter, List.countP_filter]
  rw [hsplit, ← countP_listed]
  omega

/-! ## Reports -/

/-- The reports change the values of their keys one after the other, starting from a default
value. -/
def record (default : ν) (reports : List (κ × (ν → ν))) (table : AList fun _ : κ => ν) :
    AList fun _ : κ => ν :=
  reports.foldl (fun table report =>
    table.insert report.1 (report.2 ((table.lookup report.1).getD default))) table

/-- What the reports of one key make of its value. -/
def recorded (reports : List (κ × (ν → ν))) (key : κ) (value : ν) : ν :=
  (reports.filter fun report => report.1 == key).foldl (fun value report => report.2 value) value

/-- The keys that are reported, each once. -/
def reportedKeys (reports : List (κ × (ν → ν))) : List κ := (reports.map Prod.fst).dedup

/-- The value of a key that is reported is what its own reports make of it; others stay. -/
theorem lookup_record (default : ν) (reports : List (κ × (ν → ν)))
    (table : AList fun _ : κ => ν) (key : κ) :
    (record default reports table).lookup key =
      if key ∈ reportedKeys reports then
        some (recorded reports key ((table.lookup key).getD default))
      else table.lookup key := by
  induction reports generalizing table with
  | nil => rfl
  | cons report reports ih =>
    have hstep : record default (report :: reports) table = record default reports
        (table.insert report.1 (report.2 ((table.lookup report.1).getD default))) := rfl
    simp only [reportedKeys, List.mem_dedup, List.map_cons, List.mem_cons] at ih ⊢
    rw [hstep, ih]
    by_cases hkey : key = report.1
    · subst hkey
      have hrecorded : recorded (report :: reports) report.1
          ((table.lookup report.1).getD default) = recorded reports report.1
            (report.2 ((table.lookup report.1).getD default)) := by
        rw [recorded, List.filter_cons_of_pos (by simp)]
        rfl
      rw [AList.lookup_insert, Option.getD_some, if_pos (Or.inl (Eq.refl report.1)), hrecorded]
      by_cases hlater : report.1 ∈ reports.map Prod.fst
      · rw [if_pos hlater]
      · rw [if_neg hlater, recorded, List.filter_eq_nil_iff.mpr, List.foldl_nil]
        intro later hmem hsame
        exact hlater (List.mem_map.mpr ⟨later, hmem, beq_iff_eq.mp hsame⟩)
    · have hrecorded : recorded (report :: reports) key = recorded reports key := by
        funext value
        rw [recorded, List.filter_cons_of_neg (by simpa using Ne.symm hkey)]
        rfl
      rw [AList.lookup_insert_ne hkey, hrecorded]
      simp only [hkey, false_or]

/-- The strays are those under some keys and those under no key of these. -/
theorem strays_split {changed : List κ} (hchanged : changed.Nodup) (mark : ν → Bool)
    (table : AList fun _ : κ => ν) (keys : List κ) :
    strays mark table keys =
      changed.countP (fun key => markedAt mark table key && !keys.contains key) +
        (table.entries.filter fun entry => !changed.contains entry.1).countP
          fun entry => mark entry.2 && !keys.contains entry.1 := by
  have hunlisted : changed.countP (fun key => markedAt mark table key && !keys.contains key) =
      table.entries.countP fun entry =>
        mark entry.2 && (changed.filter fun key => !keys.contains key).contains entry.1 := by
    rw [← List.countP_filter, ← countP_listed, repeated_of_nodup _ (hchanged.filter _),
      Nat.add_zero]
  have hlisted : (table.entries.filter fun entry => changed.contains entry.1).countP
        (fun entry => mark entry.2 && !keys.contains entry.1) =
      table.entries.countP fun entry =>
        mark entry.2 && (changed.filter fun key => !keys.contains key).contains entry.1 := by
    rw [List.countP_filter]
    refine congrArg (fun p => table.entries.countP p) (funext fun entry => ?_)
    rw [Bool.eq_iff_iff]
    simp only [Bool.and_eq_true, Bool.not_eq_true', List.contains_iff_mem, List.mem_filter,
      and_assoc, and_comm]
  rw [hunlisted, ← hlisted, strays]
  exact List.countP_eq_countP_filter_add _ _ _

/-- When values change only under some keys, the strays under the others stay. -/
theorem strays_changed {changed : List κ} (hchanged : changed.Nodup) (mark : ν → Bool)
    {table after : AList fun _ : κ => ν} (keys : List κ)
    (hsame : ∀ key ∉ changed, after.lookup key = table.lookup key) :
    strays mark after keys +
        changed.countP (fun key => markedAt mark table key && !keys.contains key) =
      strays mark table keys +
        changed.countP (fun key => markedAt mark after key && !keys.contains key) := by
  have hperm : (after.entries.filter fun entry => !changed.contains entry.1).Perm
      (table.entries.filter fun entry => !changed.contains entry.1) := by
    refine List.mem_ext (after.nodupKeys.nodup.filter _) (table.nodupKeys.nodup.filter _) ?_
    rintro ⟨key, value⟩
    rw [List.mem_filter, List.mem_filter]
    refine and_congr_left fun hkey => ?_
    have hnot : key ∉ changed := by simpa using hkey
    rw [← AList.mem_lookup_iff, ← AList.mem_lookup_iff, hsame key hnot]
  rw [strays_split hchanged mark after keys, strays_split hchanged mark table keys,
    hperm.countP_eq]
  omega

end Table
