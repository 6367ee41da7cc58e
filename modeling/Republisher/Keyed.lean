import Mathlib.Data.List.Induction
import Mathlib.Data.List.Nodup
import Mathlib.Data.List.Perm.Basic

/-!
# Lists edited by position and by key

Items are appended, replaced and erased at a position, or put into the list by a key: the
first item with the key is replaced, and without one the item comes last. This file says what
such edits do to counts, orders and keys, for arbitrary items and keys.
-/

namespace Keyed

/-! ## Edits at a position -/

section Positions

variable {α κ : Type} {key : α → κ} {items : List α} {item old : α} {index : ℕ}

/-- What is counted without the item at an index. -/
theorem countP_eraseIdx_add (hold : items[index]? = some old) (p : α → Bool) :
    (items.eraseIdx index).countP p + (p old).toNat = items.countP p := by
  obtain ⟨hlt, rfl⟩ := List.getElem?_eq_some_iff.mp hold
  rw [← (List.getElem_cons_eraseIdx_perm hlt).countP_eq p, List.countP_cons]
  cases p items[index] <;> rfl

/-- What is counted with another item at an index. -/
theorem countP_set_add (hold : items[index]? = some old) (item : α) (p : α → Bool) :
    (items.set index item).countP p + (p old).toNat = items.countP p + (p item).toNat := by
  obtain ⟨hlt, -⟩ := List.getElem?_eq_some_iff.mp hold
  rw [← countP_eraseIdx_add hold p, (List.set_perm_cons_eraseIdx hlt item).countP_eq p,
    List.countP_cons]
  cases p item
  · simp
  · simp
    omega

/-- A relation that holds in order still does with another item at an index exactly when it
holds between the items before and that one, and between that one and the items after. -/
theorem pairwise_set_iff {R : α → α → Prop} (h : items.Pairwise R)
    (hold : items[index]? = some old) (item : α) :
    (items.set index item).Pairwise R ↔
      (∀ i other, i < index → items[i]? = some other → R other item) ∧
        ∀ i other, index < i → items[i]? = some other → R item other := by
  obtain ⟨hlt, -⟩ := List.getElem?_eq_some_iff.mp hold
  rw [List.pairwise_iff_getElem] at h ⊢
  simp only [List.length_set]
  constructor
  · intro hset
    constructor
    · intro i other hi hother
      obtain ⟨hilt, rfl⟩ := List.getElem?_eq_some_iff.mp hother
      have hpair := hset i index hilt hlt hi
      rwa [List.getElem_set_ne (by omega), List.getElem_set_self] at hpair
    · intro i other hi hother
      obtain ⟨hilt, rfl⟩ := List.getElem?_eq_some_iff.mp hother
      have hpair := hset index i hlt hilt hi
      rwa [List.getElem_set_self, List.getElem_set_ne (by omega)] at hpair
  · rintro ⟨hbefore, hafter⟩ i j hi hj hij
    rcases Nat.lt_trichotomy i index with hlow | rfl | hhigh
    · rw [List.getElem_set_ne (by omega)]
      by_cases hj' : j = index
      · subst hj'
        rw [List.getElem_set_self]
        exact hbefore i _ hlow (List.getElem?_eq_getElem hi)
      · rw [List.getElem_set_ne (by omega)]
        exact h i j hi hj hij
    · rw [List.getElem_set_self, List.getElem_set_ne (by omega)]
      exact hafter j _ hij (List.getElem?_eq_getElem hj)
    · rw [List.getElem_set_ne (by omega), List.getElem_set_ne (by omega)]
      exact h i j hi hj hij

/-- An appended item has to have a new key. -/
theorem nodup_map_append_iff (h : (items.map key).Nodup) :
    ((items ++ [item]).map key).Nodup ↔ ∀ x ∈ items, key x ≠ key item := by
  rw [List.map_append, List.map_cons, List.map_nil, List.nodup_append_comm, List.singleton_append,
    List.nodup_cons, List.mem_map, not_exists]
  exact ⟨fun hnew x hx hkey => hnew.1 x ⟨hx, hkey⟩, fun hnew => ⟨fun x hx => hnew x hx.1 hx.2, h⟩⟩

/-- An item put in the place of another has to have a key that the rest lacks. -/
theorem nodup_map_set_iff (h : (items.map key).Nodup) (hindex : index < items.length) :
    ((items.set index item).map key).Nodup ↔ ∀ x ∈ items.eraseIdx index, key x ≠ key item := by
  have hperm := (List.set_perm_cons_eraseIdx hindex item).map key
  have hrest : ((items.eraseIdx index).map key).Nodup :=
    h.sublist ((List.eraseIdx_sublist items index).map key)
  rw [hperm.nodup_iff, List.map_cons, List.nodup_cons, List.mem_map, not_exists]
  exact ⟨fun hnew x hx hkey => hnew.1 x ⟨hx, hkey⟩,
    fun hnew => ⟨fun x hx => hnew x hx.1 hx.2, hrest⟩⟩

/-- An item put in the place of one with its key leaves the keys as they are. -/
theorem map_set_same (hold : items[index]? = some old) (hkey : key item = key old) :
    (items.set index item).map key = items.map key := by
  obtain ⟨hlt, rfl⟩ := List.getElem?_eq_some_iff.mp hold
  have hmapped : index < (items.map key).length := by rwa [List.length_map]
  have hget : key items[index] = (items.map key)[index] := (List.getElem_map key).symm
  rw [List.map_set, hkey, hget, List.set_getElem_self]

end Positions

/-! ## Edits by key -/

variable {α κ : Type} [DecidableEq κ] {key : α → κ}

/-- Replace the first item with the key of `item`, or append `item`. -/
def upsert (key : α → κ) (item : α) (items : List α) : List α :=
  match items.findIdx? fun x => key x == key item with
  | some index => items.set index item
  | none => items ++ [item]

/-- What `upsert` does to the first item. -/
theorem upsert_cons (key : α → κ) (item first : α) (items : List α) :
    upsert key item (first :: items) =
      if key first = key item then item :: items else first :: upsert key item items := by
  unfold upsert
  rw [List.findIdx?_cons]
  by_cases hsame : key first = key item
  · simp [hsame]
  · simp only [beq_iff_eq, hsame, if_false]
    cases items.findIdx? fun x => key x == key item <;> rfl

/-- The item replaces one with its key, or it has a new key and is appended. -/
theorem upsert_cases (key : α → κ) (item : α) (items : List α) :
    (∃ index old, items[index]? = some old ∧ key old = key item ∧
      upsert key item items = items.set index item) ∨
    (∀ x ∈ items, key x ≠ key item) ∧ upsert key item items = items ++ [item] := by
  unfold upsert
  cases hindex : items.findIdx? fun x => key x == key item with
  | some index =>
    obtain ⟨hlt, hsame, -⟩ := List.findIdx?_eq_some_iff_getElem.mp hindex
    exact .inl ⟨index, items[index], List.getElem?_eq_getElem hlt, beq_iff_eq.mp hsame, rfl⟩
  | none =>
    refine .inr ⟨fun x hx hsame => ?_, rfl⟩
    exact beq_eq_false_iff_ne.mp (List.findIdx?_eq_none_iff.mp hindex x hx) hsame

/-- An item with another key is neither added nor lost. -/
theorem mem_upsert_of_ne {item x : α} (h : key x ≠ key item) (items : List α) :
    x ∈ upsert key item items ↔ x ∈ items := by
  have hne : x ≠ item := by
    rintro rfl
    exact h rfl
  induction items with
  | nil => simp [upsert, hne]
  | cons first items ih =>
    rw [upsert_cons]
    by_cases hsame : key first = key item
    · have hfirst : x ≠ first := by
        rintro rfl
        exact h hsame
      rw [if_pos hsame, List.mem_cons, List.mem_cons, or_iff_right hne, or_iff_right hfirst]
    · rw [if_neg hsame, List.mem_cons, List.mem_cons]
      exact or_congr_right ih

/-- The keys afterwards are those before and that of the item. -/
theorem mem_map_upsert (item : α) (items : List α) (k : κ) :
    k ∈ (upsert key item items).map key ↔ k ∈ items.map key ∨ k = key item := by
  rcases upsert_cases key item items with ⟨index, old, hold, hkey, hset⟩ | ⟨-, happend⟩
  · rw [hset, map_set_same hold hkey.symm]
    refine ⟨.inl, fun h => h.elim id ?_⟩
    rintro rfl
    rw [← hkey]
    exact List.mem_map_of_mem (List.mem_of_getElem? hold)
  · rw [happend, List.map_append, List.mem_append, List.map_cons, List.map_nil,
      List.mem_singleton]

/-- Distinct keys stay distinct. -/
theorem nodup_map_upsert {items : List α} (h : (items.map key).Nodup) (item : α) :
    ((upsert key item items).map key).Nodup := by
  rcases upsert_cases key item items with ⟨index, old, hold, hkey, hset⟩ | ⟨hnew, happend⟩
  · rw [hset, map_set_same hold hkey.symm]
    exact h
  · rw [happend]
    exact (nodup_map_append_iff h).mpr hnew

/-- The item is found under its key. -/
theorem find?_upsert_self (item : α) (items : List α) :
    (upsert key item items).find? (fun x => key x == key item) = some item := by
  induction items with
  | nil => exact List.find?_cons_of_pos (by simp)
  | cons first items ih =>
    rw [upsert_cons]
    by_cases hsame : key first = key item
    · rw [if_pos hsame, List.find?_cons_of_pos (by simp)]
    · rw [if_neg hsame, List.find?_cons_of_neg (by simpa using hsame), ih]

/-- Under another key is found what was found before. -/
theorem find?_upsert_of_ne {item : α} {k : κ} (h : key item ≠ k) (items : List α) :
    (upsert key item items).find? (fun x => key x == k) = items.find? fun x => key x == k := by
  induction items with
  | nil => exact List.find?_cons_of_neg (by simpa using h)
  | cons first items ih =>
    rw [upsert_cons]
    by_cases hsame : key first = key item
    · have hfirst : key first ≠ k := fun hk => h (hsame.symm.trans hk)
      rw [if_pos hsame, List.find?_cons_of_neg (by simpa using h),
        List.find?_cons_of_neg (by simpa using hfirst)]
    · rw [if_neg hsame, List.find?_cons, List.find?_cons, ih]

/-- An item that is found under its key is put in without effect. -/
theorem upsert_of_find? {item : α} {items : List α}
    (h : items.find? (fun x => key x == key item) = some item) : upsert key item items = items := by
  induction items with
  | nil => cases h
  | cons first items ih =>
    rw [upsert_cons]
    by_cases hsame : key first = key item
    · rw [List.find?_cons_of_pos (by simpa using hsame)] at h
      rw [if_pos hsame, Option.some.inj h]
    · rw [List.find?_cons_of_neg (by simpa using hsame)] at h
      rw [if_neg hsame, ih h]

/-- The items with other keys stay as they are and in order. -/
theorem filter_upsert (item : α) (items : List α) :
    (upsert key item items).filter (fun x => decide (key x ≠ key item)) =
      items.filter fun x => decide (key x ≠ key item) := by
  induction items with
  | nil => exact List.filter_cons_of_neg (by simp)
  | cons first items ih =>
    rw [upsert_cons]
    by_cases hsame : key first = key item
    · rw [if_pos hsame, List.filter_cons_of_neg (by simp),
        List.filter_cons_of_neg (by simpa using hsame)]
    · rw [if_neg hsame, List.filter_cons_of_pos (by simpa using hsame),
        List.filter_cons_of_pos (by simpa using hsame), ih]

/-- An item with a new key makes the list longer by one. -/
theorem length_upsert (item : α) (items : List α) :
    (upsert key item items).length =
      items.length + if ∀ x ∈ items, key x ≠ key item then 1 else 0 := by
  rcases upsert_cases key item items with ⟨index, old, hold, hkey, hset⟩ | ⟨hnew, happend⟩
  · have hthere : ¬ ∀ x ∈ items, key x ≠ key item := fun hnew =>
      hnew old (List.mem_of_getElem? hold) hkey
    rw [hset, List.length_set, if_neg hthere, Nat.add_zero]
  · rw [happend, List.length_append, if_pos hnew, List.length_singleton]

/-- No item is moved, and one is replaced only by one with its key. -/
theorem getElem?_upsert {items : List α} {index : ℕ} {old : α} (h : items[index]? = some old)
    (item : α) : ∃ new, (upsert key item items)[index]? = some new ∧ key new = key old := by
  have hlt := (List.getElem?_eq_some_iff.mp h).1
  rcases upsert_cases key item items with ⟨i, other, hother, hkey, hset⟩ | ⟨-, happend⟩
  · rw [hset]
    by_cases heq : i = index
    · subst heq
      obtain rfl := Option.some.inj (hother.symm.trans h)
      exact ⟨item, List.getElem?_set_self hlt, hkey.symm⟩
    · exact ⟨old, by rw [List.getElem?_set_ne heq]; exact h, rfl⟩
  · exact ⟨old, by rw [happend, List.getElem?_append_left hlt]; exact h, rfl⟩

/-- Of two items with one key the second stays. -/
theorem upsert_same {first second : α} (hsame : key first = key second) (items : List α) :
    upsert key second (upsert key first items) = upsert key second items := by
  induction items with
  | nil =>
    have hnil (item : α) : upsert key item [] = [item] := rfl
    rw [hnil, hnil, upsert_cons, if_pos hsame]
  | cons x items ih =>
    rw [upsert_cons, upsert_cons, ← hsame]
    by_cases hx : key x = key first
    · rw [if_pos hx, if_pos hx, upsert_cons, if_pos hsame]
    · rw [if_neg hx, if_neg hx, upsert_cons, if_neg (hsame ▸ hx), ih]

/-- Items with different keys can be put in in either order if the key of one is there. -/
theorem upsert_comm {first second : α} (hother : key first ≠ key second) {items : List α}
    (hthere : key second ∈ items.map key) :
    upsert key second (upsert key first items) = upsert key first (upsert key second items) := by
  induction items with
  | nil => cases hthere
  | cons x items ih =>
    rw [upsert_cons, upsert_cons]
    by_cases hfirst : key x = key first
    · have hsecond : key x ≠ key second := fun h => hother (hfirst.symm.trans h)
      rw [if_pos hfirst, if_neg hsecond, upsert_cons, if_neg hother, upsert_cons, if_pos hfirst]
    · rw [if_neg hfirst, upsert_cons]
      by_cases hsecond : key x = key second
      · rw [if_pos hsecond, if_pos hsecond, upsert_cons, if_neg (Ne.symm hother)]
      · rw [if_neg hsecond, if_neg hsecond, upsert_cons, if_neg hfirst]
        rw [List.map_cons, List.mem_cons, or_iff_right (Ne.symm hsecond)] at hthere
        rw [ih hthere]

/-- With distinct keys an item is found under its key, and no other. -/
theorem find?_key_eq_some_iff {items : List α} (h : (items.map key).Nodup) {x : α} {k : κ} :
    items.find? (fun y => key y == k) = some x ↔ x ∈ items ∧ key x = k := by
  refine ⟨fun hfind => ⟨List.mem_of_find?_eq_some hfind, by simpa using List.find?_some hfind⟩, ?_⟩
  rintro ⟨hx, rfl⟩
  induction items with
  | nil => cases hx
  | cons first items ih =>
    rw [List.map_cons, List.nodup_cons] at h
    rcases List.mem_cons.mp hx with rfl | hx
    · exact List.find?_cons_of_pos (by simp)
    · have hne : key first ≠ key x := fun hkey => h.1 (hkey ▸ List.mem_map_of_mem hx)
      rw [List.find?_cons_of_neg (by simpa using hne)]
      exact ih h.2 hx

/-- With distinct keys, what is found among the items that are kept is what was found, if that
is kept. -/
theorem find?_filter_key {items : List α} (h : (items.map key).Nodup) (p : α → Bool) (k : κ) :
    (items.filter p).find? (fun y => key y == k) =
      (items.find? fun y => key y == k).filter p := by
  have hkept : ((items.filter p).map key).Nodup := h.sublist (List.filter_sublist.map key)
  ext x
  rw [find?_key_eq_some_iff hkept, Option.filter_eq_some_iff, find?_key_eq_some_iff h,
    List.mem_filter]
  exact and_right_comm

/-! ## Merges by key -/

/-- Put items into a list one after the other. -/
def merge (key : α → κ) (items found : List α) : List α :=
  found.foldl (fun items item => upsert key item items) items

/-- An item whose key is not merged is neither added nor lost. -/
theorem mem_merge_of_ne {x : α} {found : List α} (h : ∀ f ∈ found, key f ≠ key x)
    (items : List α) : x ∈ merge key items found ↔ x ∈ items := by
  induction found generalizing items with
  | nil => rfl
  | cons f found ih =>
    have hrest := ih (fun g hg => h g (List.mem_cons_of_mem _ hg)) (upsert key f items)
    exact hrest.trans (mem_upsert_of_ne (Ne.symm (h f List.mem_cons_self)) items)

/-- Distinct keys stay distinct in a merge. -/
theorem nodup_map_merge {items : List α} (h : (items.map key).Nodup) (found : List α) :
    ((merge key items found).map key).Nodup := by
  induction found generalizing items with
  | nil => exact h
  | cons f found ih => exact ih (nodup_map_upsert h f)

/-- The keys of a merge are those of both lists. -/
theorem mem_map_merge (items found : List α) (k : κ) :
    k ∈ (merge key items found).map key ↔ k ∈ items.map key ∨ k ∈ found.map key := by
  induction found generalizing items with
  | nil => simp [merge]
  | cons f found ih =>
    have hrest := ih (upsert key f items)
    rw [mem_map_upsert] at hrest
    rw [List.map_cons, List.mem_cons, ← or_assoc]
    exact hrest

/-- An item put in before others whose keys are there makes no difference once it is put in
after them. -/
theorem upsert_merge_upsert (item : α) {others items : List α}
    (hothers : ∀ f ∈ others, key f ∈ items.map key) :
    upsert key item (merge key (upsert key item items) others) =
      upsert key item (merge key items others) := by
  induction others generalizing items with
  | nil => exact upsert_same rfl items
  | cons f others ih =>
    show upsert key item (merge key (upsert key f (upsert key item items)) others) =
      upsert key item (merge key (upsert key f items) others)
    by_cases hsame : key item = key f
    · rw [upsert_same hsame]
    · rw [upsert_comm hsame (hothers f List.mem_cons_self)]
      refine ih fun g hg => (mem_map_upsert f items _).mpr (.inl ?_)
      exact hothers g (List.mem_cons_of_mem _ hg)

/-- Merging the same items again changes nothing. -/
theorem merge_again (items found : List α) :
    merge key (merge key items found) found = merge key items found := by
  induction found using List.reverseRecOn with
  | nil => rfl
  | append_singleton found last ih =>
    have hstep (start : List α) :
        merge key start (found ++ [last]) = upsert key last (merge key start found) :=
      List.foldl_append
    have hthere : ∀ f ∈ found, key f ∈ (merge key items found).map key := fun f hf =>
      (mem_map_merge items found _).mpr (.inr (List.mem_map_of_mem hf))
    rw [hstep, hstep, upsert_merge_upsert last hthere, ih]

/-! ## Merges that update -/

/-- Update the first item with the key of `item`, or append `item`. -/
def put (key : α → κ) (update : α → α → α) (items : List α) (item : α) : List α :=
  match items.findIdx? fun x => key x == key item with
  | some index => items.modify index fun old => update old item
  | none => items ++ [item]

end Keyed
