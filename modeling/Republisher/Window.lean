import Mathlib.Data.List.Induction

/-!
# Limits over a sliding window

Entries are admitted one after the other and some of them score a hit later. A limiter
that admits an entry only while few earlier ones count, hits that are not yet too old and
entries that may still score one, bounds the hits in every window.
-/

namespace Window

variable {α κ : Type*}

/-- What there is to know about the entries of a limiter: the key they are counted under, when
they were admitted, when they scored a hit and whether they still may. -/
structure Entries (α κ : Type*) where
  key : α → κ
  start : α → ℕ
  hit : α → Option ℕ
  pending : α → Bool

/-- The entry has scored a hit or may still score one. -/
def Entries.live (e : Entries α κ) (x : α) : Bool := e.pending x || (e.hit x).isSome

/-- The entry still counts at `now`: its hit is less than `width` old, or yet to come. -/
def Entries.counts (e : Entries α κ) (width now : ℕ) (x : α) : Bool :=
  match e.hit x with
  | some t => now < t + width
  | none => e.pending x

/-- The entry has a hit from `first` to `last`. -/
def Entries.hitIn (e : Entries α κ) (first last : ℕ) (x : α) : Bool :=
  match e.hit x with
  | some t => first ≤ t && t ≤ last
  | none => false

/-- A list has at most `n` entries of a kind when each of them has fewer than `n` before it. -/
theorem countP_le_of_before {p : α → Bool} {n : ℕ} {xs : List α}
    (h : ∀ i x, xs[i]? = some x → p x = true → (xs.take i).countP p < n) : xs.countP p ≤ n := by
  induction xs using List.reverseRecOn with
  | nil => exact Nat.zero_le n
  | append_singleton xs x ih =>
    rw [List.countP_append, List.countP_singleton]
    by_cases hx : p x = true
    · have hbefore := h xs.length x List.getElem?_concat_length hx
      rw [List.take_left] at hbefore
      rw [if_pos hx]
      omega
    · rw [if_neg hx]
      refine ih fun i y hy hpy => ?_
      have hlt : i < xs.length := (List.getElem?_eq_some_iff.mp hy).1
      have hbefore := h i y (by rw [List.getElem?_append_left hlt, hy]) hpy
      rwa [List.take_append_of_le_length (Nat.le_of_lt hlt)] at hbefore

/-- Replacing an entry by one that is counted only if the old one was counts no more. -/
theorem countP_set_le {p : α → Bool} {xs : List α} {i : ℕ} {old new : α}
    (hold : xs[i]? = some old) (hp : p new = true → p old = true) :
    (xs.set i new).countP p ≤ xs.countP p := by
  obtain ⟨hlt, rfl⟩ := List.getElem?_eq_some_iff.mp hold
  rw [List.countP_set hlt]
  by_cases hnew : p new = true
  · have hpos : 0 < xs.countP p := List.countP_pos_iff.mpr ⟨_, List.getElem_mem hlt, hp hnew⟩
    rw [if_pos hnew, if_pos (hp hnew)]
    omega
  · rw [if_neg hnew]
    omega

/-- Replacing an entry counts at most the new one more. -/
theorem countP_set_le_add {p : α → Bool} {xs : List α} {i : ℕ} {old : α}
    (hold : xs[i]? = some old) (new : α) :
    (xs.set i new).countP p ≤ xs.countP p + if p new then 1 else 0 := by
  rw [List.countP_set (List.getElem?_eq_some_iff.mp hold).1]
  omega

/-- What is counted in one of two ways is counted at most as often as in both together. -/
theorem countP_le_add {p q r : α → Bool} {xs : List α}
    (h : ∀ x ∈ xs, p x = true → q x = true ∨ r x = true) :
    xs.countP p ≤ xs.countP q + xs.countP r := by
  induction xs with
  | nil => exact Nat.zero_le _
  | cons x xs ih =>
    have hrest := ih fun y hy => h y (List.mem_cons_of_mem x hy)
    have hx := h x List.mem_cons_self
    rw [List.countP_cons, List.countP_cons, List.countP_cons]
    by_cases hp : p x = true
    · rw [if_pos hp]
      rcases hx hp with hq | hr
      · rw [if_pos hq]
        omega
      · rw [if_pos hr]
        omega
    · rw [if_neg hp]
      omega

variable [DecidableEq κ]

/-- Every live entry was admitted while fewer than `n` earlier ones of its key counted, and
hits come after the admission. -/
structure Limited (e : Entries α κ) (width n : ℕ) (xs : List α) : Prop where
  budget : ∀ i x, xs[i]? = some x → e.live x = true →
    (xs.take i).countP (fun y => decide (e.key y = e.key x) && e.counts width (e.start x) y) < n
  ordered : ∀ x ∈ xs, ∀ t, e.hit x = some t → e.start x ≤ t

namespace Limited

variable {e : Entries α κ} {width n : ℕ} {xs : List α}

/-- Nothing has been admitted. -/
theorem nil : Limited e width n [] :=
  ⟨fun i x h => (by cases h), fun x h => (by cases h)⟩

/-- An entry is admitted. -/
theorem concat (h : Limited e width n xs) {x : α}
    (hbudget : e.live x = true →
      xs.countP (fun y => decide (e.key y = e.key x) && e.counts width (e.start x) y) < n)
    (hordered : ∀ t, e.hit x = some t → e.start x ≤ t) : Limited e width n (xs ++ [x]) := by
  constructor
  · intro i y hy hlive
    rcases Nat.lt_or_ge i xs.length with hlt | hge
    · rw [List.getElem?_append_left hlt] at hy
      rw [List.take_append_of_le_length (Nat.le_of_lt hlt)]
      exact h.budget i y hy hlive
    · rw [List.getElem?_append_right hge] at hy
      obtain ⟨hzero, rfl⟩ := List.getElem?_eq_some_iff.mp hy
      obtain rfl : i = xs.length := by
        rw [List.length_singleton] at hzero
        omega
      rw [List.take_left]
      simpa using hbudget (by simpa using hlive)
  · intro y hy t ht
    rcases List.mem_append.mp hy with hy | hy
    · exact h.ordered y hy t ht
    · obtain rfl := List.mem_singleton.mp hy
      exact hordered t ht

/-- An entry goes on: it may score its hit or give it up, and a hit that is scored stays. -/
theorem set (h : Limited e width n xs) {i : ℕ} {old new : α} (hold : xs[i]? = some old)
    (hkey : e.key new = e.key old) (hstart : e.start new = e.start old)
    (hpending : e.pending new = true → e.pending old = true)
    (hhit : ∀ t, e.hit new = some t → e.hit old = some t ∨
      e.hit old = none ∧ e.pending old = true ∧ e.start old ≤ t)
    (hkept : e.hit new = none → e.hit old = none) : Limited e width n (xs.set i new) := by
  have hlt : i < xs.length := (List.getElem?_eq_some_iff.mp hold).1
  have hlive : e.live new = true → e.live old = true := by
    intro hnew
    simp only [Entries.live, Bool.or_eq_true, Option.isSome_iff_exists] at hnew ⊢
    rcases hnew with hnew | ⟨t, ht⟩
    · exact .inl (hpending hnew)
    · rcases hhit t ht with hsame | ⟨-, hopen, -⟩
      · exact .inr ⟨t, hsame⟩
      · exact .inl hopen
  have hcounts (now : ℕ) : e.counts width now new = true → e.counts width now old = true := by
    unfold Entries.counts
    cases hnew : e.hit new with
    | none =>
      rw [hkept hnew]
      exact hpending
    | some t =>
      rcases hhit t hnew with hsame | ⟨hnone, hopen, -⟩
      · rw [hsame]
        exact id
      · rw [hnone]
        exact fun _ => hopen
  constructor
  · intro j x hx hx_live
    -- the entry whose admission is looked at was there before, with its key and start
    have hbefore : ∃ y, xs[j]? = some y ∧ e.key x = e.key y ∧ e.start x = e.start y ∧
        e.live y = true := by
      by_cases hj : i = j
      · subst hj
        rw [List.getElem?_set_self hlt] at hx
        obtain rfl := Option.some.inj hx
        exact ⟨old, hold, hkey, hstart, hlive hx_live⟩
      · rw [List.getElem?_set_ne hj] at hx
        exact ⟨x, hx, rfl, rfl, hx_live⟩
    obtain ⟨y, hy, hxkey, hxstart, hy_live⟩ := hbefore
    rw [hxkey, hxstart]
    refine Nat.lt_of_le_of_lt ?_ (h.budget j y hy hy_live)
    by_cases hji : i < j
    · rw [List.take_set]
      refine countP_set_le (by rw [List.getElem?_take_of_lt hji, hold]) fun hnew => ?_
      simp only [Bool.and_eq_true, decide_eq_true_eq, hkey] at hnew ⊢
      exact ⟨hnew.1, hcounts _ hnew.2⟩
    · have hsame : (xs.set i new).take j = xs.take j := List.take_set_of_le (by omega)
      exact Nat.le_of_eq (by rw [hsame])
  · intro x hx t ht
    rcases List.mem_or_eq_of_mem_set hx with hx | rfl
    · exact h.ordered x hx t ht
    · rw [hstart]
      rcases hhit t ht with hsame | ⟨-, -, hle⟩
      · exact h.ordered old (List.mem_of_getElem? hold) t hsame
      · exact hle

/-- No window shorter than `width` has more than `n` hits of one key. -/
theorem countP_hitIn_le (h : Limited e width n xs) (k : κ) {first last : ℕ}
    (hwindow : last - first < width) :
    xs.countP (fun x => decide (e.key x = k) && e.hitIn first last x) ≤ n := by
  refine countP_le_of_before fun i x hx hcounted => ?_
  simp only [Bool.and_eq_true, decide_eq_true_eq] at hcounted
  obtain ⟨rfl, hhit⟩ := hcounted
  cases ht : e.hit x with
  | none => simp [Entries.hitIn, ht] at hhit
  | some t =>
    simp only [Entries.hitIn, ht, Bool.and_eq_true, decide_eq_true_eq] at hhit
    have hstart := h.ordered x (List.mem_of_getElem? hx) t ht
    refine Nat.lt_of_le_of_lt ?_ (h.budget i x hx (by simp [Entries.live, ht]))
    refine List.countP_mono_left fun y _ hy => ?_
    simp only [Bool.and_eq_true, decide_eq_true_eq] at hy ⊢
    refine ⟨hy.1, ?_⟩
    -- a hit in the window was less than `width` old when the last one was admitted
    cases hu : e.hit y with
    | none => simp [Entries.hitIn, hu] at hy
    | some u =>
      simp only [Entries.hitIn, hu, Bool.and_eq_true, decide_eq_true_eq] at hy
      simp only [Entries.counts, hu, decide_eq_true_eq]
      omega

end Limited

end Window
