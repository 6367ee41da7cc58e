import Republisher.Transition
import Mathlib.Algebra.GroupWithZero.Nat
import Mathlib.Algebra.BigOperators.Group.List.Basic

/-!
# Messages in flight

Messages are handled one at a time in any order. Handling one changes a state, puts more messages
in flight and adds to a log. This file has the two rules for counting such a system: when every
message weighs more than what it causes, every run is short; and when what a message adds to the
log is worth what the message was worth and its messages are not, the log comes to the same in
every order.
-/

namespace Cascade

variable {σ μ ω τ : Type*}

/-- A state, the messages in flight and what has been logged. -/
structure Config (σ μ ω : Type*) where
  state : σ
  flight : List μ
  log : List ω

/-- The message at an index is handled, at a time. -/
def step (handle : τ → σ → μ → σ × List μ × List ω) (c : Config σ μ ω) (i : ℕ × τ) :
    Option (Config σ μ ω) :=
  c.flight[i.1]?.map fun m =>
    let r := handle i.2 c.state m
    ⟨r.1, c.flight.eraseIdx i.1 ++ r.2.1, c.log ++ r.2.2⟩

variable {handle : τ → σ → μ → σ × List μ × List ω}

/-- A step handles a message in flight. -/
theorem step_eq_some {c d : Config σ μ ω} {i : ℕ × τ} :
    step handle c i = some d ↔ ∃ m, c.flight[i.1]? = some m ∧
      d = ⟨(handle i.2 c.state m).1, c.flight.eraseIdx i.1 ++ (handle i.2 c.state m).2.1,
        c.log ++ (handle i.2 c.state m).2.2⟩ := by
  unfold step
  rw [Option.map_eq_some_iff]
  exact exists_congr fun m => and_congr_right fun _ => eq_comm

variable (handle) in
/-- As long as a message is in flight there is a step. -/
theorem exists_step {c : Config σ μ ω} (h : c.flight ≠ []) (time : τ) :
    ∃ d, step handle c (0, time) = some d := by
  obtain ⟨m, rest, hflight⟩ := List.exists_cons_of_ne_nil h
  exact ⟨_, step_eq_some.mpr ⟨m, by rw [hflight]; rfl, rfl⟩⟩

/-- What is counted over distinct items at one of them. -/
theorem sum_ite_eq {α : Type*} [DecidableEq α] {items : List α} (h : items.Nodup) (a : α)
    (value : ℕ) :
    (items.map fun x => if x = a then value else 0).sum = if a ∈ items then value else 0 := by
  induction items with
  | nil => rfl
  | cons x items ih =>
    obtain ⟨hx, hrest⟩ := List.nodup_cons.mp h
    rw [List.map_cons, List.sum_cons, ih hrest]
    by_cases hxa : x = a
    · subst hxa
      simp [hx]
    · simp [hxa, Ne.symm hxa]

/-- What a message weighs counts once among the messages in flight. -/
theorem sum_eraseIdx_add {flight : List μ} {index : ℕ} {m : μ} (h : flight[index]? = some m)
    (weight : μ → ℕ) :
    ((flight.eraseIdx index).map weight).sum + weight m = (flight.map weight).sum := by
  obtain ⟨hlt, rfl⟩ := List.getElem?_eq_some_iff.mp h
  have hperm := (List.getElem_cons_eraseIdx_perm hlt).map weight
  rw [← hperm.sum_eq, List.map_cons, List.sum_cons, Nat.add_comm]

section Invariants

variable {Inv : σ → Prop} {Sound : μ → Prop}

/-- The state keeps its invariant and the messages in flight stay sound. -/
theorem step_sound (hhandle : ∀ time s m, Inv s → Sound m →
      Inv (handle time s m).1 ∧ ∀ n ∈ (handle time s m).2.1, Sound n) {c d : Config σ μ ω}
    {i : ℕ × τ} (hc : Inv c.state ∧ ∀ m ∈ c.flight, Sound m) (h : step handle c i = some d) :
    Inv d.state ∧ ∀ m ∈ d.flight, Sound m := by
  obtain ⟨m, hm, rfl⟩ := step_eq_some.mp h
  obtain ⟨hinv, hsound⟩ := hhandle i.2 c.state m hc.1 (hc.2 m (List.mem_of_getElem? hm))
  refine ⟨hinv, fun n hn => ?_⟩
  rcases List.mem_append.mp hn with hn | hn
  · exact hc.2 n (List.mem_of_mem_eraseIdx hn)
  · exact hsound n hn

/-- When a message weighs more than the messages it causes, a run has no more steps than the
messages in flight weigh. -/
theorem length_add_weight_le {weight : μ → ℕ}
    (hhandle : ∀ time s m, Inv s → Sound m →
      Inv (handle time s m).1 ∧ ∀ n ∈ (handle time s m).2.1, Sound n)
    (hweight : ∀ time s m, Inv s → Sound m → ((handle time s m).2.1.map weight).sum < weight m)
    {c d : Config σ μ ω} {is : List (ℕ × τ)} (hc : Inv c.state ∧ ∀ m ∈ c.flight, Sound m)
    (hrun : Transition.run (step handle) c is = some d) :
    is.length + (d.flight.map weight).sum ≤ (c.flight.map weight).sum := by
  induction is generalizing c with
  | nil =>
    obtain rfl := Option.some.inj hrun
    simp
  | cons i is ih =>
    obtain ⟨e, he, hrest⟩ := Transition.run_cons_eq_some.mp hrun
    have hbound := ih (step_sound hhandle hc he) hrest
    obtain ⟨m, hm, rfl⟩ := step_eq_some.mp he
    have hless := hweight i.2 c.state m hc.1 (hc.2 m (List.mem_of_getElem? hm))
    have hsum := sum_eraseIdx_add hm weight
    rw [List.map_append, List.sum_append] at hbound
    rw [List.length_cons]
    omega

/-- Then some run comes to rest, at whatever time its steps are taken. -/
theorem exists_rest {weight : μ → ℕ} (time : τ)
    (hhandle : ∀ time s m, Inv s → Sound m →
      Inv (handle time s m).1 ∧ ∀ n ∈ (handle time s m).2.1, Sound n)
    (hweight : ∀ time s m, Inv s → Sound m → ((handle time s m).2.1.map weight).sum < weight m)
    {c : Config σ μ ω} (hc : Inv c.state ∧ ∀ m ∈ c.flight, Sound m) :
    ∃ is d, Transition.run (step handle) c is = some d ∧ d.flight = [] := by
  induction hsum : (c.flight.map weight).sum using Nat.strongRecOn generalizing c with
  | ind total ih =>
    by_cases hflight : c.flight = []
    · exact ⟨[], c, rfl, hflight⟩
    · obtain ⟨d, hd⟩ := exists_step handle hflight time
      have hless := length_add_weight_le hhandle hweight hc
        (Transition.run_cons_eq_some.mpr ⟨d, hd, rfl⟩ :
          Transition.run (step handle) c [(0, time)] = some d)
      rw [List.length_singleton] at hless
      obtain ⟨is, e, hrun, hrest⟩ := ih _ (by omega) (step_sound hhandle hc hd) rfl
      exact ⟨(0, time) :: is, e, Transition.run_cons_eq_some.mpr ⟨d, hd, hrun⟩, hrest⟩

/-- When what a message adds to the log comes to what it is worth without its messages, the log
and the messages in flight come to the same throughout a run. -/
theorem countP_add_value_eq {value : μ → ℕ} {p : ω → Bool}
    (hhandle : ∀ time s m, Inv s → Sound m →
      Inv (handle time s m).1 ∧ ∀ n ∈ (handle time s m).2.1, Sound n)
    (hvalue : ∀ time s m, Inv s → Sound m →
      (handle time s m).2.2.countP p + ((handle time s m).2.1.map value).sum = value m)
    {c d : Config σ μ ω} {is : List (ℕ × τ)} (hc : Inv c.state ∧ ∀ m ∈ c.flight, Sound m)
    (hrun : Transition.run (step handle) c is = some d) :
    d.log.countP p + (d.flight.map value).sum = c.log.countP p + (c.flight.map value).sum := by
  induction is generalizing c with
  | nil =>
    obtain rfl := Option.some.inj hrun
    rfl
  | cons i is ih =>
    obtain ⟨e, he, hrest⟩ := Transition.run_cons_eq_some.mp hrun
    rw [ih (step_sound hhandle hc he) hrest]
    obtain ⟨m, hm, rfl⟩ := step_eq_some.mp he
    have hsame := hvalue i.2 c.state m hc.1 (hc.2 m (List.mem_of_getElem? hm))
    have hsum := sum_eraseIdx_add hm value
    rw [List.countP_append, List.map_append, List.sum_append]
    omega

end Invariants

end Cascade
