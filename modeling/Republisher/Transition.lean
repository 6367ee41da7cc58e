import Mathlib.Data.List.Basic

/-!
# Schedules of a labelled transition function

A concurrent system is a partial function from a state and a label to the next
state: the label names the party that moves. This file has the induction rules
that the safety arguments use, for arbitrary state and label types. A schedule
is a finite list of labels, so every interleaving of the parties is one schedule.
-/

namespace Transition

variable {σ ι : Type*} {step : σ → ι → Option σ}

/-- The state a schedule leads to, `none` when one of its steps is not enabled. -/
def run (step : σ → ι → Option σ) : σ → List ι → Option σ
  | s, [] => some s
  | s, i :: is => (step s i).bind fun t => run step t is

/-- Every state the schedule visits satisfies `Q`, its first state included. -/
def Throughout (step : σ → ι → Option σ) (Q : σ → Prop) : σ → List ι → Prop
  | s, [] => Q s
  | s, i :: is => Q s ∧ ∀ t, step s i = some t → Throughout step Q t is

/-- Every step the schedule takes satisfies `C`, which sees the state before
the step, its label and the state after it. -/
def Along (step : σ → ι → Option σ) (C : σ → ι → σ → Prop) : σ → List ι → Prop
  | _, [] => True
  | s, i :: is => ∀ t, step s i = some t → C s i t ∧ Along step C t is

/-- A side condition that can be decided for every step can be decided along a schedule. -/
instance Along.decidable {C : σ → ι → σ → Prop} [∀ s i t, Decidable (C s i t)] :
    (s : σ) → (is : List ι) → Decidable (Along step C s is)
  | _, [] => isTrue trivial
  | s, i :: is =>
      match h : step s i with
      | none => isTrue fun t ht => by rw [h] at ht; cases ht
      | some t =>
          have : Decidable (Along step C t is) := Along.decidable t is
          decidable_of_iff (C s i t ∧ Along step C t is) (by simp [Along, h])

@[simp] theorem run_nil (s : σ) : run step s [] = some s := rfl

/-- A schedule with a first step takes that step and goes on with the rest. -/
theorem run_cons (s : σ) (i : ι) (is : List ι) :
    run step s (i :: is) = (step s i).bind fun t => run step t is := rfl

/-- A schedule with a first step has taken that step and then run the rest. -/
theorem run_cons_eq_some {s u : σ} {i : ι} {is : List ι} :
    run step s (i :: is) = some u ↔ ∃ t, step s i = some t ∧ run step t is = some u := by
  rw [run_cons, Option.bind_eq_some_iff]

/-- Running two schedules one after the other is running their concatenation. -/
theorem run_append (s : σ) (is js : List ι) :
    run step s (is ++ js) = (run step s is).bind fun t => run step t js := by
  induction is generalizing s with
  | nil => rfl
  | cons i is ih =>
    rw [List.cons_append, run_cons, run_cons, Option.bind_assoc]
    congr 1
    funext t
    exact ih t

/-- A reflexive and transitive relation that contains every step contains
every schedule: this is how "never shrinks" and "never changes back" are used. -/
theorem run_rel {R : σ → σ → Prop} (hrefl : ∀ s, R s s)
    (htrans : ∀ s t u, R s t → R t u → R s u)
    (hstep : ∀ s i t, step s i = some t → R s t) {s t : σ} {is : List ι}
    (hrun : run step s is = some t) : R s t := by
  induction is generalizing s with
  | nil => exact Option.some.inj hrun ▸ hrefl s
  | cons i is ih =>
    obtain ⟨u, hu, hrest⟩ := run_cons_eq_some.mp hrun
    exact htrans s u t (hstep s i u hu) (ih hrest)

/-- A guarded invariant: when every step of the schedule meets the side
condition `C`, an invariant that such steps preserve holds throughout. -/
theorem throughout_of_along {Inv : σ → Prop} {C : σ → ι → σ → Prop}
    (hstep : ∀ s i t, Inv s → step s i = some t → C s i t → Inv t) {s : σ} {is : List ι}
    (hs : Inv s) (halong : Along step C s is) : Throughout step Inv s is := by
  induction is generalizing s with
  | nil => exact hs
  | cons i is ih =>
    refine ⟨hs, fun t ht => ?_⟩
    obtain ⟨hC, hrest⟩ := halong t ht
    exact ih (hstep s i t hs ht hC) hrest

/-- An invariant that every step preserves holds throughout every schedule. -/
theorem throughout_of_invariant {Inv : σ → Prop}
    (hstep : ∀ s i t, Inv s → step s i = some t → Inv t) {s : σ} {is : List ι}
    (hs : Inv s) : Throughout step Inv s is := by
  induction is generalizing s with
  | nil => exact hs
  | cons i is ih => exact ⟨hs, fun t ht => ih (hstep s i t hs ht)⟩

/-- Weakening the property that holds throughout a schedule. -/
theorem Throughout.mono {P Q : σ → Prop} (h : ∀ s, P s → Q s) {s : σ} {is : List ι}
    (hP : Throughout step P s is) : Throughout step Q s is := by
  induction is generalizing s with
  | nil => exact h s hP
  | cons i is ih => exact ⟨h s hP.1, fun t ht => ih (hP.2 t ht)⟩

/-- Two properties hold throughout a schedule exactly when both do. -/
theorem throughout_and {P Q : σ → Prop} {s : σ} {is : List ι} :
    Throughout step (fun s => P s ∧ Q s) s is ↔
      Throughout step P s is ∧ Throughout step Q s is := by
  refine ⟨fun h => ⟨h.mono fun _ => And.left, h.mono fun _ => And.right⟩, fun h => ?_⟩
  induction is generalizing s with
  | nil => exact h
  | cons i is ih => exact ⟨⟨h.1.1, h.2.1⟩, fun t ht => ih ⟨h.1.2 t ht, h.2.2 t ht⟩⟩

/-- What holds throughout a schedule holds in its first state. -/
theorem Throughout.first {Q : σ → Prop} {s : σ} {is : List ι}
    (h : Throughout step Q s is) : Q s := by
  cases is with
  | nil => exact h
  | cons i is => exact h.1

/-- What holds throughout a schedule holds in the state it leads to. -/
theorem Throughout.last {Q : σ → Prop} {s t : σ} {is : List ι}
    (h : Throughout step Q s is) (hrun : run step s is = some t) : Q t := by
  induction is generalizing s with
  | nil => exact Option.some.inj hrun ▸ h
  | cons i is ih =>
    obtain ⟨u, hu, hrest⟩ := run_cons_eq_some.mp hrun
    exact ih (h.2 u hu) hrest

/-- An invariant that every step preserves holds after every schedule. -/
theorem run_invariant {Inv : σ → Prop}
    (hstep : ∀ s i t, Inv s → step s i = some t → Inv t) {s t : σ} {is : List ι}
    (hs : Inv s) (hrun : run step s is = some t) : Inv t :=
  (throughout_of_invariant hstep hs).last hrun

/-- A side condition that every step meets holds along every schedule. -/
theorem along_of_forall {C : σ → ι → σ → Prop} (h : ∀ s i t, step s i = some t → C s i t) {s : σ}
    {is : List ι} : Along step C s is := by
  induction is generalizing s with
  | nil => trivial
  | cons i is ih => exact fun t ht => ⟨h s i t ht, ih⟩

/-- A side condition that follows from what holds before each step holds along the
schedule. -/
theorem Throughout.along {P : σ → Prop} {C : σ → ι → σ → Prop} {s : σ} {is : List ι}
    (hP : Throughout step P s is) (h : ∀ s i t, P s → step s i = some t → C s i t) :
    Along step C s is := by
  induction is generalizing s with
  | nil => trivial
  | cons i is ih =>
    intro t ht
    exact ⟨h s i t hP.first ht, ih (hP.2 t ht)⟩

/-- A side condition may be weakened using what holds throughout the schedule. -/
theorem Throughout.along_mono {P : σ → Prop} {C D : σ → ι → σ → Prop} {s : σ} {is : List ι}
    (hP : Throughout step P s is)
    (h : ∀ s i t, P s → step s i = some t → C s i t → D s i t) (hC : Along step C s is) :
    Along step D s is := by
  induction is generalizing s with
  | nil => trivial
  | cons i is ih =>
    intro t ht
    obtain ⟨hstep, hrest⟩ := hC t ht
    exact ⟨h s i t hP.first ht hstep, ih (hP.2 t ht) hrest⟩

/-- What follows from two side conditions at each step holds along the schedule. -/
theorem Along.mono₂ {C D E : σ → ι → σ → Prop} (h : ∀ s i t, C s i t → D s i t → E s i t)
    {s : σ} {is : List ι} (hC : Along step C s is) (hD : Along step D s is) :
    Along step E s is := by
  induction is generalizing s with
  | nil => trivial
  | cons i is ih =>
    intro t ht
    exact ⟨h s i t (hC t ht).1 (hD t ht).1, ih (hC t ht).2 (hD t ht).2⟩

/-- Two side conditions hold along a schedule exactly when both do. -/
theorem along_and {C D : σ → ι → σ → Prop} {s : σ} {is : List ι} :
    Along step (fun s i t => C s i t ∧ D s i t) s is ↔ Along step C s is ∧ Along step D s is := by
  refine ⟨fun h => ?_, fun h => Along.mono₂ (fun _ _ _ hC hD => ⟨hC, hD⟩) h.1 h.2⟩
  induction is generalizing s with
  | nil => exact ⟨trivial, trivial⟩
  | cons i is ih =>
    exact ⟨fun t ht => ⟨(h t ht).1.1, (ih (h t ht).2).1⟩,
      fun t ht => ⟨(h t ht).1.2, (ih (h t ht).2).2⟩⟩

/-- The exact form of `throughout_of_along`. If a step that breaks `C` from an
invariant state also breaks `Q` in the next state, then `Q` holds throughout a
schedule exactly when every step of it meets `C`. -/
theorem throughout_iff_along {Inv Q : σ → Prop} {C : σ → ι → σ → Prop}
    (hstep : ∀ s i t, Inv s → step s i = some t → C s i t → Inv t)
    (hQ : ∀ s, Inv s → Q s)
    (hnec : ∀ s i t, Inv s → step s i = some t → Q t → C s i t) {s : σ} {is : List ι}
    (hs : Inv s) : Throughout step Q s is ↔ Along step C s is := by
  refine ⟨fun h => ?_, fun h => (throughout_of_along hstep hs h).mono hQ⟩
  induction is generalizing s with
  | nil => trivial
  | cons i is ih =>
    intro t ht
    have hC := hnec s i t hs ht (h.2 t ht).first
    exact ⟨hC, ih (hstep s i t hs ht hC) (h.2 t ht)⟩

/-- A side condition that holds along a concatenation holds along its parts. -/
theorem Along.of_append {C : σ → ι → σ → Prop} {s t : σ} {is js : List ι}
    (h : Along step C s (is ++ js)) (hrun : run step s is = some t) :
    Along step C s is ∧ Along step C t js := by
  induction is generalizing s with
  | nil => exact ⟨trivial, Option.some.inj hrun ▸ h⟩
  | cons i is ih =>
    obtain ⟨u, hu, hrest⟩ := run_cons_eq_some.mp hrun
    refine ⟨fun v hv => ?_, (ih (h u hu).2 hrest).2⟩
    obtain rfl : u = v := Option.some.inj (hu.symm.trans hv)
    exact ⟨(h u hu).1, (ih (h u hu).2 hrest).1⟩

end Transition
