import Republisher.Transition
import Mathlib.Logic.Function.Basic

/-!
# Keys that parties hold

A table says who owns a key, and each party remembers the key it holds. A party takes a free
key, gives up the one it holds, or has a key taken away in the table without being told. The
table and the parties agree for as long as no key is taken away that somebody holds.
-/

namespace Ownership

variable {κ ι : Type*}

/-- The owners of the keys, and the keys that the parties remember. -/
@[ext] structure Table (κ ι : Type*) where
  owner : κ → Option ι
  held : ι → Option κ

/-- What a party does. -/
inductive Action (κ ι : Type*)
  | take (party : ι) (key : κ)
  | leave (party : ι)

namespace Table

/-- Whoever holds a key is its owner. -/
def Agrees (t : Table κ ι) : Prop :=
  ∀ party key, t.held party = some key → t.owner key = some party

/-- Two parties never hold the same key. -/
theorem Agrees.unique {t : Table κ ι} (h : t.Agrees) {a b : ι} {key : κ}
    (ha : t.held a = some key) (hb : t.held b = some key) : a = b :=
  Option.some.inj ((h a key ha).symm.trans (h b key hb))

variable [DecidableEq κ]

/-- The table when a key has no owner any more. -/
def free (t : Table κ ι) (key : κ) : Table κ ι :=
  { t with owner := Function.update t.owner key none }

/-- A key that is taken away has no owner. -/
@[simp] theorem owner_free_self (t : Table κ ι) (key : κ) : (t.free key).owner key = none :=
  Function.update_self ..

/-- The other keys have the owners they had. -/
theorem owner_free_of_ne (t : Table κ ι) {key k : κ} (h : k ≠ key) :
    (t.free key).owner k = t.owner k :=
  Function.update_of_ne h ..

/-- A key that is taken away leaves table and parties in agreement exactly when nobody holds
it. -/
theorem Agrees.evict_iff {t : Table κ ι} (h : t.Agrees) (key : κ) :
    (t.free key).Agrees ↔ ∀ party, t.held party ≠ some key := by
  constructor
  · intro hfree party hheld
    have howner := hfree party key hheld
    rw [owner_free_self] at howner
    cases howner
  · intro hnone party k hheld
    have hk : k ≠ key := by
      rintro rfl
      exact hnone party hheld
    rw [owner_free_of_ne t hk]
    exact h party k hheld

variable [DecidableEq ι]

/-- The next table. A key that has an owner is not taken. -/
def step (t : Table κ ι) : Action κ ι → Option (Table κ ι)
  | .take party key =>
    if t.owner key = none then
      some ⟨Function.update t.owner key (some party), Function.update t.held party (some key)⟩
    else
      none
  | .leave party =>
    some ⟨((t.held party).elim t t.free).owner, Function.update t.held party none⟩

/-- A key that is taken has its new owner. -/
theorem Agrees.take {t u : Table κ ι} {party : ι} {key : κ} (h : t.Agrees)
    (hstep : t.step (.take party key) = some u) : u.Agrees := by
  rw [step] at hstep
  split_ifs at hstep with hfree
  cases hstep
  intro other k hheld
  dsimp only at hheld ⊢
  by_cases hother : other = party
  · subst hother
    rw [Function.update_self] at hheld
    obtain rfl := Option.some.inj hheld
    rw [Function.update_self]
  · rw [Function.update_of_ne hother] at hheld
    have hk : k ≠ key := by
      rintro rfl
      rw [h other k hheld] at hfree
      cases hfree
    rw [Function.update_of_ne hk]
    exact h other k hheld

/-- A party that leaves frees no key of another one. -/
theorem Agrees.leave {t u : Table κ ι} {party : ι} (h : t.Agrees)
    (hstep : t.step (.leave party) = some u) : u.Agrees := by
  cases hstep
  intro other k hheld
  dsimp only at hheld ⊢
  have hother : other ≠ party := by
    rintro rfl
    rw [Function.update_self] at hheld
    cases hheld
  rw [Function.update_of_ne hother] at hheld
  cases hparty : t.held party with
  | none => exact h other k hheld
  | some key =>
    have hk : k ≠ key := by
      rintro rfl
      exact hother (h.unique hheld hparty)
    rw [Option.elim_some, owner_free_of_ne t hk]
    exact h other k hheld

/-- What a party does leaves table and parties in agreement. -/
theorem Agrees.step {t u : Table κ ι} {a : Action κ ι} (h : t.Agrees)
    (hstep : t.step a = some u) : u.Agrees := by
  cases a with
  | take party key => exact h.take hstep
  | leave party => exact h.leave hstep

end Table

/-! ## Systems that work on such a table -/

section Systems

variable [DecidableEq κ] [DecidableEq ι] {σ ε : Type*} {step : σ → ε → Option σ}

/-- Every step of a system takes a key away in its table, or does to the table what a party
does, or nothing. -/
def Works (step : σ → ε → Option σ) (table : σ → Table κ ι) (evicts : σ → ε → Option κ) : Prop :=
  ∀ s e t, step s e = some t →
    match evicts s e with
    | some key => table t = (table s).free key
    | none => table t = table s ∨ ∃ a, (table s).step a = some (table t)

/-- In a system that works on a table, the table and the parties agree throughout a run exactly
when no step of it takes a key away that somebody holds. -/
theorem Works.agrees_iff {table : σ → Table κ ι} {evicts : σ → ε → Option κ}
    (hworks : Works step table evicts) {s : σ} (hs : (table s).Agrees) (es : List ε) :
    Transition.Throughout step (fun s => (table s).Agrees) s es ↔
      Transition.Along step
        (fun s e _ => ∀ key ∈ evicts s e, ∀ party, (table s).held party ≠ some key) s es := by
  have hiff : ∀ s e t, (table s).Agrees → step s e = some t → ((table t).Agrees ↔
      ∀ key ∈ evicts s e, ∀ party, (table s).held party ≠ some key) := by
    intro s e t hs hstep
    have hwork := hworks s e t hstep
    cases hevicts : evicts s e with
    | none =>
      rw [hevicts] at hwork
      refine iff_of_true ?_ (by simp)
      rcases hwork with hsame | ⟨a, ha⟩
      · exact hsame ▸ hs
      · exact hs.step ha
    | some key =>
      rw [hevicts] at hwork
      rw [hwork, hs.evict_iff key]
      simp
  exact Transition.throughout_iff_along
    (fun s e t (hs : (table s).Agrees) hstep hC => (hiff s e t hs hstep).mpr hC) (fun _ => id)
    (fun s e t hs hstep hQ => (hiff s e t hs hstep).mp hQ) hs

end Systems

end Ownership
