import Mathlib.Logic.Function.Basic
import Mathlib.Data.List.Induction

/-!
# Tables that keep what was written last

A table begins empty, and every write replaces what its key had. After any writes a key has the
value of its last write.
-/

namespace Overwrite

variable {κ ν : Type*} [DecidableEq κ]

/-- A write. -/
def write (table : κ → Option ν) (e : κ × ν) : κ → Option ν := Function.update table e.1 (some e.2)

/-- The table after writes. -/
def replay (table : κ → Option ν) (events : List (κ × ν)) : κ → Option ν := events.foldl write table

/-- The value is that of the last write to the key. -/
def Last (events : List (κ × ν)) (key : κ) (value : ν) : Prop :=
  ∃ before after, events = before ++ (key, value) :: after ∧ ∀ e ∈ after, e.1 ≠ key

/-- Writes to other keys change nothing. -/
theorem replay_of_ne {table : κ → Option ν} {events : List (κ × ν)} {key : κ}
    (h : ∀ e ∈ events, e.1 ≠ key) : replay table events key = table key := by
  induction events generalizing table with
  | nil => rfl
  | cons e events ih =>
    have hother : key ≠ e.1 := (h e List.mem_cons_self).symm
    have hrest : replay (write table e) events key = write table e key :=
      ih fun d hd => h d (List.mem_cons_of_mem _ hd)
    exact hrest.trans (Function.update_of_ne hother _ _)

/-- After writes to an empty table a key has the value of its last write. -/
theorem replay_eq_some_iff {events : List (κ × ν)} {key : κ} {value : ν} :
    replay (fun _ => none) events key = some value ↔ Last events key value := by
  constructor
  · intro h
    induction events using List.reverseRecOn with
    | nil => cases h
    | append_singleton events e ih =>
      unfold replay at h
      rw [List.foldl_append] at h
      change Function.update (replay (fun _ => none) events) e.1 (some e.2) key = some value at h
      by_cases hkey : key = e.1
      · subst hkey
        rw [Function.update_self] at h
        obtain rfl := Option.some.inj h
        exact ⟨events, [], rfl, by simp⟩
      · rw [Function.update_of_ne hkey] at h
        obtain ⟨before, after, rfl, hafter⟩ := ih h
        refine ⟨before, after ++ [e], by simp, fun d hd => ?_⟩
        rcases List.mem_append.mp hd with hd | hd
        · exact hafter d hd
        · rw [List.mem_singleton.mp hd]
          exact fun h => hkey h.symm
  · rintro ⟨before, after, rfl, hafter⟩
    unfold replay
    rw [List.foldl_append, List.foldl_cons]
    exact (replay_of_ne hafter).trans (Function.update_self ..)

end Overwrite
