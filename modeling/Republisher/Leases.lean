import Mathlib.Logic.Function.Basic
import Mathlib.Data.List.Basic
import Mathlib.Data.List.Induction
import Mathlib.Order.Lattice

/-!
# Grants that end

A table holds for each key when its grant ends, and a key is live before that time. A
table may forget what has ended: from then on it answers as if it had not. A history of
grants and revocations whose ends never decrease is told from such a table.
-/

namespace Lease

variable {κ τ : Type*} [LinearOrder τ]

/-- The key has a grant that has not ended. -/
def Live (table : κ → Option τ) (now : τ) (key : κ) : Prop :=
  ∃ ends, table key = some ends ∧ now < ends

/-- The same keys are live in both tables, now and at any later time. -/
def SameFrom (now : τ) (table other : κ → Option τ) : Prop :=
  ∀ later, now ≤ later → ∀ key, Live table later key ↔ Live other later key

/-- The second table is the first without some of the keys whose grants have ended. -/
def Forgets (now : τ) (table other : κ → Option τ) : Prop :=
  ∀ key, other key = table key ∨ other key = none ∧ ∀ ends, table key = some ends → ends ≤ now

/-- A table agrees with itself. -/
theorem SameFrom.refl (now : τ) (table : κ → Option τ) : SameFrom now table table :=
  fun _ _ _ => Iff.rfl

/-- Tables that agree now agree later. -/
theorem SameFrom.later {now later : τ} {table other : κ → Option τ} (h : SameFrom now table other)
    (hlater : now ≤ later) : SameFrom later table other :=
  fun time htime key => h time (le_trans hlater htime) key

/-- Forgetting what has ended changes no later answer. -/
theorem Forgets.live {now later : τ} {table other : κ → Option τ} (h : Forgets now table other)
    (hlater : now ≤ later) (key : κ) : Live other later key ↔ Live table later key := by
  unfold Live
  rcases h key with hsame | ⟨hnone, hended⟩
  · rw [hsame]
  · constructor
    · rintro ⟨ends, hends, -⟩
      rw [hnone] at hends
      cases hends
    · rintro ⟨ends, hends, hlive⟩
      exact absurd (le_trans (hended ends hends) hlater) (not_le_of_gt hlive)

/-- A table that has forgotten what has ended still agrees with the other. -/
theorem SameFrom.forget {now : τ} {table kept other : κ → Option τ} (h : SameFrom now table other)
    (hforget : Forgets now table kept) : SameFrom now kept other :=
  fun later hlater key => (hforget.live hlater key).trans (h later hlater key)

variable [DecidableEq κ]

/-- The same change of one key keeps two tables in agreement. -/
theorem SameFrom.update {now : τ} {table other : κ → Option τ} (h : SameFrom now table other)
    (key : κ) (ends : Option τ) :
    SameFrom now (Function.update table key ends) (Function.update other key ends) := by
  intro later hlater k
  unfold Live
  by_cases hk : k = key
  · subst hk
    rw [Function.update_self, Function.update_self]
  · rw [Function.update_of_ne hk, Function.update_of_ne hk]
    exact h later hlater k

/-! ## Histories -/

/-- What happens to a key. -/
inductive Event (κ τ : Type*)
  | grant (key : κ) (ends : τ)
  | revoke (key : κ)

/-- When the grant of an event ends. -/
def Event.ends : Event κ τ → Option τ
  | .grant _ ends => some ends
  | .revoke _ => none

/-- The table after an event. Nothing is forgotten. -/
def Event.apply (table : κ → Option τ) : Event κ τ → κ → Option τ
  | .grant key ends => Function.update table key (some ends)
  | .revoke key => Function.update table key none

/-- The table after a history. -/
def replay (events : List (Event κ τ)) : κ → Option τ := events.foldl Event.apply fun _ => none

/-- The history grants the key beyond the time and does not revoke it after that. -/
def Granted (events : List (Event κ τ)) (now : τ) (key : κ) : Prop :=
  ∃ before ends after, events = before ++ .grant key ends :: after ∧ now < ends ∧
    .revoke key ∉ after

omit [LinearOrder τ] in
/-- One more event. -/
theorem replay_concat (events : List (Event κ τ)) (e : Event κ τ) :
    replay (events ++ [e]) = e.apply (replay events) := List.foldl_append

omit [DecidableEq κ] in
/-- The last event grants the key, or an earlier one does and the last does not revoke it. -/
theorem granted_concat {events : List (Event κ τ)} {e : Event κ τ} {now : τ} {key : κ} :
    Granted (events ++ [e]) now key ↔
      (∃ ends, e = .grant key ends ∧ now < ends) ∨ Granted events now key ∧ e ≠ .revoke key := by
  constructor
  · rintro ⟨before, ends, after, hsplit, hlive, hafter⟩
    rcases List.eq_nil_or_concat after with rfl | ⟨after, last, rfl⟩
    · obtain ⟨-, hlast⟩ := List.append_inj' hsplit rfl
      exact .inl ⟨ends, List.singleton_inj.mp hlast, hlive⟩
    · have hsplit : events ++ [e] = (before ++ .grant key ends :: after) ++ [last] := by
        simpa using hsplit
      rw [List.concat_eq_append] at hafter
      obtain ⟨hbefore, hlast⟩ := List.append_inj' hsplit rfl
      obtain rfl := List.singleton_inj.mp hlast
      refine .inr ⟨⟨before, ends, after, hbefore, hlive, fun h => ?_⟩, ?_⟩
      · exact hafter (List.mem_append_left _ h)
      · rintro rfl
        exact hafter (List.mem_append_right _ (List.mem_singleton.mpr rfl))
  · rintro (⟨ends, rfl, hlive⟩ | ⟨⟨before, ends, after, rfl, hlive, hafter⟩, hlast⟩)
    · exact ⟨events, ends, [], rfl, hlive, List.not_mem_nil⟩
    · refine ⟨before, ends, after ++ [e], by simp, hlive, fun h => ?_⟩
      rcases List.mem_append.mp h with h | h
      · exact hafter h
      · exact hlast (List.mem_singleton.mp h).symm

/-- When the ends of the grants never decrease, the table that forgets nothing has a key live
exactly when the history grants it. -/
theorem live_replay_iff {events : List (Event κ τ)}
    (hends : (events.filterMap Event.ends).Pairwise (· ≤ ·)) (now : τ) (key : κ) :
    Live (replay events) now key ↔ Granted events now key := by
  induction events using List.reverseRecOn with
  | nil =>
    constructor
    · rintro ⟨ends, hends, -⟩
      cases hends
    · rintro ⟨before, ends, after, hsplit, -⟩
      simp at hsplit
  | append_singleton events e ih =>
    rw [List.filterMap_append, List.pairwise_append] at hends
    obtain ⟨hbefore, -, hlast⟩ := hends
    have ih := ih hbefore
    rw [replay_concat, granted_concat]
    unfold Live at ih ⊢
    cases e with
    | grant other ends =>
      simp only [Event.apply, Event.grant.injEq, ne_eq, reduceCtorEq, not_false_eq_true, and_true]
      by_cases hkey : key = other
      · subst hkey
        rw [Function.update_self]
        constructor
        · rintro ⟨found, hfound, hlive⟩
          exact .inl ⟨ends, ⟨rfl, rfl⟩, (Option.some.inj hfound).symm ▸ hlive⟩
        · rintro (⟨_, ⟨-, rfl⟩, hlive⟩ | ⟨before, earlier, after, rfl, hlive, -⟩)
          · exact ⟨_, rfl, hlive⟩
          · refine ⟨ends, rfl, lt_of_lt_of_le hlive (hlast earlier ?_ ends ?_)⟩
            · exact List.mem_filterMap.mpr ⟨.grant key earlier, by simp, rfl⟩
            · exact List.mem_filterMap.mpr ⟨.grant key ends, by simp, rfl⟩
      · rw [Function.update_of_ne hkey, ih]
        constructor
        · exact .inr
        · rintro (⟨_, ⟨rfl, -⟩, -⟩ | h)
          · exact absurd rfl hkey
          · exact h
    | revoke other =>
      simp only [Event.apply, reduceCtorEq, false_and, exists_false, false_or, ne_eq,
        Event.revoke.injEq]
      by_cases hkey : key = other
      · subst hkey
        rw [Function.update_self]
        constructor
        · rintro ⟨found, hfound, -⟩
          cases hfound
        · rintro ⟨-, hne⟩
          exact absurd rfl hne
      · rw [Function.update_of_ne hkey, ih]
        exact (and_iff_left (Ne.symm hkey)).symm

/-- The key that an event is about. -/
def Event.key : Event κ τ → κ
  | .grant key _ => key
  | .revoke key => key

omit [LinearOrder τ] in
/-- An event leaves what is said of the other keys. -/
theorem Event.apply_of_ne {e : Event κ τ} {key : κ} (h : e.key ≠ key) (table : κ → Option τ) :
    e.apply table key = table key := by
  cases e with
  | grant other ends => exact Function.update_of_ne (Ne.symm h) _ _
  | revoke other => exact Function.update_of_ne (Ne.symm h) _ _

/-- Whatever the ends of the grants, a key is live exactly while the last event about it is a
grant that has not ended. -/
theorem live_replay_last_iff {events : List (Event κ τ)} {now : τ} {key : κ} :
    Live (replay events) now key ↔ ∃ before ends after,
      events = before ++ .grant key ends :: after ∧ now < ends ∧ ∀ e ∈ after, e.key ≠ key := by
  induction events using List.reverseRecOn with
  | nil =>
    constructor
    · rintro ⟨ends, hends, -⟩
      cases hends
    · rintro ⟨before, ends, after, hsplit, -⟩
      simp at hsplit
  | append_singleton events e ih =>
    have hother (hkey : e.key ≠ key) :
        Live (e.apply (replay events)) now key ↔ Live (replay events) now key := by
      unfold Live
      rw [Event.apply_of_ne hkey]
    rw [replay_concat]
    constructor
    · intro hlive
      by_cases hkey : e.key = key
      · subst hkey
        obtain ⟨ends, hends, hnow⟩ := hlive
        cases e with
        | grant key found =>
          obtain rfl : found = ends := by simpa [Event.apply, Event.key] using hends
          exact ⟨events, found, [], rfl, hnow, by simp⟩
        | revoke key => simp [Event.apply, Event.key] at hends
      · obtain ⟨before, ends, after, rfl, hnow, hafter⟩ := ih.mp ((hother hkey).mp hlive)
        refine ⟨before, ends, after ++ [e], by simp, hnow, fun f hf => ?_⟩
        rcases List.mem_append.mp hf with hf | hf
        · exact hafter f hf
        · rwa [List.mem_singleton.mp hf]
    · rintro ⟨before, ends, after, hsplit, hnow, hafter⟩
      rcases List.eq_nil_or_concat after with rfl | ⟨after, last, rfl⟩
      · obtain ⟨-, hlast⟩ := List.append_inj' hsplit rfl
        obtain rfl := List.singleton_inj.mp hlast
        exact ⟨ends, Function.update_self .., hnow⟩
      · have hsplit : events ++ [e] = (before ++ .grant key ends :: after) ++ [last] := by
          simpa using hsplit
        obtain ⟨hbefore, hlast⟩ := List.append_inj' hsplit rfl
        obtain rfl := List.singleton_inj.mp hlast
        refine (hother (hafter e (by simp))).mpr (ih.mpr ⟨before, ends, after, hbefore, hnow, ?_⟩)
        exact fun f hf => hafter f (by simp [hf])

end Lease
