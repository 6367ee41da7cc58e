import Mathlib.Data.List.Induction

/-!
# Replaying a log of updates

A replica follows a source by applying the updates the source announces. This file
has the general facts about such a replay: what a view shows that every update either
sets or leaves alone, and when a replica that skipped some updates has recovered.
-/

namespace Replay

variable {σ δ β : Type*} {apply : σ → δ → σ}

/-- What holds of the replica and is kept by every update holds after a replay. -/
theorem foldl_invariant {P : σ → Prop} (hkeep : ∀ s d, P s → P (apply s d)) {s : σ} (hs : P s)
    (ds : List δ) : P (ds.foldl apply s) := by
  induction ds generalizing s with
  | nil => exact hs
  | cons d ds ih => exact ih (hkeep s d hs)

/-- Updates that change nothing may be left out. -/
theorem foldl_filter_of_neutral {p : δ → Bool} (hp : ∀ s d, p d = false → apply s d = s) (s : σ)
    (ds : List δ) : (ds.filter p).foldl apply s = ds.foldl apply s := by
  induction ds generalizing s with
  | nil => rfl
  | cons d ds ih =>
    cases hd : p d with
    | true => rw [List.filter_cons_of_pos hd, List.foldl_cons, List.foldl_cons, ih]
    | false => rw [List.filter_cons_of_neg (by simp [hd]), List.foldl_cons, hp s d hd, ih]

/-- A view of the replica that follows the updates on its own is the replay of the updates
on the view. -/
theorem view_foldl {P : σ → Prop} (hkeep : ∀ s d, P s → P (apply s d)) {view : σ → β}
    {follow : β → δ → β} (hview : ∀ s d, P s → view (apply s d) = follow (view s) d)
    {s : σ} (hs : P s) (ds : List δ) :
    view (ds.foldl apply s) = ds.foldl follow (view s) := by
  induction ds generalizing s with
  | nil => rfl
  | cons d ds ih => rw [List.foldl_cons, ih (hkeep s d hs), hview s d hs, List.foldl_cons]

/-! ## Views that updates carry whole -/

/-- The value carried last, or the old value when no update carries one. -/
def latest (carried : δ → Option β) (old : β) (ds : List δ) : β :=
  ds.foldl (fun value d => (carried d).getD value) old

@[simp] theorem latest_nil (carried : δ → Option β) (old : β) : latest carried old [] = old := rfl

@[simp] theorem latest_cons (carried : δ → Option β) (old : β) (d : δ) (ds : List δ) :
    latest carried old (d :: ds) = latest carried ((carried d).getD old) ds := rfl

/-! ## Skipped updates -/

/-- The updates of a log that were read; each entry says whether it was. -/
def read (log : List (δ × Bool)) : List δ := (log.filter Prod.snd).map Prod.fst

/-- What was read of a log in two parts. -/
theorem read_append (log more : List (δ × Bool)) : read (log ++ more) = read log ++ read more := by
  rw [read, List.filter_append, List.map_append]
  rfl

/-- Nothing is read of updates that are all skipped. -/
theorem read_skipped (ds : List δ) : read (ds.map fun d => (d, false)) = [] := by
  unfold read
  rw [List.map_eq_nil_iff, List.filter_eq_nil_iff]
  rintro entry hentry
  obtain ⟨d, -, rfl⟩ := List.mem_map.mp hentry
  exact Bool.false_ne_true

/-- Every skipped update that changes a replica which applies them all has a later update behind
it that was read and carries the view whole. -/
def Recovers (apply : σ → δ → σ) (agree : σ → σ → Prop) (whole : δ → Prop) (s : σ)
    (log : List (δ × Bool)) : Prop :=
  ∀ earlier d later, log = earlier ++ (d, false) :: later →
    (let t := (earlier.map Prod.fst).foldl apply s
    ¬ agree t (apply t d)) → ∃ e, (e, true) ∈ later ∧ whole e

/-- What recovers recovers in a view of it. -/
theorem Recovers.view {P : σ → Prop} (hkeep : ∀ s d, P s → P (apply s d)) {view : σ → β}
    {follow : β → δ → β} (hview : ∀ s d, P s → view (apply s d) = follow (view s) d)
    {agree : σ → σ → Prop} {same : β → β → Prop} (hsame : ∀ s t, agree s t → same (view s) (view t))
    {whole : δ → Prop} {s : σ} (hs : P s) {log : List (δ × Bool)}
    (h : Recovers apply agree whole s log) : Recovers follow same whole (view s) log := by
  intro earlier d later hlog hchanges
  refine h earlier d later hlog fun hagree => hchanges ?_
  have hshown := hsame _ _ hagree
  rwa [hview _ d (foldl_invariant hkeep hs _), view_foldl hkeep hview hs] at hshown

/-- A log whose last update was read and carries the view whole recovers. -/
theorem recovers_of_getLast {agree : σ → σ → Prop} {whole : δ → Prop} {s : σ}
    {log : List (δ × Bool)} {d : δ} (hlast : log.getLast? = some (d, true)) (hd : whole d) :
    Recovers apply agree whole s log := by
  rintro earlier e later rfl _
  refine ⟨d, ?_, hd⟩
  rw [List.getLast?_append] at hlast
  cases later with
  | nil => cases hlast
  | cons next rest =>
    rw [List.getLast?_cons_cons, List.getLast?_cons, Option.some_or, ← List.getLast?_cons] at hlast
    exact List.mem_of_getLast? hlast

/-- Recovery does not depend on a last update that was read but does not carry the view. -/
theorem Recovers.of_concat {agree : σ → σ → Prop} {whole : δ → Prop} {s : σ}
    {log : List (δ × Bool)} {d : δ} {wasRead : Bool}
    (h : Recovers apply agree whole s (log ++ [(d, wasRead)]))
    (hd : wasRead = true → ¬ whole d) : Recovers apply agree whole s log := by
  intro earlier e later hlog he
  obtain ⟨f, hf, hwhole⟩ := h earlier e (later ++ [(d, wasRead)]) (by simp [hlog]) he
  rcases List.mem_append.mp hf with hf | hf
  · exact ⟨f, hf, hwhole⟩
  · obtain ⟨rfl, hread⟩ := Prod.mk.inj (List.mem_singleton.mp hf)
    exact absurd hwhole (hd hread.symm)

/-- A replica that skipped updates agrees with one that applied them all, when it recovers.
Agreement is any transitive relation that common updates keep and that an update carrying the
view whole establishes. -/
theorem agrees_of_recovers {agree : σ → σ → Prop} {whole : δ → Prop}
    (htrans : ∀ s t u, agree s t → agree t u → agree s u)
    (hboth : ∀ s t d, agree s t → agree (apply s d) (apply t d))
    (hwhole : ∀ s t d, whole d → agree (apply s d) (apply t d)) {s : σ} (hs : agree s s)
    {log : List (δ × Bool)} (h : Recovers apply agree whole s log) :
    agree ((read log).foldl apply s) ((log.map Prod.fst).foldl apply s) := by
  induction log using List.reverseRecOn with
  | nil => exact hs
  | append_singleton log entry ih =>
    obtain ⟨d, wasRead⟩ := entry
    rw [List.map_append, List.foldl_append]
    cases wasRead with
    | true =>
      have hread : read (log ++ [(d, true)]) = read log ++ [d] := by simp [read]
      rw [hread, List.foldl_append]
      by_cases hd : whole d
      · exact hwhole _ _ d hd
      · exact hboth _ _ d (ih (h.of_concat fun _ => hd))
    | false =>
      have hread : read (log ++ [(d, false)]) = read log := by simp [read]
      have hunchanged : agree ((log.map Prod.fst).foldl apply s)
          (apply ((log.map Prod.fst).foldl apply s) d) := by
        by_contra hchanges
        obtain ⟨e, he, -⟩ := h log d [] rfl hchanges
        cases he
      rw [hread]
      exact htrans _ _ _ (ih (h.of_concat fun hfalse => by cases hfalse)) hunchanged

end Replay
