import Republisher.Instance
import Republisher.Mirror

/-!
# Recent samples in the browser

The server puts the samples of a batch in front one by one, so that the newest comes
first; the browser puts the whole batch in front as it was sent, oldest first.
-/

namespace Republisher

variable {Disk : Type}

/-- The samples an action reports, oldest first. -/
def Action.samples : Action → List PointSample
  | .event (.samples list) => list
  | _ => []

/-- The samples that the actions report, newest first. -/
def newestFirst (core : Core Disk) (actions : List Action) : List SampleDto :=
  ((actions.flatMap Action.samples).map (sampleDto core)).reverse

/-- The loop over a batch puts each sample in front and sends the batch as it came. -/
theorem samplesBatch_samples (core : Core Disk) (shared : Shared) (samples : List PointSample) :
    (samplesBatch core shared samples).samples = samples.map (sampleDto core) ∧
      (samplesBatch core shared samples).shared.recentSamples =
        (samples.map (sampleDto core)).reverse ++ shared.recentSamples := by
  induction samples using List.reverseRecOn with
  | nil => exact ⟨rfl, rfl⟩
  | append_singleton samples sample ih =>
    have hbatch : samplesBatch core shared (samples ++ [sample]) =
        applySample core (samplesBatch core shared samples) sample := List.foldl_append
    have hsent : (samplesBatch core shared (samples ++ [sample])).samples =
        (samplesBatch core shared samples).samples ++ [sampleDto core sample] := by
      rw [hbatch]
      rfl
    have hrecent : (samplesBatch core shared (samples ++ [sample])).shared.recentSamples =
        sampleDto core sample :: (samplesBatch core shared samples).shared.recentSamples := by
      rw [hbatch]
      rfl
    refine ⟨?_, ?_⟩
    · rw [hsent, ih.1, List.map_append, List.map_singleton]
    · rw [hrecent, ih.2, List.map_append, List.map_singleton, List.reverse_append,
        List.reverse_singleton, List.singleton_append, List.cons_append]

/-- The recent samples after a critical section. -/
theorem Tells.recentSamples {w : WebState Disk} {s : Server Disk} {a : Action} {shared : Shared}
    {ds : List Delta} (h : Tells w s a shared ds) :
    shared.recentSamples = s.shared.recentSamples ∧ a.samples = [] ∨
      shared.recentSamples =
        ((a.samples.map (sampleDto w.core)).reverse ++ s.shared.recentSamples).take
          recentSampleCapacity := by
  cases h with
  | @samples samples batch hbatch =>
    subst hbatch
    exact .inr (congrArg (List.take recentSampleCapacity)
      (samplesBatch_samples w.core s.shared samples).2)
  | saved hedit | rejected hedit =>
    obtain ⟨config, statuses, rfl⟩ := Request.edit_rest hedit
    exact .inl ⟨rfl, rfl⟩
  | bulkTagImport hedited =>
    subst hedited
    exact .inl ⟨rfl, rfl⟩
  | @failures failures batch hbatch =>
    obtain ⟨statuses, h⟩ := failuresBatch_shared w.core s.shared failures
    rw [hbatch, h]
    exact .inl ⟨rfl, rfl⟩
  | @noted e hnote =>
    cases e with
    | samples => cases hnote
    | _ => exact .inl ⟨rfl, rfl⟩
  | _ => exact .inl ⟨rfl, rfl⟩

/-- Trimming before more is put in front makes no difference. -/
theorem take_append_take {α : Type} (n : ℕ) (front back : List α) :
    (front ++ back.take n).take n = (front ++ back).take n := by
  rw [List.take_append, List.take_append, List.take_take, Nat.min_eq_left (Nat.sub_le ..)]

/-- The server's list is the newest of all samples reported, however they were grouped. -/
theorem WebState.acts_recentSamples (w : WebState Disk) {s : Server Disk}
    (hs : s.shared.recentSamples.length ≤ recentSampleCapacity) (actions : List Action) :
    (w.acts s actions).shared.recentSamples =
      (newestFirst w.core actions ++ s.shared.recentSamples).take recentSampleCapacity := by
  induction actions using List.reverseRecOn with
  | nil => exact (List.take_of_length_le hs).symm
  | append_singleton actions a ih =>
    have hnewest : newestFirst w.core (actions ++ [a]) =
        (a.samples.map (sampleDto w.core)).reverse ++ newestFirst w.core actions := by
      simp only [newestFirst, List.flatMap_append, List.flatMap_singleton, List.map_append,
        List.reverse_append]
    rw [show w.acts s (actions ++ [a]) = w.act (w.acts s actions) a from List.foldl_append]
    obtain ⟨shared, ds, htells, hsaid⟩ := w.act_told a (w.acts s actions)
    rw [← hsaid.shared.recentSamples]
    rcases htells.recentSamples with ⟨hsame, hnone⟩ | hmore
    · rw [hnewest, hnone]
      exact hsame.trans ih
    · rw [hnewest, List.append_assoc, ← take_append_take, ← ih]
      exact hmore

/-- The list of recent samples is a view. -/
def samplesView : View (List SampleDto) where
  shown := Browser.samples
  apply value
    | .samples samples _ => (samples ++ value).take 200
    | _ => value
  shown_handleDelta stringify b d _ := by
    cases d with
    | log record line =>
      obtain ⟨logs, status, h⟩ := b.handleDelta_log stringify record line
      exact (congrArg Browser.samples h).trans rfl
    | _ => rfl
  apply_log value d hd := by cases d <;> first | rfl | cases hd

/-- The first 200 samples that an action reports read alike from both ends. -/
def Action.ReadsAlike (core : Core Disk) (a : Action) : Prop :=
  (a.samples.map (sampleDto core)).take recentSampleCapacity =
    (a.samples.map (sampleDto core)).reverse.take recentSampleCapacity

/-- The browser's list goes on agreeing exactly when the batch reads alike. -/
theorem Tells.samples_iff {w : WebState Disk} {s : Server Disk} {a : Action} {shared : Shared}
    {ds : List Delta} (h : Tells w s a shared ds) :
    ds.foldl samplesView.apply s.shared.recentSamples = shared.recentSamples ↔
      a.ReadsAlike w.core := by
  cases h with
  | @samples samples batch hbatch =>
    obtain ⟨hsent, hrecent⟩ := samplesBatch_samples w.core s.shared samples
    subst hbatch
    show List.take recentSampleCapacity (_ ++ _) = List.take recentSampleCapacity _ ↔ _
    rw [hsent, hrecent]
    simp only [Action.ReadsAlike, Action.samples, List.take_append, List.length_reverse]
    exact List.append_left_inj _
  | @saved r edited hedit =>
    obtain ⟨config, statuses, rfl⟩ := Request.edit_rest hedit
    refine iff_of_true ?_ rfl
    rcases r.announces_cases w { s.shared with config, statuses } with h | h <;> rw [h] <;> rfl
  | rejected hedit =>
    obtain ⟨config, statuses, rfl⟩ := Request.edit_rest hedit
    exact iff_of_true rfl rfl
  | bulkTagImport hedited =>
    subst hedited
    exact iff_of_true rfl rfl
  | @failures failures batch hbatch =>
    obtain ⟨statuses, h⟩ := failuresBatch_shared w.core s.shared failures
    rw [hbatch, h]
    exact iff_of_true rfl rfl
  | @noted e hnote =>
    cases e with
    | samples => cases hnote
    | _ => exact iff_of_true rfl rfl
  | _ => exact iff_of_true rfl rfl

/-- A condition on the actions alone holds along a run exactly when every action meets it. -/
theorem WebState.along_advance_iff {w : WebState Disk} {told : Action → Prop} {s : Server Disk}
    {actions : List Action} :
    Transition.Along w.advance (fun _ a _ => told a) s actions ↔ ∀ a ∈ actions, told a := by
  induction actions generalizing s with
  | nil => exact iff_of_true trivial (by simp)
  | cons a actions ih =>
    rw [@along_advance_cons _ _ fun _ a => told a, ih, List.forall_mem_cons]

/-- From boot on, a browser that misses no delta has in every state the recent samples of the
server, the newest 200 of all reported, newest first and however they were grouped, exactly
when every batch reads alike from both ends. -/
theorem WebState.follow_samples_iff (w : WebState Disk) (stringify : Json → String) (b : Browser)
    (config : AppConfig) (bootStatus : String) (disk : Disk) (before actions : List Action) :
    let s := w.acts (w.new config bootStatus disk) before
    (Transition.Throughout w.advance (fun t =>
        (w.follow stringify b s t).samples = t.shared.recentSamples) s actions ∧
      ∀ done, done <+: actions → (w.acts s done).shared.recentSamples =
        (newestFirst w.core done ++ s.shared.recentSamples).take recentSampleCapacity) ↔
    ∀ a ∈ actions, a.ReadsAlike w.core := by
  intro s
  have hbounded : s.shared.recentSamples.length ≤ recentSampleCapacity := by
    have hboot := w.acts_recentSamples (s := w.new config bootStatus disk) (Nat.zero_le _) before
    rw [show s.shared.recentSamples = _ from hboot]
    exact List.length_take_le _ _
  have hself (u : Server Disk) : samplesView.shown (w.follow stringify b u u) =
      u.shared.recentSamples := by
    rw [w.follow_self]
    rfl
  have hiff := samplesView.throughout_iff Shared.recentSamples (fun _ _ h => h.recentSamples) hself
    (fun _ a => a.ReadsAlike w.core) Tells.samples_iff s actions
  rw [WebState.along_advance_iff] at hiff
  exact ⟨fun h => hiff.mp h.1,
    fun h => ⟨hiff.mpr h, fun done _ => w.acts_recentSamples hbounded done⟩⟩

/-- One batch of two samples: the server shows the later one first, the browser the earlier. -/
theorem batch_order_reversed :
    let s := memoryServer [plainPoint "a"] true
    let t := memoryState.acts s [.event (.samples [plainSample "a" "1", plainSample "a" "2"])]
    t.shared.recentSamples.map SampleDto.valueDisplay = ["2", "1"] ∧
      (memoryState.follow plainStringify .initial s t).samples.map SampleDto.valueDisplay =
        ["1", "2"] := by
  decide

end Republisher
