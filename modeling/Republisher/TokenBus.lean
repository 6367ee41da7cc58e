import Republisher.TokenUse
import Republisher.Transition
import Mathlib.Algebra.BigOperators.Group.Finset.Basic
import Mathlib.Algebra.Order.BigOperators.Group.Finset
import Mathlib.Data.Fintype.Basic
import Mathlib.Algebra.Order.Ring.Nat

/-!
# The token on the bus

Stations share a bus on which every station hears what another writes. The token is lost when its
station stops, and then a station makes a new one. This file shows that there is never a second
one, as long as frames arrive soon enough and no two stations make one at the same time.
-/

namespace BacnetTransport

/-- How late frames and the ends of waits are at most. -/
structure Timing where
  delay : ℕ
  slack : ℕ

/-- A station that has passed the token hears the next one use it before it tries again. -/
def Timing.Prompt (t : Timing) : Prop := 2 * t.delay < tUsageTimeoutMs

/-- A token that is taken as lost is one that nobody has. -/
def Timing.Patient (t : Timing) : Prop :=
  2 * t.delay + tReplyTimeoutMs + tUsageTimeoutMs + 2 * t.slack < tNoTokenMs

/-- A station on the bus. -/
structure Station where
  node : MasterNode
  /-- The frames that it has not heard yet, and when it does so at the latest. -/
  inbox : List (MstpFrame × ℕ)
  /-- When its wait ends. -/
  deadline : ℕ
  deriving DecidableEq, Repr

/-- The stations of a bus, and the time. -/
structure Bus (ι : Type*) where
  stations : ι → Station
  now : ℕ

namespace Bus

variable {ι : Type*} [DecidableEq ι]

/-- What happens on a bus: time passes, a station hears the next frame, its wait ends, a packet is
queued or the station starts again. -/
inductive Label (ι : Type*)
  | tick (ms : ℕ)
  | hear (i : ι) (late : ℕ)
  | expire (i : ι) (reply : Option Bytes) (late : ℕ)
  | queue (i : ι) (dest : UInt8) (npdu : Bytes)
  | restart (i : ι) (late : ℕ)

/-- A station becomes another and the others hear what it has written. -/
def write (delay : ℕ) (i : ι) (s : Station) (out : List MstpFrame) (b : Bus ι) : Bus ι :=
  { b with
    stations := fun j =>
      if j = i then s
      else { b.stations j with
        inbox := (b.stations j).inbox ++ out.map fun f => (f, b.now + delay) } }

/-- One step of a bus. Time does not pass the end of a wait or the arrival of a frame. -/
def step [Fintype ι] (t : Timing) (b : Bus ι) : Label ι → Option (Bus ι)
  | .tick ms =>
      if ∀ i, b.now + ms ≤ (b.stations i).deadline ∧
          ∀ p ∈ (b.stations i).inbox, b.now + ms ≤ p.2 then
        some { b with now := b.now + ms }
      else none
  | .hear i late =>
      match (b.stations i).inbox with
      | [] => none
      | (f, _) :: rest =>
          if late ≤ t.slack then
            let (n, out, _, wait) := (b.stations i).node.onFrame f
            let deadline := match wait with
              | some ms => b.now + ms + late
              | none => (b.stations i).deadline
            some (b.write t.delay i ⟨n, rest, deadline⟩ out)
          else none
  | .expire i reply late =>
      if (b.stations i).deadline = b.now ∧ late ≤ t.slack then
        let (n, out, wait) := (b.stations i).node.onTimeout reply
        some (b.write t.delay i ⟨n, (b.stations i).inbox, b.now + wait + late⟩ out)
      else none
  | .queue i dest npdu =>
      match (b.stations i).node.queueNpdu dest npdu with
      | .ok n => some (b.write t.delay i { b.stations i with node := n } [])
      | .error _ => some b
  | .restart i late =>
      match MasterNode.new (b.stations i).node.config with
      | .ok n => some (b.write t.delay i ⟨n, [], b.now + tNoTokenMs + late⟩ [])
      | .error _ => none

/-- A station hears of a token that another makes before it would make one itself, and packets are
not too long. -/
def Clear (t : Timing) (b : Bus ι) : Label ι → Bus ι → Prop
  | .expire i _ _, _ => (b.stations i).node.state = .noToken → ∀ j, j ≠ i →
      (b.stations j).node.state = .noToken → b.now + t.delay < (b.stations j).deadline
  | .queue _ _ npdu, _ => npdu.length ≤ maxMpduData
  | .tick _, _ | .hear _ _, _ | .restart _ _, _ => True

instance [Fintype ι] (t : Timing) (b : Bus ι) (l : Label ι) (c : Bus ι) :
    Decidable (b.Clear t l c) := by
  cases l <;> unfold Clear <;> infer_instance

/-- The tokens that a station has, or that are on their way to it. -/
def load (s : Station) : ℕ :=
  s.node.weight + s.inbox.countP fun p => MasterNode.isTokenFor s.node.config.thisStation p.1

/-- The tokens on a bus. -/
def tokens [Fintype ι] (b : Bus ι) : ℕ := ∑ i, load (b.stations i)

/-! ## What holds on a bus -/

/-- A station has passed the token and no frame will tell it in time that another uses it. -/
def Unanswered (s : Station) : Prop :=
  s.node.state = .passToken ∧ ∀ p ∈ s.inbox, s.deadline ≤ p.2

/-- The station has or has passed the token, or owes an answer. -/
def Busy (n : MasterNode) : Prop := n.state ≠ .idle ∧ n.state ≠ .noToken

/-- When waits end and frames arrive, after the last frame was written at a time. -/
structure Timed (t : Timing) (last : ℕ) (b : Bus ι) : Prop where
  fits : ∀ i, (b.stations i).node.Fits
  slot : ∀ i, (b.stations i).node.tSlotMs ≤ tReplyTimeoutMs
  frames : ∀ i, ∀ p ∈ (b.stations i).inbox, p.1.data.length ≤ maxMpduData
  arrives : ∀ i, ∀ p ∈ (b.stations i).inbox, b.now ≤ p.2 ∧ p.2 ≤ last + t.delay
  waits : ∀ i, b.now ≤ (b.stations i).deadline
  past : last ≤ b.now
  busy : ∀ i, Busy (b.stations i).node →
    (b.stations i).deadline ≤ last + t.delay + (b.stations i).node.patience t.slack
  lost : ∀ i, (b.stations i).node.state = .noToken →
    last + tNoTokenMs ≤ (b.stations i).deadline ∨
      ∃ p ∈ (b.stations i).inbox, p.2 < (b.stations i).deadline

/-- There is at most one token. When a station will pass it again, it is the only one that will and
no other has used the token. -/
structure Single [Fintype ι] (t : Timing) (b : Bus ι) : Prop where
  one : b.tokens ≤ 1
  passed : ∀ i, Unanswered (b.stations i) → b.tokens = 1 → ∃ j, ∃ p ∈ (b.stations j).inbox,
    MasterNode.isTokenFor (b.stations j).node.config.thisStation p.1 = true ∧
      p.2 + t.delay < (b.stations i).deadline
  alone : ∀ i j, Unanswered (b.stations i) → Unanswered (b.stations j) → i = j

/-- The stations of a bus have different addresses. -/
def Distinct (b : Bus ι) : Prop :=
  Function.Injective fun i => (b.stations i).node.config.thisStation

/-! ## Counting tokens -/

section

variable {b : Bus ι} {delay : ℕ} {i : ι} {s : Station} {out : List MstpFrame}

omit [DecidableEq ι] in
/-- A token is for one station. -/
theorem isTokenFor_inj (hdistinct : b.Distinct) {f : MstpFrame} {j k : ι}
    (hj : MasterNode.isTokenFor (b.stations j).node.config.thisStation f = true)
    (hk : MasterNode.isTokenFor (b.stations k).node.config.thisStation f = true) : j = k := by
  unfold MasterNode.isTokenFor at hj hk
  simp only [decide_eq_true_eq] at hj hk
  exact hdistinct (hj.2.symm.trans hk.2)

@[simp] theorem write_now : (b.write delay i s out).now = b.now := rfl

@[simp] theorem write_self : (b.write delay i s out).stations i = s := if_pos rfl

/-- The others hear what a station has written. -/
theorem write_of_ne {j : ι} (h : j ≠ i) : (b.write delay i s out).stations j =
    { b.stations j with
      inbox := (b.stations j).inbox ++ out.map fun f => (f, b.now + delay) } := if_neg h

/-- What a station has written loads another with the tokens for it. -/
theorem load_write_of_ne {j : ι} (h : j ≠ i) : load ((b.write delay i s out).stations j) =
    load (b.stations j) +
      out.countP (MasterNode.isTokenFor (b.stations j).node.config.thisStation) := by
  rw [write_of_ne h]
  unfold load
  dsimp only
  rw [List.countP_append, List.countP_map, Nat.add_assoc]
  rfl

variable [Fintype ι]

/-- The tokens that a station writes are for at most one other each. -/
theorem sum_countP_le (hdistinct : b.Distinct) (i : ι) (out : List MstpFrame) :
    ∑ j ∈ Finset.univ.erase i,
        out.countP (MasterNode.isTokenFor (b.stations j).node.config.thisStation) ≤
      out.countP (MasterNode.isTokenFrom (b.stations i).node.config.thisStation) := by
  induction out with
  | nil => simp
  | cons f out ih =>
    simp only [List.countP_cons, Finset.sum_add_distrib]
    refine Nat.add_le_add ih ?_
    by_cases hany : ∃ j, j ≠ i ∧
        MasterNode.isTokenFor (b.stations j).node.config.thisStation f = true
    · obtain ⟨j, hji, hj⟩ := hany
      have hfrom : MasterNode.isTokenFrom (b.stations i).node.config.thisStation f = true := by
        unfold MasterNode.isTokenFrom
        unfold MasterNode.isTokenFor at hj
        simp only [decide_eq_true_eq] at hj ⊢
        exact ⟨hj.1, fun hself => hji (hdistinct (hj.2.symm.trans hself))⟩
      rw [if_pos hfrom, Finset.sum_eq_single j]
      · rw [if_pos hj]
      · exact fun k _ hkj => if_neg fun hk => hkj (isTokenFor_inj hdistinct hk hj)
      · exact fun hnot => absurd (Finset.mem_erase.mpr ⟨hji, Finset.mem_univ j⟩) hnot
    · rw [Finset.sum_eq_zero fun j hj => if_neg fun hfor => hany
        ⟨j, Finset.ne_of_mem_erase hj, hfor⟩]
      exact Nat.zero_le _

/-- When a station writes, the tokens are those that were not its own, those that it keeps and those
that it passes away. -/
theorem tokens_write_le (hdistinct : b.Distinct) (delay : ℕ) (i : ι) (s : Station)
    (out : List MstpFrame) :
    (b.write delay i s out).tokens + load (b.stations i) ≤ b.tokens + load s +
      out.countP (MasterNode.isTokenFrom (b.stations i).node.config.thisStation) := by
  have hold := Finset.add_sum_erase Finset.univ (fun j => load (b.stations j)) (Finset.mem_univ i)
  have hnew := Finset.add_sum_erase Finset.univ
    (fun j => load ((b.write delay i s out).stations j)) (Finset.mem_univ i)
  have hothers : ∑ j ∈ Finset.univ.erase i, load ((b.write delay i s out).stations j) =
      ∑ j ∈ Finset.univ.erase i, load (b.stations j) + ∑ j ∈ Finset.univ.erase i,
        out.countP (MasterNode.isTokenFor (b.stations j).node.config.thisStation) := by
    rw [← Finset.sum_add_distrib]
    exact Finset.sum_congr rfl fun j hj => load_write_of_ne (Finset.ne_of_mem_erase hj)
  have hout := sum_countP_le hdistinct i out
  rw [write_self, hothers] at hnew
  unfold tokens
  omega

omit [DecidableEq ι] in
/-- A station's load is part of the whole. -/
theorem load_le_tokens (b : Bus ι) (i : ι) : load (b.stations i) ≤ b.tokens :=
  Finset.single_le_sum (f := fun j => load (b.stations j)) (fun _ _ => Nat.zero_le _)
    (Finset.mem_univ i)

/-- Two stations' loads are parts of the whole. -/
theorem load_add_load_le_tokens (b : Bus ι) {i j : ι} (h : i ≠ j) :
    load (b.stations i) + load (b.stations j) ≤ b.tokens := by
  have hsum := Finset.add_sum_erase Finset.univ (fun k => load (b.stations k)) (Finset.mem_univ i)
  have hj := Finset.single_le_sum (fun k _ => Nat.zero_le (load (b.stations k)))
    (Finset.mem_erase.mpr ⟨h.symm, Finset.mem_univ j⟩)
  unfold tokens
  omega

omit [DecidableEq ι] in
/-- A token is somewhere. -/
theorem exists_load (h : b.tokens = 1) : ∃ j, load (b.stations j) ≠ 0 := by
  have hne : ∑ j, load (b.stations j) ≠ 0 := by
    unfold tokens at h
    omega
  obtain ⟨j, -, hj⟩ := Finset.exists_ne_zero_of_sum_ne_zero hne
  exact ⟨j, hj⟩

omit [Fintype ι] [DecidableEq ι] in
/-- A token on its way loads its station. -/
theorem load_pos {s : Station} {p : MstpFrame × ℕ} (hp : p ∈ s.inbox)
    (htoken : MasterNode.isTokenFor s.node.config.thisStation p.1 = true) : 0 < load s := by
  have hcount : 0 < s.inbox.countP fun p =>
      MasterNode.isTokenFor s.node.config.thisStation p.1 :=
    List.countP_pos_iff.mpr ⟨p, hp, htoken⟩
  unfold load
  omega

end

/-! ## Waits and frames after a step -/

/-- A wait that ends late is as long as it may be. -/
theorem le_patience {n : MasterNode} {wait late slack : ℕ} (h : wait ≤ n.patience 0)
    (hlate : late ≤ slack) (hbusy : Busy n) : wait + late ≤ n.patience slack := by
  obtain ⟨hidle, hlost⟩ := hbusy
  unfold MasterNode.patience at h ⊢
  cases hstate : n.state <;> simp only [hstate] at h ⊢ <;> first | omega | contradiction

/-- How long a station waits after a frame. -/
theorem waitAfterFrame_le {n : MasterNode} (hbusy : Busy n) : n.waitAfterFrame ≤ n.patience 0 := by
  obtain ⟨hidle, hlost⟩ := hbusy
  unfold MasterNode.patience MasterNode.waitAfterFrame
  cases hstate : n.state <;> simp [hstate] at hidle hlost ⊢
  all_goals decide

/-- A station that may send writes its next frame before another takes the token as lost. -/
theorem patience_le {n : MasterNode} (hslot : n.tSlotMs ≤ tReplyTimeoutMs) (slack : ℕ) :
    n.patience slack ≤ tReplyTimeoutMs + tUsageTimeoutMs + 2 * slack := by
  have husage : tUsageTimeoutMs ≤ tReplyTimeoutMs := by decide
  have hdelay : tReplyDelayMs ≤ tReplyTimeoutMs := by decide
  unfold MasterNode.patience
  cases n.state <;> dsimp only <;> omega

/-- What a step leaves of the times, when a station writes in time. -/
theorem Timed.write {t : Timing} {last : ℕ} {b : Bus ι} (h : b.Timed t last) {i : ι} {s : Station}
    {out : List MstpFrame} (hfits : s.node.Fits) (hslot : s.node.tSlotMs ≤ tReplyTimeoutMs)
    (hinbox : ∀ p ∈ s.inbox, p ∈ (b.stations i).inbox)
    (hout : ∀ f ∈ out, f.data.length ≤ maxMpduData) (hwait : b.now ≤ s.deadline)
    (hbusy : Busy s.node → s.deadline ≤
      (if out = [] then last else b.now) + t.delay + s.node.patience t.slack)
    (hlost : s.node.state = .noToken → b.now + tNoTokenMs ≤ s.deadline ∨
      (out = [] ∧ (last + tNoTokenMs ≤ s.deadline ∨ ∃ p ∈ s.inbox, p.2 < s.deadline)))
    (hclear : out ≠ [] → ∀ j, j ≠ i → (b.stations j).node.state = .noToken →
      (∃ p ∈ (b.stations j).inbox, p.2 < (b.stations j).deadline) ∨
        b.now + t.delay < (b.stations j).deadline) :
    (b.write t.delay i s out).Timed t (if out = [] then last else b.now) := by
  have hpast := h.past
  have hlater : last ≤ if out = [] then last else b.now := by
    split_ifs <;> omega
  have hnow : (if out = [] then last else b.now) ≤ b.now := by
    split_ifs <;> omega
  have hothers (j : ι) (hj : j ≠ i) : ∀ p ∈ ((b.write t.delay i s out).stations j).inbox,
      p ∈ (b.stations j).inbox ∨ (∃ f ∈ out, p = (f, b.now + t.delay)) := by
    intro p hp
    rw [write_of_ne hj] at hp
    rcases List.mem_append.mp hp with hp | hp
    · exact .inl hp
    · obtain ⟨f, hf, rfl⟩ := List.mem_map.mp hp
      exact .inr ⟨f, hf, rfl⟩
  have hnode (j : ι) (hj : j ≠ i) :
      ((b.write t.delay i s out).stations j).node = (b.stations j).node ∧
        ((b.write t.delay i s out).stations j).deadline = (b.stations j).deadline := by
    rw [write_of_ne hj]
    exact ⟨rfl, rfl⟩
  refine ⟨fun j => ?_, fun j => ?_, fun j p hp => ?_, fun j p hp => ?_, fun j => ?_, hnow,
    fun j hj => ?_, fun j hj => ?_⟩ <;> rcases eq_or_ne j i with rfl | hji
  · rw [write_self]
    exact hfits
  · rw [(hnode j hji).1]
    exact h.fits j
  · rw [write_self]
    exact hslot
  · rw [(hnode j hji).1]
    exact h.slot j
  · rw [write_self] at hp
    exact h.frames j p (hinbox p hp)
  · rcases hothers j hji p hp with hp | ⟨f, hf, rfl⟩
    · exact h.frames j p hp
    · exact hout f hf
  · rw [write_self] at hp
    obtain ⟨hafter, hbefore⟩ := h.arrives j p (hinbox p hp)
    exact ⟨hafter, by omega⟩
  · rcases hothers j hji p hp with hp | ⟨f, hf, rfl⟩
    · obtain ⟨hafter, hbefore⟩ := h.arrives j p hp
      exact ⟨hafter, by omega⟩
    · rw [if_neg (List.ne_nil_of_mem hf)]
      exact ⟨Nat.le_add_right _ _, Nat.le_refl _⟩
  · rw [write_self]
    exact hwait
  · rw [(hnode j hji).2]
    exact h.waits j
  · rw [write_self] at hj ⊢
    exact hbusy hj
  · rw [(hnode j hji).1] at hj
    rw [(hnode j hji).1, (hnode j hji).2]
    have hold := h.busy j hj
    omega
  · rw [write_self] at hj ⊢
    rcases hlost hj with hlong | ⟨rfl, hold⟩
    · exact .inl (by omega)
    · rw [if_pos rfl]
      exact hold
  · rw [(hnode j hji).1] at hj
    rw [(hnode j hji).2]
    have hkept (hold : ∃ p ∈ (b.stations j).inbox, p.2 < (b.stations j).deadline) :
        ∃ p ∈ ((b.write t.delay i s out).stations j).inbox, p.2 < (b.stations j).deadline := by
      obtain ⟨p, hp, hearly⟩ := hold
      refine ⟨p, ?_, hearly⟩
      rw [write_of_ne hji]
      exact List.mem_append_left _ hp
    by_cases hnone : out = []
    · rw [if_pos hnone]
      exact (h.lost j hj).imp id hkept
    · refine .inr ((hclear hnone j hji hj).elim hkept fun hearly => ?_)
      obtain ⟨f, rest, rfl⟩ := List.exists_cons_of_ne_nil hnone
      refine ⟨(f, b.now + t.delay), ?_, hearly⟩
      rw [write_of_ne hji]
      exact List.mem_append_right _ List.mem_cons_self

/-- What a step leaves of the times in which a station writes nothing. -/
theorem Timed.replace {t : Timing} {last : ℕ} {b : Bus ι} (h : b.Timed t last) {i : ι}
    {s : Station} (hfits : s.node.Fits) (hslot : s.node.tSlotMs ≤ tReplyTimeoutMs)
    (hinbox : ∀ p ∈ s.inbox, p ∈ (b.stations i).inbox) (hwait : b.now ≤ s.deadline)
    (hbusy : Busy s.node → s.deadline ≤ last + t.delay + s.node.patience t.slack)
    (hlost : s.node.state = .noToken →
      last + tNoTokenMs ≤ s.deadline ∨ ∃ p ∈ s.inbox, p.2 < s.deadline) :
    (b.write t.delay i s []).Timed t last := by
  have hwritten : (b.write t.delay i s []).Timed t (if ([] : List MstpFrame) = [] then last
      else b.now) :=
    h.write hfits hslot hinbox (by simp) hwait (by rwa [if_pos rfl])
      (fun hm => .inr ⟨rfl, hlost hm⟩) fun hsome => absurd rfl hsome
  rwa [if_pos rfl] at hwritten

/-! ## Where the token is after a step -/

section

variable {t : Timing} {b : Bus ι} {i j : ι} {s : Station} {out : List MstpFrame}

/-- A frame that a station has not heard is still there after another's step. -/
theorem mem_write {p : MstpFrame × ℕ} (hj : j ≠ i) (hp : p ∈ (b.stations j).inbox) :
    p ∈ ((b.write t.delay i s out).stations j).inbox := by
  rw [write_of_ne hj]
  exact List.mem_append_left _ hp

/-- A station that is not answered after another's step was not before, and nothing was written that
answers it. -/
theorem Unanswered.of_write (hj : j ≠ i)
    (h : Unanswered ((b.write t.delay i s out).stations j)) : Unanswered (b.stations j) ∧
      (out ≠ [] → (b.stations j).deadline ≤ b.now + t.delay) := by
  rw [write_of_ne hj] at h
  obtain ⟨hstate, hlate⟩ := h
  refine ⟨⟨hstate, fun p hp => hlate p (List.mem_append_left _ hp)⟩, fun hsome => ?_⟩
  obtain ⟨f, rest, rfl⟩ := List.exists_cons_of_ne_nil hsome
  exact hlate (f, b.now + t.delay) (List.mem_append_right _ List.mem_cons_self)

/-- A step keeps the addresses. -/
theorem Distinct.write {delay : ℕ} (h : b.Distinct)
    (hs : s.node.config = (b.stations i).node.config) : (b.write delay i s out).Distinct := by
  have hsame (j : ι) :
      ((b.write delay i s out).stations j).node.config = (b.stations j).node.config := by
    rcases eq_or_ne j i with rfl | hji
    · rw [write_self, hs]
    · rw [write_of_ne hji]
  intro j k hjk
  simp only [hsame] at hjk
  exact h hjk

variable [Fintype ι]

/-- A token that nobody had before a step was written in it. -/
theorem exists_written (hload : load s = 0) (hothers : ∀ k, k ≠ i → load (b.stations k) = 0)
    (h : (b.write t.delay i s out).tokens = 1) : out ≠ [] ∧
      ∃ k, ∃ p ∈ ((b.write t.delay i s out).stations k).inbox, MasterNode.isTokenFor
        ((b.write t.delay i s out).stations k).node.config.thisStation p.1 = true ∧
          p.2 = b.now + t.delay := by
  obtain ⟨k, hk⟩ := exists_load h
  have hki : k ≠ i := by
    rintro rfl
    rw [write_self] at hk
    exact hk hload
  rw [load_write_of_ne hki, hothers k hki, Nat.zero_add] at hk
  obtain ⟨f, hf, htoken⟩ := List.countP_pos_iff.mp (Nat.pos_of_ne_zero hk)
  refine ⟨List.ne_nil_of_mem hf, k, (f, b.now + t.delay), ?_, ?_, rfl⟩
  · rw [write_of_ne hki]
    exact List.mem_append_right _ (List.mem_map_of_mem hf)
  · rw [write_of_ne hki]
    exact htoken

/-- While a station has the token or a token is on its way to it, the others have none. -/
theorem Single.others (h : b.Single t) (hload : load (b.stations i) ≠ 0) :
    b.tokens = 1 ∧ load (b.stations i) = 1 ∧ ∀ k, k ≠ i → load (b.stations k) = 0 := by
  have hone := h.one
  have hle := b.load_le_tokens i
  refine ⟨by omega, by omega, fun k hk => ?_⟩
  have hsum := b.load_add_load_le_tokens hk
  omega

omit [DecidableEq ι] in
/-- A station to which a token is on its way has none. -/
theorem Single.not_hasToken (h : b.Single t) {p : MstpFrame × ℕ}
    (hp : p ∈ (b.stations i).inbox)
    (hpi : MasterNode.isTokenFor (b.stations i).node.config.thisStation p.1 = true) :
    ¬ (b.stations i).node.HasToken := by
  intro hhad
  have hcount : 0 < (b.stations i).inbox.countP fun p =>
      MasterNode.isTokenFor (b.stations i).node.config.thisStation p.1 :=
    List.countP_pos_iff.mpr ⟨p, hp, hpi⟩
  have hweight : (b.stations i).node.weight = 1 := if_pos hhad
  have hone := h.one
  have hle := b.load_le_tokens i
  unfold load at hle
  omega

/-- A token that another station waits for while this one has the token or gets it is the one on
its way to this one, and this one writes nothing, which would answer the other. -/
theorem Single.answered {last : ℕ} (htimed : b.Timed t last) (h : b.Single t) (hj : j ≠ i)
    (hu : Unanswered ((b.write t.delay i s out).stations j)) (hload : load (b.stations i) ≠ 0) :
    out = [] ∧ ∃ p ∈ (b.stations i).inbox,
      MasterNode.isTokenFor (b.stations i).node.config.thisStation p.1 = true ∧
        p.2 + t.delay < (b.stations j).deadline := by
  obtain ⟨hall, -, hothers⟩ := h.others hload
  obtain ⟨hold, hanswer⟩ := hu.of_write hj
  obtain ⟨k, p, hp, hpk, hearly⟩ := h.passed j hold hall
  obtain rfl : k = i := by
    by_contra hki
    have hpos := load_pos hp hpk
    rw [hothers k hki] at hpos
    omega
  refine ⟨?_, p, hp, hpk, hearly⟩
  by_contra hsome
  have hlate := hanswer hsome
  have harrives := (htimed.arrives k p hp).1
  omega

omit [Fintype ι] in
/-- A token on its way to a third station is still on its way after a step. -/
theorem coming_write {k : ι} (hj : j ≠ i) (hk : k ≠ i) {p : MstpFrame × ℕ}
    (hp : p ∈ (b.stations k).inbox)
    (hpk : MasterNode.isTokenFor (b.stations k).node.config.thisStation p.1 = true)
    (hearly : p.2 + t.delay < (b.stations j).deadline) :
    ∃ k, ∃ p ∈ ((b.write t.delay i s out).stations k).inbox,
      MasterNode.isTokenFor ((b.write t.delay i s out).stations k).node.config.thisStation p.1 =
        true ∧ p.2 + t.delay < ((b.write t.delay i s out).stations j).deadline := by
  refine ⟨k, p, mem_write hk hp, ?_, ?_⟩
  · rw [write_of_ne hk]
    exact hpk
  · rw [write_of_ne hj]
    exact hearly

/-- A frame that a station hears keeps the token single. -/
theorem Single.hear {last : ℕ} (hprompt : t.Prompt) (hdistinct : b.Distinct)
    (htimed : b.Timed t last) (h : b.Single t) {f : MstpFrame} {arrival late : ℕ}
    {rest : List (MstpFrame × ℕ)} (hinbox : (b.stations i).inbox = (f, arrival) :: rest)
    {m : MasterNode} {wait : Option ℕ}
    (hconfig : m.config = (b.stations i).node.config)
    (hpasses : (b.stations i).node.Passes f m out wait) :
    (b.write t.delay i ⟨m, rest, b.now + m.waitAfterFrame + late⟩ out).Single t := by
  have hdelay : 2 * t.delay < tUsageTimeoutMs := hprompt
  obtain ⟨s, hs⟩ : ∃ s : Station, s = ⟨m, rest, b.now + m.waitAfterFrame + late⟩ := ⟨_, rfl⟩
  have hfrom := MasterNode.countP_isTokenFrom_le (b.stations i).node.config.thisStation out
  -- the loads before and after
  have hbefore : load (b.stations i) = (b.stations i).node.weight +
      ([f].countP (MasterNode.isTokenFor (b.stations i).node.config.thisStation) +
        rest.countP fun p => MasterNode.isTokenFor (b.stations i).node.config.thisStation p.1) := by
    unfold load
    rw [hinbox, List.countP_cons, List.countP_singleton, Nat.add_comm (rest.countP _)]
  have hafter : load s = m.weight +
      rest.countP fun p => MasterNode.isTokenFor (b.stations i).node.config.thisStation p.1 := by
    rw [hs, load, hconfig]
  have htoken := hpasses.token
  have htokens := tokens_write_le hdistinct t.delay i s out
  have hone := h.one
  have hstill : (b.write t.delay i s out).tokens ≤ b.tokens := by omega
  rw [← hs]
  have hnode : s.node = m := by rw [hs]
  have hpassed (hm : m.state = .passToken) : out ≠ [] ∧ load (b.stations i) ≠ 0 ∧ load s = 0 := by
    obtain ⟨hsome, hnone, hhad⟩ := hpasses.passed_on hm
    have hle := b.load_le_tokens i
    exact ⟨hsome, by omega, by omega⟩
  have hother {k : ι} (hk : k ≠ i) (hi : Unanswered ((b.write t.delay i s out).stations i)) :
      ¬ Unanswered ((b.write t.delay i s out).stations k) := by
    intro hu
    rw [write_self] at hi
    obtain ⟨hsome, hload, -⟩ := hpassed (hnode ▸ hi.1)
    exact hsome (h.answered htimed hk hu hload).1
  refine ⟨Nat.le_trans hstill hone, fun j hu hall => ?_, fun j k hj hk => ?_⟩
  · rcases eq_or_ne j i with rfl | hji
    · rw [write_self] at hu ⊢
      have hm : m.state = .passToken := hnode ▸ hu.1
      obtain ⟨hsome, hload, hzero⟩ := hpassed hm
      obtain ⟨-, -, hothers⟩ := h.others hload
      obtain ⟨-, k, p, hp, hpk, harrival⟩ := exists_written hzero hothers hall
      refine ⟨k, p, hp, hpk, ?_⟩
      have hwait : s.deadline = b.now + tUsageTimeoutMs + late := by
        rw [hs, MasterNode.waitAfterFrame, hm]
      omega
    by_cases hload : load (b.stations i) = 0
    · obtain ⟨k, p, hp, hpk, hearly⟩ := h.passed j (hu.of_write hji).1 (by omega)
      have hki : k ≠ i := by
        rintro rfl
        have hpos := load_pos hp hpk
        omega
      exact coming_write hji hki hp hpk hearly
    -- the token is still behind the frame that was heard, for it would have been used
    · obtain ⟨rfl, p, hp, hpi, hearly⟩ := h.answered htimed hji hu hload
      obtain ⟨-, hwhole, hothers⟩ := h.others hload
      have hidle : m.weight = 0 := by
        refine if_neg fun hm => ?_
        rcases hpasses.sent (.inl hm) with ⟨hsome, -⟩ | ⟨hhad, -⟩
        · exact hsome rfl
        · exact h.not_hasToken hp hpi hhad
      have hrest : 0 < rest.countP fun p =>
          MasterNode.isTokenFor (b.stations i).node.config.thisStation p.1 := by
        by_contra hnone
        exact (exists_written (by omega) hothers hall).1 rfl
      refine ⟨i, p, ?_, ?_, ?_⟩
      · rw [write_self, hs]
        rw [hinbox] at hp
        rcases List.mem_cons.mp hp with rfl | hp
        · rw [List.countP_singleton, if_pos hpi] at hbefore
          omega
        · exact hp
      · rw [write_self, hnode, hconfig]
        exact hpi
      · rw [write_of_ne hji]
        exact hearly
  · by_contra hjk
    rcases eq_or_ne j i with rfl | hji
    · exact hother (Ne.symm hjk) hj hk
    · rcases eq_or_ne k i with rfl | hki
      · exact hother hji hk hj
      · exact hjk (h.alone j k (hj.of_write hji).1 (hk.of_write hki).1)

omit [DecidableEq ι] in
/-- A station that takes the token as lost is right, and no other waits for one that it has passed
to be used. -/
theorem Timed.lost_token {last : ℕ} (hpatient : t.Patient) (htimed : b.Timed t last)
    (hdue : (b.stations i).deadline = b.now)
    (hstate : (b.stations i).node.state = .noToken) (h : b.tokens ≤ 1) :
    b.tokens = 0 ∧ ∀ j, (b.stations j).node.state ≠ .passToken := by
  have hlimits : 2 * t.delay + tReplyTimeoutMs + tUsageTimeoutMs + 2 * t.slack < tNoTokenMs :=
    hpatient
  have hlong : last + tNoTokenMs ≤ b.now := by
    rcases htimed.lost i hstate with hlong | ⟨p, hp, hearly⟩
    · omega
    · have harrives := (htimed.arrives i p hp).1
      omega
  have hidle (k : ι) (hbusy : Busy (b.stations k).node) : False := by
    have hdeadline := htimed.busy k hbusy
    have hlimit := patience_le (htimed.slot k) t.slack
    have hwaits := htimed.waits k
    omega
  refine ⟨?_, fun j hj => hidle j (by simp [Busy, hj])⟩
  by_contra hsome
  obtain ⟨k, hk⟩ := exists_load (b := b) (by omega)
  rcases Nat.eq_zero_or_pos ((b.stations k).inbox.countP fun p =>
    MasterNode.isTokenFor (b.stations k).node.config.thisStation p.1) with hzero | hpos
  · refine hidle k ?_
    have hhad : (b.stations k).node.HasToken := by
      by_contra hnot
      rw [load, hzero, MasterNode.weight, if_neg hnot] at hk
      exact hk rfl
    rcases hhad with hk | hk | hk | hk <;> simp [Busy, hk]
  · obtain ⟨p, hp, -⟩ := List.countP_pos_iff.mp hpos
    have harrives := htimed.arrives k p hp
    omega

/-- When the wait of a station ends that has the token, has passed it or takes it as lost, there is
no other token and no other station waits for one to be used. -/
theorem Single.quiet {last : ℕ} (hpatient : t.Patient) (htimed : b.Timed t last) (h : b.Single t)
    (hdue : (b.stations i).deadline = b.now)
    (hstate : (b.stations i).node.HasToken ∨ (b.stations i).node.state = .noToken ∨
      (b.stations i).node.state = .passToken) :
    b.tokens = (b.stations i).node.weight ∧ load (b.stations i) = (b.stations i).node.weight ∧
      (∀ k, k ≠ i → load (b.stations k) = 0) ∧ ∀ j, j ≠ i → ¬ Unanswered (b.stations j) := by
  have hone := h.one
  have hnone (hzero : b.tokens = 0) (hnot : ¬ (b.stations i).node.HasToken) :
      b.tokens = (b.stations i).node.weight ∧ load (b.stations i) = (b.stations i).node.weight ∧
        ∀ k, k ≠ i → load (b.stations k) = 0 := by
    have hweight : (b.stations i).node.weight = 0 := if_neg hnot
    have hall (k : ι) : load (b.stations k) = 0 := by
      have hle := b.load_le_tokens k
      omega
    exact ⟨by omega, by rw [hall, hweight], fun k _ => hall k⟩
  rcases hstate with hhad | hlost | hpass
  · have hweight : (b.stations i).node.weight = 1 := if_pos hhad
    have hload : load (b.stations i) ≠ 0 := by
      unfold load
      omega
    obtain ⟨hall, hwhole, hothers⟩ := h.others hload
    refine ⟨by omega, by omega, hothers, fun j hj hu => ?_⟩
    obtain ⟨k, p, hp, hpk, -⟩ := h.passed j hu hall
    have hpos : 0 < (b.stations k).inbox.countP fun p =>
        MasterNode.isTokenFor (b.stations k).node.config.thisStation p.1 :=
      List.countP_pos_iff.mpr ⟨p, hp, hpk⟩
    rcases eq_or_ne k i with rfl | hki
    · unfold load at hwhole
      omega
    · have hzero := hothers k hki
      unfold load at hzero
      omega
  · obtain ⟨hzero, hpassing⟩ := htimed.lost_token hpatient hdue hlost hone
    obtain ⟨hall, hload, hothers⟩ := hnone hzero (by simp [MasterNode.HasToken, hlost])
    exact ⟨hall, hload, hothers, fun j _ hu => hpassing j hu.1⟩
  · have hu : Unanswered (b.stations i) := by
      refine ⟨hpass, fun p hp => ?_⟩
      have harrives := (htimed.arrives i p hp).1
      omega
    have hzero : b.tokens = 0 := by
      by_contra hsome
      obtain ⟨k, p, hp, -, hearly⟩ := h.passed i hu (by omega)
      have harrives := (htimed.arrives k p hp).1
      omega
    obtain ⟨hall, hload, hothers⟩ := hnone hzero (by simp [MasterNode.HasToken, hpass])
    exact ⟨hall, hload, hothers, fun j hj huj => hj (h.alone j i huj hu)⟩

/-- The end of a wait keeps the token single. -/
theorem Single.expire {last : ℕ} (hprompt : t.Prompt) (hpatient : t.Patient)
    (hdistinct : b.Distinct) (htimed : b.Timed t last) (h : b.Single t)
    (hdue : (b.stations i).deadline = b.now) {m : MasterNode} {wait late : ℕ}
    (hexpires : (b.stations i).node.Expires m out wait) :
    (b.write t.delay i ⟨m, (b.stations i).inbox, b.now + wait + late⟩ out).Single t := by
  have hdelay : 2 * t.delay < tUsageTimeoutMs := hprompt
  obtain ⟨s, hs⟩ : ∃ s : Station, s = ⟨m, (b.stations i).inbox, b.now + wait + late⟩ := ⟨_, rfl⟩
  have htokens := tokens_write_le hdistinct t.delay i s out
  have htoken := hexpires.token
  have hafter : load s + (b.stations i).node.weight = m.weight + load (b.stations i) := by
    unfold load
    rw [hs]
    dsimp only
    rw [hexpires.config]
    omega
  rw [← hs]
  have hnode : s.node = m := by rw [hs]
  have hone := h.one
  by_cases hstate : (b.stations i).node.HasToken ∨ (b.stations i).node.state = .noToken ∨
      (b.stations i).node.state = .passToken
  · obtain ⟨hall, hload, hothers, hanswered⟩ := h.quiet hpatient htimed hdue hstate
    have hmade : m.weight +
        out.countP (MasterNode.isTokenFrom (b.stations i).node.config.thisStation) ≤ 1 := by
      refine Nat.le_trans htoken ?_
      split_ifs <;> omega
    have hself {j : ι} (hu : Unanswered ((b.write t.delay i s out).stations j)) : j = i := by
      by_contra hji
      exact hanswered j hji (hu.of_write hji).1
    refine ⟨by omega, fun j hu hall => ?_, fun j k hj hk => (hself hj).trans (hself hk).symm⟩
    obtain rfl := hself hu
    rw [write_self] at hu ⊢
    have hm : m.state = .passToken := hnode ▸ hu.1
    have hzero : m.weight = 0 := by
      rw [MasterNode.weight, if_neg (by simp [MasterNode.HasToken, hm])]
    obtain ⟨-, k, p, hp, hpk, harrival⟩ := exists_written (by omega) hothers hall
    refine ⟨k, p, hp, hpk, ?_⟩
    have hdeadline : s.deadline = b.now + tUsageTimeoutMs + late := by
      rw [hs, hexpires.passing hm]
    omega
  · have hidle : ¬ (m.HasToken ∨ m.state = .passToken) := by
      intro hm
      rcases hexpires.active hm with ⟨-, -, hhad⟩ | ⟨-, ⟨hwas, -⟩ | ⟨hwas, -⟩⟩
      · exact hstate hhad
      · exact hstate (.inl (.inr (.inr (.inl hwas))))
      · exact hstate (.inr (.inr hwas))
    have hnone : (b.stations i).node.weight = 0 := if_neg fun hhad => hstate (.inl hhad)
    rw [if_neg fun hwas => hstate (.inr hwas), hnone] at htoken
    have hother {j : ι} (hu : Unanswered ((b.write t.delay i s out).stations j)) : j ≠ i := by
      rintro rfl
      rw [write_self] at hu
      exact hidle (.inr (hnode ▸ hu.1))
    refine ⟨by omega, fun j hu hall => ?_, fun j k hj hk => h.alone j k
      (hj.of_write (hother hj)).1 (hk.of_write (hother hk)).1⟩
    obtain ⟨k, p, hp, hpk, hearly⟩ := h.passed j (hu.of_write (hother hu)).1 (by omega)
    rcases eq_or_ne k i with rfl | hki
    · refine ⟨k, p, ?_, ?_, ?_⟩
      · rw [write_self, hs]
        exact hp
      · rw [write_self, hnode, hexpires.config]
        exact hpk
      · rw [write_of_ne (hother hu)]
        exact hearly
    · exact coming_write (hother hu) hki hp hpk hearly

/-- A station that changes and writes nothing keeps the token single when it gets none. -/
theorem Single.replace (hdistinct : b.Distinct) (h : b.Single t)
    (hconfig : s.node.config = (b.stations i).node.config) (hless : load s ≤ load (b.stations i))
    (hinbox : load s ≠ 0 → s.inbox = (b.stations i).inbox)
    (hunanswered : Unanswered s → Unanswered (b.stations i) ∧
      s.deadline = (b.stations i).deadline) : (b.write t.delay i s []).Single t := by
  have htokens := tokens_write_le hdistinct t.delay i s []
  rw [List.countP_nil] at htokens
  have hone := h.one
  have hold {j : ι} (hu : Unanswered ((b.write t.delay i s []).stations j)) :
      Unanswered (b.stations j) ∧
        ((b.write t.delay i s []).stations j).deadline = (b.stations j).deadline := by
    rcases eq_or_ne j i with rfl | hji
    · rw [write_self] at hu ⊢
      exact hunanswered hu
    · refine ⟨(hu.of_write hji).1, ?_⟩
      rw [write_of_ne hji]
  refine ⟨by omega, fun j hu hall => ?_, fun j k hj hk => h.alone j k (hold hj).1 (hold hk).1⟩
  obtain ⟨hwas, hdeadline⟩ := hold hu
  obtain ⟨k, p, hp, hpk, hearly⟩ := h.passed j hwas (by omega)
  rw [hdeadline]
  rcases eq_or_ne k i with rfl | hki
  · have hpos := load_pos hp hpk
    refine ⟨k, p, ?_, ?_, hearly⟩
    · rw [write_self, hinbox (by omega)]
      exact hp
    · rw [write_self, hconfig]
      exact hpk
  · refine ⟨k, p, mem_write hki hp, ?_, hearly⟩
    rw [write_of_ne hki]
    exact hpk

end

/-! ## Every run -/

section

variable [Fintype ι] {t : Timing} {b c : Bus ι}

/-- What holds of a bus in every run. -/
structure Sound (t : Timing) (b : Bus ι) : Prop where
  distinct : b.Distinct
  holds : ∃ last, b.Timed t last ∧ b.Single t

/-- The stations of a bus have been set up and wait for the first time. -/
structure Fresh (b : Bus ι) : Prop where
  distinct : b.Distinct
  new : ∀ i, MasterNode.new (b.stations i).node.config = .ok (b.stations i).node
  inbox : ∀ i, (b.stations i).inbox = []
  waits : ∀ i, b.now ≤ (b.stations i).deadline

omit [DecidableEq ι] [Fintype ι] in
/-- A station that was set up waits for a frame and has nothing to send. -/
theorem new_eq_ok {config : MstpConfig} {n : MasterNode} (h : MasterNode.new config = .ok n) :
    n.config = config ∧ n.state = .idle ∧ n.txQueue = [] ∧ n.tSlotMs ≤ tReplyTimeoutMs := by
  unfold MasterNode.new at h
  split_ifs at h
  obtain rfl := Except.ok.inj h
  have hslot : calculateTSlotMs config.baudRate ≤ tReplyTimeoutMs := by
    unfold calculateTSlotMs
    decide
  exact ⟨rfl, rfl, rfl, hslot⟩

omit [DecidableEq ι] in
/-- On a fresh bus there is no token. -/
theorem Fresh.sound (h : b.Fresh) : b.Sound t := by
  have hidle (i : ι) : (b.stations i).node.state = .idle := (new_eq_ok (h.new i)).2.1
  have hload (i : ι) : load (b.stations i) = 0 := by
    rw [load, h.inbox, MasterNode.weight, if_neg (by simp [MasterNode.HasToken, hidle])]
    rfl
  have htokens : b.tokens = 0 := Finset.sum_eq_zero fun i _ => hload i
  refine ⟨h.distinct, 0, ⟨fun i p hp => ?_, fun i => (new_eq_ok (h.new i)).2.2.2, fun i p hp => ?_,
    fun i p hp => ?_, h.waits, Nat.zero_le _, fun i hi => ?_, fun i hi => ?_⟩,
    by omega, fun i hi => ?_, fun i j hi => ?_⟩
  · rw [(new_eq_ok (h.new i)).2.2.1] at hp
    cases hp
  · rw [h.inbox] at hp
    cases hp
  · rw [h.inbox] at hp
    cases hp
  · exact absurd (hidle i) hi.1
  · rw [hidle] at hi
    cases hi
  · have hpass := hi.1
    rw [hidle] at hpass
    cases hpass
  · have hpass := hi.1
    rw [hidle] at hpass
    cases hpass

/-- A frame that a station hears. -/
theorem Sound.hear (hprompt : t.Prompt) (hpatient : t.Patient) (h : b.Sound t) {i : ι}
    {f : MstpFrame} {arrival late : ℕ} {rest : List (MstpFrame × ℕ)}
    (hinbox : (b.stations i).inbox = (f, arrival) :: rest)
    (hlate : late ≤ t.slack) {m : MasterNode} {out : List MstpFrame} {wait : Option ℕ} {room : ℕ}
    (hsends : (b.stations i).node.Sends room m out)
    (hpasses : (b.stations i).node.Fits → f.data.length ≤ maxMpduData →
      (b.stations i).node.Passes f m out wait) :
    (b.write t.delay i ⟨m, rest, b.now + m.waitAfterFrame + late⟩ out).Sound t := by
  obtain ⟨hdistinct, last, htimed, hsingle⟩ := h
  have hlimits : 2 * t.delay + tReplyTimeoutMs + tUsageTimeoutMs + 2 * t.slack < tNoTokenMs :=
    hpatient
  have hhead : (f, arrival) ∈ (b.stations i).inbox := by
    rw [hinbox]
    exact List.mem_cons_self
  obtain ⟨hafter, hbefore⟩ := htimed.arrives i _ hhead
  dsimp only at hafter hbefore
  refine ⟨hdistinct.write hsends.config, _, htimed.write
    (fun p hp => htimed.fits i p (hsends.rest.mem hp)) ?_ (fun p hp => ?_)
    (fun f hf => (hsends.own f hf).length) ?_ (fun hbusy => ?_) (fun hm => .inl ?_)
    (fun _ j _ hj => ?_),
    hsingle.hear hprompt hdistinct htimed hinbox hsends.config
      (hpasses (htimed.fits i) (htimed.frames i _ hhead))⟩
  · rw [show m.tSlotMs = (b.stations i).node.tSlotMs from hsends.slot]
    exact htimed.slot i
  · rw [hinbox]
    exact List.mem_cons_of_mem _ hp
  · show b.now ≤ b.now + m.waitAfterFrame + late
    omega
  · have hlimit := le_patience (waitAfterFrame_le hbusy) hlate hbusy
    dsimp only at hlimit ⊢
    have hpast := htimed.past
    split_ifs <;> omega
  · have hwait : m.waitAfterFrame = tNoTokenMs := by
      rw [MasterNode.waitAfterFrame, show m.state = .noToken from hm]
    dsimp only
    omega
  · rcases htimed.lost j hj with hlong | hearly
    · right
      omega
    · exact .inl hearly

/-- The end of a wait. -/
theorem Sound.expire (hprompt : t.Prompt) (hpatient : t.Patient) (h : b.Sound t) {i : ι}
    (hdue : (b.stations i).deadline = b.now) {m : MasterNode} {out : List MstpFrame}
    {wait late : ℕ} (hlate : late ≤ t.slack)
    (hexpires : (b.stations i).node.Expires m out wait)
    (hclear : (b.stations i).node.state = .noToken → ∀ j, j ≠ i →
      (b.stations j).node.state = .noToken → b.now + t.delay < (b.stations j).deadline) :
    (b.write t.delay i ⟨m, (b.stations i).inbox, b.now + wait + late⟩ out).Sound t := by
  obtain ⟨hdistinct, last, htimed, hsingle⟩ := h
  have hlimits : 2 * t.delay + tReplyTimeoutMs + tUsageTimeoutMs + 2 * t.slack < tNoTokenMs :=
    hpatient
  have hpast := htimed.past
  have hold := htimed.busy i
  refine ⟨hdistinct.write hexpires.config, _, htimed.write (fun p hp => ?_) ?_ (fun p hp => hp)
    (fun f hf => (hexpires.own f hf).length) ?_ (fun hbusy => ?_) (fun hm => .inl ?_)
    (fun hsome j hji hj => ?_), hsingle.expire hprompt hpatient hdistinct htimed hdue hexpires⟩
  · rw [show m.txQueue = (b.stations i).node.txQueue from hexpires.queue] at hp
    exact htimed.fits i p hp
  · rw [show m.tSlotMs = (b.stations i).node.tSlotMs from hexpires.slot]
    exact htimed.slot i
  · show b.now ≤ b.now + wait + late
    omega
  · dsimp only at hbusy ⊢
    have hm : m.HasToken ∨ m.state = .passToken := by
      obtain ⟨hidle, hlost⟩ := hbusy
      have hanswer := hexpires.answered
      unfold MasterNode.HasToken
      cases hstate : m.state <;> simp [hstate] at hidle hlost hanswer ⊢
    -- a wait that ends without a frame follows one that began with a frame
    have hsecond (hwait : wait = tUsageTimeoutMs) (hbusy : Busy (b.stations i).node)
        (hlimit : (b.stations i).node.patience t.slack + tUsageTimeoutMs + t.slack ≤
          m.patience t.slack) :
        b.now + wait + late ≤ (if out = [] then last else b.now) + t.delay +
          m.patience t.slack := by
      have hfirst := hold hbusy
      split_ifs <;> omega
    rcases hexpires.active hm with ⟨hsome, hshort, -⟩ | ⟨hwait, ⟨hwas, hnow⟩ | ⟨hwas, hnow⟩⟩
    · have hlimit := le_patience hshort hlate hbusy
      rw [if_neg hsome]
      omega
    · refine hsecond hwait (by simp [Busy, hwas]) ?_
      rw [MasterNode.patience, hwas, MasterNode.patience, hnow]
      dsimp only
      omega
    · refine hsecond hwait (by simp [Busy, hwas]) ?_
      rw [MasterNode.patience, hwas, MasterNode.patience, hnow]
      dsimp only
      omega
  · have hlong := hexpires.lost hm
    dsimp only
    omega
  · by_cases hlost : (b.stations i).node.state = .noToken
    · exact .inr (hclear hlost j hji hj)
    · have hlimit := hold ⟨fun hidle => hsome (hexpires.quiet hidle), hlost⟩
      have hshort := patience_le (htimed.slot i) t.slack
      rcases htimed.lost j hj with hlong | hearly
      · right
        omega
      · exact .inl hearly

/-- A packet that is queued. -/
theorem Sound.queue (h : b.Sound t) {i : ι} {dest : UInt8} {npdu : Bytes} {n : MasterNode}
    (hshort : npdu.length ≤ maxMpduData)
    (hn : (b.stations i).node.queueNpdu dest npdu = .ok n) :
    (b.write t.delay i { b.stations i with node := n } []).Sound t := by
  obtain ⟨hdistinct, last, htimed, hsingle⟩ := h
  unfold MasterNode.queueNpdu at hn
  split_ifs at hn
  obtain rfl := Except.ok.inj hn
  refine ⟨hdistinct.write rfl, last, htimed.replace (fun p hp => ?_) (htimed.slot i)
    (fun p hp => hp) (htimed.waits i) (htimed.busy i) (htimed.lost i),
    hsingle.replace hdistinct rfl (Nat.le_refl _) (fun _ => rfl) fun hu => ⟨hu, rfl⟩⟩
  rcases List.mem_append.mp hp with hp | hp
  · exact htimed.fits i p hp
  · obtain rfl := List.mem_singleton.mp hp
    exact hshort

/-- A station that starts again. -/
theorem Sound.restart (h : b.Sound t) {i : ι} {n : MasterNode} (late : ℕ)
    (hn : MasterNode.new (b.stations i).node.config = .ok n) :
    (b.write t.delay i ⟨n, [], b.now + tNoTokenMs + late⟩ []).Sound t := by
  obtain ⟨hdistinct, last, htimed, hsingle⟩ := h
  obtain ⟨hconfig, hidle, hqueue, hslot⟩ := new_eq_ok hn
  have hload : load ⟨n, [], b.now + tNoTokenMs + late⟩ = 0 := by
    rw [load, MasterNode.weight, if_neg (by simp [MasterNode.HasToken, hidle])]
    rfl
  have hnot {state : MasterState} (hstate : n.state = state) (hne : state ≠ .idle) : False :=
    hne (hstate.symm.trans hidle)
  refine ⟨hdistinct.write hconfig, last, htimed.replace (fun p hp => ?_) hslot (by simp) ?_
    (fun hbusy => absurd hidle hbusy.1) (fun hm => (hnot hm (by simp)).elim),
    hsingle.replace hdistinct hconfig ?_ (fun hne => absurd hload hne)
      fun hu => (hnot hu.1 (by simp)).elim⟩
  · rw [show n.txQueue = [] from hqueue] at hp
    cases hp
  · show b.now ≤ b.now + tNoTokenMs + late
    omega
  · rw [hload]
    exact Nat.zero_le _

/-- A step keeps the token single. -/
theorem Sound.step (hprompt : t.Prompt) (hpatient : t.Patient) (h : b.Sound t) {l : Label ι}
    (hclear : b.Clear t l c)
    (hstep : b.step t l = some c) : c.Sound t := by
  unfold Bus.step at hstep
  cases l with
  | tick ms =>
    dsimp only at hstep
    split_ifs at hstep with hnot
    obtain rfl := Option.some.inj hstep
    obtain ⟨hdistinct, last, htimed, hsingle⟩ := h
    have hpast := htimed.past
    refine ⟨hdistinct, last, ⟨htimed.fits, htimed.slot, htimed.frames, fun i p hp => ?_,
      fun i => (hnot i).1, Nat.le_trans hpast (Nat.le_add_right _ _), htimed.busy, htimed.lost⟩,
      hsingle.one, hsingle.passed, hsingle.alone⟩
    exact ⟨(hnot i).2 p hp, (htimed.arrives i p hp).2⟩
  | hear i late =>
    dsimp only at hstep
    split at hstep
    · cases hstep
    rename_i f arrival rest hinbox
    split_ifs at hstep with hlate
    have hsends := MasterNode.onFrame_sends f (b.stations i).node
    have hpasses (hfits : (b.stations i).node.Fits) (hf : f.data.length ≤ maxMpduData) :=
      MasterNode.onFrame_passes hf hfits
    have hwait (hfits : (b.stations i).node.Fits) (hf : f.data.length ≤ maxMpduData) :=
      (hpasses hfits hf).wait
    obtain ⟨-, last, htimed, -⟩ := id h
    have hmine := hwait (htimed.fits i) (htimed.frames i (f, arrival) (by
      rw [hinbox]
      exact List.mem_cons_self))
    generalize (b.stations i).node.onFrame f = r at hsends hpasses hmine hstep
    obtain ⟨m, out, indications, wait⟩ := r
    dsimp only at hsends hpasses hmine hstep
    obtain rfl := hmine
    obtain rfl := Option.some.inj hstep
    exact h.hear hprompt hpatient hinbox hlate hsends hpasses
  | expire i reply late =>
    dsimp only at hstep
    split_ifs at hstep with hdue
    have hexpires := MasterNode.onTimeout_expires reply (b.stations i).node
    generalize (b.stations i).node.onTimeout reply = r at hexpires hstep
    obtain ⟨m, out, wait⟩ := r
    obtain rfl := Option.some.inj hstep
    exact h.expire hprompt hpatient hdue.1 hdue.2 hexpires hclear
  | queue i dest npdu =>
    dsimp only at hstep
    cases hn : (b.stations i).node.queueNpdu dest npdu with
    | ok n =>
      rw [hn] at hstep
      obtain rfl := Option.some.inj hstep
      exact h.queue hclear hn
    | error e =>
      rw [hn] at hstep
      obtain rfl := Option.some.inj hstep
      exact h
  | restart i late =>
    dsimp only at hstep
    cases hn : MasterNode.new (b.stations i).node.config with
    | ok n =>
      rw [hn] at hstep
      obtain rfl := Option.some.inj hstep
      exact h.restart late hn
    | error e =>
      rw [hn] at hstep
      cases hstep

/-- In every run of a bus there is at most one token, with a station or on its way to one, whatever
the stations send and whenever they stop and start again: as long as frames and the ends of waits
are late by no more than the timing allows, no two stations make a token at the same time and
packets are not too long. -/
theorem Fresh.one_token (h : b.Fresh) (hprompt : 2 * t.delay < tUsageTimeoutMs)
    (hpatient : 2 * t.delay + tReplyTimeoutMs + tUsageTimeoutMs + 2 * t.slack < tNoTokenMs)
    {labels : List (Label ι)} (hclear : Transition.Along (Bus.step t) (Clear t) b labels) :
    Transition.Throughout (Bus.step t) (fun c => c.tokens ≤ 1 ∧
      ∀ i j, (c.stations i).node.HasToken → (c.stations j).node.HasToken → i = j) b labels := by
  have hsound : Transition.Throughout (Bus.step t) (Sound t) b labels :=
    Transition.throughout_of_along (fun b l c hb hstep hC => hb.step hprompt hpatient hC hstep)
      h.sound hclear
  refine hsound.mono fun c hc => ?_
  obtain ⟨-, -, -, hsingle⟩ := hc
  have hone := hsingle.one
  refine ⟨hone, fun i j hi hj => ?_⟩
  by_contra hij
  have hsum := c.load_add_load_le_tokens hij
  have hweight {k : ι} (hk : (c.stations k).node.HasToken) : 1 ≤ load (c.stations k) := by
    rw [load, MasterNode.weight, if_pos hk]
    exact Nat.le_add_right _ _
  have hleft := hweight hi
  have hright := hweight hj
  omega

end

/-! ## Two stations -/

/-- Frames that take at most five milliseconds, and waits that are at most ten late. -/
def promptTiming : Timing := ⟨5, 10⟩

/-- Two stations that have been set up and begin at different times. -/
def pair : Bus (Fin 2) where
  stations i :=
    match MasterNode.new { thisStation := UInt8.ofNat i, maxMaster := 1 } with
    | .ok n => ⟨n, [], 500 + 200 * i⟩
    | .error _ => ⟨⟨{}, .idle, 0, 0, 0, 0, [], false, 0, 0, false, none, 0, 0, none⟩, [], 0⟩
  now := 0

/-- The first station takes the token as lost, finds the second and passes the token to it. -/
def firstToken : List (Label (Fin 2)) :=
  [.tick 500, .expire 0 none 3, .tick 200, .expire 1 none 0, .tick 303,
    .expire 0 none 0, .tick 4, .hear 1 2, .hear 0 1, .tick 3, .hear 1 0]

/-- The two have different addresses. -/
theorem pair_distinct : pair.Distinct := by
  have hsame : ∀ i j, (pair.stations i).node.config.thisStation =
      (pair.stations j).node.config.thisStation → i = j := by
    decide
  exact fun i j hij => hsame i j hij

/-- Over this run the second station gets the token and there is no other. -/
theorem one_token_pair : (Transition.run (Bus.step promptTiming) pair firstToken).map (fun c =>
      (c.tokens, (c.stations 1).node.state, (c.stations 0).inbox.length)) =
        some (1, .pollForMaster, 1) ∧
    Transition.Throughout (Bus.step promptTiming) (fun c => c.tokens ≤ 1 ∧
      ∀ i j, (c.stations i).node.HasToken → (c.stations j).node.HasToken → i = j)
        pair firstToken :=
  ⟨by decide +kernel, Fresh.one_token ⟨pair_distinct, by decide, by decide, by decide⟩ (by decide)
    (by decide) (by decide +kernel)⟩

end Bus

end BacnetTransport
