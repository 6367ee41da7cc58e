import Mathlib.Data.List.Basic
import Mathlib.Data.Nat.Basic
import Mathlib.Logic.Function.Iterate

/-!
# Cyclic redundancy checks

A register takes a string one bit at a time, lowest bit first, and is shifted down; when a one
leaves it, a generator is added. This file has what holds of every such check whose generator has
its top bit set: the register is determined by where it began, a byte can be taken at once from a
table, and two strings that differ in one burst no longer than the register leave different
registers.
-/

namespace Crc

variable {w : ℕ}

/-- The register is shifted down. -/
def shift (generator c : BitVec w) : BitVec w :=
  if c.getLsbD 0 then (c >>> 1) ^^^ generator else c >>> 1

/-- A bit in the lowest place. -/
def lowest (bit : Bool) : BitVec w := if bit then 1#w else 0#w

/-- The register takes one bit. -/
def feed (generator c : BitVec w) (bit : Bool) : BitVec w := shift generator (c ^^^ lowest bit)

/-- The register after a string of bits. -/
def register (generator c : BitVec w) (bits : List Bool) : BitVec w :=
  bits.foldl (feed generator) c

variable (generator : BitVec w)

/-- Only the lowest place holds the bit. -/
theorem getLsbD_lowest (bit : Bool) (i : ℕ) :
    (lowest bit : BitVec w).getLsbD i = (decide (i = 0 ∧ 0 < w) && bit) := by
  unfold lowest
  cases bit with
  | false => simp
  | true =>
    rw [if_pos rfl, BitVec.getLsbD_one]
    by_cases hi : i = 0 <;> simp [hi]

/-- The lowest place. -/
theorem and_one_ne_zero (c : BitVec w) : c &&& 1#w ≠ 0#w ↔ c.getLsbD 0 = true := by
  rw [BitVec.and_one_eq_setWidth_ofBool_getLsbD]
  cases h : c.getLsbD 0 with
  | false => simp
  | true =>
    have hw := BitVec.lt_of_getLsbD h
    refine iff_of_true (fun hzero => ?_) rfl
    have hbit := congrArg (BitVec.getLsbD · 0) hzero
    simp [hw] at hbit

/-- A shift of a sum is the sum of the shifts. -/
theorem shift_xor (a b : BitVec w) :
    shift generator (a ^^^ b) = shift generator a ^^^ shift generator b := by
  unfold shift
  rw [BitVec.getLsbD_xor, BitVec.ushiftRight_xor_distrib]
  cases a.getLsbD 0 <;> cases b.getLsbD 0
  · rfl
  · exact BitVec.xor_assoc _ _ _
  · simp only [Bool.bne_false, if_true, Bool.false_eq_true, if_false]
    rw [BitVec.xor_assoc, BitVec.xor_comm _ generator, ← BitVec.xor_assoc]
  · simp only [bne_self_eq_false, Bool.false_eq_true, if_false, if_true]
    rw [BitVec.xor_assoc (a >>> 1), BitVec.xor_comm (b >>> 1), ← BitVec.xor_assoc generator,
      BitVec.xor_self, BitVec.zero_xor]

/-- What two registers that take a bit each differ in. -/
theorem feed_xor_feed (c d : BitVec w) (x y : Bool) :
    feed generator c x ^^^ feed generator d y =
      shift generator ((c ^^^ d) ^^^ (lowest x ^^^ lowest y)) := by
  unfold feed
  rw [← shift_xor]
  congr 1
  rw [BitVec.xor_assoc, ← BitVec.xor_assoc (lowest x), BitVec.xor_comm (lowest x) d,
    BitVec.xor_assoc d, ← BitVec.xor_assoc c]

/-- The places above the lowest move down, unless the top place is set anyway. -/
theorem exists_getLsbD_shift (hgenerator : generator.getLsbD (w - 1) = true) {c : BitVec w}
    {i : ℕ} (h : c.getLsbD (i + 1) = true) : ∃ j, i ≤ j ∧ (shift generator c).getLsbD j = true := by
  have hi := BitVec.lt_of_getLsbD h
  unfold shift
  cases c.getLsbD 0 with
  | false =>
    refine ⟨i, Nat.le_refl i, ?_⟩
    rw [if_neg (by simp), BitVec.getLsbD_ushiftRight, Nat.add_comm]
    exact h
  | true =>
    refine ⟨w - 1, by omega, ?_⟩
    have htop : c.getLsbD (1 + (w - 1)) = false := BitVec.getLsbD_of_ge _ _ (by omega)
    rw [if_pos rfl, BitVec.getLsbD_xor, BitVec.getLsbD_ushiftRight, htop, hgenerator]
    rfl

/-- A one in the lowest place sets the top place. -/
theorem getLsbD_shift_top (hgenerator : generator.getLsbD (w - 1) = true) {c : BitVec w}
    (h : c.getLsbD 0 = true) : (shift generator c).getLsbD (w - 1) = true := by
  have hw := BitVec.lt_of_getLsbD h
  have htop : c.getLsbD (1 + (w - 1)) = false := BitVec.getLsbD_of_ge _ _ (by omega)
  unfold shift
  rw [if_pos h, BitVec.getLsbD_xor, BitVec.getLsbD_ushiftRight, htop, hgenerator]
  rfl

/-! ## Bursts -/

/-- Strings that differ at most within so many places in a row. -/
structure Burst (n : ℕ) (xs ys : List Bool) : Prop where
  length : xs.length = ys.length
  within : ∃ start, ∀ i, xs[i]? ≠ ys[i]? → start ≤ i ∧ i < start + n

/-- Registers that differ far enough above the lowest place still differ when the strings that
they take agree from there on. -/
theorem register_ne_register (hgenerator : generator.getLsbD (w - 1) = true) {c d : BitVec w}
    {xs ys : List Bool} (hlength : xs.length = ys.length) {k i : ℕ} (hk : k ≤ i)
    (hi : (c ^^^ d).getLsbD i = true) (hagree : ∀ j, k ≤ j → xs[j]? = ys[j]?) :
    register generator c xs ≠ register generator d ys := by
  induction xs generalizing ys c d k i with
  | nil =>
    obtain rfl := List.eq_nil_of_length_eq_zero hlength.symm
    intro hsame
    rw [show c = d from hsame, BitVec.xor_self, BitVec.getLsbD_zero] at hi
    cases hi
  | cons x xs ih =>
    obtain ⟨y, ys, rfl⟩ : ∃ y rest, ys = y :: rest :=
      List.exists_cons_of_ne_nil (List.ne_nil_of_length_eq_add_one hlength.symm)
    have htails : xs.length = ys.length := Nat.succ.inj hlength
    have hrest : ∀ j, k - 1 ≤ j → xs[j]? = ys[j]? := fun j hj => by
      have hnext := hagree (j + 1) (by omega)
      rwa [List.getElem?_cons_succ, List.getElem?_cons_succ] at hnext
    have hdiffer := feed_xor_feed generator c d x y
    have hbelow := BitVec.lt_of_getLsbD hi
    have hgo : ∃ j, k - 1 ≤ j ∧
        (feed generator c x ^^^ feed generator d y).getLsbD j = true := by
      rw [hdiffer]
      by_cases hlow : ((c ^^^ d) ^^^ (lowest x ^^^ lowest y)).getLsbD 0 = true
      · exact ⟨w - 1, by omega, getLsbD_shift_top generator hgenerator hlow⟩
      · have hkept : ((c ^^^ d) ^^^ (lowest x ^^^ lowest y)).getLsbD i = true := by
          rcases Nat.eq_zero_or_pos i with rfl | hpos
          · -- the lowest place: the strings still agree there
            have hsame := hagree 0 hk
            rw [List.getElem?_cons_zero, List.getElem?_cons_zero, Option.some.injEq] at hsame
            rw [hsame, BitVec.xor_self, BitVec.xor_zero]
            exact hi
          · have hne : i ≠ 0 := by omega
            rw [BitVec.getLsbD_xor, hi, BitVec.getLsbD_xor, getLsbD_lowest, getLsbD_lowest]
            simp [hne]
        have hpos : i ≠ 0 := fun h => hlow (h ▸ hkept)
        obtain ⟨j, hj, hset⟩ := exists_getLsbD_shift generator hgenerator
          (show _ = true by rwa [show i = i - 1 + 1 by omega] at hkept)
        exact ⟨j, by omega, hset⟩
    obtain ⟨j, hj, hset⟩ := hgo
    show register generator (feed generator c x) xs ≠ register generator (feed generator d y) ys
    exact ih htails hj hset hrest

/-- Strings that differ in one burst no longer than the register leave different registers. -/
theorem register_ne_of_burst (hgenerator : generator.getLsbD (w - 1) = true) {n : ℕ} (hn : n ≤ w)
    {c : BitVec w} {xs ys : List Bool} (h : Burst n xs ys) (hne : xs ≠ ys) :
    register generator c xs ≠ register generator c ys := by
  obtain ⟨hlength, start, hwithin⟩ := h
  induction xs generalizing ys c start with
  | nil => exact absurd (List.eq_nil_of_length_eq_zero hlength.symm).symm hne
  | cons x xs ih =>
    obtain ⟨y, ys, rfl⟩ : ∃ y rest, ys = y :: rest :=
      List.exists_cons_of_ne_nil (List.ne_nil_of_length_eq_add_one hlength.symm)
    have htails : xs.length = ys.length := Nat.succ.inj hlength
    have hrest (i : ℕ) (hi : xs[i]? ≠ ys[i]?) : start ≤ i + 1 ∧ i + 1 < start + n :=
      hwithin (i + 1) (by rwa [List.getElem?_cons_succ, List.getElem?_cons_succ])
    by_cases hxy : x = y
    · subst hxy
      refine ih (fun h => hne (by rw [h])) htails (start - 1) fun i hi => ?_
      have hbounds := hrest i hi
      omega
    · have hzero := hwithin 0 (by
        rw [List.getElem?_cons_zero, List.getElem?_cons_zero]
        exact fun h => hxy (Option.some.inj h))
      have hw : 0 < w := by omega
      have hlow : ((c ^^^ c) ^^^ (lowest x ^^^ lowest y)).getLsbD 0 = true := by
        rw [BitVec.xor_self, BitVec.zero_xor, BitVec.getLsbD_xor, getLsbD_lowest, getLsbD_lowest]
        cases x <;> cases y <;> simp_all
      have htop := getLsbD_shift_top generator hgenerator hlow
      rw [← feed_xor_feed] at htop
      show register generator (feed generator c x) xs ≠ register generator (feed generator c y) ys
      refine register_ne_register generator hgenerator htails
        (show n - 1 ≤ w - 1 by omega) htop fun j hj => ?_
      by_contra hdiffer
      have hbounds := hrest j hdiffer
      omega

/-- A burst that spans two strings is one in the first, when these differ. -/
theorem Burst.left {n : ℕ} {xs ys xs' ys' : List Bool} (h : Burst n (xs ++ xs') (ys ++ ys'))
    (hlength : xs.length = ys.length) : Burst n xs ys := by
  obtain ⟨-, start, hwithin⟩ := h
  refine ⟨hlength, start, fun i hi => hwithin i ?_⟩
  have hlt : i < xs.length := by
    by_contra hge
    rw [List.getElem?_eq_none (by omega), List.getElem?_eq_none (by omega)] at hi
    exact hi rfl
  rwa [List.getElem?_append_left hlt, List.getElem?_append_left (by omega)]

/-- And one in the second. -/
theorem Burst.right {n : ℕ} {xs ys xs' ys' : List Bool} (h : Burst n (xs ++ xs') (ys ++ ys'))
    (hlength : xs.length = ys.length) : Burst n xs' ys' := by
  obtain ⟨hall, start, hwithin⟩ := h
  rw [List.length_append, List.length_append] at hall
  refine ⟨by omega, start - xs.length, fun i hi => ?_⟩
  have hbounds := hwithin (xs.length + i) (by
    rw [List.getElem?_append_right (by omega), hlength, List.getElem?_append_right (by omega)]
    simpa using hi)
  omega

/-- A shorter burst is one that is allowed to be longer. -/
theorem Burst.mono {m n : ℕ} {xs ys : List Bool} (h : Burst m xs ys) (hmn : m ≤ n) :
    Burst n xs ys := by
  obtain ⟨hlength, start, hwithin⟩ := h
  refine ⟨hlength, start, fun i hi => ?_⟩
  have hbounds := hwithin i hi
  omega

/-! ## A byte at a time -/

/-- Only shifts that bring a one down add the generator. -/
theorem iterate_shift_eq {k : ℕ} {c : BitVec w} (h : ∀ i < k, c.getLsbD i = false) :
    (shift generator)^[k] c = c >>> k := by
  induction k with
  | zero => simp
  | succ k ih =>
    have hlow : (c >>> k).getLsbD 0 = false := by
      rw [BitVec.getLsbD_ushiftRight]
      exact h k (by omega)
    rw [Function.iterate_succ_apply', ih fun i hi => h i (by omega)]
    unfold shift
    rw [hlow, if_neg (by simp), BitVec.shiftRight_add]

/-- Many shifts of a sum. -/
theorem iterate_shift_xor (k : ℕ) (a b : BitVec w) :
    (shift generator)^[k] (a ^^^ b) = (shift generator)^[k] a ^^^ (shift generator)^[k] b := by
  induction k generalizing a b with
  | zero => rfl
  | succ k ih => rw [Function.iterate_succ_apply, shift_xor, ih]; rfl

/-- Shifts lose nothing. -/
theorem shift_injective (hgenerator : generator.getLsbD (w - 1) = true) :
    Function.Injective (shift generator) := by
  intro a b h
  by_contra hne
  have hzero : a ^^^ b ≠ 0#w := fun hxor => hne (BitVec.xor_eq_zero_iff.mp hxor)
  obtain ⟨i, hi⟩ : ∃ i, (a ^^^ b).getLsbD i = true := by
    by_contra hnone
    refine hzero (BitVec.eq_of_getLsbD_eq fun i _ => ?_)
    rw [BitVec.getLsbD_zero, ← Bool.not_eq_true]
    exact fun hi => hnone ⟨i, hi⟩
  have hshift : (shift generator (a ^^^ b)) = 0#w := by
    rw [shift_xor, h, BitVec.xor_self]
  have hset : ∃ j, (shift generator (a ^^^ b)).getLsbD j = true := by
    cases i with
    | zero => exact ⟨_, getLsbD_shift_top generator hgenerator hi⟩
    | succ i =>
      obtain ⟨j, -, hj⟩ := exists_getLsbD_shift generator hgenerator hi
      exact ⟨j, hj⟩
  obtain ⟨j, hj⟩ := hset
  rw [hshift, BitVec.getLsbD_zero] at hj
  cases hj

/-- A string that is no longer than the register can be added at once and shifted out. -/
theorem register_eq_iterate (c : BitVec w) {bits : List Bool} (h : bits.length ≤ w) :
    register generator c bits =
      (shift generator)^[bits.length] (c ^^^ (BitVec.ofBoolListLE bits).setWidth w) := by
  induction bits generalizing c with
  | nil =>
    have hzero : (BitVec.ofBoolListLE []).setWidth w = 0#w := by
      apply BitVec.eq_of_getLsbD_eq
      simp
    rw [hzero, BitVec.xor_zero]
    rfl
  | cons bit bits ih =>
    rw [List.length_cons] at h
    have hword : (BitVec.ofBoolListLE (bit :: bits)).setWidth w =
        (lowest bit : BitVec w) ^^^ ((BitVec.ofBoolListLE bits).setWidth w <<< 1) := by
      apply BitVec.eq_of_getLsbD_eq
      intro i hi
      rw [BitVec.getLsbD_setWidth, BitVec.getLsbD_ofBoolListLE, BitVec.getLsbD_xor, getLsbD_lowest,
        BitVec.getLsbD_shiftLeft, BitVec.getLsbD_setWidth, BitVec.getLsbD_ofBoolListLE]
      cases i with
      | zero => simp [hi]
      | succ i =>
        have hbelow : i < w := by omega
        simp [hi, hbelow]
    have hup : shift generator ((BitVec.ofBoolListLE bits).setWidth w <<< 1) =
        (BitVec.ofBoolListLE bits).setWidth w := by
      apply BitVec.eq_of_getLsbD_eq
      intro i hi
      unfold shift
      rw [if_neg (by simp), BitVec.getLsbD_ushiftRight, BitVec.getLsbD_shiftLeft,
        BitVec.getLsbD_setWidth, BitVec.getLsbD_setWidth, BitVec.getLsbD_ofBoolListLE,
        BitVec.getLsbD_ofBoolListLE]
      by_cases htop : i + 1 < w
      · have hplace : 1 + i < w := by omega
        simp [hplace, hi]
      · have hplace : ¬ 1 + i < w := by omega
        have hshort : bits.getD i false = false := by
          rw [List.getD_eq_getElem?_getD, List.getElem?_eq_none (by omega)]
          rfl
        rw [hshort]
        simp [hplace]
    rw [hword, List.length_cons, Function.iterate_succ_apply, ← BitVec.xor_assoc, shift_xor, hup,
      ← ih _ (by omega)]
    rfl

/-- A string that ends in the complement of the register leaves one that does not depend on it,
and only such a string does. -/
theorem register_append_eq_iff (hgenerator : generator.getLsbD (w - 1) = true) (c : BitVec w)
    (bits : List Bool) {tail : List Bool} {k : ℕ} (hk : tail.length = k) (hw : k ≤ w)
    {check : BitVec w} (hcheck : (BitVec.ofBoolListLE tail).setWidth w = check) :
    register generator c (bits ++ tail) = (shift generator)^[k] (BitVec.allOnes w) ↔
      check = ~~~ register generator c bits := by
  subst hk hcheck
  have happend : register generator c (bits ++ tail) =
      register generator (register generator c bits) tail := List.foldl_append
  rw [happend, register_eq_iterate generator _ hw,
    ((shift_injective generator hgenerator).iterate _).eq_iff]
  constructor
  · intro hsum
    rw [← BitVec.xor_allOnes, ← hsum, ← BitVec.xor_assoc, BitVec.xor_self, BitVec.zero_xor]
  · intro htail
    rw [htail, ← BitVec.xor_allOnes, ← BitVec.xor_assoc, BitVec.xor_self, BitVec.zero_xor]

/-- The bits of a byte, the lowest first. -/
def byteBits (b : BitVec 8) : List Bool := List.ofFn fun i : Fin 8 => b.getLsbD i

@[simp] theorem length_byteBits (b : BitVec 8) : (byteBits b).length = 8 := List.length_ofFn

/-- A bit of a byte. -/
theorem getElem?_byteBits (b : BitVec 8) {i : ℕ} (h : i < 8) :
    (byteBits b)[i]? = some (b.getLsbD i) := by
  unfold byteBits
  rw [List.getElem?_ofFn, dif_pos h]

/-- Which are the byte. -/
theorem ofBoolListLE_byteBits (b : BitVec 8) :
    (BitVec.ofBoolListLE (byteBits b)).setWidth w = b.setWidth w := by
  apply BitVec.eq_of_getLsbD_eq
  intro i _
  rw [BitVec.getLsbD_setWidth, BitVec.getLsbD_setWidth, BitVec.getLsbD_ofBoolListLE]
  congr 1
  rw [List.getD_eq_getElem?_getD]
  by_cases hi : i < 8
  · rw [getElem?_byteBits b hi]
    rfl
  · rw [List.getElem?_eq_none (by rw [length_byteBits]; omega),
      BitVec.getLsbD_of_ge b i (by omega)]
    rfl

/-- A byte is taken by adding it and shifting eight times. -/
theorem register_byteBits (h : 8 ≤ w) (c : BitVec w) (b : BitVec 8) :
    register generator c (byteBits b) = (shift generator)^[8] (c ^^^ b.setWidth w) := by
  rw [register_eq_iterate generator c (by rw [length_byteBits]; exact h), ofBoolListLE_byteBits,
    length_byteBits]

/-- Eight shifts by a table: those of the lowest byte, and the rest moved down. -/
theorem iterate_shift_eight (c : BitVec w) : (shift generator)^[8] c =
    (c >>> 8) ^^^ (shift generator)^[8] ((c.setWidth 8).setWidth w) := by
  have hsplit : c = (c ^^^ (c.setWidth 8).setWidth w) ^^^ (c.setWidth 8).setWidth w := by
    rw [BitVec.xor_assoc, BitVec.xor_self, BitVec.xor_zero]
  have hlow : ∀ i < 8, (c ^^^ (c.setWidth 8).setWidth w).getLsbD i = false := by
    intro i hi
    rw [BitVec.getLsbD_xor, BitVec.getLsbD_setWidth, BitVec.getLsbD_setWidth]
    by_cases hw : i < w
    · simp [hi, hw]
    · simp [hw, BitVec.getLsbD_of_ge c i (by omega)]
  have hhigh : (c ^^^ (c.setWidth 8).setWidth w) >>> 8 = c >>> 8 := by
    apply BitVec.eq_of_getLsbD_eq
    intro i _
    simp [BitVec.getLsbD_ushiftRight]
  conv_lhs => rw [hsplit]
  rw [iterate_shift_xor, iterate_shift_eq generator hlow, hhigh]

end Crc
