import Mathlib.Data.List.Basic
import Mathlib.Data.Nat.Notation

/-!
# Bytes on a wire

Words of two bytes in network order, and tables of records that all take the same number of
bytes. A table of records is read back from what was written, and only from that.
-/

namespace Wire

/-! ## Words of two bytes -/

/-- The upper byte of a word. -/
def high (n : UInt16) : UInt8 := UInt8.ofNat (n.toNat / 256)

/-- The lower byte of a word. -/
def low (n : UInt16) : UInt8 := UInt8.ofNat n.toNat

/-- The word of two bytes in network order. -/
def word (hi lo : UInt8) : UInt16 := UInt16.ofNat (hi.toNat * 256 + lo.toNat)

/-- The two bytes of a word in network order. -/
def be (n : UInt16) : List UInt8 := [high n, low n]

@[simp] theorem be_length (n : UInt16) : (be n).length = 2 := rfl

/-- A word is read back from its two bytes. -/
@[simp] theorem word_high_low (n : UInt16) : word (high n) (low n) = n := by
  have hn := n.toNat_lt
  apply UInt16.toNat_inj.mp
  simp only [word, high, low, UInt16.toNat_ofNat', UInt8.toNat_ofNat']
  omega

/-- The upper byte of the word of two bytes. -/
@[simp] theorem high_word (hi lo : UInt8) : high (word hi lo) = hi := by
  have hhi := hi.toNat_lt
  have hlo := lo.toNat_lt
  apply UInt8.toNat_inj.mp
  simp only [word, high, UInt16.toNat_ofNat', UInt8.toNat_ofNat']
  omega

/-- The lower byte of the word of two bytes. -/
@[simp] theorem low_word (hi lo : UInt8) : low (word hi lo) = lo := by
  have hhi := hi.toNat_lt
  have hlo := lo.toNat_lt
  apply UInt8.toNat_inj.mp
  simp only [word, low, UInt16.toNat_ofNat', UInt8.toNat_ofNat']
  omega

/-! ## Pieces of one width -/

section Chunks

variable {β : Type*} {width : ℕ}

/-- The pieces of a width, as many as are whole. -/
def chunks (width : ℕ) (data : List β) : List (List β) :=
  (List.range (data.length / width)).map fun i => (data.drop (i * width)).take width

/-- There is no piece in too few items. -/
theorem chunks_of_lt {data : List β} (h : data.length < width) : chunks width data = [] := by
  rw [chunks, Nat.div_eq_of_lt h]
  rfl

/-- The first piece stands in front of the pieces of the rest. -/
theorem chunks_append (hwidth : 0 < width) {piece : List β} (hpiece : piece.length = width)
    (rest : List β) : chunks width (piece ++ rest) = piece :: chunks width rest := by
  have hcount : (piece ++ rest).length / width = rest.length / width + 1 := by
    rw [List.length_append, hpiece, Nat.add_div_left _ hwidth]
  rw [chunks, hcount, List.range_succ_eq_map, List.map_cons, List.map_map]
  congr 1
  · rw [Nat.zero_mul, List.drop_zero, ← hpiece, List.take_left]
  · apply List.map_congr_left
    intro i _
    have hskip : (i + 1) * width = piece.length + i * width := by
      rw [hpiece, Nat.add_one_mul, Nat.add_comm]
    simp only [Function.comp, Nat.succ_eq_add_one]
    rw [hskip, List.drop_length_add_append]

/-- Every piece has the width. -/
theorem length_of_mem_chunks {data piece : List β} (h : piece ∈ chunks width data) :
    piece.length = width := by
  obtain ⟨i, hi, rfl⟩ := List.mem_map.mp h
  have hi := List.mem_range.mp hi
  have hfit : (i + 1) * width ≤ data.length :=
    Nat.le_trans (Nat.mul_le_mul_right width hi) (Nat.div_mul_le_self _ _)
  rw [Nat.add_one_mul] at hfit
  rw [List.length_take, List.length_drop]
  omega

/-- A text that is cut without rest is its pieces in order. -/
theorem flatten_chunks (hwidth : 0 < width) {data : List β} (h : width ∣ data.length) :
    (chunks width data).flatten = data := by
  obtain ⟨count, hcount⟩ := h
  induction count generalizing data with
  | zero =>
    obtain rfl := List.length_eq_zero_iff.mp (by omega)
    rw [chunks_of_lt (by simpa using hwidth)]
    rfl
  | succ count ih =>
    have hlong : width ≤ data.length := by
      rw [hcount, Nat.mul_succ]
      omega
    have hfirst : (data.take width).length = width := by
      rw [List.length_take]
      omega
    have hrest : (data.drop width).length = width * count := by
      rw [List.length_drop, hcount, Nat.mul_succ]
      omega
    have hsplit : data = data.take width ++ data.drop width := (List.take_append_drop _ _).symm
    rw [hsplit, chunks_append hwidth hfirst, List.flatten_cons, ih hrest]

end Chunks

/-! ## Tables of records -/

/-- Items that are written with the same number of bytes each. -/
structure Record (α : Type*) where
  width : ℕ
  encode : α → List UInt8
  decode : List UInt8 → α
  width_pos : 0 < width
  length_encode : ∀ a, (encode a).length = width
  decode_encode : ∀ a, decode (encode a) = a
  encode_decode : ∀ data, data.length = width → encode (decode data) = data

namespace Record

variable {α : Type*} (r : Record α)

/-- A table is its records one after the other. -/
def encodeAll (items : List α) : List UInt8 := items.flatMap r.encode

/-- The records of a table. -/
def decodeAll (data : List UInt8) : List α := (chunks r.width data).map r.decode

/-- The length of a table. -/
theorem length_encodeAll (items : List α) :
    (r.encodeAll items).length = items.length * r.width := by
  induction items with
  | nil => simp [encodeAll]
  | cons a items ih =>
    have hcons : r.encodeAll (a :: items) = r.encode a ++ r.encodeAll items := List.flatMap_cons
    rw [hcons, List.length_append, r.length_encode, ih, List.length_cons, Nat.add_one_mul]
    omega

/-- A written table is read back. -/
theorem decodeAll_encodeAll (items : List α) : r.decodeAll (r.encodeAll items) = items := by
  induction items with
  | nil =>
    rw [decodeAll, chunks_of_lt (by simpa [encodeAll] using r.width_pos)]
    rfl
  | cons a items ih =>
    have hcons : r.encodeAll (a :: items) = r.encode a ++ r.encodeAll items := List.flatMap_cons
    rw [hcons, decodeAll, chunks_append r.width_pos (r.length_encode a), List.map_cons,
      r.decode_encode]
    exact congrArg _ ih

/-- What is read as a table without rest is that table. -/
theorem encodeAll_decodeAll {data : List UInt8} (h : r.width ∣ data.length) :
    r.encodeAll (r.decodeAll data) = data := by
  have hpieces : (chunks r.width data).map (r.encode ∘ r.decode) = chunks r.width data := by
    rw [List.map_congr_left (g := id), List.map_id]
    intro piece hpiece
    exact r.encode_decode piece (length_of_mem_chunks hpiece)
  rw [encodeAll, decodeAll, List.flatMap_def, List.map_map, hpieces, flatten_chunks r.width_pos h]

end Record

end Wire
