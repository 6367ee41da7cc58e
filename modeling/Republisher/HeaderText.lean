import Republisher.Http

/-!
# The text of header fields

A header field is a list of bytes, and the daemon reads it as text or not at all. Fields
that have a text are told apart by it, so a comparison of texts is a comparison of bytes.
-/

namespace Republisher

/-- The character that `to_str` makes of a byte. -/
def byteChar (b : UInt8) : Char := Char.ofNat b.toNat

/-- The bytes of a text of ASCII characters. -/
def asciiBytes (text : String) : List UInt8 := text.toList.map fun c => UInt8.ofNat c.toNat

/-- The bytes that `to_str` accepts: visible ASCII characters, spaces and tabs. -/
def visibleByte (b : UInt8) : Bool := (32 ≤ b && b < 127) || b == 9

/-- A field is a text when all its bytes are accepted. -/
theorem HeaderValue.toStr_eq_some {value : HeaderValue} {text : String} :
    value.toStr = some text ↔
      (∀ b ∈ value.bytes, visibleByte b = true) ∧
        text = String.ofList (value.bytes.map byteChar) := by
  have htoStr : value.toStr = if value.bytes.all visibleByte then
      some (String.ofList (value.bytes.map byteChar)) else none := rfl
  rw [htoStr, Option.ite_none_right_eq_some, List.all_eq_true, Option.some.injEq]
  exact and_congr_right fun _ => eq_comm

/-- The characters of the text are those of the bytes. -/
theorem HeaderValue.toList_toStr {value : HeaderValue} {text : String}
    (h : value.toStr = some text) : text.toList = value.bytes.map byteChar := by
  rw [(toStr_eq_some.mp h).2, String.toList_ofList]

/-- The code of the character is the byte. -/
theorem byteChar_toNat (b : UInt8) : (byteChar b).toNat = b.toNat := by
  have hvalid : b.toNat.isValidChar := .inl (Nat.lt_trans b.toNat_lt (by decide))
  rw [byteChar, Char.ofNat, dif_pos hvalid]
  rfl

/-- Different bytes have different characters. -/
theorem byteChar_injective : Function.Injective byteChar := by
  intro b c h
  have htoNat := congrArg Char.toNat h
  rw [byteChar_toNat, byteChar_toNat] at htoNat
  exact UInt8.toNat_inj.mp htoNat

/-- Fields with the same text are the same. -/
theorem HeaderValue.eq_of_toStr {a b : HeaderValue} {text : String} (ha : a.toStr = some text)
    (hb : b.toStr = some text) : a = b := by
  have hbytes : a.bytes.map byteChar = b.bytes.map byteChar :=
    (toList_toStr ha).symm.trans (toList_toStr hb)
  cases a
  cases b
  exact congrArg mk (List.map_injective_iff.mpr byteChar_injective hbytes)

/-- A start of a mapped list is the image of a start of the list. -/
theorem dropPrefix?_map {α β : Type} [BEq α] [LawfulBEq α] [BEq β] [LawfulBEq β] {f : α → β}
    (hf : Function.Injective f) (list start : List α) :
    (list.map f).dropPrefix? (start.map f) = (list.dropPrefix? start).map (List.map f) := by
  induction start generalizing list with
  | nil => simp
  | cons a start ih =>
    cases list with
    | nil => rfl
    | cons b list =>
      rw [List.map_cons, List.map_cons, List.dropPrefix?, List.dropPrefix?]
      by_cases hab : b = a
      · rw [if_pos (beq_iff_eq.mpr hab), if_pos (beq_iff_eq.mpr (congrArg f hab))]
        exact ih list
      · rw [if_neg (mt beq_iff_eq.mp hab), if_neg (mt beq_iff_eq.mp (hf.ne hab))]
        rfl

/-- What follows a start of the list is part of it. -/
theorem mem_of_dropPrefix? {α : Type} [BEq α] {list start rest : List α}
    (h : list.dropPrefix? start = some rest) {a : α} (ha : a ∈ rest) : a ∈ list := by
  obtain ⟨before, rfl, -⟩ := List.dropPrefix?_eq_some_iff.mp h
  exact List.mem_append_right before ha

end Republisher
