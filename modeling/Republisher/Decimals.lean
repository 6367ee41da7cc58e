import Republisher.Json

/-!
# Decimal numbers

What is printed in decimal is read back as the same number, by `str::parse` and after
`str::trim`.
-/

namespace Republisher

/-- Digits are read from left to right. -/
theorem digitsValue_append (acc : ℕ) (front back : List Char) :
    digitsValue acc (front ++ back) =
      (digitsValue acc front).bind fun value => digitsValue value back := by
  induction front generalizing acc with
  | nil => rfl
  | cons c front ih =>
    rw [List.cons_append, digitsValue, digitsValue]
    split
    · exact ih _
    · rfl

/-- What is read as a number are digits. -/
theorem isDigit_of_digitsValue {acc n : ℕ} {digits : List Char}
    (h : digitsValue acc digits = some n) : ∀ c ∈ digits, c.isDigit = true := by
  induction digits generalizing acc with
  | nil => simp
  | cons c digits ih =>
    rw [digitsValue] at h
    obtain ⟨hdigit, hrest⟩ := Option.ite_none_right_eq_some.mp h
    rw [List.forall_mem_cons]
    exact ⟨hdigit, ih hrest⟩

/-- One digit. -/
theorem digitsValue_digitChar (acc : ℕ) {d : ℕ} (hd : d < 10) :
    digitsValue acc [d.digitChar] = some (10 * acc + d) := by
  have hdigit : d.digitChar.isDigit = true := by
    rw [Nat.isDigit_digitChar]
    exact decide_eq_true hd
  rw [digitsValue, if_pos hdigit, Nat.toNat_digitChar_sub_48_of_lt_ten hd, digitsValue]

/-- The digits of a number have its value. -/
theorem digitsValue_toDigits (n : ℕ) : digitsValue 0 (Nat.toDigits 10 n) = some n := by
  induction n using Nat.strongRecOn with
  | ind n ih =>
    by_cases hn : n < 10
    · rw [Nat.toDigits_of_lt_base hn, digitsValue_digitChar 0 hn, Nat.mul_zero, Nat.zero_add]
    · have hsplit : n = 10 * (n / 10) + n % 10 := by omega
      have hlast : n % 10 < 10 := by omega
      have happend := Nat.toDigits_append_toDigits (b := 10) (by decide)
        (by omega : 0 < n / 10) hlast
      rw [← hsplit] at happend
      rw [← happend, digitsValue_append, ih (n / 10) (by omega), Option.bind_some,
        Nat.toDigits_of_lt_base hlast, digitsValue_digitChar _ hlast, ← hsplit]

/-- The characters of a printed number. -/
theorem toList_toString (n : ℕ) : (toString n).toList = Nat.toDigits 10 n := by
  rw [Nat.toString_eq_repr, Nat.toList_repr]

/-- They are digits. -/
theorem isDigit_of_mem_toString {n : ℕ} {c : Char} (h : c ∈ (toString n).toList) :
    c.isDigit = true := by
  rw [toList_toString] at h
  exact Nat.isDigit_of_mem_toDigits (by decide) (by decide) h

/-- A text that does not begin with a plus sign is read as it is. -/
theorem parseUnsigned_of_no_plus {s : String} (h : ∀ cs, s.toList ≠ '+' :: cs) (bound : ℕ) :
    parseUnsigned bound s =
      if s.toList.isEmpty then none else (digitsValue 0 s.toList).filter (· < bound) := by
  rw [parseUnsigned]
  split
  · rename_i digits cs hplus
    exact absurd hplus (h cs)
  · rfl

end Republisher
