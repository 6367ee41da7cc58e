import Mathlib.Data.List.Basic

/-!
# JSON values, ordered maps and strings

The data the daemon stores and sends is built from `serde_json::Value` and
`BTreeMap`. Objects keep their members as a list; ordered maps with string
keys are Lean's extensional tree maps, so two maps are equal exactly when they
hold the same entries. The string functions follow the Rust standard library.
-/

namespace Republisher

/-- `serde_json::Number`: an unsigned, a negative, or a finite `f64` given by its bits. -/
inductive JsonNumber
  | posInt (n : UInt64)
  | negInt (n : Int64)
  | float (bits : UInt64)
  deriving DecidableEq

/-- `serde_json::Value`. -/
inductive Json
  | null
  | bool (b : Bool)
  | number (n : JsonNumber)
  | string (s : String)
  | array (items : List Json)
  | object (members : List (String × Json))

mutual
/-- Structural comparison of two values. -/
def Json.same : Json → Json → Bool
  | .null, .null => true
  | .bool a, .bool b => a == b
  | .number a, .number b => a == b
  | .string a, .string b => a == b
  | .array xs, .array ys => Json.sameItems xs ys
  | .object xs, .object ys => Json.sameMembers xs ys
  | _, _ => false

/-- Structural comparison of two array bodies. -/
def Json.sameItems : List Json → List Json → Bool
  | [], [] => true
  | x :: xs, y :: ys => x.same y && Json.sameItems xs ys
  | _, _ => false

/-- Structural comparison of two object bodies. -/
def Json.sameMembers : List (String × Json) → List (String × Json) → Bool
  | [], [] => true
  | (k, x) :: xs, (l, y) :: ys => k == l && x.same y && Json.sameMembers xs ys
  | _, _ => false
end

mutual
/-- Structural comparison decides equality of values. -/
theorem Json.same_iff : ∀ a b : Json, a.same b = true ↔ a = b
  | .null, b => by cases b <;> simp [Json.same]
  | .bool _, b => by cases b <;> simp [Json.same]
  | .number _, b => by cases b <;> simp [Json.same]
  | .string _, b => by cases b <;> simp [Json.same]
  | .array xs, b => by cases b <;> simp [Json.same, Json.sameItems_iff xs]
  | .object xs, b => by cases b <;> simp [Json.same, Json.sameMembers_iff xs]

/-- Structural comparison decides equality of array bodies. -/
theorem Json.sameItems_iff : ∀ xs ys : List Json, Json.sameItems xs ys = true ↔ xs = ys
  | [], ys => by cases ys <;> simp [Json.sameItems]
  | x :: xs, ys => by
    cases ys <;> simp [Json.sameItems, Json.same_iff x, Json.sameItems_iff xs]

/-- Structural comparison decides equality of object bodies. -/
theorem Json.sameMembers_iff :
    ∀ xs ys : List (String × Json), Json.sameMembers xs ys = true ↔ xs = ys
  | [], ys => by cases ys <;> simp [Json.sameMembers]
  | (k, x) :: xs, ys => by
    rcases ys with _ | ⟨⟨l, y⟩, ys⟩ <;>
      simp [Json.sameMembers, Json.same_iff x, Json.sameMembers_iff xs]
end

instance : DecidableEq Json := fun a b => decidable_of_iff _ (Json.same_iff a b)

/-- The bits of the zero with a minus sign. -/
def negativeZeroBits : UInt64 := 0x8000000000000000

/-- The number with one zero for the two floats that `==` takes for equal. -/
def JsonNumber.oneZero : JsonNumber → JsonNumber
  | .float bits => .float (if bits = negativeZeroBits then 0 else bits)
  | n => n

mutual
/-- The value with one zero for two. `==` on `serde_json::Value` is equality of these. -/
def Json.oneZero : Json → Json
  | .null => .null
  | .bool b => .bool b
  | .number n => .number n.oneZero
  | .string s => .string s
  | .array items => .array (Json.oneZeroItems items)
  | .object members => .object (Json.oneZeroMembers members)

/-- The items of an array with one zero. -/
def Json.oneZeroItems : List Json → List Json
  | [] => []
  | x :: xs => x.oneZero :: Json.oneZeroItems xs

/-- The members of an object with one zero. -/
def Json.oneZeroMembers : List (String × Json) → List (String × Json)
  | [] => []
  | (k, x) :: xs => (k, x.oneZero) :: Json.oneZeroMembers xs
end

example : (Json.number (.float negativeZeroBits)).oneZero = (Json.number (.float 0)).oneZero := rfl

/-- A lower-case hexadecimal digit. -/
def hexDigit (n : ℕ) : Char :=
  if n < 10 then Char.ofNat (48 + n) else Char.ofNat (87 + n)

/-- One character inside a JSON string literal. Only the quotation mark, the
backslash and the control characters are escaped. -/
def escapeChar (c : Char) : List Char :=
  match c.toNat with
  | 34 => ['\\', c]
  | 92 => ['\\', c]
  | 8 => ['\\', 'b']
  | 9 => ['\\', 't']
  | 10 => ['\\', 'n']
  | 12 => ['\\', 'f']
  | 13 => ['\\', 'r']
  | n => if n < 32 then ['\\', 'u', '0', '0', hexDigit (n / 16), hexDigit (n % 16)] else [c]

/-- A JSON string literal. -/
def quote (s : String) : String :=
  String.ofList (Char.ofNat 34 :: (s.toList.flatMap escapeChar ++ [Char.ofNat 34]))

/-- The text of a number. Finite floats are printed by `floatText`. -/
def JsonNumber.render (floatText : UInt64 → String) : JsonNumber → String
  | .posInt n => toString n.toNat
  | .negInt n => toString n.toInt
  | .float bits => floatText bits

mutual
/-- The compact text of a value, as `Display` for `serde_json::Value` prints it. -/
def Json.render (floatText : UInt64 → String) : Json → String
  | .null => "null"
  | .bool true => "true"
  | .bool false => "false"
  | .number n => n.render floatText
  | .string s => quote s
  | .array items => "[" ++ ",".intercalate (Json.renderItems floatText items) ++ "]"
  | .object members =>
      "\x7b" ++ ",".intercalate (Json.renderMembers floatText members) ++ "\x7d"

/-- The texts of the items of an array. -/
def Json.renderItems (floatText : UInt64 → String) : List Json → List String
  | [] => []
  | x :: xs => x.render floatText :: Json.renderItems floatText xs

/-- The texts of the members of an object. -/
def Json.renderMembers (floatText : UInt64 → String) : List (String × Json) → List String
  | [] => []
  | (k, x) :: xs =>
      (quote k ++ ":" ++ x.render floatText) :: Json.renderMembers floatText xs
end

/-- `BTreeMap<String, α>`. -/
abbrev StringMap (α : Type) := Std.ExtTreeMap String α compare

/-- `proto_api::Addressing`: the field values of a point or of a connection. -/
abbrev Addressing := StringMap Json

/-- `char::is_whitespace`: the Unicode property `White_Space`. -/
def isWhitespace (c : Char) : Bool :=
  let n := c.toNat
  (9 ≤ n && n ≤ 13) || n == 32 || n == 133 || n == 160 || n == 5760 ||
    (8192 ≤ n && n ≤ 8202) || n == 8232 || n == 8233 || n == 8239 || n == 8287 || n == 12288

/-- `str::trim` on the characters of a string. -/
def trimChars (cs : List Char) : List Char :=
  ((cs.dropWhile isWhitespace).reverse.dropWhile isWhitespace).reverse

/-- `str::trim`. -/
def trim (s : String) : String := String.ofList (trimChars s.toList)

/-- The decimal value of a list of digits, `none` at any other character. -/
def digitsValue : ℕ → List Char → Option ℕ
  | acc, [] => some acc
  | acc, c :: cs => if c.isDigit then digitsValue (10 * acc + (c.toNat - 48)) cs else none

/-- The integer an unsigned `from_str` reads: an optional plus sign and at least
one digit, with a value below the bound of the type. -/
def parseUnsigned (bound : ℕ) (s : String) : Option ℕ :=
  let digits := match s.toList with
    | '+' :: cs => cs
    | cs => cs
  if digits.isEmpty then none
  else (digitsValue 0 digits).filter (· < bound)

/-- `str::parse::<u64>`. -/
def parseU64 (s : String) : Option UInt64 :=
  (parseUnsigned UInt64.size s).map UInt64.ofNat

example : parseU64 "+042" = some 42 := by decide

example : parseU64 (trim "\t 7 x") = none := by decide

end Republisher
