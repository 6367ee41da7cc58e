import Mathlib.Data.Int.Notation
import Republisher.Decimals
import Republisher.Delimited

/-!
# The texts of JSON values

Values are printed one after the other, with names and separators between them. The text of a
value can be read back in one way only, whatever comes behind it, as long as a number is not
followed by a character of a number. Outside its strings it has no backslash and no equals sign.
-/

namespace Republisher

open Delimited

/-! ## Values -/

/-- The numbers that `serde_json::Number` can hold: a negative integer is below zero and a
float is finite. -/
def JsonNumber.Valid : JsonNumber → Prop
  | .posInt _ => True
  | .negInt n => n.toInt < 0
  | .float bits => bits >>> 52 &&& 2047 ≠ 2047

instance : DecidablePred JsonNumber.Valid
  | .posInt _ => inferInstanceAs (Decidable True)
  | .negInt n => inferInstanceAs (Decidable (n.toInt < 0))
  | .float bits => inferInstanceAs (Decidable (bits >>> 52 &&& 2047 ≠ 2047))

mutual
/-- Every number in the value has the property. -/
def Json.All (p : JsonNumber → Prop) : Json → Prop
  | .number n => p n
  | .array items => Json.AllItems p items
  | .object members => Json.AllMembers p members
  | .null => True
  | .bool _ => True
  | .string _ => True

/-- Every number in an array body has the property. -/
def Json.AllItems (p : JsonNumber → Prop) : List Json → Prop
  | [] => True
  | x :: xs => x.All p ∧ Json.AllItems p xs

/-- Every number in an object body has the property. -/
def Json.AllMembers (p : JsonNumber → Prop) : List (String × Json) → Prop
  | [] => True
  | (_, x) :: xs => x.All p ∧ Json.AllMembers p xs
end

/-- A value that `serde_json::Value` can hold. -/
def Json.Valid (v : Json) : Prop := v.All JsonNumber.Valid

theorem Json.allItems_iff {p : JsonNumber → Prop} {items : List Json} :
    Json.AllItems p items ↔ ∀ x ∈ items, x.All p := by
  induction items with
  | nil => simp [Json.AllItems]
  | cons x items ih => simp [Json.AllItems, ih]

theorem Json.allMembers_iff {p : JsonNumber → Prop} {members : List (String × Json)} :
    Json.AllMembers p members ↔ ∀ m ∈ members, m.2.All p := by
  induction members with
  | nil => simp [Json.AllMembers]
  | cons m members ih =>
    obtain ⟨k, x⟩ := m
    simp [Json.AllMembers, ih]

/-- Induction on a value whose numbers have a property. -/
theorem Json.All.induction {p : JsonNumber → Prop} {motive : Json → Prop} (null : motive .null)
    (bool : ∀ b, motive (.bool b)) (number : ∀ n, p n → motive (.number n))
    (string : ∀ s, motive (.string s))
    (array : ∀ items, (∀ x ∈ items, x.All p) → (∀ x ∈ items, motive x) → motive (.array items))
    (object : ∀ members, (∀ m ∈ members, m.2.All p) → (∀ m ∈ members, motive m.2) →
      motive (.object members)) (v : Json) : v.All p → motive v := by
  refine @Json.rec (fun v => v.All p → motive v) (fun items => ∀ x ∈ items, x.All p → motive x)
    (fun members => ∀ m ∈ members, m.2.All p → motive m.2) (fun m => m.2.All p → motive m.2)
    (fun _ => null) (fun b _ => bool b) number (fun s _ => string s) ?array ?object
    ?noItems ?items ?noMembers ?members (fun _ _ h => h) v
  case array =>
    intro items ih hitems
    have hall : ∀ x ∈ items, x.All p := Json.allItems_iff.mp hitems
    exact array items hall fun x hx => ih x hx (hall x hx)
  case object =>
    intro members ih hmembers
    have hall : ∀ m ∈ members, m.2.All p := Json.allMembers_iff.mp hmembers
    exact object members hall fun m hm => ih m hm (hall m hm)
  case noItems => exact fun x hx => absurd hx List.not_mem_nil
  case items => exact fun x items hx hitems => List.forall_mem_cons.mpr ⟨hx, hitems⟩
  case noMembers => exact fun m hm => absurd hm List.not_mem_nil
  case members => exact fun m members hm hmembers => List.forall_mem_cons.mpr ⟨hm, hmembers⟩

/-! ## Numbers -/

/-- A character of a number. -/
def isNumberChar (c : Char) : Bool :=
  c.isDigit || c == '-' || c == '+' || c == '.' || c == 'e'

/-- A continuation that does not go on with a number. -/
def EndsNumber (rest : List Char) : Prop := ∀ c ∈ rest.head?, ¬ isNumberChar c = true

/-- What is known of the text of a float: it is the shortest one that reads as the float, so
finite floats have distinct texts, and it has a decimal point or an exponent. -/
structure PrintsFloats (floatText : UInt64 → String) : Prop where
  inj : ∀ a b, JsonNumber.Valid (.float a) → JsonNumber.Valid (.float b) →
    floatText a = floatText b → a = b
  chars : ∀ bits, JsonNumber.Valid (.float bits) →
    ∀ c ∈ (floatText bits).toList, isNumberChar c = true
  marked : ∀ bits, JsonNumber.Valid (.float bits) →
    '.' ∈ (floatText bits).toList ∨ 'e' ∈ (floatText bits).toList

/-- A digit is a character of a number. -/
theorem isNumberChar_of_isDigit {c : Char} (h : c.isDigit = true) : isNumberChar c = true := by
  simp [isNumberChar, h]

/-- A negative integer is printed as its digits behind a minus sign. -/
theorem toList_toString_of_neg {i : ℤ} (h : i < 0) :
    (toString i).toList = '-' :: (toString i.natAbs).toList := by
  cases i with
  | ofNat n => exact absurd h (by simp)
  | negSucc n =>
    show ("-" ++ Nat.repr (n + 1)).toList = _
    rw [String.toList_append]
    rfl

/-- Distinct numbers have distinct digits. -/
theorem toString_inj {m n : ℕ} (h : toString m = toString n) : m = n := by
  have hsame := congrArg (fun s : String => digitsValue 0 s.toList) h
  simp only [toList_toString, digitsValue_toDigits] at hsame
  exact Option.some.inj hsame

/-- The digits of a number have no minus sign, point or exponent. -/
theorem not_mem_toString {n : ℕ} {c : Char} (hc : c.isDigit = false) :
    c ∉ (toString n).toList := fun hmem => by
  rw [isDigit_of_mem_toString hmem] at hc
  cases hc

section Numbers

variable {floatText : UInt64 → String} (hfloat : PrintsFloats floatText)
include hfloat

/-- The text of a number. -/
theorem JsonNumber.render_chars (n : JsonNumber) (hn : n.Valid) :
    ∀ c ∈ (n.render floatText).toList, isNumberChar c = true := by
  intro c hc
  cases n with
  | posInt n => exact isNumberChar_of_isDigit (isDigit_of_mem_toString hc)
  | negInt n =>
    rw [render, toList_toString_of_neg hn] at hc
    rcases List.mem_cons.mp hc with rfl | hc
    · rfl
    · exact isNumberChar_of_isDigit (isDigit_of_mem_toString hc)
  | float bits => exact hfloat.chars bits hn c hc

/-- The text of a float is no text of an integer. -/
theorem PrintsFloats.ne_integer {bits : UInt64} (hbits : JsonNumber.Valid (.float bits))
    {s : String} (hs : '.' ∉ s.toList ∧ 'e' ∉ s.toList) : floatText bits ≠ s := by
  rintro rfl
  exact (hfloat.marked bits hbits).elim hs.1 hs.2

/-- Distinct numbers have distinct texts. -/
theorem JsonNumber.render_inj (a b : JsonNumber) (ha : a.Valid) (hb : b.Valid)
    (h : a.render floatText = b.render floatText) : a = b := by
  have hpos (n : ℕ) : '.' ∉ (toString n).toList ∧ 'e' ∉ (toString n).toList :=
    ⟨not_mem_toString rfl, not_mem_toString rfl⟩
  have hneg {i : ℤ} (hi : i < 0) : '.' ∉ (toString i).toList ∧ 'e' ∉ (toString i).toList := by
    rw [toList_toString_of_neg hi]
    simpa using hpos i.natAbs
  have hcross (n : ℕ) {i : ℤ} (hi : i < 0) : toString n ≠ toString i := by
    intro h
    refine not_mem_toString (n := n) (c := '-') rfl ?_
    rw [h, toList_toString_of_neg hi]
    exact List.mem_cons_self
  cases a with
  | posInt m =>
    cases b with
    | posInt n => rw [UInt64.toNat_inj.mp (toString_inj h)]
    | negInt n => exact absurd h (hcross _ hb)
    | float bits => exact absurd h.symm (hfloat.ne_integer hb (hpos _))
  | negInt m =>
    cases b with
    | posInt n => exact absurd h.symm (hcross _ ha)
    | negInt n =>
      have hlist := congrArg String.toList h
      rw [render, render, toList_toString_of_neg ha, toList_toString_of_neg hb] at hlist
      have habs := toString_inj (String.toList_injective (List.cons.inj hlist).2)
      have hm : m.toInt < 0 := ha
      have hn : n.toInt < 0 := hb
      rw [Int64.toInt_inj.mp (show m.toInt = n.toInt by omega)]
    | float bits => exact absurd h.symm (hfloat.ne_integer hb (hneg ha))
  | float bits =>
    cases b with
    | posInt n => exact absurd h (hfloat.ne_integer ha (hpos _))
    | negInt n => exact absurd h (hfloat.ne_integer ha (hneg hb))
    | float other => rw [hfloat.inj bits other ha hb h]

/-- The text of a number is told apart from the other numbers in front of anything else. -/
theorem JsonNumber.render_tellsApart {n : JsonNumber} (hn : n.Valid) :
    TellsApart (fun n => (n.render floatText).toList) Valid EndsNumber n :=
  TellsApart.of_chars (render_chars hfloat)
    (fun a b ha hb h => render_inj hfloat a b ha hb (String.toList_injective h)) hn

/-- The text of a number begins like one. -/
theorem JsonNumber.render_head {n : JsonNumber} (hn : n.Valid) :
    ∃ c text, (n.render floatText).toList = c :: text ∧ isNumberChar c = true := by
  have hchars := render_chars hfloat n hn
  cases htext : (n.render floatText).toList with
  | nil =>
    cases n with
    | posInt n =>
      rw [render, toList_toString] at htext
      exact absurd htext Nat.toDigits_ne_nil
    | negInt n =>
      rw [render, toList_toString_of_neg hn] at htext
      cases htext
    | float bits =>
      have hmarked := hfloat.marked bits hn
      rw [show (floatText bits).toList = [] from htext] at hmarked
      simp at hmarked
  | cons c text => exact ⟨c, text, rfl, hchars c (htext ▸ List.mem_cons_self)⟩

end Numbers

/-! ## Strings -/

/-- The value of a hexadecimal digit. -/
def hexValue (c : Char) : ℕ :=
  if c.isDigit then c.toNat - 48 else c.toNat - 87

/-- The character whose code is in front of a text, with the text behind it. -/
def unescape : List Char → Option (Char × List Char)
  | '\\' :: 'b' :: rest => some (Char.ofNat 8, rest)
  | '\\' :: 't' :: rest => some (Char.ofNat 9, rest)
  | '\\' :: 'n' :: rest => some (Char.ofNat 10, rest)
  | '\\' :: 'f' :: rest => some (Char.ofNat 12, rest)
  | '\\' :: 'r' :: rest => some (Char.ofNat 13, rest)
  | '\\' :: 'u' :: '0' :: '0' :: high :: low :: rest =>
      some (Char.ofNat (16 * hexValue high + hexValue low), rest)
  | '\\' :: c :: rest => some (c, rest)
  | c :: rest => some (c, rest)
  | [] => none

/-- A hexadecimal digit has its value. -/
theorem hexValue_hexDigit {n : ℕ} (h : n < 16) : hexValue (hexDigit n) = n := by
  revert n
  decide

/-- A character that is not a backslash stands for itself. -/
theorem unescape_plain {c : Char} (h : c ≠ '\\') (rest : List Char) :
    unescape (c :: rest) = some (c, rest) := by
  unfold unescape
  split <;> simp_all

/-- The character is read back from its code. -/
theorem unescape_escapeChar (c : Char) (rest : List Char) :
    unescape (escapeChar c ++ rest) = some (c, rest) := by
  have hchar {n : ℕ} (h : c.toNat = n) : c = Char.ofNat n := by rw [← h, Char.ofNat_toNat]
  unfold escapeChar
  split
  case h_1 h => rw [hchar h]; rfl
  case h_2 h => rw [hchar h]; rfl
  case h_3 h => rw [hchar h]; rfl
  case h_4 h => rw [hchar h]; rfl
  case h_5 h => rw [hchar h]; rfl
  case h_6 h => rw [hchar h]; rfl
  case h_7 h => rw [hchar h]; rfl
  case h_8 hbackslash _ _ _ _ _ =>
    split
    · rename_i hcontrol
      have hhigh := hexValue_hexDigit (show c.toNat / 16 < 16 by omega)
      have hlow := hexValue_hexDigit (show c.toNat % 16 < 16 by omega)
      show some (Char.ofNat (16 * hexValue (hexDigit (c.toNat / 16)) +
        hexValue (hexDigit (c.toNat % 16))), rest) = some (c, rest)
      rw [hhigh, hlow, Nat.div_add_mod, Char.ofNat_toNat]
    · refine unescape_plain ?_ rest
      rintro rfl
      exact hbackslash rfl

/-- A hexadecimal digit is no quotation mark and no backslash. -/
theorem hexDigit_plain {n : ℕ} (h : n < 16) : hexDigit n ≠ Char.ofNat 34 ∧ hexDigit n ≠ '\\' := by
  revert n
  decide

/-- A character is printed as it is, or behind a backslash. -/
theorem escapeChar_cases (c : Char) :
    (escapeChar c = [c] ∧ c ≠ Char.ofNat 34 ∧ c ≠ '\\') ∨
      ∃ d more, escapeChar c = '\\' :: d :: more ∧
        ∀ x ∈ more, x ≠ Char.ofNat 34 ∧ x ≠ '\\' := by
  unfold escapeChar
  split
  case h_8 hquote hbackslash _ _ _ _ _ =>
    split
    · rename_i hcontrol
      refine .inr ⟨_, _, rfl, ?_⟩
      intro x hx
      simp only [List.mem_cons, List.not_mem_nil, or_false] at hx
      rcases hx with rfl | rfl | rfl | rfl
      · decide
      · decide
      · exact hexDigit_plain (by omega)
      · exact hexDigit_plain (by omega)
    · refine .inl ⟨rfl, ?_, ?_⟩
      · rintro rfl
        exact hquote rfl
      · rintro rfl
        exact hbackslash rfl
  all_goals exact .inr ⟨_, [], rfl, by simp⟩

/-- The code of a character does not begin with a quotation mark. -/
theorem escapeChar_head (c : Char) (rest : List Char) :
    (escapeChar c ++ rest).head? ≠ some (Char.ofNat 34) := by
  rcases escapeChar_cases c with ⟨hcode, hquote, -⟩ | ⟨d, more, hcode, -⟩
  · rw [hcode]
    exact fun h => hquote (Option.some.inj h)
  · rw [hcode]
    exact fun h => absurd (Option.some.inj h) (by decide)

/-- A string literal is told apart whatever comes behind it. -/
theorem quote_tellsApart (s : String) :
    TellsApart (fun s => (quote s).toList) (fun _ => True) (fun _ => True) s := by
  intro t rest rest' _ _ _ heq
  have hchars : ∀ c ∈ s.toList, TellsApart escapeChar (fun _ => True) (fun _ => True) c :=
    fun c _ => TellsApart.of_read unescape (fun c rest _ => unescape_escapeChar c rest) trivial
  have hlist : TellsApart (List.flatMap escapeChar) (fun cs => ∀ c ∈ cs, True)
      (fun rest => rest.head? = some (Char.ofNat 34)) s.toList :=
    TellsApart.flatMap (fun _ _ _ _ => trivial) (fun _ _ => trivial)
      (fun c rest _ => escapeChar_head c rest) (fun _ _ => trivial) hchars
  simp only [quote, String.toList_ofList] at heq
  obtain ⟨hsame, hrests⟩ := hlist.enclosed (Char.ofNat 34) t.toList rest rest'
    (fun _ _ => trivial) trivial trivial heq
  exact ⟨String.toList_injective hsame, hrests⟩

/-! ## Texts of values -/

/-- The characters of the text of a value. -/
def valueText (floatText : UInt64 → String) (v : Json) : List Char :=
  (v.render floatText).toList

theorem valueText_null (floatText : UInt64 → String) :
    valueText floatText .null = ['n', 'u', 'l', 'l'] := by
  rw [valueText, Json.render]
  rfl

/-- The texts of the items of an array. -/
theorem Json.renderItems_eq (floatText : UInt64 → String) (items : List Json) :
    Json.renderItems floatText items = items.map (Json.render floatText) := by
  induction items with
  | nil => rfl
  | cons x items ih => rw [Json.renderItems, ih, List.map_cons]

/-- The text of a member of an object. -/
def memberText (floatText : UInt64 → String) (member : String × Json) : List Char :=
  (quote member.1).toList ++ ':' :: valueText floatText member.2

/-- The texts of the members of an object. -/
theorem Json.renderMembers_eq (floatText : UInt64 → String) (members : List (String × Json)) :
    (Json.renderMembers floatText members).map String.toList =
      members.map (memberText floatText) := by
  induction members with
  | nil => rfl
  | cons m members ih =>
    obtain ⟨k, x⟩ := m
    rw [Json.renderMembers, List.map_cons, List.map_cons, ih, memberText, String.toList_append,
      String.toList_append, List.append_assoc]
    rfl

/-- An array is its items between brackets. -/
theorem valueText_array (floatText : UInt64 → String) (items : List Json) :
    valueText floatText (.array items) =
      '[' :: ([','].intercalate (items.map (valueText floatText)) ++ [']']) := by
  rw [valueText, Json.render, Json.renderItems_eq, String.toList_append, String.toList_append,
    String.toList_intercalate, List.map_map]
  rfl

/-- An object is its members between braces. -/
theorem valueText_object (floatText : UInt64 → String) (members : List (String × Json)) :
    valueText floatText (.object members) =
      '\x7b' :: ([','].intercalate (members.map (memberText floatText)) ++ ['\x7d']) := by
  rw [valueText, Json.render, String.toList_append, String.toList_append, String.toList_intercalate,
    Json.renderMembers_eq]
  rfl

/-- The first character of a value. Every number counts as a zero. -/
def Json.mark : Json → Char
  | .null => 'n'
  | .bool true => 't'
  | .bool false => 'f'
  | .number _ => '0'
  | .string _ => Char.ofNat 34
  | .array _ => '['
  | .object _ => '\x7b'

/-- The values that begin alike. -/
inductive Json.Alike : Json → Json → Prop
  | null : Alike .null .null
  | bool (b : Bool) : Alike (.bool b) (.bool b)
  | number (m n : JsonNumber) : Alike (.number m) (.number n)
  | string (s t : String) : Alike (.string s) (.string t)
  | array (xs ys : List Json) : Alike (.array xs) (.array ys)
  | object (xs ys : List (String × Json)) : Alike (.object xs) (.object ys)

/-- Values of different kinds do not begin alike. -/
theorem Json.Alike.of_mark {a b : Json} (h : a.mark = b.mark) : Alike a b := by
  rcases a with _ | (_ | _) | _ | _ | _ | _ <;> rcases b with _ | (_ | _) | _ | _ | _ | _ <;>
    first
    | constructor
    | cases h

variable {floatText : UInt64 → String}

/-- A member of an object is told apart when its value is. -/
theorem memberText_tellsApart {m : String × Json}
    (h : TellsApart (valueText floatText) Json.Valid EndsNumber m.2) :
    TellsApart (memberText floatText) (fun m => m.2.Valid) EndsNumber m := by
  intro m' rest rest' hm' hrest hrest' heq
  rw [memberText, memberText, List.append_assoc, List.append_assoc] at heq
  obtain ⟨hname, hvalues⟩ := quote_tellsApart m.1 m'.1 _ _ trivial trivial trivial heq
  obtain ⟨hvalue, hrests⟩ := h m'.2 rest rest' hm' hrest hrest' (List.cons.inj hvalues).2
  exact ⟨Prod.ext hname hvalue, hrests⟩

/-- A list with commas is told apart in front of what closes it, when nothing in it begins
so. -/
theorem list_tellsApart {α : Type} {code : α → List Char} {valid : α → Prop} {closing : Char}
    (hclosing : ¬ isNumberChar closing = true) (hcomma : ',' ≠ closing)
    (hnone : ∀ a rest, valid a → (code a ++ rest).head? ≠ some closing) {as : List α}
    (has : ∀ a ∈ as, valid a) (h : ∀ a ∈ as, TellsApart code valid EndsNumber a) :
    TellsApart (fun as => [','].intercalate (as.map code)) (fun as => ∀ a ∈ as, valid a)
      (fun rest => rest.head? = some closing) as := by
  refine TellsApart.intercalate ?_ ?_ ?_ hnone has h
  · intro _ _ _ _ c hc
    obtain rfl := Option.some.inj hc
    decide
  · intro rest hrest c hc
    obtain rfl := Option.some.inj (hrest.symm.trans hc)
    exact hclosing
  · exact fun rest hrest => hcomma (Option.some.inj hrest)

/-- A member of an object does not begin with the brace that closes it. -/
theorem memberText_not_closing (m : String × Json) (rest : List Char) :
    (memberText floatText m ++ rest).head? ≠ some '\x7d' := by
  have hquote : (memberText floatText m ++ rest).head? = some (Char.ofNat 34) := by
    rw [memberText, quote, String.toList_ofList]
    rfl
  rw [hquote]
  decide

section Values

variable (hfloat : PrintsFloats floatText)
include hfloat

/-- A value begins with its first character. -/
theorem valueText_head {v : Json} (hv : v.Valid) :
    ∃ c text, valueText floatText v = c :: text ∧
      (if isNumberChar c then '0' else c) = v.mark := by
  cases v with
  | null => exact ⟨'n', ['u', 'l', 'l'], valueText_null floatText, rfl⟩
  | bool b =>
    cases b with
    | false => exact ⟨'f', ['a', 'l', 's', 'e'], by rw [valueText, Json.render]; rfl, rfl⟩
    | true => exact ⟨'t', ['r', 'u', 'e'], by rw [valueText, Json.render]; rfl, rfl⟩
  | number n =>
    obtain ⟨c, text, htext, hc⟩ := JsonNumber.render_head hfloat (show n.Valid from hv)
    exact ⟨c, text, htext, if_pos hc⟩
  | string s => exact ⟨_, _, String.toList_ofList, rfl⟩
  | array items => exact ⟨_, _, valueText_array floatText items, rfl⟩
  | object members => exact ⟨_, _, valueText_object floatText members, rfl⟩

/-- Values with one text begin alike. -/
theorem Json.Alike.of_text {a b : Json} (ha : a.Valid) (hb : b.Valid) {rest rest' : List Char}
    (h : valueText floatText a ++ rest = valueText floatText b ++ rest') :
    Alike a b := by
  obtain ⟨c, text, htext, hmark⟩ := valueText_head hfloat ha
  obtain ⟨d, text', htext', hmark'⟩ := valueText_head hfloat hb
  rw [htext, htext'] at h
  rw [(List.cons.inj h).1] at hmark
  exact .of_mark (hmark.symm.trans hmark')

/-- A value does not begin with the bracket that closes an array. -/
theorem valueText_not_closing {v : Json} (hv : v.Valid) (rest : List Char) :
    (valueText floatText v ++ rest).head? ≠ some ']' := by
  obtain ⟨c, text, htext, hmark⟩ := valueText_head hfloat hv
  rw [htext]
  intro hclosing
  rw [Option.some.inj hclosing] at hmark
  rcases v with _ | (_ | _) | _ | _ | _ | _ <;> cases hmark

end Values

/-- The text of a value is told apart in front of anything that does not go on with a number. -/
theorem valueText_tellsApart (hfloat : PrintsFloats floatText) {v : Json} (hv : v.Valid) :
    TellsApart (valueText floatText) Json.Valid EndsNumber v := by
  refine Json.All.induction ?null ?bool ?number ?string ?array ?object v hv
  case null =>
    intro w rest rest' hw _ _ heq
    cases Json.Alike.of_text hfloat (a := .null) trivial hw heq
    exact ⟨rfl, List.append_cancel_left heq⟩
  case bool =>
    intro b w rest rest' hw _ _ heq
    cases Json.Alike.of_text hfloat (a := .bool b) trivial hw heq
    exact ⟨rfl, List.append_cancel_left heq⟩
  case number =>
    intro m hm w rest rest' hw hrest hrest' heq
    cases Json.Alike.of_text hfloat (a := .number m) hm hw heq with
    | number m n =>
      obtain ⟨rfl, hrests⟩ :=
        JsonNumber.render_tellsApart hfloat hm n rest rest' hw hrest hrest' heq
      exact ⟨rfl, hrests⟩
  case string =>
    intro s w rest rest' hw _ _ heq
    cases Json.Alike.of_text hfloat (a := .string s) trivial hw heq with
    | string s t =>
      obtain ⟨rfl, hrests⟩ := quote_tellsApart s t rest rest' trivial trivial trivial heq
      exact ⟨rfl, hrests⟩
  case array =>
    intro xs hxs ih w rest rest' hw _ _ heq
    have hlist := list_tellsApart (show ¬ isNumberChar ']' = true by decide) (by decide)
      (fun x rest hx => valueText_not_closing hfloat hx rest) hxs ih
    cases Json.Alike.of_text hfloat (a := .array xs) (Json.allItems_iff.mpr hxs) hw heq with
    | array xs ys =>
      rw [valueText_array, valueText_array] at heq
      obtain ⟨rfl, hrests⟩ := hlist.enclosed '[' ys rest rest' (Json.allItems_iff.mp hw) trivial
        trivial heq
      exact ⟨rfl, hrests⟩
  case object =>
    intro xs hxs ih w rest rest' hw _ _ heq
    have hlist := list_tellsApart (show ¬ isNumberChar '\x7d' = true by decide) (by decide)
      (fun m rest _ => memberText_not_closing m rest) hxs
      fun m hm => memberText_tellsApart (ih m hm)
    cases Json.Alike.of_text hfloat (a := .object xs) (Json.allMembers_iff.mpr hxs) hw heq with
    | object xs ys =>
      rw [valueText_object, valueText_object] at heq
      obtain ⟨rfl, hrests⟩ := hlist.enclosed '\x7b' ys rest rest' (Json.allMembers_iff.mp hw)
        trivial trivial heq
      exact ⟨rfl, hrests⟩

/-! ## Outside strings -/

/-- The characters that have a meaning in the key of a point. -/
def keyMarks : Marks Char where
  quote := Char.ofNat 34
  escape := '\\'
  sign := '='
  comma := ','
  sign_ne_quote := by decide
  sign_ne_escape := by decide
  comma_ne_quote := by decide
  comma_ne_escape := by decide
  comma_ne_sign := by decide

/-- The code of a character stays inside quotation marks. -/
theorem scan_escapeChar (c : Char) : keyMarks.scan .inside (escapeChar c) = some .inside := by
  have hplain (more : List Char) (h : ∀ x ∈ more, x ≠ Char.ofNat 34 ∧ x ≠ '\\') :
      keyMarks.scan .inside more = some .inside := by
    induction more with
    | nil => rfl
    | cons x more ih =>
      obtain ⟨⟨hquote, hbackslash⟩, hmore⟩ := List.forall_mem_cons.mp h
      have hquote : x ≠ keyMarks.quote := hquote
      have hbackslash : x ≠ keyMarks.escape := hbackslash
      rw [Marks.scan, Marks.next, if_neg hquote, if_neg hbackslash]
      exact ih hmore
  rcases escapeChar_cases c with ⟨hcode, hquote, hbackslash⟩ | ⟨d, more, hcode, hmore⟩
  · rw [hcode]
    exact hplain [c] (List.forall_mem_singleton.mpr ⟨hquote, hbackslash⟩)
  · rw [hcode]
    exact hplain more hmore

/-- A string literal begins and ends outside. -/
theorem quote_balanced (s : String) : keyMarks.Balanced (quote s).toList := by
  rw [quote, String.toList_ofList]
  exact Marks.balanced_quoted scan_escapeChar s.toList

/-- A value has no backslash and no equals sign outside its strings. -/
theorem valueText_balanced (hfloat : PrintsFloats floatText) {v : Json} (hv : v.Valid) :
    keyMarks.Balanced (valueText floatText v) := by
  have hwrap {first last : Char} {text : List Char} (hfirst : keyMarks.Balanced [first])
      (hlast : keyMarks.Balanced [last]) (htext : keyMarks.Balanced text) :
      keyMarks.Balanced (first :: (text ++ [last])) := hfirst.append (htext.append hlast)
  refine Json.All.induction (motive := fun v => keyMarks.Balanced (valueText floatText v))
    ?null ?bool ?number ?string ?array ?object v hv
  case null =>
    rw [valueText_null]
    rfl
  case bool =>
    intro b
    cases b <;> rw [valueText, Json.render] <;> rfl
  case number =>
    intro n hn
    refine Marks.balanced_of_plain fun c hc => ?_
    have hc := JsonNumber.render_chars hfloat n hn c hc
    refine ⟨?_, ?_, ?_⟩ <;>
    · rintro rfl
      revert hc
      decide
  case string => exact fun s => quote_balanced s
  case array =>
    intro items _ ih
    rw [valueText_array]
    exact hwrap rfl rfl (Marks.Balanced.intercalate ih)
  case object =>
    intro members _ ih
    rw [valueText_object]
    refine hwrap rfl rfl (Marks.Balanced.intercalate fun m hm => ?_)
    have hcolon : keyMarks.Balanced [':'] := rfl
    exact (quote_balanced m.1).append (hcolon.append (ih m hm))

end Republisher
