import Republisher.HeaderText
import Mathlib.Data.List.DropRight

/-!
# Cookies sent back

A browser sends the session cookie back among others, in any order, with white space around
the separators, and under HTTP/2 in several header fields. The daemon looks for it in the
first field, and only if that field is a text.
-/

namespace Republisher

/-! ## Pairs -/

/-- The pair of the session among the trimmed pairs of a header. -/
def pairSession (pair : List Char) : Option String :=
  (splitOnce '=' pair).bind fun (name, value) =>
    if name = sessionCookie.toList then some (String.ofList value) else none

/-- The session is the first that a pair of the header has. -/
theorem sessionFromCookieHeader_eq (header : String) :
    sessionFromCookieHeader header = (cookiePairs header).findSome? pairSession := rfl

/-- A list is split at the first separator. -/
theorem splitOnce_append {c : Char} {before : List Char} (h : c ∉ before) (after : List Char) :
    splitOnce c (before ++ c :: after) = some (before, after) := by
  induction before with
  | nil => exact if_pos rfl
  | cons d before ih =>
    rw [List.mem_cons, not_or] at h
    rw [List.cons_append, splitOnce, if_neg (Ne.symm h.1), ih h.2]
    rfl

/-- A list without the separator is not split. -/
theorem splitOnce_eq_none {c : Char} {cs : List Char} (h : c ∉ cs) : splitOnce c cs = none := by
  induction cs with
  | nil => rfl
  | cons d cs ih =>
    rw [List.mem_cons, not_or] at h
    rw [splitOnce, if_neg (Ne.symm h.1), ih h.2]
    rfl

/-- Trimming drops white space in front and at the end. -/
theorem trimChars_eq (cs : List Char) :
    trimChars cs = (cs.dropWhile isWhitespace).rdropWhile isWhitespace := rfl

/-- What is left of a list after trimming was in it. -/
theorem mem_of_mem_trimChars {cs : List Char} {c : Char} (h : c ∈ trimChars cs) : c ∈ cs := by
  rw [trimChars_eq] at h
  exact (List.dropWhile_suffix _).subset ((List.rdropWhile_prefix _ _).subset h)

/-- Trimming a pair leaves its name, and drops the white space after its value. -/
theorem trimChars_named {before name : List Char} {c : Char} (value : List Char)
    (hbefore : ∀ d ∈ before, isWhitespace d = true)
    (hname : ∀ d ∈ name.head?, isWhitespace d = false) (hc : isWhitespace c = false) :
    trimChars (before ++ (name ++ c :: value)) =
      name ++ c :: value.rdropWhile isWhitespace := by
  have hfront : (before ++ (name ++ c :: value)).dropWhile isWhitespace = name ++ c :: value := by
    rw [List.dropWhile_append_of_pos hbefore]
    cases name with
    | nil => exact List.dropWhile_cons_of_neg (by simp [hc])
    | cons d name => exact List.dropWhile_cons_of_neg (by simp [hname d rfl])
  rw [trimChars_eq, hfront]
  unfold List.rdropWhile
  rw [List.reverse_append, List.reverse_cons, List.append_assoc, List.dropWhile_append]
  cases hvalue : (value.reverse.dropWhile isWhitespace).isEmpty with
  | true =>
    rw [if_pos rfl, List.isEmpty_iff.mp hvalue]
    rw [List.singleton_append, List.dropWhile_cons_of_neg (by simp [hc])]
    simp
  | false =>
    rw [if_neg Bool.false_ne_true]
    simp

/-- White space after a value without any is dropped. -/
theorem rdropWhile_padded {value after : List Char} (hvalue : ∀ c ∈ value, isWhitespace c = false)
    (hafter : ∀ c ∈ after, isWhitespace c = true) :
    (value ++ after).rdropWhile isWhitespace = value := by
  unfold List.rdropWhile
  rw [List.reverse_append, List.dropWhile_append_of_pos fun c hc =>
    hafter c (List.mem_reverse.mp hc), List.dropWhile_eq_self_iff.mpr ?_, List.reverse_reverse]
  intro hlength
  rw [hvalue _ (List.mem_reverse.mp (List.getElem_mem hlength))]
  exact Bool.false_ne_true

/-! ## What a browser sends -/

/-- The byte between pairs. -/
def semicolon : UInt8 := 59

/-- The byte between the name and the value of a pair. -/
def equals : UInt8 := 61

/-- White space in a header: a space or a tab. -/
def blankByte (b : UInt8) : Bool := b == 32 || b == 9

/-- A token that `create_session` may issue. -/
structure SessionToken where
  text : String
  length_eq : text.toList.length = 48
  alphanumeric : ∀ c ∈ text.toList, c.isAlphanum = true

/-- The pair that `session_cookie` sets. -/
def SessionToken.pair (token : SessionToken) : List UInt8 :=
  asciiBytes sessionCookie ++ equals :: asciiBytes token.text

/-- A pair that is not the session's: it has another name, or none. -/
inductive ForeignPair : List UInt8 → Prop
  | bare {text} : semicolon ∉ text → equals ∉ text → ForeignPair text
  | named {name value} : semicolon ∉ name → equals ∉ name → semicolon ∉ value →
      (∀ b ∈ name.head?, blankByte b = false) → name ≠ asciiBytes sessionCookie →
      ForeignPair (name ++ equals :: value)

/-- A pair with the white space around it. -/
structure PaddedPair where
  before : List UInt8
  pair : List UInt8
  after : List UInt8
  blank_before : ∀ b ∈ before, blankByte b = true
  blank_after : ∀ b ∈ after, blankByte b = true

/-- The bytes of a padded pair. -/
def PaddedPair.bytes (p : PaddedPair) : List UInt8 := p.before ++ (p.pair ++ p.after)

/-- The header field with the given pairs. -/
def cookieField (pairs : List PaddedPair) : HeaderValue :=
  ⟨[semicolon].intercalate (pairs.map PaddedPair.bytes)⟩

/-- The request carries these cookie fields, in this order, among other header fields. -/
def HttpRequest.CarriesCookies (req : HttpRequest) (fields : List (List PaddedPair)) : Prop :=
  (req.headers.filter fun header => header.1 == "cookie").map Prod.snd = fields.map cookieField

/-- The daemon looks at the first field. -/
theorem HttpRequest.header_cookie {req : HttpRequest} {fields : List (List PaddedPair)}
    (h : req.CarriesCookies fields) : req.header "cookie" = (fields.map cookieField).head? := by
  unfold header
  rw [← h, List.head?_map, List.head?_filter]

/-! ## Bytes and characters -/

/-- White space in a text is white space of the header. -/
theorem isWhitespace_byteChar {b : UInt8} (h : visibleByte b = true) :
    isWhitespace (byteChar b) = blankByte b := by
  have hvisible : 32 ≤ b.toNat ∧ b.toNat < 127 ∨ b.toNat = 9 := by
    simpa [visibleByte, UInt8.le_iff_toNat_le, UInt8.lt_iff_toNat_lt, ← UInt8.toNat_inj] using h
  rw [Bool.eq_iff_iff]
  simp only [isWhitespace, byteChar_toNat, blankByte, Bool.or_eq_true, Bool.and_eq_true,
    decide_eq_true_eq, beq_iff_eq, ← UInt8.toNat_inj, UInt8.reduceToNat]
  omega

/-- A byte that is not in a list has a character that is not in its text. -/
theorem byteChar_not_mem {b : UInt8} {bytes : List UInt8} (h : b ∉ bytes) :
    byteChar b ∉ bytes.map byteChar := by
  rw [List.mem_map]
  rintro ⟨c, hc, hbc⟩
  obtain rfl := byteChar_injective hbc
  exact h hc

/-- The name of the session cookie is the text of its bytes. -/
theorem map_byteChar_sessionCookie :
    (asciiBytes sessionCookie).map byteChar = sessionCookie.toList := by
  decide +kernel

/-- ASCII text is the text of its bytes. -/
theorem map_byteChar_asciiBytes {text : String} (h : ∀ c ∈ text.toList, c.toNat < 128) :
    (asciiBytes text).map byteChar = text.toList := by
  unfold asciiBytes
  rw [List.map_map]
  refine (List.map_congr_left fun c hc => ?_).trans (List.map_id _)
  rw [Function.comp_apply, byteChar, UInt8.toNat_ofNat',
    Nat.mod_eq_of_lt (Nat.lt_trans (h c hc) (by decide)), Char.ofNat_toNat, id]

/-- The range of the alphanumeric characters. -/
theorem toNat_alphanumeric {c : Char} (h : c.isAlphanum = true) :
    48 ≤ c.toNat ∧ c.toNat < 123 := by
  have hcases : ((decide (c.val ≥ 65 ∧ c.val ≤ 90) || (c.val ≥ 97 && c.val ≤ 122)) ||
      (c.val ≥ 48 && c.val ≤ 57)) = true := h
  simp only [Bool.or_eq_true, Bool.and_eq_true, decide_eq_true_eq, ge_iff_le,
    UInt32.le_iff_toNat_le, UInt32.reduceToNat] at hcases
  have hval : c.toNat = c.val.toNat := rfl
  omega

/-! ## What the daemon finds -/

/-- The characters of a padded pair. -/
theorem PaddedPair.map_bytes (p : PaddedPair) :
    p.bytes.map byteChar =
      p.before.map byteChar ++ (p.pair.map byteChar ++ p.after.map byteChar) := by
  rw [bytes, List.map_append, List.map_append]

/-- The padding is white space. -/
theorem isWhitespace_of_blank {bytes : List UInt8} (h : ∀ b ∈ bytes, blankByte b = true) :
    ∀ c ∈ bytes.map byteChar, isWhitespace c = true := by
  intro c hc
  obtain ⟨b, hb, rfl⟩ := List.mem_map.mp hc
  have hblank : b = 32 ∨ b = 9 := by simpa [blankByte] using h b hb
  rcases hblank with rfl | rfl <;> decide

/-- The character between name and value. -/
theorem byteChar_equals : byteChar equals = '=' := by decide

/-- A foreign pair has no session, whatever white space is around it. -/
theorem ForeignPair.pairSession_eq_none {p : PaddedPair} (h : ForeignPair p.pair)
    (hvisible : ∀ b ∈ p.pair, visibleByte b = true) :
    pairSession (trimChars (p.bytes.map byteChar)) = none := by
  have hbefore := isWhitespace_of_blank p.blank_before
  have hafter := isWhitespace_of_blank p.blank_after
  rw [p.map_bytes]
  generalize p.pair = pair at h hvisible
  cases h with
  | bare hsemicolon hequals =>
    unfold pairSession
    rw [splitOnce_eq_none]
    · rfl
    · intro hmem
      rcases List.mem_append.mp (mem_of_mem_trimChars hmem) with hmem | hmem
      · exact absurd (hbefore _ hmem) (by decide)
      · rcases List.mem_append.mp hmem with hmem | hmem
        · exact byteChar_not_mem hequals (byteChar_equals ▸ hmem)
        · exact absurd (hafter _ hmem) (by decide)
  | @named name value hsemicolon hequals hvalue hhead hname =>
    rw [List.map_append, List.map_cons, byteChar_equals, List.append_assoc, List.cons_append,
      trimChars_named _ hbefore ?_ (by decide)]
    · unfold pairSession
      rw [splitOnce_append (byteChar_equals ▸ byteChar_not_mem hequals)]
      refine if_neg fun hsame => hname ?_
      rw [← map_byteChar_sessionCookie] at hsame
      exact List.map_injective_iff.mpr byteChar_injective hsame
    · intro d hd
      rw [List.head?_map] at hd
      obtain ⟨b, hb, rfl⟩ := Option.map_eq_some_iff.mp hd
      rw [isWhitespace_byteChar (hvisible b (List.mem_append_left _ (List.mem_of_head? hb)))]
      exact hhead b hb

/-- The session's pair has its token, whatever white space is around it. -/
theorem SessionToken.pairSession_eq {p : PaddedPair} {token : SessionToken}
    (h : p.pair = token.pair) :
    pairSession (trimChars (p.bytes.map byteChar)) = some token.text := by
  have hascii : ∀ c ∈ token.text.toList, c.toNat < 128 := fun c hc =>
    Nat.lt_trans (toNat_alphanumeric (token.alphanumeric c hc)).2 (by decide)
  have hwhite : ∀ c ∈ token.text.toList, isWhitespace c = false := by
    intro c hc
    have hrange := toNat_alphanumeric (token.alphanumeric c hc)
    rw [Bool.eq_false_iff]
    simp only [isWhitespace, ne_eq, Bool.or_eq_true, Bool.and_eq_true, decide_eq_true_eq,
      beq_iff_eq]
    omega
  have hhead : sessionCookie.toList.head? = some 'r' := by decide +kernel
  have hname : ∀ c ∈ sessionCookie.toList.head?, isWhitespace c = false := by
    rw [hhead]
    rintro c hc
    obtain rfl := Option.some.inj hc
    decide
  have hequals : '=' ∉ sessionCookie.toList := by decide +kernel
  rw [p.map_bytes, h, SessionToken.pair, List.map_append, List.map_cons, byteChar_equals,
    map_byteChar_sessionCookie, map_byteChar_asciiBytes hascii,
    List.append_assoc, List.cons_append,
    trimChars_named _ (isWhitespace_of_blank p.blank_before) hname (by decide),
    rdropWhile_padded hwhite (isWhitespace_of_blank p.blank_after)]
  unfold pairSession
  rw [splitOnce_append hequals, Option.bind_some]
  exact (if_pos rfl).trans (congrArg some String.ofList_toList)

/-- A foreign pair does not reach into the next. -/
theorem ForeignPair.semicolon_not_mem {pair : List UInt8} (h : ForeignPair pair) :
    semicolon ∉ pair := by
  cases h with
  | bare hsemicolon hequals => exact hsemicolon
  | named hname hequals hvalue =>
    rw [List.mem_append, List.mem_cons]
    rintro (h | h | h)
    · exact hname h
    · revert h
      decide
    · exact hvalue h

/-- Nor does the session's. -/
theorem SessionToken.semicolon_not_mem (token : SessionToken) : semicolon ∉ token.pair := by
  rw [pair, List.mem_append, List.mem_cons]
  rintro (h | h | h)
  · revert h
    decide +kernel
  · revert h
    decide
  · obtain ⟨c, hc, hsemicolon⟩ := List.mem_map.mp h
    have hrange := toNat_alphanumeric (token.alphanumeric c hc)
    have htoNat := congrArg UInt8.toNat hsemicolon
    rw [UInt8.toNat_ofNat', Nat.mod_eq_of_lt (Nat.lt_trans hrange.2 (by decide))] at htoNat
    have hchar : c = ';' := by
      rw [← Char.ofNat_toNat c, htoNat]
      decide
    have halphanumeric := token.alphanumeric c hc
    rw [hchar] at halphanumeric
    revert halphanumeric
    decide

/-- Nor does its padding. -/
theorem PaddedPair.semicolon_not_mem {p : PaddedPair} (h : semicolon ∉ p.pair) :
    semicolon ∉ p.bytes := by
  rw [bytes, List.mem_append, List.mem_append]
  rintro (hmem | hmem | hmem)
  · exact absurd (p.blank_before _ hmem) (by decide)
  · exact h hmem
  · exact absurd (p.blank_after _ hmem) (by decide)

/-- Joined lists are mapped one by one. -/
theorem map_intercalate {α β : Type} (f : α → β) (sep : List α) (lists : List (List α)) :
    (sep.intercalate lists).map f = (sep.map f).intercalate (lists.map (List.map f)) := by
  induction lists with
  | nil => rfl
  | cons first lists ih =>
    cases lists with
    | nil => simp
    | cons second lists => simpa using ih

/-- What is in one of the lists is in the joined list. -/
theorem mem_intercalate {α : Type} {sep : List α} {lists : List (List α)} {list : List α}
    (h : list ∈ lists) {a : α} (ha : a ∈ list) : a ∈ sep.intercalate lists := by
  induction lists with
  | nil => cases h
  | cons first lists ih =>
    cases lists with
    | nil =>
      obtain rfl := List.mem_singleton.mp h
      simpa using ha
    | cons second lists =>
      rw [List.intercalate_cons_cons, List.mem_append, List.mem_append]
      rcases List.mem_cons.mp h with rfl | h
      · exact .inl (.inl ha)
      · exact .inr (ih h)

/-- The session of a field is that of the first of its pairs that has one. -/
theorem sessionFromCookieHeader_field {pairs : List PaddedPair}
    (hpairs : ∀ p ∈ pairs, semicolon ∉ p.pair) {text : String}
    (h : (cookieField pairs).toStr = some text) :
    sessionFromCookieHeader text =
      pairs.findSome? fun p => pairSession (trimChars (p.bytes.map byteChar)) := by
  have htext : text.toList = [';'].intercalate (pairs.map fun p => p.bytes.map byteChar) := by
    rw [HeaderValue.toList_toStr h, cookieField, map_intercalate, List.map_map]
    rfl
  rw [sessionFromCookieHeader_eq, cookiePairs, htext]
  cases pairs with
  | nil => decide
  | cons first pairs =>
    rw [List.splitOn_intercalate ';' ?_ (by simp), List.findSome?_map, List.findSome?_map]
    · rfl
    · intro list hlist
      obtain ⟨p, hp, rfl⟩ := List.mem_map.mp hlist
      exact byteChar_not_mem (b := semicolon) (PaddedPair.semicolon_not_mem (hpairs p hp))

/-- A field whose pairs are all foreign has no session. -/
theorem findSome?_foreign {pairs : List PaddedPair} (h : ∀ p ∈ pairs, ForeignPair p.pair)
    (hvisible : ∀ p ∈ pairs, ∀ b ∈ p.pair, visibleByte b = true) :
    (pairs.findSome? fun p => pairSession (trimChars (p.bytes.map byteChar))) = none :=
  List.findSome?_eq_none_iff.mpr fun p hp => (h p hp).pairSession_eq_none (hvisible p hp)

/-- The bytes of the pairs of a text are visible. -/
theorem visible_of_toStr {pairs : List PaddedPair} {text : String}
    (h : (cookieField pairs).toStr = some text) :
    ∀ p ∈ pairs, ∀ b ∈ p.pair, visibleByte b = true := by
  intro p hp b hb
  refine (HeaderValue.toStr_eq_some.mp h).1 b (mem_intercalate (List.mem_map.mpr ⟨p, hp, rfl⟩) ?_)
  exact List.mem_append_right _ (List.mem_append_left _ hb)

/-- The token that is looked up is the one in the first field, if that is a text. -/
theorem HttpRequest.sessionToken_cookies {req : HttpRequest} {fields : List (List PaddedPair)}
    (h : req.CarriesCookies fields) :
    req.sessionToken = (fields.head?.bind fun pairs => (cookieField pairs).toStr).bind
      sessionFromCookieHeader := by
  rw [sessionToken, HttpRequest.header_cookie h, List.head?_map]
  cases fields <;> rfl

/-- In a text of foreign pairs and session pairs with one token, that token is found exactly
when there is a session pair. -/
theorem SessionToken.findSome?_eq (token : SessionToken) {pairs : List PaddedPair}
    (hpairs : ∀ p ∈ pairs, ForeignPair p.pair ∨ p.pair = token.pair)
    (hvisible : ∀ p ∈ pairs, ∀ b ∈ p.pair, visibleByte b = true) :
    (pairs.findSome? fun p => pairSession (trimChars (p.bytes.map byteChar))) = some token.text ↔
      ∃ p ∈ pairs, p.pair = token.pair := by
  have hpair : ∀ p ∈ pairs, ∀ text, pairSession (trimChars (p.bytes.map byteChar)) = some text →
      p.pair = token.pair ∧ text = token.text := by
    intro p hp text htext
    rcases hpairs p hp with hforeign | hsession
    · rw [hforeign.pairSession_eq_none (hvisible p hp)] at htext
      cases htext
    · rw [pairSession_eq hsession] at htext
      exact ⟨hsession, (Option.some.inj htext).symm⟩
  constructor
  · intro h
    obtain ⟨p, hp, htext⟩ := List.exists_of_findSome?_eq_some h
    exact ⟨p, hp, (hpair p hp _ htext).1⟩
  · rintro ⟨p, hp, hsession⟩
    cases h : pairs.findSome? fun p => pairSession (trimChars (p.bytes.map byteChar)) with
    | none =>
      have hnone := List.findSome?_eq_none_iff.mp h p hp
      rw [pairSession_eq hsession] at hnone
      cases hnone
    | some text =>
      obtain ⟨q, hq, htext⟩ := List.exists_of_findSome?_eq_some h
      rw [(hpair q hq _ htext).2]

/-- Among foreign pairs and session pairs with one token, that token is found in a field exactly
when the field has a session pair and is a text. -/
theorem SessionToken.field_eq_iff (token : SessionToken) {pairs : List PaddedPair}
    (hpairs : ∀ p ∈ pairs, ForeignPair p.pair ∨ p.pair = token.pair) :
    (cookieField pairs).toStr.bind sessionFromCookieHeader = some token.text ↔
      (∃ p ∈ pairs, p.pair = token.pair) ∧
        ∀ b ∈ (cookieField pairs).bytes, visibleByte b = true := by
  have hsemicolon : ∀ p ∈ pairs, semicolon ∉ p.pair := by
    intro p hp
    rcases hpairs p hp with hforeign | hsession
    · exact hforeign.semicolon_not_mem
    · rw [hsession]
      exact token.semicolon_not_mem
  cases htext : (cookieField pairs).toStr with
  | none =>
    refine iff_of_false (by simp) ?_
    rintro ⟨-, hvisible⟩
    rw [HeaderValue.toStr_eq_some.mpr ⟨hvisible, rfl⟩] at htext
    cases htext
  | some text =>
    rw [Option.bind_some, sessionFromCookieHeader_field hsemicolon htext,
      token.findSome?_eq hpairs (visible_of_toStr htext)]
    exact (and_iff_left (HeaderValue.toStr_eq_some.mp htext).1).symm

/-- Among foreign pairs no token is found. -/
theorem field_eq_none {pairs : List PaddedPair} (h : ∀ p ∈ pairs, ForeignPair p.pair) :
    (cookieField pairs).toStr.bind sessionFromCookieHeader = none := by
  cases htext : (cookieField pairs).toStr with
  | none => rfl
  | some text =>
    rw [Option.bind_some,
      sessionFromCookieHeader_field (fun p hp => (h p hp).semicolon_not_mem) htext]
    exact findSome?_foreign h (visible_of_toStr htext)

/-- However the pairs are ordered, padded and divided among header fields, the token of the one
session pair is found exactly when that pair is in the first field and all bytes of that field
are visible ASCII characters, spaces and tabs; and no token is found among foreign pairs. -/
theorem sessionToken_eq_iff (token : SessionToken) (req : HttpRequest)
    (fields : List (List PaddedPair)) (hreq : req.CarriesCookies fields) :
    (∀ before session after, fields.flatten = before ++ session :: after →
      session.pair = token.pair → (∀ p ∈ before ++ after, ForeignPair p.pair) →
        (req.sessionToken = some token.text ↔ ∃ first rest, fields = first :: rest ∧
          (∃ p ∈ first, p.pair = token.pair) ∧
            ∀ b ∈ (cookieField first).bytes, visibleByte b = true)) ∧
    ((∀ p ∈ fields.flatten, ForeignPair p.pair) → req.sessionToken = none) := by
  rw [HttpRequest.sessionToken_cookies hreq]
  cases fields with
  | nil =>
    refine ⟨fun before session after hsplit => ?_, fun _ => rfl⟩
    simp at hsplit
  | cons first rest =>
    rw [List.head?_cons, Option.bind_some]
    constructor
    · intro before session after hsplit hsession hforeign
      have hpairs : ∀ p ∈ first, ForeignPair p.pair ∨ p.pair = token.pair := by
        intro p hp
        have hmem : p ∈ (first :: rest).flatten := List.mem_append_left _ hp
        rw [hsplit, List.mem_append, List.mem_cons] at hmem
        rcases hmem with hmem | rfl | hmem
        · exact .inl (hforeign p (List.mem_append_left _ hmem))
        · exact .inr hsession
        · exact .inl (hforeign p (List.mem_append_right _ hmem))
      rw [token.field_eq_iff hpairs]
      simp
    · intro hforeign
      exact field_eq_none fun p hp => hforeign p (List.mem_append_left _ hp)

/-- A token. -/
def plainToken : SessionToken where
  text := String.ofList (List.replicate 48 'a')
  length_eq := by simp
  alphanumeric := by
    rw [String.toList_ofList]
    exact fun c hc => (List.mem_replicate.mp hc).2 ▸ by decide

/-- A pair without white space in front, and with a space in front. -/
def spacedPair (spaced : Bool) (pair : List UInt8) : PaddedPair where
  before := if spaced then [32] else []
  pair := pair
  after := []
  blank_before := by cases spaced <;> simp [blankByte]
  blank_after := List.forall_mem_nil _

/-- The cookie of another program on the same host. -/
theorem foreignPair_theme : ForeignPair (asciiBytes "theme" ++ equals :: asciiBytes "a=b") :=
  .named (by decide) (by decide) (by decide) (by decide +kernel) (by decide)

/-- A request with the given cookie fields. -/
def cookieRequest (fields : List (List PaddedPair)) : HttpRequest :=
  { method := .get
    path := "/api/state"
    headers := fields.map fun pairs => ("cookie", cookieField pairs)
    peer := .v4 0
    body := [] }

/-- It carries these fields. -/
theorem cookieRequest_carries (fields : List (List PaddedPair)) :
    (cookieRequest fields).CarriesCookies fields := by
  unfold HttpRequest.CarriesCookies cookieRequest
  rw [List.filter_eq_self.mpr (by simp), List.map_map]
  rfl

/-- In one field the token is found behind the other cookie. -/
theorem joined_cookies_found :
    (cookieRequest [[spacedPair false (asciiBytes "theme" ++ equals :: asciiBytes "a=b"),
      spacedPair true plainToken.pair]]).sessionToken = some plainToken.text := by
  refine ((sessionToken_eq_iff plainToken _ _ (cookieRequest_carries _)).1 [spacedPair false _]
    (spacedPair true plainToken.pair) [] rfl rfl ?_).mpr
      ⟨_, [], rfl, ⟨spacedPair true plainToken.pair, by simp, rfl⟩, by decide +kernel⟩
  intro p hp
  obtain rfl := List.mem_singleton.mp hp
  exact foreignPair_theme

/-- In two fields, the other cookie's first, it is not. -/
theorem split_cookies_lost :
    let fields := [[spacedPair false (asciiBytes "theme" ++ equals :: asciiBytes "a=b")],
      [spacedPair false plainToken.pair]]
    ForeignPair (asciiBytes "theme" ++ equals :: asciiBytes "a=b") ∧
      (cookieRequest fields).CarriesCookies fields ∧
        (cookieRequest fields).sessionToken = none :=
  ⟨foreignPair_theme, cookieRequest_carries _, by decide +kernel⟩

end Republisher
