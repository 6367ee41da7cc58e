import Republisher.Auth
import Republisher.Decimals

/-!
# Socket addresses and their text

The parser of the standard library for `<ip>:<port>` and `[<ip>]:<port>`. It reads from left to
right; a part that cannot be read leaves the text as it was, and the whole text must be read.
-/

namespace Republisher

/-- `SocketAddr`. -/
inductive SocketAddr
  | v4 (ip : BitVec 32) (port : UInt16)
  | v6 (ip : BitVec 128) (port : UInt16) (scopeId : UInt32)
  deriving DecidableEq

namespace SocketAddr

/-- `SocketAddr::ip`. -/
def ip : SocketAddr → IpAddr
  | .v4 ip _ => .v4 ip
  | .v6 ip _ _ => .v6 ip

/-- `SocketAddr::port`. -/
def port : SocketAddr → UInt16
  | .v4 _ port => port
  | .v6 _ port _ => port

end SocketAddr

/-! ## The parser -/

/-- `read_given_char`. -/
def readGivenChar (target : Char) : List Char → Option (List Char)
  | c :: rest => if c = target then some rest else none
  | [] => none

/-- `char::to_digit`. -/
def toDigit (radix : ℕ) (c : Char) : Option ℕ :=
  let digit :=
    if c.isDigit then c.toNat - 48
    else if 97 ≤ c.toNat ∧ c.toNat ≤ 122 then c.toNat - 87
    else if 65 ≤ c.toNat ∧ c.toNat ≤ 90 then c.toNat - 55
    else radix
  if digit < radix then some digit else none

/-- The loop of `read_number`: the value and the count of the digits that follow. More digits
than `maxDigits` are an error; without that limit the value must stay below the bound. -/
def readDigits (radix : ℕ) (maxDigits : Option ℕ) (bound : ℕ) :
    ℕ → ℕ → List Char → Option ((ℕ × ℕ) × List Char)
  | value, count, [] => some ((value, count), [])
  | value, count, c :: rest =>
      match toDigit radix c with
      | none => some ((value, count), c :: rest)
      | some digit =>
          let more := match maxDigits with
            | some limit => decide (count + 1 ≤ limit)
            | none => decide (radix * value + digit < bound)
          if more then
            readDigits radix maxDigits bound (radix * value + digit) (count + 1) rest
          else none

/-- `read_number`, for a number below the bound of its type. -/
def readNumber (radix : ℕ) (maxDigits : Option ℕ) (allowZeroPrefix : Bool) (bound : ℕ)
    (text : List Char) : Option (ℕ × List Char) :=
  (readDigits radix maxDigits bound 0 0 text).bind fun ((value, count), rest) =>
    let zeroPrefix := text.head? == some '0' && decide (1 < count)
    if count = 0 ∨ (!allowZeroPrefix && zeroPrefix) = true then none
    else if value < bound then some (value, rest)
    else none

/-- `read_separator`, with a number behind it. -/
def readSeparated (separator : Char) (text : List Char) : Option (ℕ × List Char) :=
  (readGivenChar separator text).bind (readNumber 10 (some 3) false 256)

/-- `read_ipv4_addr`. -/
def readIpv4Addr (text : List Char) : Option (BitVec 32 × List Char) := do
  let (a, text) ← readNumber 10 (some 3) false 256 text
  let (b, text) ← readSeparated '.' text
  let (c, text) ← readSeparated '.' text
  let (d, text) ← readSeparated '.' text
  return (BitVec.ofNat 32 (((a * 256 + b) * 256 + c) * 256 + d), text)

/-- `read_groups`: the groups read, and whether they end in an embedded IPv4 address. The second
argument counts the groups that may still come. -/
def readGroups (limit : ℕ) : ℕ → List Char → (List ℕ × Bool) × List Char
  | 0, text => (([], false), text)
  | more + 1, text =>
      let entry := if more + 1 < limit then readGivenChar ':' text else some text
      let embedded := if 0 < more then entry.bind readIpv4Addr else none
      match embedded with
      | some (ip, rest) => (([ip.toNat / 65536, ip.toNat % 65536], true), rest)
      | none =>
          match entry.bind (readNumber 16 (some 4) true 65536) with
          | none => (([], false), text)
          | some (group, rest) =>
              let ((groups, ipv4), rest) := readGroups limit more rest
              ((group :: groups, ipv4), rest)

/-- The address of eight groups. -/
def ofGroups (groups : List ℕ) : BitVec 128 :=
  BitVec.ofNat 128 (groups.foldl (fun value group => value * 65536 + group) 0)

/-- `read_ipv6_addr`: eight groups, or up to seven with `::` for the zeros between them. -/
def readIpv6Addr (text : List Char) : Option (BitVec 128 × List Char) :=
  let ((head, headIpv4), text) := readGroups 8 8 text
  if head.length = 8 then some (ofGroups head, text)
  else if headIpv4 then none
  else do
    let text ← readGivenChar ':' text
    let text ← readGivenChar ':' text
    let limit := 8 - (head.length + 1)
    let ((tail, _), text) := readGroups limit limit text
    let zeros := List.replicate (8 - head.length - tail.length) 0
    return (ofGroups (head ++ zeros ++ tail), text)

/-- `read_port`. -/
def readPort (text : List Char) : Option (UInt16 × List Char) := do
  let text ← readGivenChar ':' text
  let (port, text) ← readNumber 10 none true UInt16.size text
  return (UInt16.ofNat port, text)

/-- `read_scope_id`. -/
def readScopeId (text : List Char) : Option (UInt32 × List Char) := do
  let text ← readGivenChar '%' text
  let (scopeId, text) ← readNumber 10 none true UInt32.size text
  return (UInt32.ofNat scopeId, text)

/-- `read_socket_addr_v4`. -/
def readSocketAddrV4 (text : List Char) : Option (SocketAddr × List Char) := do
  let (ip, text) ← readIpv4Addr text
  let (port, text) ← readPort text
  return (.v4 ip port, text)

/-- `read_socket_addr_v6`. -/
def readSocketAddrV6 (text : List Char) : Option (SocketAddr × List Char) := do
  let text ← readGivenChar '[' text
  let (ip, text) ← readIpv6Addr text
  let (scopeId, text) := (readScopeId text).getD (0, text)
  let text ← readGivenChar ']' text
  let (port, text) ← readPort text
  return (.v6 ip port scopeId, text)

/-- `read_socket_addr`. -/
def readSocketAddr (text : List Char) : Option (SocketAddr × List Char) :=
  (readSocketAddrV4 text).or (readSocketAddrV6 text)

/-- `str::parse::<SocketAddr>`. -/
def parseSocketAddr (s : String) : Option SocketAddr :=
  (readSocketAddr s.toList).bind fun (addr, rest) => if rest = [] then some addr else none

/-! ## Ports -/

/-- The decimal digits. -/
theorem toDigit_ten (c : Char) :
    toDigit 10 c = if c.isDigit then some (c.toNat - 48) else none := by
  unfold toDigit
  by_cases hdigit : c.isDigit = true
  · have hrange : 48 ≤ c.toNat ∧ c.toNat ≤ 57 := by
      simpa [Char.isDigit, UInt32.le_iff_toNat_le] using hdigit
    rw [if_pos hdigit, if_pos hdigit, if_pos (by omega)]
  · rw [if_neg hdigit, if_neg hdigit, if_neg]
    split
    · omega
    · split
      · omega
      · exact Nat.lt_irrefl 10

/-- What the loop of `read_number` reads are decimal digits with the value it finds. -/
theorem readDigits_some {bound value count n m : ℕ} {text rest : List Char}
    (h : readDigits 10 none bound value count text = some ((n, m), rest)) :
    ∃ digits, text = digits ++ rest ∧ m = count + digits.length ∧
      digitsValue value digits = some n := by
  induction text generalizing value count with
  | nil =>
    obtain ⟨⟨rfl, rfl⟩, rfl⟩ := by simpa [readDigits] using h
    exact ⟨[], rfl, rfl, rfl⟩
  | cons c text ih =>
    rw [readDigits, toDigit_ten] at h
    by_cases hdigit : c.isDigit = true
    · rw [if_pos hdigit] at h
      obtain ⟨-, hmore⟩ := Option.ite_none_right_eq_some.mp h
      obtain ⟨digits, rfl, rfl, hvalue⟩ := ih hmore
      refine ⟨c :: digits, rfl, ?_, ?_⟩
      · rw [List.length_cons]
        omega
      · rw [digitsValue, if_pos hdigit, hvalue]
    · rw [if_neg hdigit] at h
      obtain ⟨⟨rfl, rfl⟩, rfl⟩ := by simpa using h
      exact ⟨[], rfl, rfl, rfl⟩

/-- Digits never make a value smaller. -/
theorem le_of_digitsValue {value n : ℕ} {digits : List Char}
    (h : digitsValue value digits = some n) : value ≤ n := by
  induction digits generalizing value with
  | nil => exact Nat.le_of_eq (Option.some.inj h)
  | cons c digits ih =>
    rw [digitsValue] at h
    obtain ⟨-, hrest⟩ := Option.ite_none_right_eq_some.mp h
    have hle := ih hrest
    omega

/-- The loop reads all digits of a value below the bound. -/
theorem readDigits_of_value {bound value count n : ℕ} {digits : List Char}
    (h : digitsValue value digits = some n) (hn : n < bound) :
    readDigits 10 none bound value count digits = some ((n, count + digits.length), []) := by
  induction digits generalizing value count with
  | nil =>
    obtain rfl := Option.some.inj h
    rfl
  | cons c digits ih =>
    rw [digitsValue] at h
    obtain ⟨hdigit, hrest⟩ := Option.ite_none_right_eq_some.mp h
    have hvalue := le_of_digitsValue hrest
    rw [readDigits, toDigit_ten, if_pos hdigit]
    dsimp only
    rw [if_pos (decide_eq_true (by omega)), ih hrest, List.length_cons]
    congr 3
    omega

/-- A character that is read is the first one. -/
theorem readGivenChar_some {target : Char} {text rest : List Char}
    (h : readGivenChar target text = some rest) : text = target :: rest := by
  cases text with
  | nil => cases h
  | cons c text =>
    obtain ⟨rfl, hrest⟩ := Option.ite_none_right_eq_some.mp h
    rw [Option.some.inj hrest]

/-- A number without a limit on its digits is read from the decimal digits of its value. -/
theorem readNumber_some {bound n : ℕ} {text rest : List Char}
    (h : readNumber 10 none true bound text = some (n, rest)) :
    ∃ digits, text = digits ++ rest ∧ digits ≠ [] ∧ digitsValue 0 digits = some n ∧
      n < bound := by
  obtain ⟨⟨⟨value, count⟩, rest'⟩, hread, hvalue⟩ := Option.bind_eq_some_iff.mp h
  obtain ⟨digits, rfl, hcount, hdigits⟩ := readDigits_some hread
  simp only [Bool.not_true, Bool.false_and, Bool.false_eq_true, or_false,
    Option.ite_none_left_eq_some, Option.ite_none_right_eq_some, Option.some.injEq,
    Prod.mk.injEq] at hvalue
  obtain ⟨hsome, hlt, rfl, rfl⟩ := hvalue
  refine ⟨digits, rfl, ?_, hdigits, hlt⟩
  rintro rfl
  exact hsome (by simpa using hcount)

/-- The decimal digits of a value below the bound are read as a number. -/
theorem readNumber_of_value {bound n : ℕ} {digits : List Char} (hdigits : digits ≠ [])
    (h : digitsValue 0 digits = some n) (hn : n < bound) :
    readNumber 10 none true bound digits = some (n, []) := by
  have hlength : digits.length ≠ 0 := fun hnil => hdigits (List.length_eq_zero_iff.mp hnil)
  rw [readNumber, readDigits_of_value h hn, Option.bind_some]
  simp [hlength, hn]

/-- A port is read from a colon and the decimal digits of its number. -/
theorem readPort_some {text rest : List Char} {port : UInt16}
    (h : readPort text = some (port, rest)) :
    ∃ digits, text = ':' :: (digits ++ rest) ∧ digits ≠ [] ∧
      digitsValue 0 digits = some port.toNat := by
  obtain ⟨tail, hcolon, hnumber⟩ := Option.bind_eq_some_iff.mp h
  obtain ⟨⟨n, rest'⟩, hread, hport⟩ := Option.bind_eq_some_iff.mp hnumber
  obtain ⟨digits, rfl, hsome, hvalue, hlt⟩ := readNumber_some hread
  obtain ⟨rfl, rfl⟩ := Prod.mk.inj (Option.some.inj hport)
  refine ⟨digits, readGivenChar_some hcolon, hsome, ?_⟩
  rw [hvalue, UInt16.toNat_ofNat_of_lt' hlt]

/-- A parser that reads off the front of the text. -/
def ReadsFront {α : Type} (parser : List Char → Option (α × List Char)) : Prop :=
  ∀ ⦃text a rest⦄, parser text = some (a, rest) → rest <:+ text

/-- One parser after another reads off the front. -/
theorem ReadsFront.bind {α β : Type} {parser : List Char → Option (α × List Char)}
    {next : α → List Char → Option (β × List Char)} (h : ReadsFront parser)
    (hnext : ∀ a, ReadsFront (next a)) :
    ReadsFront fun text => (parser text).bind fun (a, text) => next a text := by
  intro text b rest hread
  obtain ⟨⟨a, middle⟩, hfirst, hsecond⟩ := Option.bind_eq_some_iff.mp hread
  exact (hnext a hsecond).trans (h hfirst)

/-- A character in front of what a parser reads. -/
theorem ReadsFront.after {α : Type} {parser : List Char → Option (α × List Char)}
    (h : ReadsFront parser) (target : Char) :
    ReadsFront fun text => (readGivenChar target text).bind parser := by
  intro text a rest hread
  obtain ⟨middle, hchar, hmiddle⟩ := Option.bind_eq_some_iff.mp hread
  rw [readGivenChar_some hchar]
  exact (h hmiddle).trans (List.suffix_cons target middle)

/-- A value that is made of what was read. -/
theorem ReadsFront.pure {α : Type} (a : α) : ReadsFront fun text => some (a, text) := by
  rintro text _ _ ⟨⟩
  exact List.suffix_rfl

/-- A number is read off the front. -/
theorem readNumber_front (radix : ℕ) (maxDigits : Option ℕ) (allowZeroPrefix : Bool)
    (bound : ℕ) : ReadsFront (readNumber radix maxDigits allowZeroPrefix bound) := by
  have hdigits (value count : ℕ) : ReadsFront (readDigits radix maxDigits bound value count) := by
    intro text
    induction text generalizing value count with
    | nil =>
      rintro _ _ ⟨⟩
      exact List.suffix_rfl
    | cons c text ih =>
      intro result rest hread
      rw [readDigits] at hread
      cases hdigit : toDigit radix c with
      | none =>
        rw [hdigit] at hread
        obtain ⟨-, rfl⟩ := Prod.mk.inj (Option.some.inj hread)
        exact List.suffix_rfl
      | some digit =>
        rw [hdigit] at hread
        obtain ⟨-, hmore⟩ := Option.ite_none_right_eq_some.mp hread
        exact (ih _ _ hmore).trans (List.suffix_cons c text)
  intro text n rest hread
  obtain ⟨⟨⟨value, count⟩, rest'⟩, hfirst, hvalue⟩ := Option.bind_eq_some_iff.mp hread
  obtain ⟨-, hsmall⟩ := Option.ite_none_left_eq_some.mp hvalue
  obtain ⟨-, hsome⟩ := Option.ite_none_right_eq_some.mp hsmall
  obtain ⟨-, rfl⟩ := Prod.mk.inj (Option.some.inj hsome)
  exact hdigits 0 0 hfirst

/-- So is an IPv4 address. -/
theorem readIpv4Addr_front : ReadsFront readIpv4Addr := by
  have hfirst := readNumber_front 10 (some 3) false 256
  have hgroup : ReadsFront (readSeparated '.') := hfirst.after '.'
  exact hfirst.bind fun a => hgroup.bind fun b => hgroup.bind fun c => hgroup.bind fun d =>
    ReadsFront.pure (BitVec.ofNat 32 (((a * 256 + b) * 256 + c) * 256 + d))

/-- So are the groups of an IPv6 address. -/
theorem readGroups_front (limit more : ℕ) (text : List Char) :
    (readGroups limit more text).2 <:+ text := by
  induction more generalizing text with
  | zero => exact List.suffix_rfl
  | succ more ih =>
    have hentry {α : Type} {parser : List Char → Option (α × List Char)} (h : ReadsFront parser) :
        ReadsFront fun text =>
          (if more + 1 < limit then readGivenChar ':' text else some text).bind parser := by
      by_cases hseparated : more + 1 < limit
      · simp only [if_pos hseparated]
        exact h.after ':'
      · simp only [if_neg hseparated]
        exact h
    rw [readGroups]
    split
    · rename_i ip rest hembedded
      obtain ⟨-, hread⟩ := Option.ite_none_right_eq_some.mp hembedded
      exact hentry readIpv4Addr_front hread
    · split
      · exact List.suffix_rfl
      · rename_i group rest hread
        exact (ih rest).trans (hentry (readNumber_front 16 (some 4) true 65536) hread)

/-- So is an IPv6 address. -/
theorem readIpv6Addr_front : ReadsFront readIpv6Addr := by
  intro text ip rest hread
  have hhead := readGroups_front 8 8 text
  rw [readIpv6Addr] at hread
  dsimp only at hread
  split at hread
  · obtain ⟨-, rfl⟩ := Prod.mk.inj (Option.some.inj hread)
    exact hhead
  · split at hread
    · cases hread
    · obtain ⟨second, hfirst, hread⟩ := Option.bind_eq_some_iff.mp hread
      obtain ⟨third, hsecond, hread⟩ := Option.bind_eq_some_iff.mp hread
      obtain ⟨-, rfl⟩ := Prod.mk.inj (Option.some.inj hread)
      rw [readGivenChar_some hfirst, readGivenChar_some hsecond] at hhead
      refine (readGroups_front _ _ third).trans ?_
      exact ((List.suffix_cons ':' third).trans (List.suffix_cons ':' _)).trans hhead

/-- So is a scope. -/
theorem readScopeId_front : ReadsFront readScopeId := by
  have hnumber := readNumber_front 10 none true UInt32.size
  exact (hnumber.bind fun scopeId => ReadsFront.pure (UInt32.ofNat scopeId)).after '%'

/-- A text that parses ends in a colon and the decimal digits of its port. -/
theorem parseSocketAddr_some {s : String} {addr : SocketAddr}
    (h : parseSocketAddr s = some addr) :
    ∃ front digits, s.toList = front ++ ':' :: digits ∧ digits ≠ [] ∧
      digitsValue 0 digits = some addr.port.toNat := by
  -- what is left before the port is a suffix of the text
  have hport {text : List Char} {port : UInt16} (hsuffix : text <:+ s.toList)
      (hread : readPort text = some (port, [])) :
      ∃ front digits, s.toList = front ++ ':' :: digits ∧ digits ≠ [] ∧
        digitsValue 0 digits = some port.toNat := by
    obtain ⟨digits, rfl, hsome, hvalue⟩ := readPort_some hread
    obtain ⟨front, hfront⟩ := hsuffix
    exact ⟨front, digits, by rw [← hfront, List.append_nil], hsome, hvalue⟩
  obtain ⟨⟨read, rest⟩, hread, hrest⟩ := Option.bind_eq_some_iff.mp h
  obtain ⟨rfl, haddr⟩ := Option.ite_none_right_eq_some.mp hrest
  obtain rfl := Option.some.inj haddr
  rcases Option.or_eq_some_iff.mp hread with hv4 | ⟨-, hv6⟩
  · obtain ⟨⟨ip, text⟩, hip, hread⟩ := Option.bind_eq_some_iff.mp hv4
    obtain ⟨⟨port, text'⟩, hread, haddr⟩ := Option.bind_eq_some_iff.mp hread
    obtain ⟨rfl, rfl⟩ := Prod.mk.inj (Option.some.inj haddr)
    exact hport (readIpv4Addr_front hip) hread
  · obtain ⟨first, hopen, hread⟩ := Option.bind_eq_some_iff.mp hv6
    obtain ⟨⟨ip, second⟩, hip, hread⟩ := Option.bind_eq_some_iff.mp hread
    obtain ⟨fourth, hclose, hread⟩ := Option.bind_eq_some_iff.mp hread
    obtain ⟨⟨port, text'⟩, hread, haddr⟩ := Option.bind_eq_some_iff.mp hread
    obtain ⟨rfl, rfl⟩ := Prod.mk.inj (Option.some.inj haddr)
    refine hport ?_ hread
    have hscope : ((readScopeId second).getD (0, second)).2 <:+ second := by
      cases hread : readScopeId second with
      | none => exact List.suffix_rfl
      | some read => exact readScopeId_front hread
    have hfourth := (List.suffix_cons ']' fourth).trans (readGivenChar_some hclose ▸ hscope)
    rw [readGivenChar_some hopen]
    exact hfourth.trans ((readIpv6Addr_front hip).trans (List.suffix_cons '[' first))

/-- A colon and the decimal digits of a port are read as that port. -/
theorem readPort_toString (port : UInt16) :
    readPort (':' :: (toString port.toNat).toList) = some (port, []) := by
  have hdigits := toList_toString port.toNat
  have hvalue : digitsValue 0 (toString port.toNat).toList = some port.toNat := by
    rw [hdigits, digitsValue_toDigits]
  have hsome : (toString port.toNat).toList ≠ [] := by
    rw [hdigits]
    exact Nat.toDigits_ne_nil
  show (readNumber 10 none true UInt16.size (toString port.toNat).toList).bind _ = _
  rw [readNumber_of_value hsome hvalue port.toNat_lt, Option.bind_some]
  show some (UInt16.ofNat port.toNat, []) = _
  rw [UInt16.ofNat_toNat]

/-- The loopback address with any port is parsed. -/
theorem parseSocketAddr_loopback (port : UInt16) :
    parseSocketAddr ("127.0.0.1:" ++ toString port.toNat) = some (.v4 0x7f000001 port) := by
  have htext : ("127.0.0.1:" ++ toString port.toNat).toList =
      "127.0.0.1".toList ++ ':' :: (toString port.toNat).toList := String.toList_append
  have hip (text : List Char) : readIpv4Addr ("127.0.0.1".toList ++ ':' :: text) =
      some (0x7f000001, ':' :: text) := rfl
  have hread : readSocketAddrV4 ("127.0.0.1:" ++ toString port.toNat).toList =
      some (.v4 0x7f000001 port, []) := by
    rw [htext, readSocketAddrV4, hip]
    show (readPort _).bind _ = _
    rw [readPort_toString]
    rfl
  rw [parseSocketAddr, readSocketAddr, hread]
  rfl

example : parseSocketAddr "[fe80::1%3]:8080" =
    some (.v6 0xfe800000000000000000000000000001 8080 3) := by decide +kernel

end Republisher
