import Mathlib.Data.List.Basic

/-!
# Texts that are told apart

Values are written one after the other into a text. This file says when the text can be read
back in one way only: first for codes that end where the next part begins, then for parts in
quotation marks, which may hold the separators. Values, codes and characters are arbitrary.
-/

namespace Delimited

variable {α χ : Type}

/-! ## Codes -/

/-- The code of `a` in front of a continuation is not the code of another valid value in front
of one. Only continuations that stop the code are considered. -/
def TellsApart (code : α → List χ) (valid : α → Prop) (stops : List χ → Prop) (a : α) : Prop :=
  ∀ b rest rest', valid b → stops rest → stops rest' → code a ++ rest = code b ++ rest' →
    a = b ∧ rest = rest'

/-- What is told apart from more values with more continuations is with fewer. -/
theorem TellsApart.mono {code : α → List χ} {valid allowed : α → Prop}
    {stops ends : List χ → Prop} {a : α} (h : TellsApart code valid stops a)
    (hallowed : ∀ b, allowed b → valid b) (hends : ∀ rest, ends rest → stops rest) :
    TellsApart code allowed ends a :=
  fun b rest rest' hb hrest hrest' =>
    h b rest rest' (hallowed b hb) (hends rest hrest) (hends rest' hrest')

/-- A code that a reader takes from the front of a text is told apart. -/
theorem TellsApart.of_read {code : α → List χ} {valid : α → Prop} {stops : List χ → Prop}
    (read : List χ → Option (α × List χ))
    (hread : ∀ a rest, valid a → read (code a ++ rest) = some (a, rest)) {a : α} (ha : valid a) :
    TellsApart code valid stops a := by
  intro b rest rest' hb _ _ heq
  have hsame : some (a, rest) = some (b, rest') := by
    rw [← hread a rest ha, heq, hread b rest' hb]
  exact Prod.mk.inj (Option.some.inj hsame)

/-- Codes of one kind of characters are told apart in front of another kind when they are
distinct. -/
theorem TellsApart.of_chars {code : α → List χ} {valid : α → Prop} {kind : χ → Prop}
    (hkind : ∀ a, valid a → ∀ c ∈ code a, kind c)
    (hinj : ∀ a b, valid a → valid b → code a = code b → a = b) {a : α} (ha : valid a) :
    TellsApart code valid (fun rest => ∀ c ∈ rest.head?, ¬ kind c) a := by
  intro b rest rest' hb hrest hrest' heq
  have hnil {more rest : List χ} (hmore : ∀ c ∈ more, kind c)
      (hrest : ∀ c ∈ (more ++ rest).head?, ¬ kind c) : more = [] := by
    cases more with
    | nil => rfl
    | cons c more => exact absurd (hmore c List.mem_cons_self) (hrest c rfl)
  rcases List.append_eq_append_iff.mp heq with ⟨more, hcode, rfl⟩ | ⟨more, hcode, rfl⟩
  · obtain rfl := hnil (fun c hc => hkind b hb c (hcode ▸ List.mem_append_right _ hc)) hrest
    rw [List.append_nil] at hcode
    exact ⟨hinj a b ha hb hcode.symm, rfl⟩
  · obtain rfl := hnil (fun c hc => hkind a ha c (hcode ▸ List.mem_append_right _ hc)) hrest'
    rw [List.append_nil] at hcode
    exact ⟨hinj a b ha hb hcode, rfl⟩

/-- A code between two marks is told apart in front of anything, when it is in front of the mark
that closes it. -/
theorem TellsApart.enclosed {code : α → List χ} {valid : α → Prop} {closing : χ} {a : α}
    (h : TellsApart code valid (fun rest => rest.head? = some closing) a) (opening : χ) :
    TellsApart (fun a => opening :: (code a ++ [closing])) valid (fun _ => True) a := by
  intro b rest rest' hb _ _ heq
  have hinner : code a ++ closing :: rest = code b ++ closing :: rest' := by
    simpa using heq
  obtain ⟨hsame, hrests⟩ := h b _ _ hb rfl rfl hinner
  exact ⟨hsame, (List.cons.inj hrests).2⟩

section Lists

variable {code : α → List χ} {valid : α → Prop} {stops ends : List χ → Prop}

/-- Codes in a row stop what comes before them. -/
theorem stops_flatMap (hcode : ∀ a rest, valid a → stops rest → stops (code a ++ rest))
    (hends : ∀ rest, ends rest → stops rest) {as : List α} (has : ∀ a ∈ as, valid a)
    {rest : List χ} (hrest : ends rest) : stops (as.flatMap code ++ rest) := by
  induction as with
  | nil => exact hends rest hrest
  | cons a as ih =>
    have hvalid := List.forall_mem_cons.mp has
    rw [List.flatMap_cons, List.append_assoc]
    exact hcode a _ hvalid.1 (ih hvalid.2)

/-- A list of values is told apart when its values are, and what ends it is no code. -/
theorem TellsApart.flatMap (hcode : ∀ a rest, valid a → stops rest → stops (code a ++ rest))
    (hends : ∀ rest, ends rest → stops rest)
    (hnone : ∀ a rest, valid a → ¬ ends (code a ++ rest)) {as : List α}
    (has : ∀ a ∈ as, valid a) (h : ∀ a ∈ as, TellsApart code valid stops a) :
    TellsApart (List.flatMap code) (fun as => ∀ a ∈ as, valid a) ends as := by
  intro bs rest rest' hbs hrest hrest' heq
  induction as generalizing bs with
  | nil =>
    cases bs with
    | nil => exact ⟨rfl, heq⟩
    | cons b bs =>
      have hrest : ends (code b ++ (bs.flatMap code ++ rest')) := by
        rwa [← List.append_assoc, ← List.flatMap_cons, ← heq]
      exact absurd hrest (hnone b _ (hbs b List.mem_cons_self))
  | cons a as ih =>
    have hvalid := List.forall_mem_cons.mp has
    cases bs with
    | nil =>
      have hrest' : ends (code a ++ (as.flatMap code ++ rest)) := by
        rwa [← List.append_assoc, ← List.flatMap_cons, heq]
      exact absurd hrest' (hnone a _ hvalid.1)
    | cons b bs =>
      have hvalid' := List.forall_mem_cons.mp hbs
      rw [List.flatMap_cons, List.flatMap_cons, List.append_assoc, List.append_assoc] at heq
      obtain ⟨rfl, hmore⟩ := h a List.mem_cons_self b _ _ hvalid'.1
        (stops_flatMap hcode hends hvalid.2 hrest) (stops_flatMap hcode hends hvalid'.2 hrest') heq
      obtain ⟨rfl, hsame⟩ := ih hvalid.2 (fun x hx => h x (List.mem_cons_of_mem _ hx)) bs
        hvalid'.2 hmore
      exact ⟨rfl, hsame⟩

/-- Codes with a separator between them are the first code and the others, each behind a
separator. -/
theorem intercalate_cons (separator : χ) (code : α → List χ) (a : α) (as : List α) :
    [separator].intercalate ((a :: as).map code) =
      code a ++ as.flatMap fun a => separator :: code a := by
  induction as generalizing a with
  | nil => simp
  | cons b as ih =>
    rw [List.map_cons, List.map_cons, List.intercalate_cons_cons, ← List.map_cons, ih b]
    simp

/-- A code behind a separator is told apart as the code is. -/
theorem TellsApart.behind {a : α} (h : TellsApart code valid stops a) (separator : χ) :
    TellsApart (fun a => separator :: code a) valid stops a :=
  fun b rest rest' hb hrest hrest' heq => h b rest rest' hb hrest hrest' (List.cons.inj heq).2

/-- A list with separators is told apart when its values are, what ends it is no code, and a
separator stops a code but does not end the list. -/
theorem TellsApart.intercalate {separator : χ}
    (hseparator : ∀ a rest, valid a → stops rest → stops (separator :: (code a ++ rest)))
    (hends : ∀ rest, ends rest → stops rest) (hmore : ∀ rest, ¬ ends (separator :: rest))
    (hnone : ∀ a rest, valid a → ¬ ends (code a ++ rest)) {as : List α}
    (has : ∀ a ∈ as, valid a) (h : ∀ a ∈ as, TellsApart code valid stops a) :
    TellsApart (fun as => [separator].intercalate (as.map code)) (fun as => ∀ a ∈ as, valid a)
      ends as := by
  intro bs rest rest' hbs hrest hrest' heq
  -- the values after the first, each with its separator
  have hstops {as : List α} (has : ∀ a ∈ as, valid a) {rest : List χ} (hrest : ends rest) :
      stops ((as.flatMap fun a => separator :: code a) ++ rest) :=
    stops_flatMap hseparator hends has hrest
  cases as with
  | nil =>
    cases bs with
    | nil => exact ⟨rfl, heq⟩
    | cons b bs =>
      dsimp only at heq
      rw [intercalate_cons, List.append_assoc] at heq
      have hends : ends (code b ++ ((bs.flatMap fun a => separator :: code a) ++ rest')) := by
        rw [← heq]
        exact hrest
      exact absurd hends (hnone b _ (hbs b List.mem_cons_self))
  | cons a as =>
    have hvalid := List.forall_mem_cons.mp has
    cases bs with
    | nil =>
      dsimp only at heq
      rw [intercalate_cons, List.append_assoc] at heq
      have hends : ends (code a ++ ((as.flatMap fun a => separator :: code a) ++ rest)) := by
        rw [heq]
        exact hrest'
      exact absurd hends (hnone a _ hvalid.1)
    | cons b bs =>
      have hvalid' := List.forall_mem_cons.mp hbs
      dsimp only at heq
      rw [intercalate_cons, intercalate_cons, List.append_assoc, List.append_assoc] at heq
      obtain ⟨rfl, hrests⟩ := h a List.mem_cons_self b _ _ hvalid'.1
        (hstops hvalid.2 hrest) (hstops hvalid'.2 hrest') heq
      have hlist : TellsApart (List.flatMap fun a => separator :: code a)
          (fun as => ∀ a ∈ as, valid a) ends as :=
        TellsApart.flatMap hseparator hends (fun a rest _ => hmore _) hvalid.2
          fun a ha => (h a (List.mem_cons_of_mem _ ha)).behind separator
      obtain ⟨rfl, hsame⟩ := hlist bs rest rest' hvalid'.2 hrest hrest' hrests
      exact ⟨rfl, hsame⟩

end Lists

/-! ## Entries with quoted parts -/

/-- The characters that have a meaning in a text of entries: the quotation mark and the escape
inside values, the sign between a key and its value, and the comma between entries. -/
structure Marks (χ : Type) where
  quote : χ
  escape : χ
  sign : χ
  comma : χ
  sign_ne_quote : sign ≠ quote
  sign_ne_escape : sign ≠ escape
  comma_ne_quote : comma ≠ quote
  comma_ne_escape : comma ≠ escape
  comma_ne_sign : comma ≠ sign

/-- Where a reader is in a value. -/
inductive Mode
  | outside
  | inside
  | escaped
  deriving DecidableEq

/-- An entry: the key as it is, the sign and the code of the value. -/
def Marks.entry (marks : Marks χ) (code : α → List χ) (entry : List χ × α) : List χ :=
  entry.1 ++ marks.sign :: code entry.2

/-- The entries with commas between them. -/
def Marks.entries (marks : Marks χ) (code : α → List χ) (entries : List (List χ × α)) : List χ :=
  [marks.comma].intercalate (entries.map (marks.entry code))

section Quoted

variable [DecidableEq χ] (marks : Marks χ)

/-- One character of a value. Outside quotation marks there is no escape and no sign. -/
def Marks.next : Mode → χ → Option Mode
  | .outside, c =>
      if c = marks.quote then some .inside
      else if c = marks.escape ∨ c = marks.sign then none
      else some .outside
  | .inside, c =>
      if c = marks.quote then some .outside
      else if c = marks.escape then some .escaped
      else some .inside
  | .escaped, _ => some .inside

/-- A part of a value, from one mode to another. -/
def Marks.scan : Mode → List χ → Option Mode
  | mode, [] => some mode
  | mode, c :: text => (marks.next mode c).bind fun mode => Marks.scan mode text

/-- The text of a value, read from outside to outside. -/
def Marks.Balanced (text : List χ) : Prop := marks.scan .outside text = some .outside

/-- Further entries whose keys have no comma. -/
inductive Marks.More : List χ → Prop
  | done : More []
  | entry {key value rest : List χ} : marks.comma ∉ key → marks.Balanced value → More rest →
      More (marks.comma :: (key ++ marks.sign :: (value ++ rest)))

/-- Two parts are read one after the other. -/
theorem Marks.scan_append (mode : Mode) (front back : List χ) :
    marks.scan mode (front ++ back) =
      (marks.scan mode front).bind fun mode => marks.scan mode back := by
  induction front generalizing mode with
  | nil => rfl
  | cons c front ih =>
    rw [List.cons_append, scan, scan, Option.bind_assoc]
    congr 1
    funext mode
    exact ih mode

variable {marks}

theorem Marks.Balanced.nil : marks.Balanced [] := rfl

theorem Marks.Balanced.append {front back : List χ} (hfront : marks.Balanced front)
    (hback : marks.Balanced back) : marks.Balanced (front ++ back) := by
  rw [Balanced, scan_append, hfront, Option.bind_some]
  exact hback

/-- A text without quotation marks, escapes and signs stays outside. -/
theorem Marks.balanced_of_plain {text : List χ}
    (h : ∀ c ∈ text, c ≠ marks.quote ∧ c ≠ marks.escape ∧ c ≠ marks.sign) :
    marks.Balanced text := by
  induction text with
  | nil => exact Balanced.nil
  | cons c text ih =>
    obtain ⟨⟨hquote, hescape, hsign⟩, htext⟩ := List.forall_mem_cons.mp h
    rw [Balanced, scan, next, if_neg hquote, if_neg (not_or.mpr ⟨hescape, hsign⟩)]
    exact ih htext

/-- A text whose parts stay inside stays outside when it is put in quotation marks. -/
theorem Marks.balanced_quoted {code : α → List χ}
    (hcode : ∀ a, marks.scan .inside (code a) = some .inside) (as : List α) :
    marks.Balanced (marks.quote :: (as.flatMap code ++ [marks.quote])) := by
  have hinside : marks.scan .inside (as.flatMap code) = some .inside := by
    induction as with
    | nil => rfl
    | cons a as ih => rw [List.flatMap_cons, scan_append, hcode a, Option.bind_some, ih]
  rw [Balanced, scan, next, if_pos rfl, Option.bind_some, scan_append, hinside, Option.bind_some,
    scan, next, if_pos rfl]
  rfl

/-- Texts that stay outside do so one after the other. -/
theorem Marks.Balanced.flatMap {code : α → List χ} {as : List α}
    (h : ∀ a ∈ as, marks.Balanced (code a)) : marks.Balanced (as.flatMap code) := by
  induction as with
  | nil => exact Balanced.nil
  | cons a as ih =>
    obtain ⟨ha, has⟩ := List.forall_mem_cons.mp h
    exact ha.append (ih has)

/-- They do so with commas between them. -/
theorem Marks.Balanced.intercalate {code : α → List χ} {as : List α}
    (h : ∀ a ∈ as, marks.Balanced (code a)) :
    marks.Balanced ([marks.comma].intercalate (as.map code)) := by
  have hcomma : marks.Balanced [marks.comma] := by
    refine balanced_of_plain fun c hc => ?_
    rw [List.mem_singleton.mp hc]
    exact ⟨marks.comma_ne_quote, marks.comma_ne_escape, marks.comma_ne_sign⟩
  cases as with
  | nil => exact Balanced.nil
  | cons a as =>
    obtain ⟨ha, has⟩ := List.forall_mem_cons.mp h
    rw [intercalate_cons]
    exact ha.append (Balanced.flatMap fun b hb => hcomma.append (has b hb))

/-- Behind the sign a reader is in quotation marks. -/
theorem Marks.next_sign {mode after : Mode} (h : marks.next mode marks.sign = some after) :
    after = .inside := by
  cases mode with
  | outside => simp [next, marks.sign_ne_quote] at h
  | inside =>
    rw [next, if_neg marks.sign_ne_quote, if_neg marks.sign_ne_escape] at h
    exact (Option.some.inj h).symm
  | escaped => exact (Option.some.inj h).symm

/-- A part of a value that is in front of further entries, and that begins like a key without a
comma and its sign, has them whole, and the reader is in quotation marks behind the sign. -/
theorem Marks.More.passes {part rest key text : List χ} (hrest : marks.More rest)
    {mode : Mode} (hpart : marks.scan mode part = some .outside) (hkey : marks.comma ∉ key)
    (heq : part ++ rest = key ++ marks.sign :: text) :
    ∃ more, marks.scan .inside more = some .outside ∧ more ++ rest = text := by
  rcases List.append_eq_append_iff.mp heq with ⟨between, rfl, hbetween⟩ | ⟨between, rfl, hbetween⟩
  · -- the part would end in front of the sign, but a comma comes behind it
    cases hrest with
    | done =>
      rw [eq_comm, List.append_eq_nil_iff] at hbetween
      cases hbetween.2
    | entry _ _ _ =>
      cases between with
      | nil => exact absurd (List.cons.inj hbetween).1 marks.comma_ne_sign
      | cons c between =>
        obtain ⟨rfl, -⟩ := List.cons.inj hbetween
        exact absurd (List.mem_append_right _ List.mem_cons_self) hkey
  · cases between with
    | nil =>
      cases hrest with
      | done => cases hbetween
      | entry _ _ _ => exact absurd (List.cons.inj hbetween).1.symm marks.comma_ne_sign
    | cons c more =>
      obtain ⟨rfl, rfl⟩ := List.cons.inj hbetween
      rw [scan_append, Option.bind_eq_some_iff] at hpart
      obtain ⟨before, -, hsign⟩ := hpart
      rw [scan, Option.bind_eq_some_iff] at hsign
      obtain ⟨after, hnext, hmore⟩ := hsign
      rw [next_sign hnext] at hmore
      exact ⟨more, hmore, rfl⟩

/-- No text is read both from inside and from outside quotation marks: the two readers stay on
different sides, and at the end both have to be outside. -/
theorem Marks.not_crossed {x y restX restY : List χ} (hx : marks.scan .inside x = some .outside)
    (hy : marks.Balanced y) (hrestX : marks.More restX) (hrestY : marks.More restY) :
    x ++ restX ≠ y ++ restY := by
  intro heq
  induction hlength : (x ++ restX).length using Nat.strongRecOn generalizing x y restX restY with
  | ind n ih =>
    cases x with
    | nil => cases hx
    | cons c x =>
      rw [scan, Option.bind_eq_some_iff] at hx
      obtain ⟨inner, hinner, hx⟩ := hx
      cases y with
      | nil =>
        -- the reader outside comes to the next entry, the other one passes its key
        cases hrestY with
        | done => cases heq
        | @entry key value rest hkey hvalue hrest =>
          obtain ⟨rfl, htail⟩ := List.cons.inj heq
          rw [next, if_neg marks.comma_ne_quote, if_neg marks.comma_ne_escape] at hinner
          obtain rfl := Option.some.inj hinner
          obtain ⟨more, hmore, hsame⟩ := hrestX.passes hx hkey htail
          have hshorter : (more ++ restX).length < n := by
            rw [hsame, ← hlength, heq]
            simp
            omega
          exact ih _ hshorter hmore hvalue hrestX hrest hsame rfl
      | cons d y =>
        obtain ⟨rfl, htail⟩ := List.cons.inj heq
        rw [Balanced, scan, Option.bind_eq_some_iff] at hy
        obtain ⟨outer, houter, hy⟩ := hy
        have hshorter : (x ++ restX).length < n := by
          rw [← hlength, List.cons_append, List.length_cons]
          exact Nat.lt_succ_self _
        by_cases hquote : c = marks.quote
        · -- the readers change sides
          rw [next, if_pos hquote] at hinner
          rw [next, if_pos hquote] at houter
          obtain rfl := Option.some.inj hinner
          obtain rfl := Option.some.inj houter
          have hsame : y ++ restY = x ++ restX := htail.symm
          exact ih _ hshorter hy hx hrestY hrestX hsame (by rw [hsame])
        · rw [next, if_neg hquote] at hinner
          rw [next, if_neg hquote] at houter
          obtain ⟨hplain, houter⟩ := Option.ite_none_left_eq_some.mp houter
          rw [if_neg fun hescape => hplain (.inl hescape)] at hinner
          obtain rfl := Option.some.inj hinner
          obtain rfl := Option.some.inj houter
          exact ih _ hshorter hx hy hrestX hrestY htail rfl

/-- A part of a value that begins outside and does not end there has a quotation mark. -/
theorem Marks.quote_mem {part : List χ} {mode : Mode} (h : marks.scan .outside part = some mode)
    (hmode : mode ≠ .outside) : marks.quote ∈ part := by
  induction part with
  | nil => exact absurd (Option.some.inj h).symm hmode
  | cons c part ih =>
    by_cases hquote : c = marks.quote
    · exact hquote ▸ List.mem_cons_self
    · rw [scan, next, if_neg hquote, Option.bind_eq_some_iff] at h
      obtain ⟨after, hafter, h⟩ := h
      obtain ⟨-, hafter⟩ := Option.ite_none_left_eq_some.mp hafter
      obtain rfl := Option.some.inj hafter
      exact List.mem_cons_of_mem _ (ih h)

end Quoted

section Entries

variable {marks : Marks χ} {code : α → List χ} {valid : α → Prop}
  {validEntry : List χ × α → Prop} {stops : List χ → Prop}

/-- What may come behind an entry: nothing, or a comma. -/
def Marks.Stops (marks : Marks χ) (rest : List χ) : Prop :=
  rest = [] ∨ ∃ more, rest = marks.comma :: more

theorem Marks.Stops.nil : marks.Stops [] := .inl rfl

theorem Marks.Stops.comma (rest : List χ) : marks.Stops (marks.comma :: rest) := .inr ⟨rest, rfl⟩

/-- Entries are told apart when no key goes on, behind the sign, with the value of another
entry. -/
theorem Marks.entry_tellsApart (hvalid : ∀ e, validEntry e → valid e.2)
    (hvalue : ∀ a, valid a → TellsApart code valid stops a)
    (hcross : ∀ a b more rest rest', validEntry a → validEntry b → stops rest → stops rest' →
      b.1 = a.1 ++ marks.sign :: more →
        code a.2 ++ rest ≠ more ++ marks.sign :: (code b.2 ++ rest'))
    {a : List χ × α} (ha : validEntry a) :
    TellsApart (marks.entry code) validEntry stops a := by
  intro b rest rest' hb hrest hrest' heq
  rw [entry, entry, List.append_assoc, List.append_assoc, List.cons_append,
    List.cons_append] at heq
  rcases List.append_eq_append_iff.mp heq with ⟨between, hkey, hbetween⟩ | ⟨between, hkey, hbetween⟩
  · cases between with
    | nil =>
      obtain ⟨hsame, hrests⟩ := hvalue a.2 (hvalid a ha) b.2 rest rest' (hvalid b hb) hrest hrest'
        (List.cons.inj hbetween).2
      exact ⟨Prod.ext (by rw [hkey, List.append_nil]) hsame, hrests⟩
    | cons c more =>
      obtain ⟨rfl, htext⟩ := List.cons.inj hbetween
      exact absurd htext (hcross a b more rest rest' ha hb hrest hrest' hkey)
  · cases between with
    | nil =>
      obtain ⟨hsame, hrests⟩ := hvalue a.2 (hvalid a ha) b.2 rest rest' (hvalid b hb) hrest hrest'
        (List.cons.inj hbetween).2.symm
      exact ⟨Prod.ext (by rw [hkey, List.append_nil]) hsame, hrests⟩
    | cons c more =>
      obtain ⟨rfl, htext⟩ := List.cons.inj hbetween
      exact absurd htext (hcross b a more rest' rest hb ha hrest' hrest hkey)

/-- Entries that are told apart one by one are in a list. -/
theorem Marks.entries_inj (hnil : stops [])
    (hcomma : ∀ a rest, validEntry a → stops rest →
      stops (marks.comma :: (marks.entry code a ++ rest)))
    (hentry : ∀ a, validEntry a → TellsApart (marks.entry code) validEntry stops a)
    {as bs : List (List χ × α)} (has : ∀ a ∈ as, validEntry a) (hbs : ∀ b ∈ bs, validEntry b)
    (h : marks.entries code as = marks.entries code bs) : as = bs := by
  have hends : ∀ rest : List χ, rest = [] → stops rest := fun rest hrest => hrest ▸ hnil
  have hnone : ∀ a rest, validEntry a → ¬ marks.entry code a ++ rest = [] := by
    intro a rest _ hnil
    simp [entry] at hnil
  have hlist := TellsApart.intercalate hcomma hends (fun rest => List.cons_ne_nil _ rest) hnone has
    fun a ha => hentry a (has a ha)
  refine (hlist bs [] [] hbs rfl rfl ?_).1
  rw [List.append_nil, List.append_nil]
  exact h

/-- Entries whose keys do not have the sign are told apart. -/
theorem Marks.entries_inj_of_sign (hvalue : ∀ a, valid a → TellsApart code valid marks.Stops a)
    {as bs : List (List χ × α)} (has : ∀ a ∈ as, marks.sign ∉ a.1 ∧ valid a.2)
    (hbs : ∀ b ∈ bs, marks.sign ∉ b.1 ∧ valid b.2)
    (h : marks.entries code as = marks.entries code bs) : as = bs := by
  refine entries_inj Stops.nil (fun _ _ _ _ => Stops.comma _) (fun a ha => ?_) has hbs h
  refine entry_tellsApart (fun _ h => h.2) hvalue ?_ ha
  intro a b more _ _ _ hb _ _ hkey _
  exact hb.1 (hkey ▸ List.mem_append_right _ List.mem_cons_self)

variable [DecidableEq χ]

/-- Entries whose keys do not have the comma are told apart. -/
theorem Marks.entries_inj_of_comma (hbalanced : ∀ a, valid a → marks.Balanced (code a))
    (hvalue : ∀ a, valid a → TellsApart code valid marks.Stops a)
    {as bs : List (List χ × α)} (has : ∀ a ∈ as, marks.comma ∉ a.1 ∧ valid a.2)
    (hbs : ∀ b ∈ bs, marks.comma ∉ b.1 ∧ valid b.2)
    (h : marks.entries code as = marks.entries code bs) : as = bs := by
  have hmore : ∀ a rest, (marks.comma ∉ a.1 ∧ valid a.2) → marks.More rest →
      marks.More (marks.comma :: (marks.entry code a ++ rest)) := by
    intro a rest ha hrest
    rw [entry, List.append_assoc, List.cons_append]
    exact .entry ha.1 (hbalanced a.2 ha.2) hrest
  have hstops : ∀ rest, marks.More rest → marks.Stops rest := by
    rintro _ (_ | _)
    · exact Stops.nil
    · exact Stops.comma _
  refine entries_inj .done hmore (fun a ha => ?_) has hbs h
  refine entry_tellsApart (fun _ h => h.2)
    (fun a ha => (hvalue a ha).mono (fun _ h => h) hstops) ?_ ha
  intro a b more rest rest' ha hb hrest hrest' hkey heq
  -- the value of the shorter key is read on into the value of the longer one
  have hcomma : marks.comma ∉ more := fun hmem =>
    hb.1 (hkey ▸ List.mem_append_right _ (List.mem_cons_of_mem _ hmem))
  obtain ⟨text, htext, hsame⟩ := hrest.passes (hbalanced a.2 ha.2) hcomma heq
  exact not_crossed htext (hbalanced b.2 hb.2) hrest hrest' hsame

/-- Entries are told apart when no value can be written with the characters of the keys, and
no quotation mark can. -/
theorem Marks.entries_inj_of_values {allowed : χ → Prop} (hquote : ¬ allowed marks.quote)
    (hcode : ∀ a, valid a → ∃ c ∈ code a, ¬ allowed c)
    (hbalanced : ∀ a, valid a → marks.Balanced (code a))
    (hvalue : ∀ a, valid a → TellsApart code valid marks.Stops a)
    {as bs : List (List χ × α)} (has : ∀ a ∈ as, (∀ c ∈ a.1, allowed c) ∧ valid a.2)
    (hbs : ∀ b ∈ bs, (∀ c ∈ b.1, allowed c) ∧ valid b.2)
    (h : marks.entries code as = marks.entries code bs) : as = bs := by
  refine entries_inj Stops.nil (fun _ _ _ _ => Stops.comma _) (fun a ha => ?_) has hbs h
  refine entry_tellsApart (fun _ h => h.2) hvalue ?_ ha
  intro a b more rest rest' ha hb _ _ hkey heq
  have hmore : ∀ c ∈ more, allowed c := fun c hc =>
    hb.1 c (hkey ▸ List.mem_append_right _ (List.mem_cons_of_mem _ hc))
  rcases List.append_eq_append_iff.mp heq with ⟨between, rfl, -⟩ | ⟨between, hvalue', hbetween⟩
  · -- the value ends inside the longer key
    obtain ⟨c, hc, hnot⟩ := hcode a.2 ha.2
    exact hnot (hmore c (List.mem_append_left _ hc))
  · cases between with
    | nil =>
      obtain ⟨c, hc, hnot⟩ := hcode a.2 ha.2
      rw [hvalue', List.append_nil] at hc
      exact hnot (hmore c hc)
    | cons c between =>
      -- the value goes on behind the sign, so it has a quotation mark in front of it
      obtain ⟨rfl, -⟩ := List.cons.inj hbetween
      have hscan := hbalanced a.2 ha.2
      rw [hvalue', Balanced, scan_append, Option.bind_eq_some_iff] at hscan
      obtain ⟨mode, hscan, hsign⟩ := hscan
      refine hquote (hmore _ (quote_mem hscan ?_))
      rintro rfl
      rw [scan, Option.bind_eq_some_iff] at hsign
      obtain ⟨after, hafter, -⟩ := hsign
      simp [next, marks.sign_ne_quote] at hafter

end Entries

end Delimited
