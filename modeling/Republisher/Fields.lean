import Republisher.Browser
import Republisher.Decimals
import Republisher.Positions
import Mathlib.Algebra.Group.Nat.Defs

/-!
# Loading a form and saving it

The browser fills a form with one text for each field, and the server builds the stored
values from the texts it is sent back. This file says which stored values come back as they
were when nobody edits the form.
-/

namespace Republisher

variable {Disk : Type}

/-- The texts a form is filled with, as by `connectionStrings` and `loadPointIntoEditor`. -/
def Browser.formStrings (stringify : Json → String) (specs : List FieldSpecDto)
    (existing : Addressing) : FieldValues :=
  specs.foldl (fun values spec => values.insert spec.key (fieldString stringify existing spec)) ∅

/-- `connectionStrings` fills the form of the active protocol with its stored connection. -/
theorem Browser.connectionStrings_eq (stringify : Json → String) {b : Browser}
    {caps : CapabilitiesDto} {config : AppConfig} (hcaps : b.activeCaps = some caps)
    (hconfig : b.config = some config) :
    b.connectionStrings stringify = formStrings stringify caps.connectionFields
      ((config.connections.get? config.protocol).getD ∅) := by
  unfold connectionStrings
  simp only [hcaps, hconfig]
  rfl

/-- What is known of `JSON.stringify`: it prints the booleans by name, and the integers that
are exact in the browser in decimal. -/
structure PrintsScalars (stringify : Json → String) : Prop where
  true : stringify (.bool true) = "true"
  false : stringify (.bool false) = "false"
  integer : ∀ n : UInt64, n.toNat ≤ 2 ^ 53 →
    stringify (.number (.posInt n)) = toString n.toNat

/-- The values that a field of a kind stores, as far as the browser prints them exactly. -/
def FieldKind.Stores (stringify : Json → String) : FieldKind → Json → Prop
  | .u32, .number (.posInt n) => n.toNat ≤ 2 ^ 53 ∨
      parseU64 (trim (stringify (.number (.posInt n)))) = some n
  | .u32, .string s => parseU64 (trim s) = none
  | .bool, .bool _ => True
  | .text, .string _ | .enum _, .string _ | .secret, .string _ => True
  | _, _ => False

/-- The field that stores the value of a key. A later field replaces an earlier one. -/
def fieldOf (specs : List FieldSpec) (key : String) : Option FieldSpec :=
  specs.reverse.find? fun spec => spec.key == key

/-- A map into which fields are inserted has under each key what the last field with the key
puts there, and without one what it had before. -/
theorem foldl_insert_get? {α β : Type} (specs : List α) (name : α → String) (make : α → β)
    (before : StringMap β) (key : String) :
    (specs.foldl (fun built spec => built.insert (name spec) (make spec)) before).get? key =
      ((specs.reverse.find? fun spec => name spec == key).map make).or (before.get? key) := by
  induction specs using List.reverseRecOn with
  | nil => rfl
  | append_singleton specs last ih =>
    rw [List.foldl_append, List.reverse_append, List.reverse_singleton, List.singleton_append,
      List.foldl_cons, List.foldl_nil]
    simp only [Std.ExtTreeMap.get?_eq_getElem?, Std.ExtTreeMap.getElem?_insert,
      Std.LawfulEqCmp.compare_eq_iff_eq] at ih ⊢
    by_cases hkey : name last = key
    · rw [if_pos hkey, List.find?_cons_of_pos (by simpa using hkey), Option.map_some,
        Option.some_or]
    · rw [if_neg hkey, ih, List.find?_cons_of_neg (by simpa using hkey)]

/-- The field of a key has that key. -/
theorem fieldOf_key {specs : List FieldSpec} {key : String} {spec : FieldSpec}
    (h : fieldOf specs key = some spec) : spec.key = key := by
  have hfound := List.find?_some h
  exact beq_iff_eq.mp hfound

/-- What `build_addressing` stores under a key. -/
theorem buildAddressing_get? (specs : List FieldSpec) (values : FieldValues) (key : String) :
    (buildAddressing specs values).get? key =
      (fieldOf specs key).map fun spec => fieldValue spec ((values.get? key).getD "") := by
  have hbuilt : (buildAddressing specs values).get? key = (fieldOf specs key).map fun spec =>
      fieldValue spec ((values.get? spec.key).getD "") :=
    (foldl_insert_get? specs FieldSpec.key _ ∅ key).trans (Option.or_none)
  rw [hbuilt]
  exact Option.map_congr fun spec hfield => by rw [fieldOf_key hfield]

/-- The compact text of a value prints scalars as the browser does. -/
theorem printsScalars_render (floatText : UInt64 → String) :
    PrintsScalars (Json.render floatText) :=
  ⟨rfl, rfl, fun _ _ => rfl⟩

end Republisher
