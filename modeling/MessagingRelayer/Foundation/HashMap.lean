import Mathlib.Data.Finmap
import Mathlib.Tactic.Common

/-!
# Hash maps

A hash map is a finite map from keys to values, without an order of its entries: `Finmap` with a
constant value type. A program that walks over the entries sees them in an order it does not choose.
`IterationOrder map listing` says that `listing` is one of the orders in which the values can come
out, so a statement about a walk quantifies over every such listing.
-/

set_option autoImplicit false
set_option relaxedAutoImplicit false

namespace MessagingRelayer.Foundation

/-- A hash map from `Key` to `Value`. -/
abbrev HashMap (Key Value : Type*) := Finmap fun _ : Key ↦ Value

namespace HashMap

variable {Key Value : Type*}

/-- The values of the map, each as often as it is stored. -/
def values (map : HashMap Key Value) : Multiset Value :=
  map.entries.map Sigma.snd

/-- The list gives the values of the map in one of the orders a walk can meet them. -/
def IterationOrder (map : HashMap Key Value) (listing : List Value) : Prop :=
  (listing : Multiset Value) = map.values

instance [DecidableEq Value] (map : HashMap Key Value) (listing : List Value) :
    Decidable (map.IterationOrder listing) :=
  inferInstanceAs (Decidable ((listing : Multiset Value) = map.values))

/-- Every map has an iteration order. -/
theorem exists_iterationOrder (map : HashMap Key Value) : ∃ listing, map.IterationOrder listing :=
  Quot.exists_rep map.values

variable [DecidableEq Key]

theorem mem_values_iff {map : HashMap Key Value} {value : Value} :
    value ∈ map.values ↔ ∃ key, map.lookup key = some value := by
  simp only [values, Multiset.mem_map, Finmap.lookup_eq_some_iff]
  constructor
  · rintro ⟨⟨key, stored⟩, hentry, rfl⟩
    exact ⟨key, hentry⟩
  · rintro ⟨key, hentry⟩
    exact ⟨⟨key, value⟩, hentry, rfl⟩

theorem IterationOrder.mem_iff {map : HashMap Key Value} {listing : List Value}
    (horder : map.IterationOrder listing) {value : Value} :
    value ∈ listing ↔ ∃ key, map.lookup key = some value := by
  rw [← mem_values_iff, ← horder, Multiset.mem_coe]

/-- Assumes: a function that reads the key of every stored value back from it. A walk meets no key
twice. -/
theorem IterationOrder.nodup_map {map : HashMap Key Value} {listing : List Value}
    (horder : map.IterationOrder listing) (keyOf : Value → Key)
    (hkey : ∀ key value, map.lookup key = some value → keyOf value = key) :
    (listing.map keyOf).Nodup := by
  have hkeys : (listing.map keyOf : Multiset Key) = map.entries.map Sigma.fst := by
    rw [← Multiset.map_coe, horder, values, Multiset.map_map]
    refine Multiset.map_congr rfl fun entry hentry ↦ ?_
    exact hkey entry.1 entry.2 (Finmap.lookup_eq_some_iff.mpr hentry)
  rw [← Multiset.coe_nodup, hkeys]
  exact Multiset.nodup_keys.mpr map.nodupKeys

theorem iterationOrder_singleton (key : Key) (value : Value) :
    IterationOrder (Finmap.insert key value (∅ : HashMap Key Value)) [value] :=
  rfl

/-- What a lookup finds after an insertion. -/
theorem lookup_insert_eq (map : HashMap Key Value) (key other : Key) (value : Value) :
    (map.insert key value).lookup other = if other = key then some value else map.lookup other := by
  split_ifs with hkey
  · subst hkey
    exact Finmap.lookup_insert map
  · exact Finmap.lookup_insert_of_ne map hkey

theorem lookup_erase_eq_some {map : HashMap Key Value} {key other : Key} {value : Value}
    (hlookup : (map.erase key).lookup other = some value) :
    other ≠ key ∧ map.lookup other = some value := by
  by_cases hother : other = key
  · rw [hother, Finmap.lookup_erase] at hlookup
    simp at hlookup
  · rw [Finmap.lookup_erase_ne hother] at hlookup
    exact ⟨hother, hlookup⟩

end HashMap

end MessagingRelayer.Foundation
