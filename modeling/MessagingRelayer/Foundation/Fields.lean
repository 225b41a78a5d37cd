import Mathlib.Data.List.Count
import Mathlib.Data.List.Nodup

/-!
# Optional fields as pairs

A record of optional fields is written as the pairs of the fields that are there. Where no two
fields have one name, looking a name up in the pairs gives the field (`lookup_presentFields`), and
no name is there twice (`countP_presentFields_le`).
-/

set_option autoImplicit false
set_option relaxedAutoImplicit false

namespace MessagingRelayer.Foundation

variable {Name Value : Type*} [DecidableEq Name]

/-- The pairs of the fields that are there. -/
def presentFields (fields : List (Name × Option Value)) : List (Name × Value) :=
  fields.filterMap fun field ↦ field.2.map (field.1, ·)

omit [DecidableEq Name] in
theorem presentFields_cons (field : Name × Option Value) (rest : List (Name × Option Value)) :
    presentFields (field :: rest) =
      (field.2.map (field.1, ·)).toList ++ presentFields rest := by
  unfold presentFields
  rw [List.filterMap_cons]
  cases field.2.map (field.1, ·) with
  | none => rfl
  | some pair => rfl

omit [DecidableEq Name] in
/-- The names of the pairs are names of fields, in their order. -/
theorem names_presentFields_sublist (fields : List (Name × Option Value)) :
    ((presentFields fields).map Prod.fst).Sublist (fields.map Prod.fst) := by
  induction fields with
  | nil => exact List.Sublist.refl _
  | cons field rest ih =>
    rw [presentFields_cons, List.map_append, List.map_cons]
    cases hvalue : field.2 with
    | none => exact ih.cons field.1
    | some value => exact ih.cons_cons field.1

/-- Assumes: no two fields have one name. A name looked up in the pairs gives its field. -/
theorem lookup_presentFields {fields : List (Name × Option Value)}
    (hnames : (fields.map Prod.fst).Nodup) (name : Name) :
    (presentFields fields).lookup name = (fields.lookup name).join := by
  induction fields with
  | nil => rfl
  | cons field rest ih =>
    obtain ⟨first, value⟩ := field
    obtain ⟨hfresh, hrest⟩ := List.nodup_cons.mp hnames
    rw [presentFields_cons]
    by_cases hname : name = first
    · subst hname
      rw [List.lookup_cons_self]
      cases value with
      | none =>
        have hmissing : rest.lookup name = none := by
          rw [List.lookup_eq_none_iff]
          intro pair hpair
          refine bne_iff_ne.mpr fun hsame ↦ hfresh ?_
          exact List.mem_map.mpr ⟨pair, hpair, hsame.symm⟩
        show (presentFields rest).lookup name = none
        rw [ih hrest, hmissing]
        rfl
      | some value => exact List.lookup_cons_self
    · have hother : (name == first) = false := beq_eq_false_iff_ne.mpr hname
      rw [List.lookup_cons, hother]
      cases value with
      | none => exact ih hrest
      | some value =>
        show ((first, value) :: presentFields rest).lookup name = _
        rw [List.lookup_cons, hother]
        exact ih hrest

/-- Assumes: no two fields have one name. -/
theorem countP_presentFields_le {fields : List (Name × Option Value)}
    (hnames : (fields.map Prod.fst).Nodup) (name : Name) :
    (presentFields fields).countP (fun pair ↦ pair.1 == name) ≤ 1 := by
  have hcount := List.nodup_iff_count_le_one.mp
    ((names_presentFields_sublist fields).nodup hnames) name
  rw [List.count, List.countP_map] at hcount
  exact hcount

end MessagingRelayer.Foundation
