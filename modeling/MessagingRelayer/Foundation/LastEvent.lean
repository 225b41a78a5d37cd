import Mathlib.Data.List.Induction
import Mathlib.Tactic.Common

/-!
# What the last relevant event decides

A property of a list of events that starts out false, that some events switch on and others switch
off, holds exactly when an event switched it on and no later event switched it off. Whether an event
switches the property on may depend on the events before it; switching off is a property of the
event alone.
-/

set_option autoImplicit false
set_option relaxedAutoImplicit false

namespace MessagingRelayer.Foundation

variable {Event : Type*} {gains : List Event → Event → Prop} {loses : Event → Prop}

/-- An event at some index switches the property on, and no later event switches it off. -/
def LastGain (gains : List Event → Event → Prop) (loses : Event → Prop)
    (events : List Event) : Prop :=
  ∃ index event, events[index]? = some event ∧ gains (events.take index) event ∧
    ∀ later other, index < later → events[later]? = some other → ¬ loses other

theorem not_lastGain_nil : ¬ LastGain gains loses [] := by
  rintro ⟨index, event, hevent, -⟩
  simp at hevent

/-- One more event decides by itself, or leaves the decision to the events before it. -/
theorem lastGain_concat_iff {past : List Event} {last : Event} :
    LastGain gains loses (past ++ [last]) ↔
      gains past last ∨ (LastGain gains loses past ∧ ¬ loses last) := by
  constructor
  · rintro ⟨index, event, hevent, hgains, hkept⟩
    have hindex : index < (past ++ [last]).length := by
      obtain ⟨hindex, -⟩ := List.getElem?_eq_some_iff.mp hevent
      exact hindex
    rw [List.length_append, List.length_singleton] at hindex
    by_cases hlast : index = past.length
    · subst hlast
      rw [List.getElem?_concat_length] at hevent
      rw [List.take_left, ← Option.some.inj hevent] at hgains
      exact Or.inl hgains
    · have hbefore : index < past.length := by omega
      rw [List.getElem?_append_left hbefore] at hevent
      rw [List.take_append_of_le_length (Nat.le_of_lt hbefore)] at hgains
      refine Or.inr ⟨⟨index, event, hevent, hgains, ?_⟩, ?_⟩
      · intro later other hlater hother
        obtain ⟨hlength, -⟩ := List.getElem?_eq_some_iff.mp hother
        refine hkept later other hlater ?_
        rw [List.getElem?_append_left hlength]
        exact hother
      · exact hkept past.length last hbefore (List.getElem?_concat_length)
  · rintro (hgains | ⟨⟨index, event, hevent, hgains, hkept⟩, hlast⟩)
    · refine ⟨past.length, last, List.getElem?_concat_length, ?_, ?_⟩
      · rw [List.take_left]
        exact hgains
      · intro later other hlater hother
        obtain ⟨hlength, -⟩ := List.getElem?_eq_some_iff.mp hother
        rw [List.length_append, List.length_singleton] at hlength
        omega
    · obtain ⟨hindex, -⟩ := List.getElem?_eq_some_iff.mp hevent
      refine ⟨index, event, ?_, ?_, ?_⟩
      · rw [List.getElem?_append_left hindex]
        exact hevent
      · rw [List.take_append_of_le_length (Nat.le_of_lt hindex)]
        exact hgains
      · intro later other hlater hother
        by_cases hend : later < past.length
        · rw [List.getElem?_append_left hend] at hother
          exact hkept later other hlater hother
        · rw [List.getElem?_append_right (Nat.le_of_not_lt hend)] at hother
          obtain rfl : other = last := List.mem_singleton.mp (List.mem_of_getElem? hother)
          exact hlast

/-- Assumes: the property is false of no events, and one more event makes it true when it switches
it on, and otherwise keeps it unless it switches it off. -/
theorem holds_iff_lastGain (holds : List Event → Prop) (hnil : ¬ holds [])
    (hconcat : ∀ past last,
      holds (past ++ [last]) ↔ gains past last ∨ (holds past ∧ ¬ loses last))
    (events : List Event) : holds events ↔ LastGain gains loses events := by
  induction events using List.reverseRecOn with
  | nil => exact iff_of_false hnil not_lastGain_nil
  | append_singleton past last ih => rw [hconcat, lastGain_concat_iff, ih]

end MessagingRelayer.Foundation
