import Mathlib.Data.List.Induction
import Mathlib.Data.List.Sort
import Mathlib.Tactic.Common

/-!
# Redelivered items and a cursor

Items with cursors are delivered at least once: an item may come again at any time after its first
delivery. A consumer that keeps the last cursor it took, and takes an item only above that cursor,
takes every item once: as long as the first deliveries come in increasing order, what it makes of
the deliveries is what it would make of the items without their repetitions (`foldl_take`).
-/

set_option autoImplicit false
set_option relaxedAutoImplicit false

namespace MessagingRelayer.Foundation

/-- The state of a consumer, and the last cursor it took. -/
structure Consumer (State Cursor : Type*) where
  state : State
  last : Option Cursor

section Redelivery

variable {State Cursor : Type*} [LinearOrder Cursor] (apply : State → Cursor → State)

/-- The consumer has taken this cursor, or one above it. -/
def Consumer.Passed (consumer : Consumer State Cursor) (cursor : Cursor) : Prop :=
  ∃ last ∈ consumer.last, cursor ≤ last

instance (consumer : Consumer State Cursor) (cursor : Cursor) :
    Decidable (consumer.Passed cursor) :=
  inferInstanceAs (Decidable (∃ last ∈ consumer.last, cursor ≤ last))

/-- A delivery: the item is skipped when it was passed, and else applied. -/
def Consumer.take (consumer : Consumer State Cursor) (cursor : Cursor) : Consumer State Cursor :=
  if consumer.Passed cursor then consumer else ⟨apply consumer.state cursor, some cursor⟩

/-- The first deliveries are in increasing order. -/
def FirstDeliveriesIncrease (cursors : List Cursor) : Prop :=
  cursors.eraseDups.Pairwise (· < ·)

variable {past rest : List Cursor} {cursor : Cursor}

theorem eraseDups_concat_of_mem (hmem : cursor ∈ past) :
    (past ++ [cursor]).eraseDups = past.eraseDups := by
  rw [List.eraseDups_append, List.cons_removeAll, List.nil_removeAll]
  simp [hmem]

theorem eraseDups_concat_of_notMem (hnew : cursor ∉ past) :
    (past ++ [cursor]).eraseDups = past.eraseDups ++ [cursor] := by
  rw [List.eraseDups_append, List.cons_removeAll, List.nil_removeAll]
  simp [hnew, List.eraseDups_cons]

theorem FirstDeliveriesIncrease.of_append (hincrease : FirstDeliveriesIncrease (past ++ rest)) :
    FirstDeliveriesIncrease past := by
  unfold FirstDeliveriesIncrease at hincrease ⊢
  rw [List.eraseDups_append] at hincrease
  exact (List.pairwise_append.mp hincrease).1

/-- A delivered cursor is not above the last first delivery. -/
theorem exists_getLast?_of_mem (hincrease : FirstDeliveriesIncrease past) (hmem : cursor ∈ past) :
    ∃ last ∈ past.eraseDups.getLast?, cursor ≤ last := by
  have hfirst : cursor ∈ past.eraseDups := List.mem_eraseDups.mpr hmem
  cases hlast : past.eraseDups.getLast? with
  | none =>
    rw [List.getLast?_eq_none_iff] at hlast
    rw [hlast] at hfirst
    exact absurd hfirst List.not_mem_nil
  | some last =>
    refine ⟨last, rfl, ?_⟩
    obtain ⟨earlier, hearlier⟩ := List.getLast?_eq_some_iff.mp hlast
    unfold FirstDeliveriesIncrease at hincrease
    rw [hearlier] at hfirst hincrease
    rcases List.mem_append.mp hfirst with hbefore | hsame
    · exact le_of_lt ((List.pairwise_append.mp hincrease).2.2 cursor hbefore last
        (List.mem_singleton_self last))
    · exact le_of_eq (List.mem_singleton.mp hsame)

/-- A cursor that is delivered for the first time is above all that were delivered before. -/
theorem lt_of_firstDelivery (hincrease : FirstDeliveriesIncrease (past ++ [cursor]))
    (hnew : cursor ∉ past) : ∀ earlier ∈ past, earlier < cursor := by
  intro earlier hearlier
  unfold FirstDeliveriesIncrease at hincrease
  rw [eraseDups_concat_of_notMem hnew] at hincrease
  exact (List.pairwise_append.mp hincrease).2.2 earlier (List.mem_eraseDups.mpr hearlier) cursor
    (List.mem_singleton_self cursor)

/-- Assumes: first deliveries in increasing order. A consumer that starts without a cursor applies
every item once, in the order of the first deliveries, and its cursor is the last of them. -/
theorem foldl_take {cursors : List Cursor} (start : State)
    (hincrease : FirstDeliveriesIncrease cursors) :
    cursors.foldl (Consumer.take apply) ⟨start, none⟩ =
      ⟨cursors.eraseDups.foldl apply start, cursors.eraseDups.getLast?⟩ := by
  induction cursors using List.reverseRecOn with
  | nil => rfl
  | append_singleton past cursor ih =>
    rw [List.foldl_concat, ih hincrease.of_append]
    by_cases hmem : cursor ∈ past
    · rw [eraseDups_concat_of_mem hmem]
      exact if_pos (exists_getLast?_of_mem hincrease.of_append hmem)
    · rw [eraseDups_concat_of_notMem hmem, List.foldl_concat, List.getLast?_concat]
      refine if_neg ?_
      rintro ⟨last, hlast, hle⟩
      have hdelivered : last ∈ past := List.mem_eraseDups.mp (List.mem_of_getLast? hlast)
      exact absurd (lt_of_firstDelivery hincrease hmem last hdelivered) (not_lt.mpr hle)

end Redelivery

end MessagingRelayer.Foundation
