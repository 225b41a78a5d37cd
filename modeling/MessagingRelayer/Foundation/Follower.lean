import Mathlib.Data.List.MinMax
import Mathlib.Data.Set.Basic
import Mathlib.Tactic.Common

/-!
# Following a numbered log

A log is a set of numbered entries that only grows. A follower keeps what it has received, and asks
for the first entries with numbers above the highest one it has. It `Follows` the log when it has
passed over nothing: whatever is not newer than all it has, it has. An answer with the first of the
newer entries keeps this (`Follows.receive`), and so does growth by entries that are newer than all
it has (`Follows.grow`). A follower that finds nothing newer has the whole log
(`Follows.caughtUp`).
-/

set_option autoImplicit false
set_option relaxedAutoImplicit false

namespace MessagingRelayer.Foundation

section Follower

variable {Entry Number : Type*} [LinearOrder Number] (number : Entry → Number)

/-- The entry has a number above all that was received. -/
def Newer (received : List Entry) (entry : Entry) : Prop :=
  ∀ seen ∈ received, number seen < number entry

/-- The highest number received. -/
def highest (received : List Entry) : Option Number :=
  (received.map number).max?

/-- What was received is in the log, and everything in the log that is not newer was received. -/
structure Follows (log : Set Entry) (received : List Entry) : Prop where
  sound : ∀ entry ∈ received, entry ∈ log
  complete : ∀ entry ∈ log, ¬ Newer number received entry → entry ∈ received

/-- The page has entries of the log, and of the newer ones it has the first: an entry that is not on
it has a number above all that are. -/
structure FirstNewer (log : Set Entry) (received page : List Entry) : Prop where
  sound : ∀ entry ∈ page, entry ∈ log
  first : ∀ entry ∈ log, Newer number received entry → entry ∈ page ∨ Newer number page entry

variable {number} {log later : Set Entry} {received page : List Entry} {entry : Entry}

theorem newer_append_iff :
    Newer number (received ++ page) entry ↔
      Newer number received entry ∧ Newer number page entry := by
  unfold Newer
  constructor
  · intro hnewer
    exact ⟨fun seen hmem ↦ hnewer seen (List.mem_append_left _ hmem),
      fun seen hmem ↦ hnewer seen (List.mem_append_right _ hmem)⟩
  · rintro ⟨hreceived, hpage⟩ seen hmem
    rcases List.mem_append.mp hmem with hold | hnew
    · exact hreceived seen hold
    · exact hpage seen hnew

/-- A follower need only compare with the highest number it has. -/
theorem newer_iff_highest :
    Newer number received entry ↔ ∀ last ∈ highest number received, last < number entry := by
  unfold Newer highest
  constructor
  · intro hnewer last hlast
    obtain ⟨hmem, -⟩ := List.max?_eq_some_iff.mp hlast
    obtain ⟨seen, hseen, rfl⟩ := List.mem_map.mp hmem
    exact hnewer seen hseen
  · intro hnewer seen hseen
    cases hlast : (received.map number).max? with
    | none =>
      rw [List.max?_eq_none_iff, List.map_eq_nil_iff] at hlast
      rw [hlast] at hseen
      exact absurd hseen List.not_mem_nil
    | some last =>
      obtain ⟨-, hmax⟩ := List.max?_eq_some_iff.mp hlast
      exact lt_of_le_of_lt (hmax _ (List.mem_map_of_mem hseen)) (hnewer last hlast)

theorem follows_nil (log : Set Entry) : Follows number log [] where
  sound _ hmem := absurd hmem List.not_mem_nil
  complete _ _ hnewer := absurd (fun _ hmem ↦ absurd hmem List.not_mem_nil) hnewer

/-- Assumes: whatever is added to the log is newer than all that was received. The follower has
still passed over nothing. -/
theorem Follows.grow (hfollows : Follows number log received) (hkept : log ⊆ later)
    (hadded : ∀ entry ∈ later, entry ∉ log → Newer number received entry) :
    Follows number later received where
  sound entry hmem := hkept (hfollows.sound entry hmem)
  complete entry hmem hnewer := by
    by_cases hold : entry ∈ log
    · exact hfollows.complete entry hold hnewer
    · exact absurd (hadded entry hmem hold) hnewer

/-- A follower that receives the first of the newer entries has passed over nothing. -/
theorem Follows.receive (hfollows : Follows number log received)
    (hpage : FirstNewer number log received page) : Follows number log (received ++ page) where
  sound entry hmem := by
    rcases List.mem_append.mp hmem with hold | hnew
    · exact hfollows.sound entry hold
    · exact hpage.sound entry hnew
  complete entry hmem hnewer := by
    by_cases hreceived : Newer number received entry
    · rcases hpage.first entry hmem hreceived with hshown | habove
      · exact List.mem_append_right _ hshown
      · exact absurd (newer_append_iff.mpr ⟨hreceived, habove⟩) hnewer
    · exact List.mem_append_left _ (hfollows.complete entry hmem hreceived)

/-- A follower that finds nothing newer has the whole log. -/
theorem Follows.caughtUp (hfollows : Follows number log received)
    (hnone : ∀ entry ∈ log, ¬ Newer number received entry) : ∀ entry ∈ log, entry ∈ received :=
  fun entry hmem ↦ hfollows.complete entry hmem (hnone entry hmem)

end Follower

end MessagingRelayer.Foundation
