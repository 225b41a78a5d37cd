import Mathlib.Data.Finset.Card
import Mathlib.Data.Finset.Dedup
import Mathlib.Data.Finset.SDiff
import Mathlib.Data.List.Sort
import Mathlib.Tactic.Common

/-!
# Pages of numbered entries

Entries have numbers in a linear order. A `FirstPage` of a finite set of entries has as many
entries with the smallest numbers as fit on it, in order, and a `LastPage` those with the greatest.
Cutting an ordered list gives a first page (`firstPage_take`), and a first page is a last page
exactly when all entries fit on it (`FirstPage.lastPage_iff`).

A `PageWalk` reads first pages one after the other, each above the last number of the page before,
while entries are added. It shows increasing numbers (`PageWalk.sorted`) and misses nothing that was
there when it began (`PageWalk.complete`).
-/

set_option autoImplicit false
set_option relaxedAutoImplicit false

namespace MessagingRelayer.Foundation

section Paging

variable {Entry Number : Type*} [LinearOrder Number] (number : Entry → Number)

/-- The page has the `size` entries with the smallest numbers, or all when there are fewer, in
order. -/
structure FirstPage (entries : Finset Entry) (size : Nat) (page : List Entry) : Prop where
  sorted : page.Pairwise fun first second ↦ number first < number second
  sound : ∀ entry ∈ page, entry ∈ entries
  length_eq : page.length = min size entries.card
  first : ∀ entry ∈ entries, entry ∉ page → ∀ shown ∈ page, number shown < number entry

/-- The page has the `size` entries with the greatest numbers, or all when there are fewer, in
order. -/
structure LastPage (entries : Finset Entry) (size : Nat) (page : List Entry) : Prop where
  sorted : page.Pairwise fun first second ↦ number first < number second
  sound : ∀ entry ∈ page, entry ∈ entries
  length_eq : page.length = min size entries.card
  last : ∀ entry ∈ entries, entry ∉ page → ∀ shown ∈ page, number entry < number shown

variable {number} {entries : Finset Entry} {size : Nat} {page : List Entry}

/-- An ordered list has no entry twice. -/
theorem nodup_of_sorted
    (hsorted : page.Pairwise fun first second ↦ number first < number second) : page.Nodup :=
  hsorted.imp fun hlt hsame ↦ absurd hlt (by rw [hsame]; exact lt_irrefl _)

/-- No number on a page is above that of the last entry. -/
theorem le_last_of_sorted {last entry : Entry}
    (hsorted : page.Pairwise fun first second ↦ number first < number second)
    (hlast : page.getLast? = some last) (hmem : entry ∈ page) : number entry ≤ number last := by
  obtain ⟨init, rfl⟩ := List.getLast?_eq_some_iff.mp hlast
  rcases List.mem_append.mp hmem with hinit | hend
  · exact le_of_lt ((List.pairwise_append.mp hsorted).2.2 entry hinit last
      (List.mem_singleton_self _))
  · rw [List.mem_singleton.mp hend]

/-- The first entries of an ordered list are a first page. -/
theorem firstPage_take [DecidableEq Entry] {sorted : List Entry}
    (hsorted : sorted.Pairwise fun first second ↦ number first < number second) (size : Nat) :
    FirstPage number sorted.toFinset size (sorted.take size) where
  sorted := hsorted.sublist (List.take_sublist _ _)
  sound entry hmem := List.mem_toFinset.mpr (List.mem_of_mem_take hmem)
  length_eq := by
    rw [List.length_take, List.toFinset_card_of_nodup (nodup_of_sorted hsorted)]
  first entry hmem hnot shown hshown := by
    rw [List.mem_toFinset, ← List.take_append_drop size sorted, List.mem_append] at hmem
    rw [← List.take_append_drop size sorted, List.pairwise_append] at hsorted
    exact hsorted.2.2 shown hshown entry (hmem.resolve_left hnot)

/-- When all entries fit on a page they are on it. -/
theorem FirstPage.mem_of_card_le (hpage : FirstPage number entries size page)
    (hcard : entries.card ≤ size) {entry : Entry} (hmem : entry ∈ entries) : entry ∈ page := by
  classical
  have hsubset : page.toFinset ⊆ entries := fun shown hshown ↦
    hpage.sound shown (List.mem_toFinset.mp hshown)
  have hlength : entries.card ≤ page.toFinset.card := by
    rw [List.toFinset_card_of_nodup (nodup_of_sorted hpage.sorted), hpage.length_eq,
      Nat.min_eq_right hcard]
  rw [← Finset.eq_of_subset_of_card_le hsubset hlength] at hmem
  exact List.mem_toFinset.mp hmem

/-- When not all entries fit on a page some are not on it. -/
theorem FirstPage.exists_notMem (hpage : FirstPage number entries size page)
    (hcard : size < entries.card) : ∃ entry ∈ entries, entry ∉ page := by
  classical
  have hlength : page.toFinset.card < entries.card := by
    rw [List.toFinset_card_of_nodup (nodup_of_sorted hpage.sorted), hpage.length_eq]
    omega
  obtain ⟨entry, hmem, hnot⟩ := Finset.exists_mem_notMem_of_card_lt_card hlength
  exact ⟨entry, hmem, fun hshown ↦ hnot (List.mem_toFinset.mpr hshown)⟩

/-- Entries are left out of a first page exactly when not all fit on it. -/
theorem FirstPage.exists_notMem_iff (hpage : FirstPage number entries size page) :
    (∃ entry ∈ entries, entry ∉ page) ↔ size < entries.card := by
  constructor
  · rintro ⟨entry, hmem, hnot⟩
    by_contra hcard
    exact hnot (hpage.mem_of_card_le (not_lt.mp hcard) hmem)
  · exact hpage.exists_notMem

/-- Assumes: a page with room. The entries with the smallest numbers are those with the greatest
exactly when all entries fit on the page. -/
theorem FirstPage.lastPage_iff (hpage : FirstPage number entries size page) (hsize : 1 ≤ size) :
    LastPage number entries size page ↔ entries.card ≤ size := by
  constructor
  · intro hlast
    by_contra hcard
    obtain ⟨entry, hmem, hnot⟩ := hpage.exists_notMem (not_le.mp hcard)
    have hroom : 0 < page.length := by
      rw [hpage.length_eq]
      omega
    obtain ⟨shown, hshown⟩ := List.exists_mem_of_length_pos hroom
    exact lt_asymm (hpage.first entry hmem hnot shown hshown)
      (hlast.last entry hmem hnot shown hshown)
  · intro hcard
    refine ⟨hpage.sorted, hpage.sound, hpage.length_eq, fun entry hmem hnot ↦ ?_⟩
    exact absurd (hpage.mem_of_card_le hcard hmem) hnot

end Paging

/-! ### Reading on from the last entry -/

section PageWalk

variable {Entry Number : Type*} [LinearOrder Number]

/-- The entries with numbers above the cursor, or all without a cursor. -/
def above (number : Entry → Number) (entries : Finset Entry) (cursor : Option Number) :
    Finset Entry :=
  entries.filter fun entry ↦ ∀ after ∈ cursor, after < number entry

theorem mem_above {number : Entry → Number} {entries : Finset Entry} {cursor : Option Number}
    {entry : Entry} :
    entry ∈ above number entries cursor ↔
      entry ∈ entries ∧ ∀ after ∈ cursor, after < number entry :=
  Finset.mem_filter

/-- With every entry the cursor passes there is less above it. -/
theorem above_ssubset {number : Entry → Number} {entries : Finset Entry} {cursor : Option Number}
    {entry : Entry} (hmem : entry ∈ above number entries cursor) :
    above number entries (some (number entry)) ⊂ above number entries cursor := by
  refine (Finset.ssubset_iff_of_subset ?_).mpr ⟨entry, hmem, ?_⟩
  · intro other hother
    obtain ⟨hentries, hbeyond⟩ := mem_above.mp hother
    refine mem_above.mpr ⟨hentries, fun after hafter ↦ ?_⟩
    exact ((mem_above.mp hmem).2 after hafter).trans (hbeyond _ rfl)
  · intro hself
    exact lt_irrefl _ ((mem_above.mp hself).2 _ rfl)

variable [DecidableEq Entry]

/-- Pages are read one after the other, each above the last number of the page before, while
entries are added to the set. All but the last are full, and `left` are the entries above the last
cursor that are not on the last page. -/
inductive PageWalk (number : Entry → Number) (size : Nat) :
    Finset Entry → Option Number → List (List Entry) → Finset Entry → Prop
  | page {entries : Finset Entry} {cursor : Option Number} {page : List Entry}
      (hpage : FirstPage number (above number entries cursor) size page) :
      PageWalk number size entries cursor [page] (above number entries cursor \ page.toFinset)
  | next {entries later left : Finset Entry} {cursor : Option Number} {page : List Entry}
      {last : Entry} {pages : List (List Entry)}
      (hpage : FirstPage number (above number entries cursor) size page)
      (hfull : page.length = size) (hlast : page.getLast? = some last) (hlater : entries ⊆ later)
      (hrest : PageWalk number size later (some (number last)) pages left) :
      PageWalk number size entries cursor (page :: pages) left

variable {number : Entry → Number} {size : Nat} {entries left : Finset Entry}
  {cursor : Option Number} {pages : List (List Entry)}

/-- Everything a walk shows is above the cursor it started from. -/
theorem PageWalk.cursor_lt (hwalk : PageWalk number size entries cursor pages left) :
    ∀ entry ∈ pages.flatten, ∀ after ∈ cursor, after < number entry := by
  induction hwalk with
  | page hpage =>
    intro entry hmem
    rw [List.flatten_singleton] at hmem
    exact (mem_above.mp (hpage.sound entry hmem)).2
  | next hpage _ hlast _ _ ih =>
    intro entry hmem after hafter
    rw [List.flatten_cons, List.mem_append] at hmem
    rcases hmem with hshown | hrest
    · exact (mem_above.mp (hpage.sound entry hshown)).2 after hafter
    · have hend := (mem_above.mp (hpage.sound _ (List.mem_of_getLast? hlast))).2 after hafter
      exact hend.trans (ih entry hrest _ rfl)

/-- A walk shows increasing numbers. -/
theorem PageWalk.sorted (hwalk : PageWalk number size entries cursor pages left) :
    pages.flatten.Pairwise fun first second ↦ number first < number second := by
  induction hwalk with
  | page hpage =>
    rw [List.flatten_singleton]
    exact hpage.sorted
  | next hpage _ hlast _ hrest ih =>
    rw [List.flatten_cons, List.pairwise_append]
    refine ⟨hpage.sorted, ih, fun shown hshown entry hentry ↦ ?_⟩
    exact lt_of_le_of_lt (le_last_of_sorted hpage.sorted hlast hshown)
      (hrest.cursor_lt entry hentry _ rfl)

/-- All pages of a walk but the last are full. -/
theorem PageWalk.length_eq (hwalk : PageWalk number size entries cursor pages left) :
    ∀ page ∈ pages.dropLast, page.length = size := by
  induction hwalk with
  | page hpage =>
    intro page hmem
    simp at hmem
  | next hpage hfull _ _ hrest ih =>
    intro page hmem
    rw [List.dropLast_cons_of_ne_nil (by cases hrest <;> simp), List.mem_cons] at hmem
    rcases hmem with rfl | hmem
    · exact hfull
    · exact ih page hmem

/-- What was above the cursor when a walk began is shown, or it is left when the walk ends. -/
theorem PageWalk.complete (hwalk : PageWalk number size entries cursor pages left) :
    ∀ entry ∈ above number entries cursor, entry ∈ pages.flatten ∨ entry ∈ left := by
  induction hwalk with
  | @page entries cursor page hpage =>
    intro entry hmem
    rw [List.flatten_singleton]
    by_cases hshown : entry ∈ page
    · exact Or.inl hshown
    · exact Or.inr (Finset.mem_sdiff.mpr ⟨hmem, mt List.mem_toFinset.mp hshown⟩)
  | @next entries later left cursor page last pages hpage _ hlast hlater _ ih =>
    intro entry hmem
    rw [List.flatten_cons, List.mem_append]
    by_cases hshown : entry ∈ page
    · exact Or.inl (Or.inl hshown)
    · have hbeyond := hpage.first entry hmem hshown last (List.mem_of_getLast? hlast)
      have habove : entry ∈ above number later (some (number last)) := by
        refine mem_above.mpr ⟨hlater (mem_above.mp hmem).1, ?_⟩
        rintro after ⟨⟩
        exact hbeyond
      exact (ih entry habove).imp_left Or.inr

end PageWalk

end MessagingRelayer.Foundation
