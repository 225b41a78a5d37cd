import MessagingRelayer.Foundation.Paging
import MessagingRelayer.Storage.Calls

/-!
# Pages of a group

`entriesWithin` is the set of the entries of a group within the bounds of a request. The storage
filters, sorts and cuts, whatever the order of the walk over its messages, so it returns the first
page of that set (`Reachable.firstPage`). What is returned is the first page also of a request with
an upper bound only.
-/

set_option autoImplicit false
set_option relaxedAutoImplicit false

namespace MessagingRelayer

open Foundation

namespace InMemoryStorage

/-- The entries of the messages of a group within the bounds. -/
def entriesWithin (storage : InMemoryStorage) (groupId : String)
    (afterOrder beforeOrder : Option Int) : Finset (Uuid × Int) :=
  ((storage.messages.values.filter fun message ↦ message.groupId = groupId ∧
    withinBounds afterOrder beforeOrder (message.order.getD 0) = true).map Message.entry).toFinset

section Pages

variable {storage : InMemoryStorage} {groupId : String} {afterOrder beforeOrder : Option Int}
  {listing : List Message} {entry : Uuid × Int}

theorem mem_entriesWithin :
    entry ∈ storage.entriesWithin groupId afterOrder beforeOrder ↔
      ∃ id message, storage.messages.lookup id = some message ∧ message.groupId = groupId ∧
        withinBounds afterOrder beforeOrder (message.order.getD 0) = true ∧
        message.entry = entry := by
  unfold entriesWithin
  simp only [Multiset.mem_toFinset, Multiset.mem_map, Multiset.mem_filter, HashMap.mem_values_iff]
  constructor
  · rintro ⟨message, ⟨⟨id, hlookup⟩, hgroup, hbounds⟩, hentry⟩
    exact ⟨id, message, hlookup, hgroup, hbounds, hentry⟩
  · rintro ⟨id, message, hlookup, hgroup, hbounds, hentry⟩
    exact ⟨message, ⟨⟨id, hlookup⟩, hgroup, hbounds⟩, hentry⟩

/-- Assumes: a message that is stored. The entry with its identifier is its own. -/
theorem entry_eq_of_mem (hindexed : storage.NonceIndexed) {message : Message}
    (hmem : entry ∈ storage.entriesWithin groupId afterOrder beforeOrder)
    (hlookup : storage.messages.lookup entry.1 = some message) : entry = message.entry := by
  obtain ⟨id, stored, hstored, -, -, rfl⟩ := mem_entriesWithin.mp hmem
  have hid : stored.entry.1 = id := hindexed.filed id stored hstored
  rw [hid, hstored] at hlookup
  rw [Option.some.inj hlookup]

/-- What the walk meets of a group within the bounds, sorted by order number. -/
private def sortedWithin (listing : List Message) (groupId : String)
    (afterOrder beforeOrder : Option Int) : List Message :=
  ((listing.filter (·.groupId == groupId)).filter fun message ↦
    withinBounds afterOrder beforeOrder (message.order.getD 0)).mergeSort
      fun first second ↦ first.order.getD 0 ≤ second.order.getD 0

private theorem mem_sortedWithin {message : Message} :
    message ∈ sortedWithin listing groupId afterOrder beforeOrder ↔
      message ∈ listing ∧ message.groupId = groupId ∧
        withinBounds afterOrder beforeOrder (message.order.getD 0) = true := by
  unfold sortedWithin
  rw [List.mem_mergeSort, List.mem_filter, List.mem_filter, beq_iff_eq, and_assoc]

/-- Sorting meets no message twice, and the order numbers of a group are distinct. -/
private theorem Reachable.pairwise_sortedWithin (hreachable : storage.Reachable)
    (hlisting : storage.messages.IterationOrder listing) :
    (sortedWithin listing groupId afterOrder beforeOrder).Pairwise
      fun first second ↦ first.entry.2 < second.entry.2 := by
  have hindexed := hreachable.nonceIndexed
  have hids : (sortedWithin listing groupId afterOrder beforeOrder).Pairwise
      fun first second ↦ first.id ≠ second.id := by
    have hlisted : listing.Pairwise fun first second ↦ first.id ≠ second.id :=
      List.pairwise_map.mp (hlisting.nodup_map Message.id hindexed.filed)
    refine (List.mergeSort_perm _ _).symm.pairwise
      ((hlisted.sublist List.filter_sublist).sublist List.filter_sublist) ?_
    exact fun hdifferent ↦ hdifferent.symm
  refine (hids.and (pairwise_mergeSort_order _)).imp_of_mem ?_
  intro first second hfirst hsecond hboth
  obtain ⟨hdifferent, hle⟩ := hboth
  obtain ⟨hfirstListed, hfirstGroup, -⟩ := mem_sortedWithin.mp hfirst
  obtain ⟨hsecondListed, hsecondGroup, -⟩ := mem_sortedWithin.mp hsecond
  obtain ⟨firstId, hfirstLookup⟩ := hlisting.mem_iff.mp hfirstListed
  obtain ⟨secondId, hsecondLookup⟩ := hlisting.mem_iff.mp hsecondListed
  refine lt_of_le_of_ne hle fun hsame ↦ hdifferent ?_
  have hid := hreachable.orders_distinct hfirstLookup hsecondLookup
    (hfirstGroup.trans hsecondGroup.symm) hsame
  rw [hindexed.filed firstId first hfirstLookup, hindexed.filed secondId second hsecondLookup, hid]

/-- Whatever the order of the walk, the storage returns the messages with the smallest order numbers
within the bounds. -/
theorem Reachable.firstPage (hreachable : storage.Reachable)
    (hlisting : storage.messages.IterationOrder listing) (groupId : String)
    (afterOrder beforeOrder : Option Int) (limit : Nat) :
    FirstPage Prod.snd (storage.entriesWithin groupId afterOrder beforeOrder) limit
      ((getMessagesByGroup listing groupId afterOrder beforeOrder limit).map Message.entry) := by
  have hentries : ((sortedWithin listing groupId afterOrder beforeOrder).map
      Message.entry).toFinset = storage.entriesWithin groupId afterOrder beforeOrder := by
    ext entry
    rw [List.mem_toFinset, List.mem_map, mem_entriesWithin]
    constructor
    · rintro ⟨message, hmem, hentry⟩
      obtain ⟨hlisted, hgroup, hbounds⟩ := mem_sortedWithin.mp hmem
      obtain ⟨id, hlookup⟩ := hlisting.mem_iff.mp hlisted
      exact ⟨id, message, hlookup, hgroup, hbounds, hentry⟩
    · rintro ⟨id, message, hlookup, hgroup, hbounds, hentry⟩
      exact ⟨message, mem_sortedWithin.mpr ⟨hlisting.mem_iff.mpr ⟨id, hlookup⟩, hgroup, hbounds⟩,
        hentry⟩
  have hpage : (getMessagesByGroup listing groupId afterOrder beforeOrder limit).map Message.entry =
      ((sortedWithin listing groupId afterOrder beforeOrder).map Message.entry).take limit :=
    List.map_take
  rw [hpage, ← hentries]
  exact firstPage_take (List.pairwise_map.mpr (hreachable.pairwise_sortedWithin hlisting)) limit

/-- One message more than fits on a page is fetched, which tells whether there are more. -/
theorem Reachable.firstPage_of_succ (hreachable : storage.Reachable)
    (hlisting : storage.messages.IterationOrder listing) (groupId : String)
    (afterOrder beforeOrder : Option Int) (size : Nat) :
    FirstPage Prod.snd (storage.entriesWithin groupId afterOrder beforeOrder) size
      (((getMessagesByGroup listing groupId afterOrder beforeOrder (size + 1)).take size).map
        Message.entry) ∧
    (size < (getMessagesByGroup listing groupId afterOrder beforeOrder (size + 1)).length ↔
      size < (storage.entriesWithin groupId afterOrder beforeOrder).card) := by
  have hcut : (getMessagesByGroup listing groupId afterOrder beforeOrder (size + 1)).take size =
      getMessagesByGroup listing groupId afterOrder beforeOrder size := by
    unfold getMessagesByGroup
    simp only
    rw [List.take_take, Nat.min_eq_left (Nat.le_succ size)]
  have hlength := (hreachable.firstPage hlisting groupId afterOrder beforeOrder
    (size + 1)).length_eq
  rw [List.length_map] at hlength
  refine ⟨?_, by omega⟩
  rw [hcut]
  exact hreachable.firstPage hlisting groupId afterOrder beforeOrder size

end Pages

end InMemoryStorage

end MessagingRelayer
