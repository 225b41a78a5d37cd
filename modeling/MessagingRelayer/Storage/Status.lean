import MessagingRelayer.Storage.Invariants

/-!
# Messages by status

`idsWithStatus` is the set of the messages with a status. A snapshot by status has as many of them
as the limit allows, each once, whatever the order of the walk (`length_getMessagesBySyncStatus`,
`nodup_getMessagesBySyncStatus`).
-/

set_option autoImplicit false
set_option relaxedAutoImplicit false

namespace MessagingRelayer

open Foundation

namespace InMemoryStorage

/-- The identifiers of the messages with a status. -/
def idsWithStatus (storage : InMemoryStorage) (status : SyncStatus) : Finset Uuid :=
  storage.messages.keys.filter fun id ↦
    (storage.messages.lookup id).map Message.syncStatus = some status

section Status

variable {storage : InMemoryStorage} {status : SyncStatus} {id : Uuid} {listing : List Message}
  {limit : Nat} {message : Message}

theorem mem_idsWithStatus :
    id ∈ storage.idsWithStatus status ↔
      ∃ message, storage.messages.lookup id = some message ∧ message.syncStatus = status := by
  unfold idsWithStatus
  rw [Finset.mem_filter, Option.map_eq_some_iff]
  constructor
  · rintro ⟨-, hstatus⟩
    exact hstatus
  · rintro ⟨message, hlookup, hstatus⟩
    exact ⟨Finmap.mem_keys.mpr (Finmap.mem_of_lookup_eq_some hlookup), message, hlookup, hstatus⟩

/-- A message of a snapshot is stored as it is in the snapshot. -/
theorem lookup_of_mem_snapshot (hindexed : storage.NonceIndexed)
    (hlisting : storage.messages.IterationOrder listing)
    (hmem : message ∈ getMessagesBySyncStatus listing status limit) :
    storage.messages.lookup message.id = some message ∧ message.syncStatus = status := by
  obtain ⟨hlisted, hstatus⟩ := mem_getMessagesBySyncStatus hmem
  obtain ⟨key, hlookup⟩ := hlisting.mem_iff.mp hlisted
  rw [hindexed.filed key message hlookup]
  exact ⟨hlookup, hstatus⟩

/-- A snapshot has no message twice. -/
theorem nodup_getMessagesBySyncStatus (hindexed : storage.NonceIndexed)
    (hlisting : storage.messages.IterationOrder listing) (status : SyncStatus) (limit : Nat) :
    ((getMessagesBySyncStatus listing status limit).map Message.id).Nodup := by
  have hsublist : (getMessagesBySyncStatus listing status limit).Sublist listing :=
    (List.take_sublist _ _).trans List.filter_sublist
  exact (hlisting.nodup_map Message.id hindexed.filed).sublist (hsublist.map _)

/-- A snapshot has all messages with the status, or as many as the limit allows. -/
theorem length_getMessagesBySyncStatus (hindexed : storage.NonceIndexed)
    (hlisting : storage.messages.IterationOrder listing) (status : SyncStatus) (limit : Nat) :
    (getMessagesBySyncStatus listing status limit).length =
      min limit (storage.idsWithStatus status).card := by
  have hdistinct : ((listing.filter (·.syncStatus == status)).map Message.id).Nodup :=
    (hlisting.nodup_map Message.id hindexed.filed).sublist (List.filter_sublist.map _)
  have hids : ((listing.filter (·.syncStatus == status)).map Message.id).toFinset =
      storage.idsWithStatus status := by
    ext id
    rw [List.mem_toFinset, List.mem_map, mem_idsWithStatus]
    constructor
    · rintro ⟨message, hmem, rfl⟩
      rw [List.mem_filter, hlisting.mem_iff] at hmem
      obtain ⟨⟨key, hlookup⟩, hstatus⟩ := hmem
      rw [hindexed.filed key message hlookup]
      exact ⟨message, hlookup, by simpa using hstatus⟩
    · rintro ⟨message, hlookup, hstatus⟩
      refine ⟨message, ?_, hindexed.filed id message hlookup⟩
      rw [List.mem_filter, hlisting.mem_iff]
      exact ⟨⟨id, hlookup⟩, by simpa using hstatus⟩
  unfold getMessagesBySyncStatus
  rw [List.length_take, ← hids, List.toFinset_card_of_nodup hdistinct, List.length_map]

end Status

end InMemoryStorage

end MessagingRelayer
