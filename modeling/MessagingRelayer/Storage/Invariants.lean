import MessagingRelayer.Storage.Memory

/-!
# Invariants of the storage

`InMemoryStorage.NonceIndexed` says that messages are filed under their own identifier, that the set
of nonces is the set of the nonces of the stored messages, and that no two messages share a nonce.
The operations change the maps in two ways: a message is added under a new identifier with a new
nonce, or a message is replaced by one with its identifier and with its own or an unused nonce. Both
keep the invariant, whatever happens to the order counters.

`IdentityKept` and `SameIdentities` compare storages by what never changes about a message: messages
stay, and the operations on a stored message add none.
-/

set_option autoImplicit false
set_option relaxedAutoImplicit false

namespace MessagingRelayer

open Foundation

namespace InMemoryStorage

/-- Messages are filed under their identifiers, and the nonces are exactly those of the messages,
each of one message. -/
structure NonceIndexed (storage : InMemoryStorage) : Prop where
  filed : ∀ id message, storage.messages.lookup id = some message → message.id = id
  indexed : ∀ nonce, nonce ∈ storage.nonces ↔
    ∃ id message, storage.messages.lookup id = some message ∧ message.nonce = nonce
  distinct : ∀ first second message other, storage.messages.lookup first = some message →
    storage.messages.lookup second = some other → message.nonce = other.nonce → first = second

theorem nonceIndexed_new : NonceIndexed .new where
  filed id message hlookup := by simp [new] at hlookup
  indexed nonce := by simp [new]
  distinct first second message other hfirst := by simp [new] at hfirst

section Changes

variable {storage : InMemoryStorage} {message stored updated : Message} {id : Uuid}

/-- Assumes: the identifier and the nonce of the message are new. -/
theorem NonceIndexed.add (hindexed : storage.NonceIndexed)
    (hid : storage.messages.lookup message.id = none) (hnonce : message.nonce ∉ storage.nonces)
    (orders : HashMap String Int) :
    NonceIndexed ⟨storage.messages.insert message.id message, orders,
      insert message.nonce storage.nonces⟩ where
  filed other found hfound := by
    rw [HashMap.lookup_insert_eq] at hfound
    split_ifs at hfound with hsame
    · rw [← Option.some.inj hfound, hsame]
    · exact hindexed.filed other found hfound
  indexed nonce := by
    rw [Finset.mem_insert, hindexed.indexed]
    constructor
    · rintro (rfl | ⟨other, found, hfound, rfl⟩)
      · exact ⟨message.id, message, Finmap.lookup_insert _, rfl⟩
      · have hne : other ≠ message.id := by
          rintro rfl
          simp [hid] at hfound
        exact ⟨other, found, by rw [Finmap.lookup_insert_of_ne _ hne, hfound], rfl⟩
    · rintro ⟨other, found, hfound, rfl⟩
      rw [HashMap.lookup_insert_eq] at hfound
      split_ifs at hfound with hsame
      · exact Or.inl (by rw [← Option.some.inj hfound])
      · exact Or.inr ⟨other, found, hfound, rfl⟩
  distinct first second found other hfirst hsecond hsame := by
    have hnew : ∀ id found, storage.messages.lookup id = some found →
        found.nonce ≠ message.nonce := by
      intro id found hfound heq
      exact hnonce ((hindexed.indexed _).mpr ⟨id, found, hfound, heq⟩)
    rw [HashMap.lookup_insert_eq] at hfirst hsecond
    split_ifs at hfirst hsecond with hfirstId hsecondId hsecondId
    · exact hfirstId.trans hsecondId.symm
    · obtain rfl := Option.some.inj hfirst
      exact absurd hsame.symm (hnew second other hsecond)
    · obtain rfl := Option.some.inj hsecond
      exact absurd hsame (hnew first found hfirst)
    · exact hindexed.distinct first second found other hfirst hsecond hsame

/-- Assumes: a stored message, and one to replace it with the same identifier, and with the same
nonce or one in no use. -/
theorem NonceIndexed.replace (hindexed : storage.NonceIndexed)
    (hlookup : storage.messages.lookup id = some stored) (hid : updated.id = stored.id)
    (hnonce : stored.nonce = updated.nonce ∨ updated.nonce ∉ storage.nonces)
    (orders : HashMap String Int) :
    NonceIndexed ⟨storage.messages.insert id updated, orders,
      insert updated.nonce (storage.nonces.erase stored.nonce)⟩ where
  filed other found hfound := by
    rw [HashMap.lookup_insert_eq] at hfound
    split_ifs at hfound with hsame
    · rw [← Option.some.inj hfound, hid, hsame]
      exact hindexed.filed id stored hlookup
    · exact hindexed.filed other found hfound
  indexed nonce := by
    rw [Finset.mem_insert, Finset.mem_erase, hindexed.indexed]
    constructor
    · rintro (rfl | ⟨hne, other, found, hfound, rfl⟩)
      · exact ⟨id, updated, Finmap.lookup_insert _, rfl⟩
      · have hother : other ≠ id := by
          rintro rfl
          rw [hlookup] at hfound
          exact hne (by rw [Option.some.inj hfound])
        exact ⟨other, found, by rw [Finmap.lookup_insert_of_ne _ hother, hfound], rfl⟩
    · rintro ⟨other, found, hfound, rfl⟩
      rw [HashMap.lookup_insert_eq] at hfound
      split_ifs at hfound with hsame
      · exact Or.inl (by rw [← Option.some.inj hfound])
      · refine Or.inr ⟨fun heq ↦ hsame ?_, other, found, hfound, rfl⟩
        exact hindexed.distinct other id found stored hfound hlookup heq
  distinct first second found other hfirst hsecond hsame := by
    have hapart : ∀ other found, other ≠ id → storage.messages.lookup other = some found →
        found.nonce ≠ updated.nonce := by
      intro other found hother hfound heq
      rcases hnonce with hkept | hunused
      · exact hother (hindexed.distinct other id found stored hfound hlookup (heq.trans hkept.symm))
      · exact hunused ((hindexed.indexed _).mpr ⟨other, found, hfound, heq⟩)
    rw [HashMap.lookup_insert_eq] at hfirst hsecond
    split_ifs at hfirst hsecond with hfirstId hsecondId hsecondId
    · exact hfirstId.trans hsecondId.symm
    · obtain rfl := Option.some.inj hfirst
      exact absurd hsame.symm (hapart second other hsecondId hsecond)
    · obtain rfl := Option.some.inj hsecond
      exact absurd hsame (hapart first found hfirstId hfirst)
    · exact hindexed.distinct first second found other hfirst hsecond hsame

/-- Assumes: a stored message, and one to replace it with the same identifier and the same nonce.
The set of nonces needs no change. -/
theorem NonceIndexed.replace_of_nonce_eq (hindexed : storage.NonceIndexed)
    (hlookup : storage.messages.lookup id = some stored) (hid : updated.id = stored.id)
    (hnonce : stored.nonce = updated.nonce) (orders : HashMap String Int) :
    NonceIndexed ⟨storage.messages.insert id updated, orders, storage.nonces⟩ := by
  have hmem : stored.nonce ∈ storage.nonces :=
    (hindexed.indexed _).mpr ⟨id, stored, hlookup, rfl⟩
  have hreplaced := hindexed.replace hlookup hid (Or.inl hnonce) orders
  rw [← hnonce, Finset.insert_erase hmem] at hreplaced
  exact hreplaced

/-- The order counters are no part of the invariant. -/
theorem NonceIndexed.with_orders (hindexed : storage.NonceIndexed) (orders : HashMap String Int) :
    NonceIndexed ⟨storage.messages, orders, storage.nonces⟩ :=
  ⟨hindexed.filed, hindexed.indexed, hindexed.distinct⟩

theorem NonceIndexed.insertMessage (hindexed : storage.NonceIndexed) (message : Message) :
    (storage.insertMessage message).2.NonceIndexed := by
  rcases storage.insertMessage_cases message with ⟨err, hresult, -⟩ | ⟨hid, hnonce, hresult⟩
  · rw [hresult]
    exact hindexed
  · rw [hresult]
    exact hindexed.add hid hnonce _

theorem NonceIndexed.updateMessage (hindexed : storage.NonceIndexed) (id : Uuid)
    (content : MessageContent) (now : DateTime) :
    (storage.updateMessage id content now).2.NonceIndexed := by
  rcases storage.updateMessage_cases id content now with ⟨err, hresult⟩ |
    ⟨stored, hlookup, hnonce, hresult⟩
  · rw [hresult]
    exact hindexed
  · have hid : (stored.updateContent content now).id = stored.id := rfl
    rw [hresult]
    exact hindexed.replace hlookup hid hnonce _

theorem NonceIndexed.deleteMessage (hindexed : storage.NonceIndexed) (id : Uuid) (now : DateTime) :
    (storage.deleteMessage id now).2.NonceIndexed := by
  rcases storage.deleteMessage_cases id now with ⟨-, hresult⟩ | ⟨stored, hlookup, hresult⟩
  · rw [hresult]
    exact hindexed
  · have hid : (stored.markForDeletion now).id = stored.id := rfl
    rw [hresult]
    exact hindexed.replace_of_nonce_eq hlookup hid rfl _

theorem NonceIndexed.updateSyncStatus (hindexed : storage.NonceIndexed) (id : Uuid)
    (status : SyncStatus) (patchId : Option String) (now : DateTime) :
    (storage.updateSyncStatus id status patchId now).2.NonceIndexed := by
  rcases storage.updateSyncStatus_cases id status patchId now with ⟨-, hresult⟩ |
    ⟨stored, hlookup, hresult⟩
  · rw [hresult]
    exact hindexed
  · have hid : (stored.withSyncStatus status patchId now).id = stored.id := rfl
    rw [hresult]
    exact hindexed.replace_of_nonce_eq hlookup hid rfl _

end Changes

end InMemoryStorage

/-! ### Identities -/

/-- Every message of the first storage is in the second one, with its identity. -/
def IdentityKept (storage later : InMemoryStorage) : Prop :=
  ∀ id message, storage.messages.lookup id = some message →
    ∃ kept, later.messages.lookup id = some kept ∧ kept.identity = message.identity

theorem IdentityKept.refl (storage : InMemoryStorage) : IdentityKept storage storage :=
  fun _ message hlookup ↦ ⟨message, hlookup, rfl⟩

theorem IdentityKept.trans {first second third : InMemoryStorage}
    (hfirst : IdentityKept first second) (hsecond : IdentityKept second third) :
    IdentityKept first third := by
  intro id message hlookup
  obtain ⟨kept, hkept, hsame⟩ := hfirst id message hlookup
  obtain ⟨last, hlast, hsame'⟩ := hsecond id kept hkept
  exact ⟨last, hlast, hsame'.trans hsame⟩

/-- The same identifiers are in use, each for a message with the same identity. -/
def SameIdentities (storage later : InMemoryStorage) : Prop :=
  ∀ id, (later.messages.lookup id).map Message.identity =
    (storage.messages.lookup id).map Message.identity

section SameIdentities

variable {storage later : InMemoryStorage} {id : Uuid} {stored updated message : Message}

theorem SameIdentities.of_eq (hsame : later.messages = storage.messages) :
    SameIdentities storage later := by
  intro id
  rw [hsame]

/-- A stored message is replaced by one with its identity. -/
theorem SameIdentities.of_insert (hlookup : storage.messages.lookup id = some stored)
    (hidentity : updated.identity = stored.identity)
    (hmessages : later.messages = storage.messages.insert id updated) :
    SameIdentities storage later := by
  intro other
  rw [hmessages, HashMap.lookup_insert_eq]
  by_cases hother : other = id
  · rw [if_pos hother, hother, hlookup]
    exact congrArg some hidentity
  · rw [if_neg hother]

theorem SameIdentities.lookup (hsame : SameIdentities storage later)
    (hlookup : later.messages.lookup id = some message) :
    ∃ stored, storage.messages.lookup id = some stored ∧ stored.identity = message.identity := by
  have hidentity := hsame id
  rw [hlookup] at hidentity
  exact Option.map_eq_some_iff.mp hidentity.symm

theorem SameIdentities.identityKept (hsame : SameIdentities storage later) :
    IdentityKept storage later := by
  intro id message hlookup
  have hidentity := hsame id
  rw [hlookup] at hidentity
  exact Option.map_eq_some_iff.mp hidentity

theorem identityKept_of_insert (hid : storage.messages.lookup id = none)
    (hmessages : later.messages = storage.messages.insert id message) :
    IdentityKept storage later := by
  intro other kept hlookup
  have hother : other ≠ id := by
    rintro rfl
    simp [hid] at hlookup
  exact ⟨kept, by rw [hmessages, Finmap.lookup_insert_of_ne _ hother, hlookup], rfl⟩

theorem sameIdentities_updateMessage (storage : InMemoryStorage) (id : Uuid)
    (content : MessageContent) (now : DateTime) :
    SameIdentities storage (storage.updateMessage id content now).2 := by
  rcases storage.updateMessage_cases id content now with ⟨err, hresult⟩ |
    ⟨stored, hlookup, -, hresult⟩
  · exact .of_eq (by rw [hresult])
  · exact .of_insert hlookup (stored.identity_updateContent now content) (by rw [hresult])

theorem sameIdentities_deleteMessage (storage : InMemoryStorage) (id : Uuid) (now : DateTime) :
    SameIdentities storage (storage.deleteMessage id now).2 := by
  rcases storage.deleteMessage_cases id now with ⟨-, hresult⟩ | ⟨stored, hlookup, hresult⟩
  · exact .of_eq (by rw [hresult])
  · exact .of_insert hlookup (stored.identity_markForDeletion now) (by rw [hresult])

theorem sameIdentities_updateSyncStatus (storage : InMemoryStorage) (id : Uuid)
    (status : SyncStatus) (patchId : Option String) (now : DateTime) :
    SameIdentities storage (storage.updateSyncStatus id status patchId now).2 := by
  rcases storage.updateSyncStatus_cases id status patchId now with ⟨-, hresult⟩ |
    ⟨stored, hlookup, hresult⟩
  · exact .of_eq (by rw [hresult])
  · exact .of_insert hlookup (stored.identity_withSyncStatus now status patchId) (by rw [hresult])

end SameIdentities

end MessagingRelayer
