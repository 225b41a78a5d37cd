import MessagingRelayer.Foundation.Linearization
import MessagingRelayer.Storage.Calls

/-!
# Calls that take effect at once

A call of the storage takes effect when it holds the lock of the messages (`takeEffect`). For all
calls but `create_message` that is the whole call; a create brings an order number it took before,
under another lock. So against a storage that performs whole calls one after the other, a call finds
the same messages and nonces, and comes to the same result, apart from order numbers
(`upToOrders_takeEffect`). Where a create brings the number the sequential storage would hand out,
there is no difference at all (`agrees_takeEffect`).
-/

set_option autoImplicit false
set_option relaxedAutoImplicit false

namespace MessagingRelayer

open Foundation

namespace Message

/-- The message without its order number. -/
def unordered (message : Message) : Message :=
  { message with order := none }

section Unordered

variable (message : Message) (order : Int) (content : MessageContent) (status : SyncStatus)
  (patchId : Option String) (now : DateTime)

@[simp] theorem id_unordered : message.unordered.id = message.id :=
  rfl

@[simp] theorem nonce_unordered : message.unordered.nonce = message.nonce :=
  rfl

@[simp] theorem unordered_setOrder : (message.setOrder order).unordered = message.unordered :=
  rfl

@[simp] theorem unordered_updateContent :
    (message.updateContent content now).unordered = message.unordered.updateContent content now :=
  rfl

@[simp] theorem unordered_markForDeletion :
    (message.markForDeletion now).unordered = message.unordered.markForDeletion now :=
  rfl

@[simp] theorem unordered_withSyncStatus :
    (message.withSyncStatus status patchId now).unordered =
      message.unordered.withSyncStatus status patchId now :=
  rfl

end Unordered

end Message

/-- The call creates a message of the group. -/
def StorageCall.creates (groupId : String) : StorageCall → Bool
  | .createMessage message => message.groupId == groupId
  | _ => false

namespace InMemoryStorage

/-- What a call does under the lock of the messages. -/
def takeEffect (storage : InMemoryStorage) : StorageCall → Outcome Message
  | .createMessage message => storage.insertMessage message
  | .updateMessage id content now => storage.updateMessage id content now
  | .deleteMessage id now => storage.deleteMessage id now
  | .updateSyncStatus id status quiltPatchId now =>
    storage.updateSyncStatus id status quiltPatchId now

/-- Both have the same messages, apart from their order numbers, and the same nonces. -/
structure UpToOrders (storage sequential : InMemoryStorage) : Prop where
  messages : ∀ id, (storage.messages.lookup id).map Message.unordered =
    (sequential.messages.lookup id).map Message.unordered
  nonces : storage.nonces = sequential.nonces

/-- Both have the same messages and the same nonces. -/
structure Agrees (storage sequential : InMemoryStorage) : Prop where
  messages : storage.messages = sequential.messages
  nonces : storage.nonces = sequential.nonces

/-- The result of a call without the order number of the message it returns. -/
def Outcome.unordered (outcome : Outcome Message) : Except StorageError Message :=
  outcome.1.map Message.unordered

section UpToOrders

variable {storage sequential : InMemoryStorage} {message other : Message} {id : Uuid}

theorem UpToOrders.lookup_cases (hsame : UpToOrders storage sequential) (id : Uuid) :
    (storage.messages.lookup id = none ∧ sequential.messages.lookup id = none) ∨
    ∃ message other, storage.messages.lookup id = some message ∧
      sequential.messages.lookup id = some other ∧ message.unordered = other.unordered := by
  have hmessages := hsame.messages id
  cases hstorage : storage.messages.lookup id with
  | none =>
    rw [hstorage, Option.map_none, eq_comm, Option.map_eq_none_iff] at hmessages
    exact Or.inl ⟨rfl, hmessages⟩
  | some message =>
    rw [hstorage, Option.map_some, eq_comm, Option.map_eq_some_iff] at hmessages
    obtain ⟨other, hother, hunordered⟩ := hmessages
    exact Or.inr ⟨message, other, rfl, hother, hunordered.symm⟩

/-- Storing the same message on both sides, up to its order number, makes no difference. -/
theorem UpToOrders.insert (hsame : UpToOrders storage sequential)
    (hmessage : message.unordered = other.unordered) (nonces : Finset (List UInt8)) :
    UpToOrders
      { storage with nonces := nonces, messages := storage.messages.insert id message }
      { sequential with nonces := nonces, messages := sequential.messages.insert id other } where
  messages key := by
    simp only [HashMap.lookup_insert_eq]
    split_ifs with hkey
    · exact congrArg some hmessage
    · exact hsame.messages key
  nonces := rfl

/-- An insertion is accepted on both sides or refused for the same reason. -/
theorem UpToOrders.insertMessage (hsame : UpToOrders storage sequential)
    (hmessage : message.unordered = other.unordered) :
    UpToOrders (storage.insertMessage message).2 (sequential.insertMessage other).2 ∧
      (storage.insertMessage message).unordered = (sequential.insertMessage other).unordered := by
  have hid : message.id = other.id := by
    rw [← message.id_unordered, hmessage, other.id_unordered]
  have hnonce : message.nonce = other.nonce := by
    rw [← message.nonce_unordered, hmessage, other.nonce_unordered]
  unfold InMemoryStorage.insertMessage
  rcases hsame.lookup_cases other.id with ⟨hstorage, hsequential⟩ |
    ⟨found, stored, hstorage, hsequential, -⟩
  · rw [hid, hnonce, hstorage, hsequential, hsame.nonces]
    simp only [Option.isSome_none, Bool.false_eq_true, if_false]
    split_ifs with hused
    · exact ⟨hsame, rfl⟩
    · exact ⟨hsame.insert hmessage _, congrArg Except.ok hmessage⟩
  · rw [hid, hstorage, hsequential]
    exact ⟨hsame, rfl⟩

/-- A call does the same on both sides, and comes to the same result, apart from order numbers. -/
theorem upToOrders_takeEffect (hsame : UpToOrders storage sequential) (call : StorageCall) :
    UpToOrders (storage.takeEffect call).2 (sequential.perform call).2 ∧
      (storage.takeEffect call).unordered = (sequential.perform call).unordered := by
  cases call with
  | createMessage message =>
    have hordered : UpToOrders storage (sequential.nextOrder message.groupId).2 :=
      ⟨hsame.messages, hsame.nonces⟩
    exact hordered.insertMessage rfl
  | updateMessage id content now =>
    simp only [takeEffect, InMemoryStorage.perform, InMemoryStorage.updateMessage]
    rcases hsame.lookup_cases id with ⟨hstorage, hsequential⟩ |
      ⟨message, other, hstorage, hsequential, hmessage⟩
    · rw [hstorage, hsequential]
      exact ⟨hsame, rfl⟩
    · have hnonce : message.nonce = other.nonce := by
        rw [← message.nonce_unordered, hmessage, other.nonce_unordered]
      have hupdated : (message.updateContent content now).unordered =
          (other.updateContent content now).unordered := by
        rw [Message.unordered_updateContent, hmessage, Message.unordered_updateContent]
      simp only [hstorage, hsequential, hnonce, hsame.nonces]
      split_ifs with hused
      · exact ⟨hsame, rfl⟩
      · exact ⟨hsame.insert hupdated _, congrArg Except.ok hupdated⟩
  | deleteMessage id now =>
    simp only [takeEffect, InMemoryStorage.perform, InMemoryStorage.deleteMessage]
    rcases hsame.lookup_cases id with ⟨hstorage, hsequential⟩ |
      ⟨message, other, hstorage, hsequential, hmessage⟩
    · rw [hstorage, hsequential]
      exact ⟨hsame, rfl⟩
    · have hdeleted : (message.markForDeletion now).unordered =
          (other.markForDeletion now).unordered := by
        rw [Message.unordered_markForDeletion, hmessage, Message.unordered_markForDeletion]
      simp only [hstorage, hsequential, hsame.nonces]
      exact ⟨hsame.insert hdeleted _, congrArg Except.ok hdeleted⟩
  | updateSyncStatus id status patchId now =>
    simp only [takeEffect, InMemoryStorage.perform, InMemoryStorage.updateSyncStatus]
    rcases hsame.lookup_cases id with ⟨hstorage, hsequential⟩ |
      ⟨message, other, hstorage, hsequential, hmessage⟩
    · rw [hstorage, hsequential]
      exact ⟨hsame, rfl⟩
    · have harchived : (message.withSyncStatus status patchId now).unordered =
          (other.withSyncStatus status patchId now).unordered := by
        rw [Message.unordered_withSyncStatus, hmessage, Message.unordered_withSyncStatus]
      simp only [hstorage, hsequential, hsame.nonces]
      exact ⟨hsame.insert harchived _, congrArg Except.ok harchived⟩

end UpToOrders

/-! ### Order numbers -/

section Orders

variable {storage sequential : InMemoryStorage}

/-- A create takes the next number of its group, also when it is refused. -/
theorem lastOrder_perform (sequential : InMemoryStorage) (call : StorageCall) (groupId : String) :
    (sequential.perform call).2.lastOrder groupId =
      sequential.lastOrder groupId + if call.creates groupId then 1 else 0 := by
  cases call with
  | createMessage message =>
    have hinserted : (sequential.perform (.createMessage message)).2.groupOrders =
        (sequential.nextOrder message.groupId).2.groupOrders := by
      rcases (sequential.nextOrder message.groupId).2.insertMessage_cases
        (message.setOrder (sequential.nextOrder message.groupId).1) with ⟨err, hresult, -⟩ |
          ⟨-, -, hresult⟩
      · exact congrArg (·.2.groupOrders) hresult
      · exact congrArg (·.2.groupOrders) hresult
    rw [lastOrder_congr hinserted, lastOrder_nextOrder]
    by_cases hgroup : groupId = message.groupId
    · simp [StorageCall.creates, hgroup]
    · simp [StorageCall.creates, hgroup, Ne.symm hgroup]
  | updateMessage id content now =>
    exact (lastOrder_congr (sequential.groupOrders_updateMessage id content now) groupId).trans
      (add_zero _).symm
  | deleteMessage id now =>
    exact (lastOrder_congr (sequential.groupOrders_deleteMessage id now) groupId).trans
      (add_zero _).symm
  | updateSyncStatus id status patchId now =>
    exact (lastOrder_congr (sequential.groupOrders_updateSyncStatus id status patchId now)
      groupId).trans (add_zero _).symm

theorem Agrees.insertMessage (hagrees : Agrees storage sequential) (message : Message) :
    Agrees (storage.insertMessage message).2 (sequential.insertMessage message).2 ∧
      (storage.insertMessage message).1 = (sequential.insertMessage message).1 := by
  unfold InMemoryStorage.insertMessage
  rw [hagrees.messages, hagrees.nonces]
  split_ifs with hid hnonce
  · exact ⟨hagrees, rfl⟩
  · exact ⟨hagrees, rfl⟩
  · exact ⟨⟨rfl, rfl⟩, rfl⟩

/-- Assumes: a create brings the number the sequential storage hands out next. A call does the same
on both sides, and comes to the same result. -/
theorem agrees_takeEffect (hagrees : Agrees storage sequential) {call : StorageCall}
    (hnext : ∀ message, call = .createMessage message →
      message.order = some (sequential.lastOrder message.groupId + 1)) :
    Agrees (storage.takeEffect call).2 (sequential.perform call).2 ∧
      (storage.takeEffect call).1 = (sequential.perform call).1 := by
  obtain ⟨hmessages, hnonces⟩ := hagrees
  cases call with
  | createMessage message =>
    have hmessage : message.setOrder (sequential.nextOrder message.groupId).1 = message := by
      unfold Message.setOrder
      rw [nextOrder_eq, ← hnext message rfl]
    have hperform : sequential.perform (.createMessage message) =
        (sequential.nextOrder message.groupId).2.insertMessage message :=
      congrArg (sequential.nextOrder message.groupId).2.insertMessage hmessage
    rw [hperform]
    have hordered : Agrees storage (sequential.nextOrder message.groupId).2 := ⟨hmessages, hnonces⟩
    exact hordered.insertMessage message
  | updateMessage id content now =>
    simp only [takeEffect, InMemoryStorage.perform, InMemoryStorage.updateMessage, hmessages,
      hnonces]
    cases sequential.messages.lookup id with
    | none => exact ⟨⟨hmessages, hnonces⟩, rfl⟩
    | some stored =>
      simp only
      split_ifs with hused
      · exact ⟨⟨hmessages, hnonces⟩, rfl⟩
      · exact ⟨⟨rfl, rfl⟩, rfl⟩
  | deleteMessage id now =>
    simp only [takeEffect, InMemoryStorage.perform, InMemoryStorage.deleteMessage, hmessages,
      hnonces]
    cases sequential.messages.lookup id with
    | none => exact ⟨⟨hmessages, hnonces⟩, rfl⟩
    | some stored => exact ⟨⟨rfl, rfl⟩, rfl⟩
  | updateSyncStatus id status patchId now =>
    simp only [takeEffect, InMemoryStorage.perform, InMemoryStorage.updateSyncStatus, hmessages,
      hnonces]
    cases sequential.messages.lookup id with
    | none => exact ⟨⟨hmessages, hnonces⟩, rfl⟩
    | some stored => exact ⟨⟨rfl, rfl⟩, rfl⟩

end Orders

end InMemoryStorage

end MessagingRelayer
