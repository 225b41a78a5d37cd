import MessagingRelayer.Foundation.HashMap
import MessagingRelayer.Models.Message
import Mathlib.Data.Finset.Insert
import Mathlib.Data.Finset.Erase

/-!
# The in-memory storage

`InMemoryStorage` is the three maps of the storage backend, and its operations are the critical
sections of the source: every operation holds the `messages` lock while it works, so it is one step,
except `create_message`, which takes its order number under the `group_orders` lock and only then
stores the message under the `messages` lock. Those two steps are `nextOrder` and `insertMessage`,
and `createMessage` is one after the other. Operations return their result next to the storage they
leave behind. Poisoned locks are left out.

Each operation has one specification lemma that says all it can do: `insertMessage_cases`,
`updateMessage_cases`, `deleteMessage_cases` and `updateSyncStatus_cases`.
-/

set_option autoImplicit false
set_option relaxedAutoImplicit false

namespace MessagingRelayer

open Foundation

/-- The messages by identifier, the highest order number handed out in each group, and the nonces
of all messages. -/
structure InMemoryStorage where
  messages : HashMap Uuid Message
  groupOrders : HashMap String Int
  nonces : Finset (List UInt8)

/-- Errors of the storage operations. -/
inductive StorageError
  | notFound (id : Uuid)
  | groupNotFound (groupId : String)
  | duplicateId (id : Uuid)
  | duplicateNonce
  | operationFailed (message : String)
deriving DecidableEq

namespace InMemoryStorage

/-- The result of an operation and the storage it leaves behind. -/
abbrev Outcome (Value : Type) := Except StorageError Value × InMemoryStorage

def new : InMemoryStorage where
  messages := ∅
  groupOrders := ∅
  nonces := ∅

/-! ### The operations -/

/-- The next order number of a group: one more than the highest so far, starting at one. -/
def nextOrder (storage : InMemoryStorage) (groupId : String) : Int × InMemoryStorage :=
  let next := ((storage.groupOrders.lookup groupId).map (· + 1)).getD 1
  (next, { storage with groupOrders := storage.groupOrders.insert groupId next })

/-- The second critical section of `create_message`: the duplicate checks and the insertion. -/
def insertMessage (storage : InMemoryStorage) (message : Message) : Outcome Message :=
  if (storage.messages.lookup message.id).isSome then
    (.error (.duplicateId message.id), storage)
  else if message.nonce ∈ storage.nonces then
    (.error .duplicateNonce, storage)
  else
    (.ok message, { storage with
      nonces := insert message.nonce storage.nonces
      messages := storage.messages.insert message.id message })

/-- Assigns the next order of the group and stores the message. -/
def createMessage (storage : InMemoryStorage) (message : Message) : Outcome Message :=
  let (order, ordered) := storage.nextOrder message.groupId
  ordered.insertMessage (message.setOrder order)

def getMessage (storage : InMemoryStorage) (id : Uuid) : Except StorageError Message :=
  match storage.messages.lookup id with
  | none => .error (.notFound id)
  | some message => .ok message

/-- Whether an order lies above the exclusive lower bound and below the exclusive upper bound. -/
def withinBounds (afterOrder beforeOrder : Option Int) (order : Int) : Bool :=
  match afterOrder, beforeOrder with
  | some after, some before => order > after && order < before
  | some after, none => order > after
  | none, some before => order < before
  | none, none => true

/-- The messages of a group within the bounds, sorted by order and cut to the limit. `listing` is
the order in which the walk over the messages meets them. -/
def getMessagesByGroup (listing : List Message) (groupId : String)
    (afterOrder beforeOrder : Option Int) (limit : Nat) : List Message :=
  let filtered := (listing.filter (·.groupId == groupId)).filter fun message ↦
    withinBounds afterOrder beforeOrder (message.order.getD 0)
  (filtered.mergeSort fun first second ↦ first.order.getD 0 ≤ second.order.getD 0).take limit

/-- Replaces the content of a message and swaps its nonce in the set of nonces. -/
def updateMessage (storage : InMemoryStorage) (id : Uuid) (content : MessageContent)
    (now : DateTime) : Outcome Message :=
  match storage.messages.lookup id with
  | none => (.error (.notFound id), storage)
  | some message =>
    if message.nonce ≠ content.nonce ∧ content.nonce ∈ storage.nonces then
      (.error .duplicateNonce, storage)
    else
      let updated := message.updateContent content now
      (.ok updated, { storage with
        nonces := insert content.nonce (storage.nonces.erase message.nonce)
        messages := storage.messages.insert id updated })

/-- Marks a message for deletion. -/
def deleteMessage (storage : InMemoryStorage) (id : Uuid) (now : DateTime) : Outcome Message :=
  match storage.messages.lookup id with
  | none => (.error (.notFound id), storage)
  | some message =>
    let deleted := message.markForDeletion now
    (.ok deleted, { storage with messages := storage.messages.insert id deleted })

/-- Sets the synchronization status and, when one is given, the patch identifier. -/
def updateSyncStatus (storage : InMemoryStorage) (id : Uuid) (status : SyncStatus)
    (quiltPatchId : Option String) (now : DateTime) : Outcome Message :=
  match storage.messages.lookup id with
  | none => (.error (.notFound id), storage)
  | some message =>
    let updated := message.withSyncStatus status quiltPatchId now
    (.ok updated, { storage with messages := storage.messages.insert id updated })

/-- The first messages with a status, up to the limit, in the order of the walk. -/
def getMessagesBySyncStatus (listing : List Message) (status : SyncStatus) (limit : Nat) :
    List Message :=
  (listing.filter (·.syncStatus == status)).take limit

/-! ### What each operation can do -/

section Specification

variable (storage : InMemoryStorage) (id : Uuid) (message : Message) (content : MessageContent)
  (status : SyncStatus) (patchId : Option String) (now : DateTime) (groupId : String)

@[simp] theorem messages_nextOrder : (storage.nextOrder groupId).2.messages = storage.messages :=
  rfl

@[simp] theorem nonces_nextOrder : (storage.nextOrder groupId).2.nonces = storage.nonces :=
  rfl

/-- Either the insertion is refused and the storage is as it was, or the identifier and the nonce
are new and the message is stored. -/
theorem insertMessage_cases :
    (∃ err, storage.insertMessage message = (.error err, storage) ∧
      ((storage.messages.lookup message.id).isSome ∨ message.nonce ∈ storage.nonces)) ∨
    (storage.messages.lookup message.id = none ∧ message.nonce ∉ storage.nonces ∧
      storage.insertMessage message = (.ok message, { storage with
        nonces := insert message.nonce storage.nonces
        messages := storage.messages.insert message.id message })) := by
  unfold insertMessage
  split_ifs with hid hnonce
  · exact Or.inl ⟨_, rfl, Or.inl hid⟩
  · exact Or.inl ⟨_, rfl, Or.inr hnonce⟩
  · exact Or.inr ⟨Option.not_isSome_iff_eq_none.mp hid, hnonce, rfl⟩

/-- Assumes: the message is stored, and the nonce is its own or in no use. Its content
is replaced. -/
theorem updateMessage_eq_ok {storage : InMemoryStorage} {id : Uuid} {stored : Message}
    (content : MessageContent) (now : DateTime) (hlookup : storage.messages.lookup id = some stored)
    (hnonce : stored.nonce = content.nonce ∨ content.nonce ∉ storage.nonces) :
    storage.updateMessage id content now = (.ok (stored.updateContent content now),
      { storage with
        nonces := insert content.nonce (storage.nonces.erase stored.nonce)
        messages := storage.messages.insert id (stored.updateContent content now) }) := by
  have haccepted : ¬ (stored.nonce ≠ content.nonce ∧ content.nonce ∈ storage.nonces) := by
    rintro ⟨hother, hused⟩
    exact hnonce.elim hother (absurd hused)
  unfold updateMessage
  rw [hlookup]
  simp only [if_neg haccepted]

/-- Either the update is refused and the storage is as it was, or the message is there, its new
nonce is its old one or in no use, and its content is replaced. -/
theorem updateMessage_cases :
    (∃ err, storage.updateMessage id content now = (.error err, storage)) ∨
    ∃ stored, storage.messages.lookup id = some stored ∧
      (stored.nonce = content.nonce ∨ content.nonce ∉ storage.nonces) ∧
      storage.updateMessage id content now = (.ok (stored.updateContent content now),
        { storage with
          nonces := insert content.nonce (storage.nonces.erase stored.nonce)
          messages := storage.messages.insert id (stored.updateContent content now) }) := by
  cases hlookup : storage.messages.lookup id with
  | none =>
    have hmissing : storage.updateMessage id content now = (.error (.notFound id), storage) := by
      simp only [updateMessage, hlookup]
    exact Or.inl ⟨_, hmissing⟩
  | some stored =>
    by_cases hnonce : stored.nonce = content.nonce ∨ content.nonce ∉ storage.nonces
    · exact Or.inr ⟨stored, rfl, hnonce, updateMessage_eq_ok content now hlookup hnonce⟩
    · have hrefused : storage.updateMessage id content now = (.error .duplicateNonce, storage) := by
        simp only [updateMessage, hlookup]
        rw [if_pos (by simpa using hnonce)]
      exact Or.inl ⟨_, hrefused⟩

/-- Either the message is not there and the storage is as it was, or it is marked for deletion. -/
theorem deleteMessage_cases :
    (storage.messages.lookup id = none ∧
      storage.deleteMessage id now = (.error (.notFound id), storage)) ∨
    ∃ stored, storage.messages.lookup id = some stored ∧
      storage.deleteMessage id now = (.ok (stored.markForDeletion now),
        { storage with messages := storage.messages.insert id (stored.markForDeletion now) }) := by
  unfold deleteMessage
  cases hlookup : storage.messages.lookup id with
  | none => exact Or.inl ⟨rfl, rfl⟩
  | some stored => exact Or.inr ⟨stored, rfl, rfl⟩

/-- Either the message is not there and the storage is as it was, or its status is set. -/
theorem updateSyncStatus_cases :
    (storage.messages.lookup id = none ∧
      storage.updateSyncStatus id status patchId now = (.error (.notFound id), storage)) ∨
    ∃ stored, storage.messages.lookup id = some stored ∧
      storage.updateSyncStatus id status patchId now =
        (.ok (stored.withSyncStatus status patchId now),
          { storage with
            messages :=
              storage.messages.insert id (stored.withSyncStatus status patchId now) }) := by
  unfold updateSyncStatus
  cases hlookup : storage.messages.lookup id with
  | none => exact Or.inl ⟨rfl, rfl⟩
  | some stored => exact Or.inr ⟨stored, rfl, rfl⟩

theorem groupOrders_updateMessage :
    (storage.updateMessage id content now).2.groupOrders = storage.groupOrders := by
  rcases storage.updateMessage_cases id content now with ⟨err, hresult⟩ | ⟨stored, -, -, hresult⟩
  · rw [hresult]
  · rw [hresult]

theorem groupOrders_deleteMessage :
    (storage.deleteMessage id now).2.groupOrders = storage.groupOrders := by
  rcases storage.deleteMessage_cases id now with ⟨-, hresult⟩ | ⟨stored, -, hresult⟩
  · rw [hresult]
  · rw [hresult]

theorem groupOrders_updateSyncStatus :
    (storage.updateSyncStatus id status patchId now).2.groupOrders = storage.groupOrders := by
  rcases storage.updateSyncStatus_cases id status patchId now with ⟨-, hresult⟩ |
    ⟨stored, -, hresult⟩
  · rw [hresult]
  · rw [hresult]

theorem getMessage_eq_ok_iff :
    storage.getMessage id = .ok message ↔ storage.messages.lookup id = some message := by
  unfold getMessage
  cases hlookup : storage.messages.lookup id with
  | none => simp
  | some stored => simp

end Specification

/-! ### What the reads return -/

/-- A message is in a page of a group only when it is met by the walk, belongs to the group and lies
within the bounds. -/
theorem mem_getMessagesByGroup {listing : List Message} {groupId : String}
    {afterOrder beforeOrder : Option Int} {limit : Nat} {message : Message}
    (hmem : message ∈ getMessagesByGroup listing groupId afterOrder beforeOrder limit) :
    message ∈ listing ∧ message.groupId = groupId ∧
      withinBounds afterOrder beforeOrder (message.order.getD 0) = true := by
  have hfiltered := List.mem_mergeSort.mp (List.mem_of_mem_take hmem)
  rw [List.mem_filter, List.mem_filter] at hfiltered
  exact ⟨hfiltered.1.1, by simpa using hfiltered.1.2, hfiltered.2⟩

/-- Sorting by order number puts smaller order numbers before greater ones. -/
theorem pairwise_mergeSort_order (messages : List Message) :
    (messages.mergeSort fun first second ↦ first.order.getD 0 ≤ second.order.getD 0).Pairwise
      fun first second ↦ first.order.getD 0 ≤ second.order.getD 0 := by
  refine (List.pairwise_mergeSort ?_ ?_ _).imp fun hle ↦ of_decide_eq_true hle
  · intro first second third hfirst hsecond
    exact decide_eq_true ((of_decide_eq_true hfirst).trans (of_decide_eq_true hsecond))
  · intro first second
    rw [Bool.or_eq_true, decide_eq_true_iff, decide_eq_true_iff]
    exact le_total _ _

/-- A message of the group within the bounds that is not in the page comes after all that are. -/
theorem mem_or_le_of_getMessagesByGroup {listing : List Message} {groupId : String}
    {afterOrder beforeOrder : Option Int} {message : Message} (limit : Nat)
    (hmem : message ∈ listing) (hgroup : message.groupId = groupId)
    (hbounds : withinBounds afterOrder beforeOrder (message.order.getD 0) = true) :
    message ∈ getMessagesByGroup listing groupId afterOrder beforeOrder limit ∨
      ∀ shown ∈ getMessagesByGroup listing groupId afterOrder beforeOrder limit,
        shown.order.getD 0 ≤ message.order.getD 0 := by
  unfold getMessagesByGroup
  simp only
  generalize hsorted : List.mergeSort _ _ = sorted
  have hfound : message ∈ sorted := by
    rw [← hsorted, List.mem_mergeSort, List.mem_filter, List.mem_filter]
    exact ⟨⟨hmem, by simpa using hgroup⟩, hbounds⟩
  have hordered : sorted.Pairwise fun first second ↦ first.order.getD 0 ≤ second.order.getD 0 := by
    rw [← hsorted]
    exact pairwise_mergeSort_order _
  rw [← List.take_append_drop limit sorted] at hfound hordered
  rcases List.mem_append.mp hfound with hshown | hdropped
  · exact Or.inl hshown
  · exact Or.inr fun shown hshown ↦
      (List.pairwise_append.mp hordered).2.2 shown hshown message hdropped

/-- Without bounds and with room for all, every message of the group is in the page. -/
theorem mem_getMessagesByGroup_unbounded {listing : List Message} {groupId : String}
    {message : Message} (hmem : message ∈ listing) (hgroup : message.groupId = groupId) :
    message ∈ getMessagesByGroup listing groupId none none listing.length := by
  unfold getMessagesByGroup
  simp only
  rw [List.take_of_length_le, List.mem_mergeSort, List.mem_filter, List.mem_filter]
  · exact ⟨⟨hmem, by simpa using hgroup⟩, rfl⟩
  · rw [List.length_mergeSort]
    exact (List.length_filter_le _ _).trans (List.length_filter_le _ _)

/-- Assumes: a limit that is not zero. A page is empty only when no message of the group is within
the bounds. -/
theorem not_withinBounds_of_getMessagesByGroup_eq_nil {listing : List Message} {groupId : String}
    {afterOrder beforeOrder : Option Int} {limit : Nat} {message : Message} (hlimit : 0 < limit)
    (hempty : getMessagesByGroup listing groupId afterOrder beforeOrder limit = [])
    (hmem : message ∈ listing) (hgroup : message.groupId = groupId) :
    withinBounds afterOrder beforeOrder (message.order.getD 0) ≠ true := by
  intro hbounds
  unfold getMessagesByGroup at hempty
  rw [List.take_eq_nil_iff] at hempty
  have hnone := hempty.resolve_left (by omega)
  have hfound : message ∈ List.mergeSort
      ((listing.filter (·.groupId == groupId)).filter fun message ↦
        withinBounds afterOrder beforeOrder (message.order.getD 0))
        (fun first second ↦ first.order.getD 0 ≤ second.order.getD 0) := by
    rw [List.mem_mergeSort, List.mem_filter, List.mem_filter]
    exact ⟨⟨hmem, by simpa using hgroup⟩, hbounds⟩
  rw [hnone] at hfound
  exact absurd hfound List.not_mem_nil

/-- A snapshot by status has only messages the walk meets, with that status. -/
theorem mem_getMessagesBySyncStatus {listing : List Message} {status : SyncStatus} {limit : Nat}
    {message : Message} (hmem : message ∈ getMessagesBySyncStatus listing status limit) :
    message ∈ listing ∧ message.syncStatus = status := by
  have hfiltered := List.mem_of_mem_take hmem
  rw [List.mem_filter] at hfiltered
  exact ⟨hfiltered.1, by simpa using hfiltered.2⟩

end InMemoryStorage

end MessagingRelayer
