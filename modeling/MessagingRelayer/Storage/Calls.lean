import MessagingRelayer.Storage.Orders
import Mathlib.Data.Fintype.EquivFin

/-!
# Calls of the storage operations

`perform` is a whole call of one of the operations that change the storage, and `performAll` is a
sequence of calls, one after the other. A call is one access or, for `create_message`, two
(`exists_accesses_of_perform`), so whatever holds of all storages that concurrent accesses reach
(`Reachable`) holds along every sequence of calls.

The set of nonces is exactly that of the stored messages (`nonces_exact`). The order counters are
not kept as well: `create_message` counts before it checks, so a refused call leaves a gap
(`leavesNoTrace_iff_createsFresh`).
-/

set_option autoImplicit false
set_option relaxedAutoImplicit false

namespace MessagingRelayer

open Foundation

/-- A call of an operation that changes the storage, with the clock reading it makes. -/
inductive StorageCall
  | createMessage (message : Message)
  | updateMessage (id : Uuid) (content : MessageContent) (now : DateTime)
  | deleteMessage (id : Uuid) (now : DateTime)
  | updateSyncStatus (id : Uuid) (status : SyncStatus) (quiltPatchId : Option String)
      (now : DateTime)

namespace InMemoryStorage

/-- The result of a call and the storage it leaves behind. -/
def perform (storage : InMemoryStorage) : StorageCall → Outcome Message
  | .createMessage message => storage.createMessage message
  | .updateMessage id content now => storage.updateMessage id content now
  | .deleteMessage id now => storage.deleteMessage id now
  | .updateSyncStatus id status quiltPatchId now =>
    storage.updateSyncStatus id status quiltPatchId now

/-- The storage after a sequence of calls. -/
def performAll (storage : InMemoryStorage) (calls : List StorageCall) : InMemoryStorage :=
  calls.foldl (fun reached call ↦ (reached.perform call).2) storage

/-- Concurrent accesses lead to the storage, calls of `create_message` under way among them. -/
def Reachable (storage : InMemoryStorage) : Prop :=
  ∃ polled accesses shared, SharedStorage.run polled accesses = some shared ∧
    shared.storage = storage

section Reachable

variable {storage : InMemoryStorage}

theorem performAll_concat (storage : InMemoryStorage) (calls : List StorageCall)
    (call : StorageCall) :
    storage.performAll (calls ++ [call]) = ((storage.performAll calls).perform call).2 :=
  List.foldl_append

/-- A call is one or two accesses. -/
theorem exists_accesses_of_perform (polled : String) (shared : SharedStorage) (call : StorageCall) :
    ∃ accesses later, runFrom (SharedStorage.step polled) shared accesses = some later ∧
      later.storage = (shared.storage.perform call).2 := by
  cases call with
  | createMessage message =>
    obtain ⟨free, hfree⟩ := Infinite.exists_notMem_finset shared.creating.keys
    have hnone : shared.creating.lookup free = none :=
      Finmap.lookup_eq_none.mpr (mt Finmap.mem_keys.mpr hfree)
    refine ⟨[.takeOrder free message, .insert free], { shared with
      storage := (shared.storage.createMessage message).2
      creating := (shared.creating.insert free
        (message.setOrder (shared.storage.nextOrder message.groupId).1)).erase free }, ?_, rfl⟩
    simp only [runFrom_cons, SharedStorage.step, hnone, Option.bind_some, Finmap.lookup_insert]
    rfl
  | updateMessage id content now => exact ⟨[.updateMessage id content now], _, rfl, rfl⟩
  | deleteMessage id now => exact ⟨[.deleteMessage id now], _, rfl, rfl⟩
  | updateSyncStatus id status quiltPatchId now =>
    exact ⟨[.updateSyncStatus id status quiltPatchId now], _, rfl, rfl⟩

theorem reachable_new : Reachable .new :=
  ⟨"", [], .init, rfl, rfl⟩

theorem Reachable.perform (hreachable : storage.Reachable) (call : StorageCall) :
    (storage.perform call).2.Reachable := by
  obtain ⟨polled, accesses, shared, hrun, rfl⟩ := hreachable
  obtain ⟨more, later, hmore, hlater⟩ := exists_accesses_of_perform polled shared call
  exact ⟨polled, accesses ++ more, later, runFrom_append_eq_some.mpr ⟨shared, hrun, hmore⟩, hlater⟩

theorem Reachable.performAll (hreachable : storage.Reachable) (calls : List StorageCall) :
    (storage.performAll calls).Reachable := by
  induction calls using List.reverseRecOn with
  | nil => exact hreachable
  | append_singleton past call ih =>
    rw [performAll_concat]
    exact ih.perform call

/-- No two messages of a group have the same order number. -/
theorem Reachable.orders_distinct (hreachable : storage.Reachable) {first second : Uuid}
    {message other : Message} (hfirst : storage.messages.lookup first = some message)
    (hsecond : storage.messages.lookup second = some other)
    (hgroup : message.groupId = other.groupId)
    (horder : message.order.getD 0 = other.order.getD 0) : first = second := by
  obtain ⟨polled, accesses, shared, hrun, rfl⟩ := hreachable
  exact Sum.inl.inj ((ordersIssued_of_accesses hrun).distinct (.inl first) (.inl second) message
    other hfirst hsecond hgroup horder)

/-! ### The nonces -/

theorem Reachable.nonceIndexed (hreachable : storage.Reachable) : storage.NonceIndexed := by
  obtain ⟨polled, accesses, shared, hrun, rfl⟩ := hreachable
  exact nonceIndexed_of_accesses hrun

theorem nonceIndexed_perform (hindexed : storage.NonceIndexed) (call : StorageCall) :
    (storage.perform call).2.NonceIndexed := by
  cases call with
  | createMessage message => exact (hindexed.with_orders _).insertMessage _
  | updateMessage id content now => exact hindexed.updateMessage id content now
  | deleteMessage id now => exact hindexed.deleteMessage id now
  | updateSyncStatus id status quiltPatchId now =>
    exact hindexed.updateSyncStatus id status quiltPatchId now

theorem nonceIndexed_performAll (hindexed : storage.NonceIndexed) (calls : List StorageCall) :
    (storage.performAll calls).NonceIndexed := by
  induction calls using List.reverseRecOn with
  | nil => exact hindexed
  | append_singleton past call ih =>
    rw [performAll_concat]
    exact nonceIndexed_perform ih call

/-- After every sequence of calls from the empty storage, the set of nonces is that of the stored
messages, and different messages have different nonces. -/
theorem nonces_exact (calls : List StorageCall) :
    (∀ nonce, nonce ∈ (new.performAll calls).nonces ↔
      ∃ id message, (new.performAll calls).messages.lookup id = some message ∧
        message.nonce = nonce) ∧
    ∀ first second message other, (new.performAll calls).messages.lookup first = some message →
      (new.performAll calls).messages.lookup second = some other → first ≠ second →
        message.nonce ≠ other.nonce := by
  have hindexed := nonceIndexed_performAll nonceIndexed_new calls
  refine ⟨hindexed.indexed, ?_⟩
  intro first second message other hfirst hsecond hdifferent hsame
  exact hdifferent (hindexed.distinct first second message other hfirst hsecond hsame)

/-! ### The order counters -/

/-- If the call fails, the storage is as it was. -/
def LeavesNoTrace (storage : InMemoryStorage) (call : StorageCall) : Prop :=
  ∀ err, (storage.perform call).1 = .error err → (storage.perform call).2 = storage

/-- The order numbers of the messages of every group are those from one to some number. -/
def Gapless (storage : InMemoryStorage) : Prop :=
  ∀ groupId, ∃ last, ∀ order, 1 ≤ order ∧ order ≤ last ↔
    ∃ id message, storage.messages.lookup id = some message ∧ message.groupId = groupId ∧
      message.order = some order

/-- If the call is a `create_message`, the identifier and the nonce of its message are in no use. -/
def CreatesFresh (storage : InMemoryStorage) (call : StorageCall) : Prop :=
  ∀ message, call = .createMessage message →
    storage.messages.lookup message.id = none ∧ message.nonce ∉ storage.nonces

/-- The condition holds of every call of the sequence, in the storage the call finds. -/
def EveryCall (cond : InMemoryStorage → StorageCall → Prop) (calls : List StorageCall) : Prop :=
  ∀ past call rest, calls = past ++ call :: rest → cond (new.performAll past) call

theorem EveryCall.of_concat {cond : InMemoryStorage → StorageCall → Prop}
    {past : List StorageCall} {call : StorageCall} (hevery : EveryCall cond (past ++ [call])) :
    EveryCall cond past ∧ cond (new.performAll past) call := by
  refine ⟨fun first other rest hsplit ↦ hevery first other (rest ++ [call]) ?_,
    hevery past call [] rfl⟩
  rw [hsplit, List.append_assoc, List.cons_append]

/-- Assumes: an identifier and a nonce in no use. The message is stored with the next order number
of its group. -/
theorem createMessage_eq_ok {message : Message} (hid : storage.messages.lookup message.id = none)
    (hnonce : message.nonce ∉ storage.nonces) :
    storage.createMessage message =
      (.ok (message.setOrder (storage.lastOrder message.groupId + 1)),
        { (storage.nextOrder message.groupId).2 with
          nonces := insert message.nonce storage.nonces
          messages := storage.messages.insert message.id
            (message.setOrder (storage.lastOrder message.groupId + 1)) }) := by
  rcases (storage.nextOrder message.groupId).2.insertMessage_cases
    (message.setOrder (storage.lastOrder message.groupId + 1)) with ⟨err, -, htaken | hused⟩ |
      ⟨-, -, hresult⟩
  · have htaken : (storage.messages.lookup message.id).isSome := htaken
    simp [hid] at htaken
  · exact absurd hused hnonce
  · rw [← nextOrder_eq] at hresult ⊢
    exact hresult

/-- A call leaves no trace when it fails, exactly when it does not create a message that is refused:
such a call has taken an order number. -/
theorem leavesNoTrace_iff (storage : InMemoryStorage) (call : StorageCall) :
    storage.LeavesNoTrace call ↔ storage.CreatesFresh call := by
  cases call with
  | createMessage message =>
    constructor
    · rintro htrace other ⟨⟩
      rcases (storage.nextOrder message.groupId).2.insertMessage_cases
        (message.setOrder (storage.nextOrder message.groupId).1) with ⟨err, hresult, -⟩ |
          ⟨hid, hnonce, -⟩
      · have hsame : (storage.nextOrder message.groupId).2 = storage := by
          have hperform : storage.perform (.createMessage message) =
            (.error err, (storage.nextOrder message.groupId).2) := hresult
          have hkept := htrace err (by rw [hperform])
          rw [hperform] at hkept
          exact hkept
        have hcounted := lastOrder_nextOrder storage message.groupId message.groupId
        rw [hsame, if_pos rfl] at hcounted
        omega
      · exact ⟨hid, hnonce⟩
    · intro hfresh err herror
      obtain ⟨hid, hnonce⟩ := hfresh message rfl
      have hok : storage.perform (.createMessage message) = _ := createMessage_eq_ok hid hnonce
      rw [hok] at herror
      simp at herror
  | updateMessage id content now =>
    refine ⟨fun _ message hcreate ↦ by simp at hcreate, fun _ err herror ↦ ?_⟩
    have hperform : storage.perform (.updateMessage id content now) =
      storage.updateMessage id content now := rfl
    rw [hperform] at herror ⊢
    rcases storage.updateMessage_cases id content now with ⟨err, hresult⟩ | ⟨stored, -, -, hresult⟩
    · rw [hresult]
    · simp [hresult] at herror
  | deleteMessage id now =>
    refine ⟨fun _ message hcreate ↦ by simp at hcreate, fun _ err herror ↦ ?_⟩
    have hperform : storage.perform (.deleteMessage id now) = storage.deleteMessage id now := rfl
    rw [hperform] at herror ⊢
    rcases storage.deleteMessage_cases id now with ⟨-, hresult⟩ | ⟨stored, -, hresult⟩
    · rw [hresult]
    · simp [hresult] at herror
  | updateSyncStatus id status quiltPatchId now =>
    refine ⟨fun _ message hcreate ↦ by simp at hcreate, fun _ err herror ↦ ?_⟩
    have hperform : storage.perform (.updateSyncStatus id status quiltPatchId now) =
      storage.updateSyncStatus id status quiltPatchId now := rfl
    rw [hperform] at herror ⊢
    rcases storage.updateSyncStatus_cases id status quiltPatchId now with ⟨-, hresult⟩ |
      ⟨stored, -, hresult⟩
    · rw [hresult]
    · simp [hresult] at herror

/-- A call that creates nothing leaves the messages with their identities, and the counters as they
were. -/
theorem perform_cases (storage : InMemoryStorage) (call : StorageCall) :
    (∃ message, call = .createMessage message) ∨
      SameIdentities storage (storage.perform call).2 ∧
        (storage.perform call).2.groupOrders = storage.groupOrders := by
  cases call with
  | createMessage message => exact Or.inl ⟨message, rfl⟩
  | updateMessage id content now =>
    exact Or.inr ⟨sameIdentities_updateMessage storage id content now,
      storage.groupOrders_updateMessage id content now⟩
  | deleteMessage id now =>
    exact Or.inr ⟨sameIdentities_deleteMessage storage id now,
      storage.groupOrders_deleteMessage id now⟩
  | updateSyncStatus id status quiltPatchId now =>
    exact Or.inr ⟨sameIdentities_updateSyncStatus storage id status quiltPatchId now,
      storage.groupOrders_updateSyncStatus id status quiltPatchId now⟩

/-- A call takes no message away and changes no identity. -/
theorem identityKept_perform (storage : InMemoryStorage) (call : StorageCall) :
    IdentityKept storage (storage.perform call).2 := by
  rcases storage.perform_cases call with ⟨message, rfl⟩ | ⟨hsame, -⟩
  · have hperform : storage.perform (.createMessage message) =
        (storage.nextOrder message.groupId).2.insertMessage
          (message.setOrder (storage.nextOrder message.groupId).1) := rfl
    rw [hperform]
    rcases (storage.nextOrder message.groupId).2.insertMessage_cases
      (message.setOrder (storage.nextOrder message.groupId).1) with ⟨err, hresult, -⟩ |
        ⟨hid, -, hresult⟩
    · rw [hresult]
      exact (SameIdentities.of_eq rfl).identityKept
    · rw [hresult]
      exact identityKept_of_insert hid rfl
  · exact hsame.identityKept

theorem identityKept_performAll (storage : InMemoryStorage) (calls : List StorageCall) :
    IdentityKept storage (storage.performAll calls) := by
  induction calls using List.reverseRecOn with
  | nil => exact .refl _
  | append_singleton past call ih =>
    rw [performAll_concat]
    exact ih.trans (identityKept_perform _ call)

/-- Every order number a counter has passed is that of a message of its group. -/
def Dense (storage : InMemoryStorage) : Prop :=
  ∀ groupId order, 1 ≤ order → order ≤ storage.lastOrder groupId →
    ∃ id message, storage.messages.lookup id = some message ∧ message.groupId = groupId ∧
      message.order = some order

theorem dense_perform (hdense : storage.Dense) {call : StorageCall}
    (hfresh : storage.CreatesFresh call) : (storage.perform call).2.Dense := by
  intro groupId order hpositive hle
  rcases storage.perform_cases call with ⟨created, rfl⟩ | ⟨hsame, horders⟩
  · obtain ⟨hid, hnonce⟩ := hfresh created rfl
    have hperform : storage.perform (.createMessage created) = _ := createMessage_eq_ok hid hnonce
    have hlast : (storage.perform (.createMessage created)).2.lastOrder groupId =
        if groupId = created.groupId then storage.lastOrder created.groupId + 1
        else storage.lastOrder groupId := by
      rw [hperform, ← lastOrder_nextOrder]
      rfl
    rw [hlast] at hle
    by_cases hnew : groupId = created.groupId ∧ order = storage.lastOrder created.groupId + 1
    · obtain ⟨rfl, rfl⟩ := hnew
      refine ⟨created.id, created.setOrder (storage.lastOrder created.groupId + 1), ?_, rfl, rfl⟩
      rw [hperform]
      exact Finmap.lookup_insert _
    · have hearlier : order ≤ storage.lastOrder groupId := by
        split_ifs at hle with hgroup
        · have hother : order ≠ storage.lastOrder created.groupId + 1 := fun h ↦ hnew ⟨hgroup, h⟩
          rw [hgroup]
          omega
        · exact hle
      obtain ⟨id, message, hlookup, hgroup, horder⟩ := hdense groupId order hpositive hearlier
      have hother : id ≠ created.id := by
        rintro rfl
        simp [hid] at hlookup
      refine ⟨id, message, ?_, hgroup, horder⟩
      rw [hperform]
      exact (Finmap.lookup_insert_of_ne _ hother).trans hlookup
  · rw [lastOrder_congr horders] at hle
    obtain ⟨id, message, hlookup, hgroup, horder⟩ := hdense groupId order hpositive hle
    obtain ⟨kept, hkept, hidentity⟩ := hsame.identityKept id message hlookup
    exact ⟨id, kept, hkept, (congrArg Message.Identity.groupId hidentity).trans hgroup,
      (congrArg Message.Identity.order hidentity).trans horder⟩

/-- The order number of a stored message lies between one and the counter of its group. -/
theorem Reachable.numbered (hreachable : storage.Reachable) {id : Uuid} {message : Message}
    (hlookup : storage.messages.lookup id = some message) :
    ∃ order, message.order = some order ∧ 1 ≤ order ∧
      order ≤ storage.lastOrder message.groupId := by
  obtain ⟨polled, accesses, shared, hrun, rfl⟩ := hreachable
  obtain ⟨order, horder, hpositive⟩ := numbered_of_accesses hrun (.inl id) message hlookup
  have hle := (ordersIssued_of_accesses hrun).le_last (.inl id) message hlookup
  rw [horder] at hle
  exact ⟨order, horder, hpositive, hle⟩

theorem gapless_of_dense (hreachable : storage.Reachable) (hdense : storage.Dense) :
    storage.Gapless := by
  intro groupId
  refine ⟨storage.lastOrder groupId, fun order ↦ ⟨fun hbounds ↦ ?_, ?_⟩⟩
  · exact hdense groupId order hbounds.1 hbounds.2
  · rintro ⟨id, message, hlookup, rfl, horder⟩
    obtain ⟨issued, hissued, hpositive, hle⟩ := hreachable.numbered hlookup
    obtain rfl : order = issued := Option.some.inj (horder.symm.trans hissued)
    exact ⟨hpositive, hle⟩

/-- Calls that create no refused message hand out no number in vain. -/
theorem dense_performAll {calls : List StorageCall} (hfresh : EveryCall CreatesFresh calls) :
    (new.performAll calls).Dense := by
  induction calls using List.reverseRecOn with
  | nil =>
    intro groupId order hpositive hle
    have hzero : (new.performAll []).lastOrder groupId = 0 := rfl
    omega
  | append_singleton past call ih =>
    rw [performAll_concat]
    exact dense_perform (ih hfresh.of_concat.1) hfresh.of_concat.2

/-- A failing call leaves no trace unless it is a `create_message` that is refused. Along a sequence
of calls no failing call leaves a trace, and the order numbers of every group have no gaps, exactly
when no `create_message` of the sequence is refused. -/
theorem leavesNoTrace_iff_createsFresh (storage : InMemoryStorage) (call : StorageCall)
    (calls : List StorageCall) :
    (LeavesNoTrace storage call ↔ CreatesFresh storage call) ∧
    ((EveryCall LeavesNoTrace calls ∧
        ∀ past rest, calls = past ++ rest → (new.performAll past).Gapless) ↔
      EveryCall CreatesFresh calls) := by
  refine ⟨leavesNoTrace_iff storage call, ?_, fun hfresh ↦ ⟨?_, ?_⟩⟩
  · rintro ⟨htrace, -⟩ past call rest hsplit
    exact (leavesNoTrace_iff _ call).mp (htrace past call rest hsplit)
  · intro past call rest hsplit
    exact (leavesNoTrace_iff _ call).mpr (hfresh past call rest hsplit)
  · rintro past rest rfl
    have hpast : EveryCall CreatesFresh past := fun first call later hsplit ↦
      hfresh first call (later ++ rest) (by rw [hsplit, List.append_assoc, List.cons_append])
    exact gapless_of_dense (reachable_new.performAll past) (dense_performAll hpast)

end Reachable

/-! ### A create that is refused -/

/-- Three messages of one group are created; the nonce of the second is that of the first. -/
def refusedCreate : List StorageCall :=
  [.createMessage (crossingMessage 0x0c 0x1a), .createMessage (crossingMessage 0x0d 0x1a),
    .createMessage (crossingMessage 0x0e 0x2b)]

/-- The first and the third message are stored, with a gap between their order numbers. -/
theorem messages_refusedCreate : (new.performAll refusedCreate).messages =
    ((∅ : HashMap Uuid Message).insert (crossingMessage 0x0c 0x1a).id
      ((crossingMessage 0x0c 0x1a).setOrder 1)).insert (crossingMessage 0x0e 0x2b).id
        ((crossingMessage 0x0e 0x2b).setOrder 3) := by
  rfl

/-- The second call fails and has taken an order number; after the third call it is missing. -/
theorem not_gapless_refusedCreate :
    ¬ (∀ storage call, LeavesNoTrace storage call) ∧ ¬ (new.performAll refusedCreate).Gapless := by
  constructor
  · intro htrace
    have hfresh := (leavesNoTrace_iff _ _).mp
      (htrace (new.performAll (refusedCreate.take 1)) (.createMessage (crossingMessage 0x0d 0x1a)))
    exact absurd (hfresh _ rfl).2 (by decide)
  · intro hgapless
    obtain ⟨last, hlast⟩ := hgapless "0x0a"
    have hthird := (hlast 3).mpr
      ⟨_, _, by rw [messages_refusedCreate]; exact Finmap.lookup_insert _, rfl, rfl⟩
    obtain ⟨id, message, hlookup, -, horder⟩ := (hlast 2).mp ⟨by omega, by omega⟩
    rw [messages_refusedCreate, HashMap.lookup_insert_eq, HashMap.lookup_insert_eq] at hlookup
    split_ifs at hlookup with hfirst hsecond
    · rw [← Option.some.inj hlookup] at horder
      exact absurd horder (by decide)
    · rw [← Option.some.inj hlookup] at horder
      exact absurd horder (by decide)
    · simp at hlookup

end InMemoryStorage

end MessagingRelayer
