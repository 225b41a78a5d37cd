import MessagingRelayer.Foundation.Follower
import MessagingRelayer.Foundation.PartialRun
import MessagingRelayer.Storage.Invariants

/-!
# Concurrent access to the storage

`create_message` takes its order number under one lock and stores its message under another, so
other calls come between (`takeOrder` and `insert` are two accesses). Every other operation holds
the lock of the messages throughout. A poller reads one group again and again, each time what lies
above the highest order number it has seen.

Order numbers of a group are handed out once (`OrdersIssued`), but nothing makes the messages
visible in their order: readers see them in order exactly when every message is inserted after
those with smaller numbers of its group (`missesNothing_iff_insertsInTurn`), which is so when calls
do not overlap (`insertsInTurn_of_takesOrderAlone`).
-/

set_option autoImplicit false
set_option relaxedAutoImplicit false

namespace MessagingRelayer

open Foundation

/-- What readers know a message by: its identifier and its order number. -/
def Message.entry (message : Message) : Uuid × Int :=
  (message.id, message.order.getD 0)

/-- Names a call of `create_message`. -/
abbrev CallId := Nat

/-- The storage, the calls that have their order number and have not stored their message yet, and
what the poller has received. -/
structure SharedStorage where
  storage : InMemoryStorage
  creating : HashMap CallId Message
  received : List (Uuid × Int)

/-- The critical sections of the storage operations, and a read by the poller. -/
inductive StorageAccess
  | takeOrder (call : CallId) (message : Message)
  | insert (call : CallId)
  | updateMessage (id : Uuid) (content : MessageContent) (now : DateTime)
  | deleteMessage (id : Uuid) (now : DateTime)
  | updateSyncStatus (id : Uuid) (status : SyncStatus) (quiltPatchId : Option String)
      (now : DateTime)
  | poll (listing : List Message) (limit : Nat)

namespace SharedStorage

/-- Nothing is stored and no call is under way. -/
def init : SharedStorage where
  storage := .new
  creating := ∅
  received := []

variable (polled : String)

/-- What the poller is answered: the first messages of its group above the highest order number it
has seen. -/
def page (shared : SharedStorage) (listing : List Message) (limit : Nat) : List Message :=
  InMemoryStorage.getMessagesByGroup listing polled (highest Prod.snd shared.received) none limit

/-- The state after an access, where the access is possible. -/
def step (shared : SharedStorage) : StorageAccess → Option SharedStorage
  | .takeOrder call message =>
    match shared.creating.lookup call with
    | some _ => none
    | none =>
      let (order, storage) := shared.storage.nextOrder message.groupId
      some { shared with
        storage := storage
        creating := shared.creating.insert call (message.setOrder order) }
  | .insert call =>
    match shared.creating.lookup call with
    | none => none
    | some message =>
      some { shared with
        storage := (shared.storage.insertMessage message).2
        creating := shared.creating.erase call }
  | .updateMessage id content now =>
    some { shared with storage := (shared.storage.updateMessage id content now).2 }
  | .deleteMessage id now =>
    some { shared with storage := (shared.storage.deleteMessage id now).2 }
  | .updateSyncStatus id status quiltPatchId now =>
    some { shared with
      storage := (shared.storage.updateSyncStatus id status quiltPatchId now).2 }
  | .poll listing limit =>
    if shared.storage.messages.IterationOrder listing then
      some { shared with
        received := shared.received ++ (shared.page polled listing limit).map Message.entry }
    else none

/-- A run of accesses from the empty storage. -/
abbrev run (accesses : List StorageAccess) : Option SharedStorage :=
  runFrom (step polled) .init accesses

end SharedStorage

/-! ### What an access does to the messages -/

/-- The access stores the message of a call. -/
def Stores (message : Message) (before : SharedStorage) (access : StorageAccess) : Prop :=
  ∃ call, access = .insert call ∧ before.creating.lookup call = some message ∧
    before.storage.messages.lookup message.id = none ∧ message.nonce ∉ before.storage.nonces

section Accesses

variable {polled : String} {before after : SharedStorage} {access : StorageAccess} {id : Uuid}
  {message : Message}

/-- An access leaves the messages with their identities, or it stores the message of a call. -/
theorem messages_of_access (hstep : before.step polled access = some after) :
    SameIdentities before.storage after.storage ∨ ∃ message, Stores message before access ∧
      after.storage.messages = before.storage.messages.insert message.id message := by
  cases access with
  | takeOrder call message =>
    simp only [SharedStorage.step] at hstep
    split at hstep
    · simp at hstep
    · exact Or.inl (.of_eq (by rw [← Option.some.inj hstep]; rfl))
  | insert call =>
    simp only [SharedStorage.step] at hstep
    split at hstep
    · simp at hstep
    case h_2 message hcall =>
      rw [← Option.some.inj hstep]
      rcases before.storage.insertMessage_cases message with ⟨err, hresult, -⟩ |
        ⟨hid, hnonce, hresult⟩
      · exact Or.inl (.of_eq (by rw [hresult]))
      · exact Or.inr ⟨message, ⟨call, rfl, hcall, hid, hnonce⟩, by rw [hresult]⟩
  | updateMessage id content now =>
    rw [← Option.some.inj hstep]
    exact Or.inl (sameIdentities_updateMessage _ id content now)
  | deleteMessage id now =>
    rw [← Option.some.inj hstep]
    exact Or.inl (sameIdentities_deleteMessage _ id now)
  | updateSyncStatus id status quiltPatchId now =>
    rw [← Option.some.inj hstep]
    exact Or.inl (sameIdentities_updateSyncStatus _ id status quiltPatchId now)
  | poll listing limit =>
    simp only [SharedStorage.step] at hstep
    split_ifs at hstep with hlisting
    rw [← Option.some.inj hstep]
    exact Or.inl (.of_eq rfl)

/-- A message that is stored after an access was stored before, or the access stores it. -/
theorem stored_of_access (hstep : before.step polled access = some after)
    (hlookup : after.storage.messages.lookup id = some message) :
    (∃ stored, before.storage.messages.lookup id = some stored ∧
      stored.identity = message.identity) ∨
    Stores message before access ∧ id = message.id := by
  rcases messages_of_access hstep with hsame | ⟨inserted, hstores, hmessages⟩
  · exact Or.inl (hsame.lookup hlookup)
  · rw [hmessages, HashMap.lookup_insert_eq] at hlookup
    split_ifs at hlookup with hid
    · obtain rfl := Option.some.inj hlookup
      exact Or.inr ⟨hstores, hid⟩
    · exact Or.inl ⟨message, hlookup, rfl⟩

/-- An access that stores a message is possible, and the message is there afterwards. -/
theorem step_of_stores (hstores : Stores message before access) :
    ∃ after, before.step polled access = some after ∧
      after.storage.messages.lookup message.id = some message := by
  obtain ⟨call, rfl, hcall, hid, hnonce⟩ := hstores
  refine ⟨_, by simp only [SharedStorage.step, hcall]; rfl, ?_⟩
  rcases before.storage.insertMessage_cases message with ⟨err, -, htaken | hused⟩ | ⟨-, -, hresult⟩
  · simp [hid] at htaken
  · exact absurd hused hnonce
  · simp only [hresult]
    exact Finmap.lookup_insert _

theorem identityKept_of_access (hstep : before.step polled access = some after) :
    IdentityKept before.storage after.storage := by
  rcases messages_of_access hstep with hsame | ⟨inserted, ⟨call, -, -, hid, -⟩, hmessages⟩
  · exact hsame.identityKept
  · exact identityKept_of_insert hid hmessages

/-- Along every run of accesses messages keep their identity and none disappears. -/
theorem identityKept_of_accesses {accesses : List StorageAccess}
    (hrun : runFrom (SharedStorage.step polled) before accesses = some after) :
    IdentityKept before.storage after.storage :=
  invariant_of_run (fun reached ↦ IdentityKept before.storage reached.storage) (.refl _)
    (fun _ _ _ hkept hstep ↦ hkept.trans (identityKept_of_access hstep)) hrun

end Accesses

/-! ### Order numbers are handed out once -/

/-- The highest order number that the group has had. -/
def InMemoryStorage.lastOrder (storage : InMemoryStorage) (groupId : String) : Int :=
  (storage.groupOrders.lookup groupId).getD 0

/-- Where messages with an order number are: in the storage, or with a call that is to
store them. -/
def SharedStorage.holds (shared : SharedStorage) : Uuid ⊕ CallId → Option Message
  | .inl id => shared.storage.messages.lookup id
  | .inr call => shared.creating.lookup call

/-- No order number is above the highest one of its group, and none is held twice. -/
structure OrdersIssued (shared : SharedStorage) : Prop where
  le_last : ∀ holder message, shared.holds holder = some message →
    message.order.getD 0 ≤ shared.storage.lastOrder message.groupId
  distinct : ∀ first second message other, shared.holds first = some message →
    shared.holds second = some other → message.groupId = other.groupId →
      message.order.getD 0 = other.order.getD 0 → first = second

section OrdersIssued

variable {polled : String} {before after : SharedStorage} {access : StorageAccess}

theorem nextOrder_eq (storage : InMemoryStorage) (groupId : String) :
    (storage.nextOrder groupId).1 = storage.lastOrder groupId + 1 := by
  unfold InMemoryStorage.nextOrder InMemoryStorage.lastOrder
  cases storage.groupOrders.lookup groupId <;> simp

theorem lastOrder_nextOrder (storage : InMemoryStorage) (groupId other : String) :
    (storage.nextOrder groupId).2.lastOrder other =
      if other = groupId then storage.lastOrder groupId + 1 else storage.lastOrder other := by
  rw [← nextOrder_eq]
  simp only [InMemoryStorage.lastOrder, InMemoryStorage.nextOrder, HashMap.lookup_insert_eq]
  split_ifs <;> rfl

theorem lastOrder_congr {storage later : InMemoryStorage}
    (horders : later.groupOrders = storage.groupOrders) (groupId : String) :
    later.lastOrder groupId = storage.lastOrder groupId := by
  unfold InMemoryStorage.lastOrder
  rw [horders]

/-- Assumes: every holder has its number from a holder of its own. Nothing is handed out. -/
theorem OrdersIssued.of_source (hissued : OrdersIssued before)
    (source : Uuid ⊕ CallId → Uuid ⊕ CallId) (hinjective : Function.Injective source)
    (hsource : ∀ holder message, after.holds holder = some message →
      ∃ held, before.holds (source holder) = some held ∧ held.identity = message.identity)
    (horders : after.storage.groupOrders = before.storage.groupOrders) : OrdersIssued after where
  le_last holder message hholds := by
    obtain ⟨held, hheld, hidentity⟩ := hsource holder message hholds
    have hgroup : held.groupId = message.groupId := congrArg Message.Identity.groupId hidentity
    have horder : held.order = message.order := congrArg Message.Identity.order hidentity
    rw [lastOrder_congr horders, ← hgroup, ← horder]
    exact hissued.le_last _ held hheld
  distinct first second message other hfirst hsecond hgroup horder := by
    obtain ⟨held, hheld, hidentity⟩ := hsource first message hfirst
    obtain ⟨kept, hkept, hsame⟩ := hsource second other hsecond
    have hgroups : held.groupId = kept.groupId :=
      (congrArg Message.Identity.groupId hidentity).trans
        (hgroup.trans (congrArg Message.Identity.groupId hsame).symm)
    have hheldOrder : held.order = message.order := congrArg Message.Identity.order hidentity
    have hkeptOrder : kept.order = other.order := congrArg Message.Identity.order hsame
    rw [← hheldOrder, ← hkeptOrder] at horder
    exact hinjective (hissued.distinct _ _ held kept hheld hkept hgroups horder)

/-- A call takes the next order number of its group. -/
theorem OrdersIssued.takeOrder (hissued : OrdersIssued before) (call : CallId) (message : Message) :
    OrdersIssued { before with
      storage := (before.storage.nextOrder message.groupId).2
      creating := before.creating.insert call
        (message.setOrder (before.storage.nextOrder message.groupId).1) } := by
  have hholds : ∀ holder held, SharedStorage.holds { before with
      storage := (before.storage.nextOrder message.groupId).2
      creating := before.creating.insert call
        (message.setOrder (before.storage.nextOrder message.groupId).1) } holder = some held →
      holder = .inr call ∧
        held = message.setOrder (before.storage.lastOrder message.groupId + 1) ∨
      holder ≠ .inr call ∧ before.holds holder = some held := by
    rintro (id | other) held hheld
    · exact Or.inr ⟨by simp, hheld⟩
    · simp only [SharedStorage.holds, HashMap.lookup_insert_eq] at hheld
      split_ifs at hheld with hsame
      · rw [← nextOrder_eq]
        exact Or.inl ⟨congrArg _ hsame, (Option.some.inj hheld).symm⟩
      · exact Or.inr ⟨by simpa using hsame, hheld⟩
  have hbelow : ∀ holder held, before.holds holder = some held → held.groupId = message.groupId →
      held.order.getD 0 ≤ before.storage.lastOrder message.groupId := by
    intro holder held hheld hgroup
    rw [← hgroup]
    exact hissued.le_last holder held hheld
  constructor
  · intro holder held hheld
    rw [lastOrder_nextOrder]
    rcases hholds holder held hheld with ⟨-, rfl⟩ | ⟨-, hheld⟩
    · have hgroup : (message.setOrder (before.storage.lastOrder message.groupId + 1)).groupId =
          message.groupId := rfl
      rw [if_pos hgroup]
      exact le_refl _
    · split_ifs with hgroup
      · exact (hbelow holder held hheld hgroup).trans (by omega)
      · exact hissued.le_last holder held hheld
  · intro first second held other hfirst hsecond hgroup horder
    rcases hholds first held hfirst with ⟨rfl, rfl⟩ | ⟨-, hfirst⟩
    · rcases hholds second other hsecond with ⟨rfl, -⟩ | ⟨-, hsecond⟩
      · rfl
      · have hle := hbelow second other hsecond hgroup.symm
        have hnew : before.storage.lastOrder message.groupId + 1 = other.order.getD 0 := horder
        omega
    · rcases hholds second other hsecond with ⟨rfl, rfl⟩ | ⟨-, hsecond⟩
      · have hle := hbelow first held hfirst hgroup
        have hnew : held.order.getD 0 = before.storage.lastOrder message.groupId + 1 := horder
        omega
      · exact hissued.distinct first second held other hfirst hsecond hgroup horder

/-- An operation on stored messages hands out nothing. -/
theorem OrdersIssued.of_sameIdentities (hissued : OrdersIssued before)
    (hsame : SameIdentities before.storage after.storage)
    (hcreating : after.creating = before.creating)
    (horders : after.storage.groupOrders = before.storage.groupOrders) : OrdersIssued after := by
  refine hissued.of_source id Function.injective_id ?_ horders
  rintro (id | call) message hholds
  · exact hsame.lookup hholds
  · have hheld : before.creating.lookup call = some message := hcreating ▸ hholds
    exact ⟨message, hheld, rfl⟩

/-- The message of a call moves to the storage, or it is dropped. -/
theorem OrdersIssued.insert (hissued : OrdersIssued before) {call : CallId} {message : Message}
    (hcall : before.creating.lookup call = some message) :
    OrdersIssued { before with
      storage := (before.storage.insertMessage message).2
      creating := before.creating.erase call } := by
  rcases before.storage.insertMessage_cases message with ⟨err, hresult, -⟩ | ⟨hid, hnonce, hresult⟩
  · rw [hresult]
    refine hissued.of_source id Function.injective_id ?_ rfl
    rintro (id | other) held hheld
    · exact ⟨held, hheld, rfl⟩
    · exact ⟨held, (HashMap.lookup_erase_eq_some hheld).2, rfl⟩
  · rw [hresult]
    refine hissued.of_source (Equiv.swap (.inl message.id) (.inr call)) (Equiv.injective _) ?_ rfl
    rintro (id | other) held hheld
    · simp only [SharedStorage.holds, HashMap.lookup_insert_eq] at hheld
      split_ifs at hheld with hsame
      · rw [hsame, Equiv.swap_apply_left]
        exact ⟨message, hcall, congrArg Message.identity (Option.some.inj hheld)⟩
      · rw [Equiv.swap_apply_of_ne_of_ne (by simpa using hsame) (by simp)]
        exact ⟨held, hheld, rfl⟩
    · obtain ⟨hother, hheld⟩ := HashMap.lookup_erase_eq_some hheld
      rw [Equiv.swap_apply_of_ne_of_ne (by simp) (by simpa using hother)]
      exact ⟨held, hheld, rfl⟩

theorem ordersIssued_of_access (hissued : OrdersIssued before)
    (hstep : before.step polled access = some after) : OrdersIssued after := by
  cases access with
  | takeOrder call message =>
    simp only [SharedStorage.step] at hstep
    split at hstep
    · simp at hstep
    · rw [← Option.some.inj hstep]
      exact hissued.takeOrder call message
  | insert call =>
    simp only [SharedStorage.step] at hstep
    split at hstep
    · simp at hstep
    case h_2 message hcall =>
      rw [← Option.some.inj hstep]
      exact hissued.insert hcall
  | updateMessage id content now =>
    rw [← Option.some.inj hstep]
    exact hissued.of_sameIdentities (sameIdentities_updateMessage _ id content now) rfl
      (before.storage.groupOrders_updateMessage id content now)
  | deleteMessage id now =>
    rw [← Option.some.inj hstep]
    exact hissued.of_sameIdentities (sameIdentities_deleteMessage _ id now) rfl
      (before.storage.groupOrders_deleteMessage id now)
  | updateSyncStatus id status quiltPatchId now =>
    rw [← Option.some.inj hstep]
    exact hissued.of_sameIdentities (sameIdentities_updateSyncStatus _ id status quiltPatchId now)
      rfl (before.storage.groupOrders_updateSyncStatus id status quiltPatchId now)
  | poll listing limit =>
    simp only [SharedStorage.step] at hstep
    split_ifs at hstep with hlisting
    rw [← Option.some.inj hstep]
    exact hissued.of_sameIdentities (.of_eq rfl) rfl rfl

/-- In every run of accesses order numbers are handed out once. -/
theorem ordersIssued_of_accesses {accesses : List StorageAccess}
    (hrun : SharedStorage.run polled accesses = some after) : OrdersIssued after := by
  refine invariant_of_run OrdersIssued ?_ (fun _ _ _ hissued hstep ↦
    ordersIssued_of_access hissued hstep) hrun
  have hnone : ∀ holder message, SharedStorage.init.holds holder ≠ some message := by
    rintro (id | call) message hholds
    · simp [SharedStorage.holds, SharedStorage.init, InMemoryStorage.new] at hholds
    · simp [SharedStorage.holds, SharedStorage.init] at hholds
  exact ⟨fun holder message hholds ↦ absurd hholds (hnone holder message),
    fun first _ message _ hfirst ↦ absurd hfirst (hnone first message)⟩

end OrdersIssued

/-! ### Readers -/

/-- What becomes visible in a group after a read has an order number above all that the read
showed. -/
def ShowsForward (polled : String) (accesses : List StorageAccess) : Prop :=
  ∀ past middle rest earlier later, accesses = past ++ middle ++ rest →
    SharedStorage.run polled past = some earlier →
    runFrom (SharedStorage.step polled) earlier middle = some later →
    ∀ listing groupId afterOrder beforeOrder limit,
      earlier.storage.messages.IterationOrder listing →
      ∀ shown ∈ InMemoryStorage.getMessagesByGroup listing groupId afterOrder beforeOrder limit,
      ∀ id message, later.storage.messages.lookup id = some message → message.groupId = groupId →
        earlier.storage.messages.lookup id = none → shown.order.getD 0 < message.order.getD 0

/-- The poller passes over no message: it has received every message of its group up to the highest
order number it has seen, and all of them when a poll finds nothing. -/
def PollerMissesNothing (polled : String) (accesses : List StorageAccess) : Prop :=
  ∀ past rest reached, accesses = past ++ rest → SharedStorage.run polled past = some reached →
    ∀ id message, reached.storage.messages.lookup id = some message → message.groupId = polled →
      ((∃ seen ∈ reached.received, message.order.getD 0 ≤ seen.2) →
        message.entry ∈ reached.received) ∧
      ∀ listing limit, reached.storage.messages.IterationOrder listing → 0 < limit →
        reached.page polled listing limit = [] → message.entry ∈ reached.received

/-- If the access stores a message, the messages of its group that are stored already have
smaller order numbers: the calls that store a message do so in the order in which they took
their numbers. -/
def InsertsInTurn (before : SharedStorage) (access : StorageAccess) : Prop :=
  ∀ message, Stores message before access →
    ∀ id stored, before.storage.messages.lookup id = some stored →
      stored.groupId = message.groupId → stored.order.getD 0 < message.order.getD 0

/-- The entries of the messages of a group. -/
def InMemoryStorage.log (storage : InMemoryStorage) (groupId : String) : Set (Uuid × Int) :=
  {entry | ∃ id message, storage.messages.lookup id = some message ∧ message.groupId = groupId ∧
    message.entry = entry}

section Readers

variable {polled : String} {before after : SharedStorage} {access : StorageAccess}
  {accesses : List StorageAccess}

theorem entry_congr {message other : Message} (hidentity : message.identity = other.identity) :
    message.entry = other.entry := by
  have hid : message.id = other.id := congrArg Message.Identity.id hidentity
  have horder : message.order = other.order := congrArg Message.Identity.order hidentity
  unfold Message.entry
  rw [hid, horder]

theorem log_mono {storage later : InMemoryStorage} (hkept : IdentityKept storage later)
    (groupId : String) : storage.log groupId ⊆ later.log groupId := by
  rintro entry ⟨id, message, hlookup, hgroup, rfl⟩
  obtain ⟨kept, hfound, hidentity⟩ := hkept id message hlookup
  have hsame : kept.groupId = message.groupId := congrArg Message.Identity.groupId hidentity
  exact ⟨id, kept, hfound, hsame.trans hgroup, entry_congr hidentity⟩

/-- A message that becomes visible in a run of insertions in turn comes after all that were visible
at its start. -/
theorem order_lt_of_insertsInTurn
    (hturn : EveryStep (SharedStorage.step polled) InsertsInTurn before accesses)
    (hrun : runFrom (SharedStorage.step polled) before accesses = some after)
    {shown : Message} {key : Uuid} (hshown : before.storage.messages.lookup key = some shown) :
    ∀ id message, after.storage.messages.lookup id = some message →
      message.groupId = shown.groupId → before.storage.messages.lookup id = none →
        shown.order.getD 0 < message.order.getD 0 := by
  refine history_induction_of_everyStep (fun _ reached ↦ ∀ id message,
    reached.storage.messages.lookup id = some message → message.groupId = shown.groupId →
      before.storage.messages.lookup id = none → shown.order.getD 0 < message.order.getD 0) ?_ ?_
      hturn hrun
  · intro id message hlookup _ hnone
    simp [hnone] at hlookup
  · intro past middle access later hpast hbelow hcond hstep id message hlookup hgroup hnone
    rcases stored_of_access hstep hlookup with ⟨stored, hstored, hidentity⟩ | ⟨hstores, rfl⟩
    · have hstoredGroup : stored.groupId = message.groupId :=
        congrArg Message.Identity.groupId hidentity
      have hstoredOrder : stored.order = message.order := congrArg Message.Identity.order hidentity
      rw [← hstoredOrder]
      exact hbelow id stored hstored (hstoredGroup.trans hgroup) hnone
    · obtain ⟨kept, hkept, hidentity⟩ := identityKept_of_accesses hpast key shown hshown
      have hkeptGroup : kept.groupId = shown.groupId := congrArg Message.Identity.groupId hidentity
      have hkeptOrder : kept.order = shown.order := congrArg Message.Identity.order hidentity
      rw [← hkeptOrder]
      exact hcond message hstores key kept hkept (hkeptGroup.trans hgroup.symm)

theorem showsForward_of_insertsInTurn
    (hturn : EveryStep (SharedStorage.step polled) InsertsInTurn .init accesses) :
    ShowsForward polled accesses := by
  intro past middle rest earlier later hsplit hpast hmiddle listing groupId afterOrder beforeOrder
    limit hlisting shown hshown id message hlookup hgroup hnone
  obtain ⟨hmem, hshownGroup, -⟩ := InMemoryStorage.mem_getMessagesByGroup hshown
  obtain ⟨key, hkey⟩ := hlisting.mem_iff.mp hmem
  rw [hsplit] at hturn
  exact order_lt_of_insertsInTurn (EveryStep.after hturn.of_append hpast) hmiddle hkey id message
    hlookup (hgroup.trans hshownGroup.symm) hnone

/-- What is newer than all that was received lies within the bounds of the next poll. -/
theorem withinBounds_of_newer {received : List (Uuid × Int)} {message : Message}
    (hnewer : Newer Prod.snd received message.entry) :
    InMemoryStorage.withinBounds (highest Prod.snd received) none (message.order.getD 0) =
      true := by
  rw [newer_iff_highest] at hnewer
  cases hlast : highest Prod.snd received with
  | none => rfl
  | some last => exact decide_eq_true (hnewer last hlast)

/-- A poll shows the first of the newer messages. -/
theorem firstNewer_page (hissued : OrdersIssued before) {listing : List Message}
    (hlisting : before.storage.messages.IterationOrder listing) (limit : Nat) :
    FirstNewer Prod.snd (before.storage.log polled) before.received
      ((before.page polled listing limit).map Message.entry) where
  sound entry hmem := by
    obtain ⟨message, hpage, rfl⟩ := List.mem_map.mp hmem
    obtain ⟨hlisted, hgroup, -⟩ := InMemoryStorage.mem_getMessagesByGroup hpage
    obtain ⟨id, hlookup⟩ := hlisting.mem_iff.mp hlisted
    exact ⟨id, message, hlookup, hgroup, rfl⟩
  first := by
    rintro entry ⟨id, message, hlookup, hgroup, rfl⟩ hnewer
    rcases InMemoryStorage.mem_or_le_of_getMessagesByGroup limit
      (hlisting.mem_iff.mpr ⟨id, hlookup⟩) hgroup (withinBounds_of_newer hnewer) with
        hshown | habove
    · exact Or.inl (List.mem_map_of_mem hshown)
    by_cases htie : message ∈ before.page polled listing limit
    · exact Or.inl (List.mem_map_of_mem htie)
    refine Or.inr fun entry hentry ↦ ?_
    obtain ⟨shown, hshown, rfl⟩ := List.mem_map.mp hentry
    refine lt_of_le_of_ne (habove shown hshown) fun hsame ↦ htie ?_
    -- Two messages of the group with one order number are one message.
    obtain ⟨hlisted, hshownGroup, -⟩ := InMemoryStorage.mem_getMessagesByGroup hshown
    obtain ⟨key, hkey⟩ := hlisting.mem_iff.mp hlisted
    have hkeys := hissued.distinct (.inl key) (.inl id) shown message hkey hlookup
      (hshownGroup.trans hgroup.symm) hsame
    rw [Sum.inl.inj hkeys, hlookup] at hkey
    exact Option.some.inj hkey ▸ hshown

/-- Only a poll changes what the poller has received. -/
theorem received_of_access (hstep : before.step polled access = some after)
    (hpoll : ¬ ∃ listing limit, access = .poll listing limit) :
    after.received = before.received := by
  cases access with
  | takeOrder call message =>
    simp only [SharedStorage.step] at hstep
    split at hstep
    · simp at hstep
    · rw [← Option.some.inj hstep]
  | insert call =>
    simp only [SharedStorage.step] at hstep
    split at hstep
    · simp at hstep
    · rw [← Option.some.inj hstep]
  | updateMessage id content now => rw [← Option.some.inj hstep]
  | deleteMessage id now => rw [← Option.some.inj hstep]
  | updateSyncStatus id status quiltPatchId now => rw [← Option.some.inj hstep]
  | poll listing limit => exact absurd ⟨listing, limit, rfl⟩ hpoll

/-- The poller passes over nothing in an access that inserts in turn. -/
theorem follows_of_access (hissued : OrdersIssued before) (hturn : InsertsInTurn before access)
    (hfollows : Follows Prod.snd (before.storage.log polled) before.received)
    (hstep : before.step polled access = some after) :
    Follows Prod.snd (after.storage.log polled) after.received := by
  have hgrown : Follows Prod.snd (after.storage.log polled) before.received := by
    refine hfollows.grow (log_mono (identityKept_of_access hstep) polled) ?_
    rintro entry ⟨id, message, hlookup, hgroup, rfl⟩ hnew seen hseen
    rcases stored_of_access hstep hlookup with ⟨stored, hstored, hidentity⟩ | ⟨hstores, -⟩
    · have hstoredGroup : stored.groupId = message.groupId :=
        congrArg Message.Identity.groupId hidentity
      exact absurd ⟨id, stored, hstored, hstoredGroup.trans hgroup, entry_congr hidentity⟩ hnew
    · obtain ⟨key, stored, hstored, hstoredGroup, rfl⟩ := hfollows.sound seen hseen
      exact hturn message hstores key stored hstored (hstoredGroup.trans hgroup.symm)
  by_cases hpoll : ∃ listing limit, access = .poll listing limit
  · obtain ⟨listing, limit, rfl⟩ := hpoll
    simp only [SharedStorage.step] at hstep
    split_ifs at hstep with hlisting
    rw [← Option.some.inj hstep]
    exact hfollows.receive (firstNewer_page hissued hlisting limit)
  · rw [received_of_access hstep hpoll]
    exact hgrown

theorem pollerMissesNothing_of_insertsInTurn
    (hturn : EveryStep (SharedStorage.step polled) InsertsInTurn .init accesses) :
    PollerMissesNothing polled accesses := by
  intro past rest reached hsplit hpast id message hlookup hgroup
  rw [hsplit] at hturn
  have hfollows : Follows Prod.snd (reached.storage.log polled) reached.received := by
    refine history_induction_of_everyStep (fun _ reached ↦
      Follows Prod.snd (reached.storage.log polled) reached.received) (follows_nil _) ?_
      hturn.of_append hpast
    intro past before access after hpast hfollows hcond hstep
    exact follows_of_access (ordersIssued_of_accesses hpast) hcond hfollows hstep
  have hmem : message.entry ∈ reached.storage.log polled := ⟨id, message, hlookup, hgroup, rfl⟩
  constructor
  · rintro ⟨seen, hseen, hle⟩
    exact hfollows.complete _ hmem fun hnewer ↦ absurd (hnewer seen hseen) (not_lt.mpr hle)
  · intro listing limit hlisting hlimit hempty
    refine hfollows.caughtUp ?_ message.entry hmem
    rintro entry ⟨key, stored, hstored, hstoredGroup, rfl⟩ hnewer
    exact InMemoryStorage.not_withinBounds_of_getMessagesByGroup_eq_nil hlimit hempty
      (hlisting.mem_iff.mpr ⟨key, hstored⟩) hstoredGroup (withinBounds_of_newer hnewer)

/-- Readers see the messages of every group in order, and the poller misses none, exactly in the
runs in which every message is inserted after those with smaller order numbers of its group. -/
theorem missesNothing_iff_insertsInTurn (polled : String) (accesses : List StorageAccess) :
    ShowsForward polled accesses ∧ PollerMissesNothing polled accesses ↔
      EveryStep (SharedStorage.step polled) InsertsInTurn .init accesses := by
  constructor
  · rintro ⟨hforward, -⟩ past access rest before hsplit hpast message hstores id stored hstored
      hgroup
    obtain ⟨listing, hlisting⟩ := HashMap.exists_iterationOrder before.storage.messages
    have hshown : stored ∈ InMemoryStorage.getMessagesByGroup listing message.groupId none none
        listing.length :=
      InMemoryStorage.mem_getMessagesByGroup_unbounded (hlisting.mem_iff.mpr ⟨id, hstored⟩) hgroup
    obtain ⟨after, hstep, hlookup⟩ := step_of_stores hstores
    obtain ⟨_, _, _, hnone, _⟩ := hstores
    exact hforward past [access] rest before after (by rw [hsplit]; simp) hpast
      (by rw [runFrom_cons, hstep]; rfl) listing message.groupId none none listing.length hlisting
      stored hshown message.id message hlookup rfl hnone
  · intro hturn
    exact ⟨showsForward_of_insertsInTurn hturn, pollerMissesNothing_of_insertsInTurn hturn⟩

end Readers

/-! ### Two creates that cross -/

/-- A message of the group, by its identifier and its nonce. -/
def crossingMessage (id nonce : UInt8) : Message :=
  Message.new (.fill 16 id) 0 "0x0a" "0x0b" {
    encryptedMsg := [0xc0, 0xff, 0xee]
    nonce := List.replicate 12 nonce
    keyVersion := 0
    attachments := []
    signature := List.replicate 64 0
    publicKey := List.replicate 33 0 }

/-- The message of the first call, with its order number. -/
def crossedMessage : Message :=
  (crossingMessage 0x0c 0x1a).setOrder 1

/-- The message of the second call, which is stored first. -/
def earlyMessage : Message :=
  (crossingMessage 0x0d 0x2b).setOrder 2

/-- Two calls take their order numbers, and the second one stores its message before the first. -/
def crossing : List StorageAccess :=
  [.takeOrder 0 (crossingMessage 0x0c 0x1a), .takeOrder 1 (crossingMessage 0x0d 0x2b), .insert 1]

/-- The storage when the second message is visible alone. -/
def crossedStorage : SharedStorage where
  storage := {
    messages := Finmap.insert earlyMessage.id earlyMessage ∅
    groupOrders := Finmap.insert "0x0a" 2 (Finmap.insert "0x0a" 1 ∅)
    nonces := insert earlyMessage.nonce ∅ }
  creating := (Finmap.insert 1 earlyMessage (Finmap.insert 0 crossedMessage ∅)).erase 1
  received := []

theorem run_crossing : SharedStorage.run "0x0a" crossing = some crossedStorage := by
  rfl

/-- The poller asks, and then the first message is stored. -/
def lateInsert : List StorageAccess :=
  [.poll [earlyMessage] 50, .insert 0]

/-- The storage when both messages are visible. The poller has received the second one. -/
def lateStorage : SharedStorage where
  storage := {
    messages := Finmap.insert crossedMessage.id crossedMessage
      (Finmap.insert earlyMessage.id earlyMessage ∅)
    groupOrders := crossedStorage.storage.groupOrders
    nonces := insert crossedMessage.nonce (insert earlyMessage.nonce ∅) }
  creating := crossedStorage.creating.erase 0
  received := [earlyMessage.entry]

theorem run_lateInsert :
    runFrom (SharedStorage.step "0x0a") crossedStorage lateInsert = some lateStorage := by
  have hpage : crossedStorage.page "0x0a" [earlyMessage] 50 = [earlyMessage] := by
    unfold SharedStorage.page InMemoryStorage.getMessagesByGroup
    show (List.mergeSort [earlyMessage] _).take 50 = [earlyMessage]
    rw [List.mergeSort_singleton]
    rfl
  have hpoll : crossedStorage.step "0x0a" (.poll [earlyMessage] 50) =
      some { crossedStorage with received := [earlyMessage.entry] } := by
    simp only [SharedStorage.step, hpage]
    exact if_pos (HashMap.iterationOrder_singleton _ _)
  unfold lateInsert
  rw [runFrom_cons, hpoll]
  rfl

/-- A poll shows the second message, and the first becomes visible after it. Its order number is
smaller, and the poller never receives it. -/
theorem misses_crossedMessage :
    ¬ ShowsForward "0x0a" (crossing ++ lateInsert) ∧
      ¬ PollerMissesNothing "0x0a" (crossing ++ lateInsert) := by
  have hlater : lateStorage.storage.messages.lookup crossedMessage.id = some crossedMessage :=
    Finmap.lookup_insert _
  constructor
  · intro hforward
    have hlisting : crossedStorage.storage.messages.IterationOrder [earlyMessage] :=
      HashMap.iterationOrder_singleton _ _
    have hshown : earlyMessage ∈
        InMemoryStorage.getMessagesByGroup [earlyMessage] "0x0a" none none 1 :=
      InMemoryStorage.mem_getMessagesByGroup_unbounded (List.mem_singleton_self _) rfl
    have hnone : crossedStorage.storage.messages.lookup crossedMessage.id = none := by decide
    have hbelow := hforward crossing lateInsert [] crossedStorage lateStorage
      (List.append_nil _).symm run_crossing run_lateInsert [earlyMessage] "0x0a" none none 1
        hlisting
      earlyMessage hshown crossedMessage.id crossedMessage hlater rfl hnone
    exact absurd hbelow (by decide)
  · intro hmisses
    have hrun : SharedStorage.run "0x0a" (crossing ++ lateInsert) = some lateStorage :=
      runFrom_append_eq_some.mpr ⟨_, run_crossing, run_lateInsert⟩
    have hreceived := (hmisses (crossing ++ lateInsert) [] lateStorage (List.append_nil _).symm hrun
      crossedMessage.id crossedMessage hlater rfl).1
      ⟨earlyMessage.entry, List.mem_singleton_self _, by decide⟩
    exact absurd hreceived (by decide)

/-! ### Creates that do not overlap -/

/-- A call takes its order number only when no other call of its group is under way. -/
def TakesOrderAlone (before : SharedStorage) (access : StorageAccess) : Prop :=
  ∀ call message, access = .takeOrder call message →
    ∀ other creating, before.creating.lookup other = some creating →
      creating.groupId ≠ message.groupId

/-- Each group has one call under way at most, and the messages of the group that are stored come
before the one of the call. -/
structure OneAtATime (shared : SharedStorage) : Prop where
  alone : ∀ call other message creating, shared.creating.lookup call = some message →
    shared.creating.lookup other = some creating → message.groupId = creating.groupId → call = other
  last : ∀ call message id stored, shared.creating.lookup call = some message →
    shared.storage.messages.lookup id = some stored → stored.groupId = message.groupId →
      stored.order.getD 0 < message.order.getD 0

section OneAtATime

variable {polled : String} {before after : SharedStorage} {access : StorageAccess}
  {accesses : List StorageAccess}

theorem OneAtATime.takeOrder (hone : OneAtATime before) (hissued : OrdersIssued before)
    {call : CallId} {message : Message} (halone : ∀ other creating,
      before.creating.lookup other = some creating → creating.groupId ≠ message.groupId) :
    OneAtATime { before with
      storage := (before.storage.nextOrder message.groupId).2
      creating := before.creating.insert call
        (message.setOrder (before.storage.nextOrder message.groupId).1) } where
  alone first second found other hfirst hsecond hgroup := by
    rw [HashMap.lookup_insert_eq] at hfirst hsecond
    split_ifs at hfirst hsecond with hcall hcall' hcall'
    · exact hcall.trans hcall'.symm
    · obtain rfl := Option.some.inj hfirst
      exact absurd hgroup.symm (halone second other hsecond)
    · obtain rfl := Option.some.inj hsecond
      exact absurd hgroup (halone first found hfirst)
    · exact hone.alone first second found other hfirst hsecond hgroup
  last other found id stored hfound hstored hgroup := by
    rw [HashMap.lookup_insert_eq] at hfound
    split_ifs at hfound with hcall
    · obtain rfl := Option.some.inj hfound
      have hle := hissued.le_last (.inl id) stored hstored
      have hnew : (before.storage.nextOrder message.groupId).1 =
          before.storage.lastOrder message.groupId + 1 := nextOrder_eq _ _
      have hsame : stored.groupId = message.groupId := hgroup
      rw [hsame] at hle
      show stored.order.getD 0 < (before.storage.nextOrder message.groupId).1
      omega
    · exact hone.last other found id stored hfound hstored hgroup

theorem OneAtATime.of_sameIdentities (hone : OneAtATime before)
    (hsame : SameIdentities before.storage after.storage)
    (hcreating : ∀ call message, after.creating.lookup call = some message →
      before.creating.lookup call = some message) : OneAtATime after where
  alone call other message creating hcall hother hgroup :=
    hone.alone call other message creating (hcreating _ _ hcall) (hcreating _ _ hother) hgroup
  last call message id stored hcall hstored hgroup := by
    obtain ⟨kept, hkept, hidentity⟩ := hsame.lookup hstored
    have hkeptGroup : kept.groupId = stored.groupId := congrArg Message.Identity.groupId hidentity
    have hkeptOrder : kept.order = stored.order := congrArg Message.Identity.order hidentity
    rw [← hkeptOrder]
    exact hone.last call message id kept (hcreating _ _ hcall) hkept (hkeptGroup.trans hgroup)

theorem OneAtATime.insert (hone : OneAtATime before) {call : CallId} {message : Message}
    (hcall : before.creating.lookup call = some message) :
    OneAtATime { before with
      storage := (before.storage.insertMessage message).2
      creating := before.creating.erase call } := by
  rcases before.storage.insertMessage_cases message with ⟨err, hresult, -⟩ | ⟨hid, hnonce, hresult⟩
  · rw [hresult]
    exact hone.of_sameIdentities (.of_eq rfl) fun _ _ hlookup ↦
      (HashMap.lookup_erase_eq_some hlookup).2
  · rw [hresult]
    constructor
    · intro first second found other hfirst hsecond hgroup
      exact hone.alone first second found other (HashMap.lookup_erase_eq_some hfirst).2
        (HashMap.lookup_erase_eq_some hsecond).2 hgroup
    · intro other found id stored hfound hstored hgroup
      obtain ⟨hother, hfound⟩ := HashMap.lookup_erase_eq_some hfound
      simp only [HashMap.lookup_insert_eq] at hstored
      split_ifs at hstored with hsame
      · obtain rfl := Option.some.inj hstored
        exact absurd (hone.alone other call found message hfound hcall hgroup.symm) hother
      · exact hone.last other found id stored hfound hstored hgroup

theorem oneAtATime_of_access (hone : OneAtATime before) (hissued : OrdersIssued before)
    (halone : TakesOrderAlone before access) (hstep : before.step polled access = some after) :
    OneAtATime after := by
  cases access with
  | takeOrder call message =>
    simp only [SharedStorage.step] at hstep
    split at hstep
    · simp at hstep
    · rw [← Option.some.inj hstep]
      exact hone.takeOrder hissued (halone call message rfl)
  | insert call =>
    simp only [SharedStorage.step] at hstep
    split at hstep
    · simp at hstep
    case h_2 message hcall =>
      rw [← Option.some.inj hstep]
      exact hone.insert hcall
  | updateMessage id content now =>
    rw [← Option.some.inj hstep]
    exact hone.of_sameIdentities (sameIdentities_updateMessage _ id content now) fun _ _ h ↦ h
  | deleteMessage id now =>
    rw [← Option.some.inj hstep]
    exact hone.of_sameIdentities (sameIdentities_deleteMessage _ id now) fun _ _ h ↦ h
  | updateSyncStatus id status quiltPatchId now =>
    rw [← Option.some.inj hstep]
    exact hone.of_sameIdentities (sameIdentities_updateSyncStatus _ id status quiltPatchId now)
      fun _ _ h ↦ h
  | poll listing limit =>
    simp only [SharedStorage.step] at hstep
    split_ifs at hstep with hlisting
    rw [← Option.some.inj hstep]
    exact hone.of_sameIdentities (.of_eq rfl) fun _ _ h ↦ h

/-- Where the calls of a group do not overlap, every message is inserted in turn. -/
theorem insertsInTurn_of_takesOrderAlone
    (halone : EveryStep (SharedStorage.step polled) TakesOrderAlone .init accesses) :
    EveryStep (SharedStorage.step polled) InsertsInTurn .init accesses := by
  rintro past access rest before rfl hpast message ⟨call, rfl, hcall, -, -⟩
  have hone : OneAtATime before := by
    refine history_induction_of_everyStep (fun _ reached ↦ OneAtATime reached) ?_ ?_
      halone.of_append hpast
    · exact ⟨fun call _ _ _ hcall ↦ by simp [SharedStorage.init] at hcall,
        fun call _ _ _ hcall ↦ by simp [SharedStorage.init] at hcall⟩
    · intro past before access after hpast hone hcond hstep
      exact oneAtATime_of_access hone (ordersIssued_of_accesses hpast) hcond hstep
  intro id stored hstored hgroup
  exact hone.last call message id stored hcall hstored hgroup

end OneAtATime

end MessagingRelayer
