import MessagingRelayer.Auth.Membership
import MessagingRelayer.Foundation.LastEvent
import MessagingRelayer.Services.EventParser
import Mathlib.Order.Monotone.Defs

/-!
# The membership sync service

The service reads checkpoints from a subscription stream and applies the Groups events in them to
the membership store. `applyEvent`, `processCheckpoint`, `runSubscription` and `run` are the
functions of the source; `handleResponse` is the body of the loop over a stream.

`entry_applyEvent` says what an event does to the entry of a pair of group and address. From it
follow that a permission is held exactly when the last relevant event granted it
(`hasPermission_iff_lastRelevantEvent`), that applying events is monotone (`applyEvents_mono`), and
that a store without the events before some point grants nothing the whole history denies
(`coldStart_failsClosed`).
-/

set_option autoImplicit false
set_option relaxedAutoImplicit false

namespace MessagingRelayer

open Foundation

/-! ### Applying events -/

/-- Applies a parsed event to the store. A failed grant or revoke is only logged. -/
def InMemoryMembershipStore.applyEvent (store : InMemoryMembershipStore) :
    GroupsEvent → InMemoryMembershipStore
  | .memberAdded groupId member => store.addMember groupId member []
  | .memberRemoved groupId member => store.removeMember groupId member
  | .permissionsGranted groupId member permissions =>
    (store.grantPermissions groupId member permissions).2
  | .permissionsRevoked groupId member permissions =>
    (store.revokePermissions groupId member permissions).2

/-- Applies events one after the other. -/
def InMemoryMembershipStore.applyEvents (store : InMemoryMembershipStore)
    (events : List GroupsEvent) : InMemoryMembershipStore :=
  events.foldl InMemoryMembershipStore.applyEvent store

/-! ### The service -/

/-- The transactions of a checkpoint, each with its events when it has any. -/
structure Checkpoint where
  transactions : List (Option (List SuiEvent))

/-- An item of the subscription stream. -/
structure SubscribeCheckpointsResponse where
  cursor : Option Nat
  checkpoint : Option Checkpoint

/-- The state of the service. -/
structure MembershipSyncService where
  groupsPackageId : String
  membershipStore : InMemoryMembershipStore
  lastCursor : Option Nat

namespace MembershipSyncService

variable (libs : Externals)

def new (groupsPackageId : String) (membershipStore : InMemoryMembershipStore) :
    MembershipSyncService where
  groupsPackageId := groupsPackageId
  membershipStore := membershipStore
  lastCursor := none

/-- Parses one event and applies it when it is a Groups event. -/
def processEvent (groupsPackageId : String) (store : InMemoryMembershipStore) (event : SuiEvent) :
    InMemoryMembershipStore :=
  match parseSuiEvent libs event groupsPackageId with
  | none => store
  | some groupsEvent => store.applyEvent groupsEvent

/-- Processes the events of a checkpoint in order. -/
def processCheckpoint (service : MembershipSyncService) (checkpoint : Checkpoint) :
    MembershipSyncService :=
  let store := checkpoint.transactions.foldl
    (fun store transaction ↦
      match transaction with
      | none => store
      | some events => events.foldl (processEvent libs service.groupsPackageId) store)
    service.membershipStore
  { service with membershipStore := store }

/-- Processes the checkpoint of a response, when there is one, and moves the cursor. -/
def advance (service : MembershipSyncService) (cursor : Nat) (checkpoint : Option Checkpoint) :
    MembershipSyncService :=
  let processed := match checkpoint with
    | none => service
    | some checkpoint => service.processCheckpoint libs checkpoint
  { processed with lastCursor := some cursor }

/-- One round of the loop over a stream: a cursor that is not above the last one is skipped. -/
def handleResponse (service : MembershipSyncService) (response : SubscribeCheckpointsResponse) :
    MembershipSyncService :=
  let cursor := response.cursor.getD 0
  match service.lastCursor with
  | some last =>
    if cursor ≤ last then service else service.advance libs cursor response.checkpoint
  | none => service.advance libs cursor response.checkpoint

/-- Processes the items of a stream until it ends or fails. -/
def runSubscription (service : MembershipSyncService) :
    List (Except String SubscribeCheckpointsResponse) → Except String Unit × MembershipSyncService
  | [] => (.ok (), service)
  | .error err :: _ => (.error err, service)
  | .ok response :: rest => runSubscription (service.handleResponse libs response) rest

/-- Subscribes again whenever a stream is over, however it ended. -/
def run (service : MembershipSyncService)
    (streams : List (List (Except String SubscribeCheckpointsResponse))) : MembershipSyncService :=
  streams.foldl (fun service stream ↦ (service.runSubscription libs stream).2) service

end MembershipSyncService

/-- The Groups events of a checkpoint, in the order of its transactions. -/
def Checkpoint.groupsEvents (libs : Externals) (groupsPackageId : String)
    (checkpoint : Checkpoint) : List GroupsEvent :=
  checkpoint.transactions.flatMap fun transaction ↦
    (transaction.getD []).filterMap fun event ↦ parseSuiEvent libs event groupsPackageId

/-! ### What an event does to an entry -/

namespace GroupsEvent

/-- The event is about this pair of group and address. -/
def About (event : GroupsEvent) (groupId address : String) : Prop :=
  groupId = event.groupId ∧ address = event.member

instance (event : GroupsEvent) (groupId address : String) :
    Decidable (event.About groupId address) :=
  inferInstanceAs (Decidable (_ ∧ _))

/-- What the event makes of the entry it is about. -/
def effect : GroupsEvent → Option (Finset MessagingPermission) → Option (Finset MessagingPermission)
  | memberAdded _ _, _ => some ∅
  | memberRemoved _ _, _ => none
  | permissionsGranted _ _ permissions, perms => perms.map (· ∪ permissions.toFinset)
  | permissionsRevoked _ _ permissions, perms => perms.map (· \ permissions.toFinset)

/-- The event grants a permission to an address in a group. -/
def Grants (event : GroupsEvent) (groupId address : String) (permission : MessagingPermission) :
    Prop :=
  ∃ permissions, event = .permissionsGranted groupId address permissions ∧ permission ∈ permissions

/-- The event takes a permission from an address in a group: by adding the member anew, by removing
it, or by a revocation. -/
def Clears (event : GroupsEvent) (groupId address : String) (permission : MessagingPermission) :
    Prop :=
  event = .memberAdded groupId address ∨ event = .memberRemoved groupId address ∨
    ∃ permissions, event = .permissionsRevoked groupId address permissions ∧
      permission ∈ permissions

end GroupsEvent

namespace InMemoryMembershipStore

section Entries

variable (store : InMemoryMembershipStore) (groupId address : String)

/-- An event changes the entry of the pair it is about, by its effect, and no other entry. -/
theorem entry_applyEvent (event : GroupsEvent) :
    (store.applyEvent event).entry groupId address =
      if event.About groupId address then event.effect (store.entry groupId address)
      else store.entry groupId address := by
  cases event with
  | memberAdded group member => exact store.entry_addMember group member groupId address []
  | memberRemoved group member => exact store.entry_removeMember group member groupId address
  | permissionsGranted group member permissions =>
    exact store.entry_grantPermissions group member groupId address permissions
  | permissionsRevoked group member permissions =>
    exact store.entry_revokePermissions group member groupId address permissions

theorem applyEvents_concat (events : List GroupsEvent) (event : GroupsEvent) :
    store.applyEvents (events ++ [event]) = (store.applyEvents events).applyEvent event :=
  List.foldl_concat _ _ _ _

theorem applyEvents_append (first second : List GroupsEvent) :
    store.applyEvents (first ++ second) = (store.applyEvents first).applyEvents second :=
  List.foldl_append

/-- Events about other pairs make no difference to an entry. -/
theorem entry_applyEvents_filter (events : List GroupsEvent) :
    (store.applyEvents (events.filter fun event ↦ event.About groupId address)).entry groupId
      address = (store.applyEvents events).entry groupId address := by
  induction events using List.reverseRecOn with
  | nil => rfl
  | append_singleton past last ih =>
    rw [List.filter_append, applyEvents_append, applyEvents_concat]
    by_cases habout : last.About groupId address
    · have hkeep : [last].filter (fun event ↦ event.About groupId address) = [last] := by
        simp [habout]
      rw [hkeep]
      change (applyEvent _ last).entry groupId address = _
      rw [entry_applyEvent, entry_applyEvent, ih]
    · have hdrop : [last].filter (fun event ↦ event.About groupId address) = [] := by
        simp [habout]
      rw [hdrop, entry_applyEvent, if_neg habout]
      exact ih

end Entries

/-! ### The last relevant event -/

section LastRelevantEvent

variable (groupId address : String) (permission : MessagingPermission)

/-- An address has an entry exactly when it was added and not removed since. -/
theorem isSome_entry_iff (events : List GroupsEvent) :
    ((new.applyEvents events).entry groupId address).isSome = true ↔
      LastGain (fun _ event ↦ event = .memberAdded groupId address)
        (fun event ↦ event = .memberRemoved groupId address) events := by
  refine holds_iff_lastGain
    (fun events ↦ ((new.applyEvents events).entry groupId address).isSome = true) ?_ ?_ events
  · simp [applyEvents]
  · intro past last
    rw [applyEvents_concat, entry_applyEvent]
    by_cases habout : last.About groupId address
    · rw [if_pos habout]
      obtain ⟨rfl, rfl⟩ := habout
      cases last with
      | memberAdded group member =>
        simp [GroupsEvent.groupId, GroupsEvent.member, GroupsEvent.effect]
      | memberRemoved group member =>
        simp [GroupsEvent.groupId, GroupsEvent.member, GroupsEvent.effect]
      | permissionsGranted group member permissions => simp [GroupsEvent.effect]
      | permissionsRevoked group member permissions => simp [GroupsEvent.effect]
    · rw [if_neg habout]
      have hadded : last ≠ .memberAdded groupId address := by
        rintro rfl
        exact habout ⟨rfl, rfl⟩
      have hremoved : last ≠ .memberRemoved groupId address := by
        rintro rfl
        exact habout ⟨rfl, rfl⟩
      simp [hadded, hremoved]

/-- A permission is held exactly when it was granted to a member and not cleared since. -/
theorem hasPermission_iff_lastGain (events : List GroupsEvent) :
    (new.applyEvents events).hasPermission groupId address permission = true ↔
      LastGain
        (fun past event ↦ event.Grants groupId address permission ∧
          ((new.applyEvents past).entry groupId address).isSome = true)
        (fun event ↦ event.Clears groupId address permission) events := by
  refine holds_iff_lastGain
    (fun events ↦
      (new.applyEvents events).hasPermission groupId address permission = true) ?_ ?_ events
  · simp [hasPermission_iff, applyEvents]
  · intro past last
    simp only [hasPermission_iff]
    rw [applyEvents_concat, entry_applyEvent]
    by_cases habout : last.About groupId address
    · rw [if_pos habout]
      obtain ⟨rfl, rfl⟩ := habout
      cases last with
      | memberAdded group member =>
        simp [GroupsEvent.groupId, GroupsEvent.member, GroupsEvent.effect, GroupsEvent.Grants,
          GroupsEvent.Clears]
      | memberRemoved group member =>
        simp [GroupsEvent.groupId, GroupsEvent.member, GroupsEvent.effect, GroupsEvent.Grants,
          GroupsEvent.Clears]
      | permissionsGranted group member permissions =>
        cases hentry : (new.applyEvents past).entry group member with
        | none =>
          simp [GroupsEvent.groupId, GroupsEvent.member, GroupsEvent.effect, hentry]
        | some perms =>
          simp [GroupsEvent.groupId, GroupsEvent.member, GroupsEvent.effect, GroupsEvent.Grants,
            GroupsEvent.Clears, hentry, or_comm]
      | permissionsRevoked group member permissions =>
        cases hentry : (new.applyEvents past).entry group member with
        | none =>
          simp [GroupsEvent.groupId, GroupsEvent.member, GroupsEvent.effect, hentry]
        | some perms =>
          simp [GroupsEvent.groupId, GroupsEvent.member, GroupsEvent.effect, GroupsEvent.Grants,
            GroupsEvent.Clears, hentry]
    · rw [if_neg habout]
      have hgrants : ¬ last.Grants groupId address permission := by
        rintro ⟨permissions, rfl, -⟩
        exact habout ⟨rfl, rfl⟩
      have hclears : ¬ last.Clears groupId address permission := by
        rintro (rfl | rfl | ⟨permissions, rfl, -⟩)
        · exact habout ⟨rfl, rfl⟩
        · exact habout ⟨rfl, rfl⟩
        · exact habout ⟨rfl, rfl⟩
      simp [hgrants, hclears]

/-- A permission is held exactly when some event granted it to an address that had been added and
not removed before it, and no later event added the address anew, removed it or revoked the
permission. Only the events about the pair matter, and a grant or revoke that fails changes
nothing. -/
theorem hasPermission_iff_lastRelevantEvent :
    (∀ events : List GroupsEvent,
      (new.applyEvents events).hasPermission groupId address permission = true ↔
        ∃ (index : Nat) (permissions : List MessagingPermission),
          events[index]? = some (GroupsEvent.permissionsGranted groupId address permissions) ∧
          permission ∈ permissions ∧
          (∃ added < index, events[added]? = some (GroupsEvent.memberAdded groupId address) ∧
            ∀ between, added < between → between < index →
              events[between]? ≠ some (GroupsEvent.memberRemoved groupId address)) ∧
          ∀ (later : Nat) (event : GroupsEvent), index < later → events[later]? = some event →
            event ≠ .memberAdded groupId address ∧ event ≠ .memberRemoved groupId address ∧
              ∀ revoked, event = .permissionsRevoked groupId address revoked →
                permission ∉ revoked) ∧
    (∀ events : List GroupsEvent,
      (new.applyEvents (events.filter fun event ↦ event.About groupId address)).hasPermission
        groupId address permission =
      (new.applyEvents events).hasPermission groupId address permission) ∧
    (∀ (store : InMemoryMembershipStore) (permissions : List MessagingPermission)
      (err : MembershipError),
      (store.grantPermissions groupId address permissions).1 = .error err →
        store.applyEvent (.permissionsGranted groupId address permissions) = store) ∧
    (∀ (store : InMemoryMembershipStore) (permissions : List MessagingPermission)
      (err : MembershipError),
      (store.revokePermissions groupId address permissions).1 = .error err →
        store.applyEvent (.permissionsRevoked groupId address permissions) = store) := by
  refine ⟨fun events ↦ ?_, fun events ↦ ?_, fun store permissions err herror ↦ ?_,
    fun store permissions err herror ↦ ?_⟩
  · rw [hasPermission_iff_lastGain]
    constructor
    · rintro ⟨index, event, hindex, ⟨⟨permissions, rfl, hgranted⟩, hentry⟩, hkept⟩
      obtain ⟨added, event, hadded, rfl, hstayed⟩ :=
        (isSome_entry_iff groupId address (events.take index)).mp hentry
      obtain ⟨hbefore, -⟩ := List.getElem?_eq_some_iff.mp hadded
      rw [List.length_take, Nat.lt_min] at hbefore
      rw [List.getElem?_take_of_lt hbefore.1] at hadded
      refine ⟨index, permissions, hindex, hgranted, ⟨added, hbefore.1, hadded, ?_⟩, ?_⟩
      · intro between hafter hbetween hremoved
        refine hstayed between _ hafter ?_ rfl
        rw [List.getElem?_take_of_lt hbetween]
        exact hremoved
      · intro later event hlater hevent
        have hclears := hkept later event hlater hevent
        refine ⟨fun hadd ↦ hclears (Or.inl hadd), fun hremove ↦ hclears (Or.inr (Or.inl hremove)),
          fun revoked hrevoke hmem ↦ hclears (Or.inr (Or.inr ⟨revoked, hrevoke, hmem⟩))⟩
    · rintro ⟨index, permissions, hindex, hgranted, ⟨added, hbefore, hadded, hstayed⟩, hkept⟩
      refine ⟨index, _, hindex, ⟨⟨permissions, rfl, hgranted⟩, ?_⟩, ?_⟩
      · refine (isSome_entry_iff groupId address (events.take index)).mpr
          ⟨added, _, ?_, rfl, ?_⟩
        · rw [List.getElem?_take_of_lt hbefore]
          exact hadded
        · rintro later event hlater hevent rfl
          obtain ⟨hlength, -⟩ := List.getElem?_eq_some_iff.mp hevent
          rw [List.length_take, Nat.lt_min] at hlength
          rw [List.getElem?_take_of_lt hlength.1] at hevent
          exact hstayed later hlater hlength.1 hevent
      · intro later event hlater hevent
        obtain ⟨hadd, hremove, hrevoke⟩ := hkept later event hlater hevent
        rintro (hadd' | hremove' | ⟨revoked, hrevoked, hmem⟩)
        · exact hadd hadd'
        · exact hremove hremove'
        · exact hrevoke revoked hrevoked hmem
  · unfold hasPermission
    rw [entry_applyEvents_filter]
  · exact store.modifyMember_of_error groupId address _ herror
  · exact store.modifyMember_of_error groupId address _ herror

end LastRelevantEvent

/-! ### Stores that grant less -/

section Monotone

/-- One store is below another when every entry of it is there in the other, with at least its
permissions. -/
instance : Preorder InMemoryMembershipStore where
  le store other := ∀ groupId address perms, store.entry groupId address = some perms →
    ∃ more, other.entry groupId address = some more ∧ perms ⊆ more
  le_refl _ _ _ perms hentry := ⟨perms, hentry, Finset.Subset.refl perms⟩
  le_trans _ _ _ hfirst hsecond groupId address perms hentry := by
    obtain ⟨middle, hmiddle, hsubset⟩ := hfirst groupId address perms hentry
    obtain ⟨more, hmore, hsubset'⟩ := hsecond groupId address middle hmiddle
    exact ⟨more, hmore, hsubset.trans hsubset'⟩

variable {store other : InMemoryMembershipStore}

theorem new_le (store : InMemoryMembershipStore) : new ≤ store := by
  intro groupId address perms hentry
  simp at hentry

/-- A store below another grants no permission the other does not grant. -/
theorem hasPermission_of_le (hle : store ≤ other) {groupId address : String}
    {permission : MessagingPermission}
    (hholds : store.hasPermission groupId address permission = true) :
    other.hasPermission groupId address permission = true := by
  obtain ⟨perms, hentry, hmem⟩ := (store.hasPermission_iff groupId address permission).mp hholds
  obtain ⟨more, hmore, hsubset⟩ := hle groupId address perms hentry
  exact (other.hasPermission_iff groupId address permission).mpr ⟨more, hmore, hsubset hmem⟩

/-- Applying the same event keeps one store below the other, also where one store rejects what the
other accepts. -/
theorem applyEvent_mono (event : GroupsEvent) : Monotone (applyEvent · event) := by
  intro store other hle groupId address perms hentry
  change (store.applyEvent event).entry groupId address = some perms at hentry
  change ∃ more, (other.applyEvent event).entry groupId address = some more ∧ perms ⊆ more
  rw [entry_applyEvent] at hentry ⊢
  by_cases habout : event.About groupId address
  · rw [if_pos habout] at hentry ⊢
    cases event with
    | memberAdded group member => exact ⟨perms, hentry, Finset.Subset.refl perms⟩
    | memberRemoved group member => simp [GroupsEvent.effect] at hentry
    | permissionsGranted group member permissions =>
      obtain ⟨kept, hkept, rfl⟩ := Option.map_eq_some_iff.mp hentry
      obtain ⟨more, hmore, hsubset⟩ := hle groupId address kept hkept
      refine ⟨more ∪ permissions.toFinset, ?_, Finset.union_subset_union_left hsubset⟩
      rw [hmore]
      rfl
    | permissionsRevoked group member permissions =>
      obtain ⟨kept, hkept, rfl⟩ := Option.map_eq_some_iff.mp hentry
      obtain ⟨more, hmore, hsubset⟩ := hle groupId address kept hkept
      refine ⟨more \ permissions.toFinset, ?_, Finset.sdiff_subset_sdiff hsubset le_rfl⟩
      rw [hmore]
      rfl
  · rw [if_neg habout] at hentry ⊢
    exact hle groupId address perms hentry

theorem applyEvents_mono (events : List GroupsEvent) : Monotone (applyEvents · events) := by
  intro store other hle
  induction events using List.reverseRecOn with
  | nil => exact hle
  | append_singleton past last ih =>
    simp only [applyEvents_concat]
    exact applyEvent_mono last ih

/-- A store that starts empty and misses the events before some point grants nothing that the whole
history denies. Behind it, an event applied to two stores keeps one below the other. -/
theorem coldStart_failsClosed :
    (∀ (lost seen : List GroupsEvent) (groupId address : String) (permission : MessagingPermission),
      (new.applyEvents seen).hasPermission groupId address permission = true →
        (new.applyEvents (lost ++ seen)).hasPermission groupId address permission = true) ∧
    ∀ (store other : InMemoryMembershipStore) (event : GroupsEvent), store ≤ other →
      store.applyEvent event ≤ other.applyEvent event := by
  constructor
  · intro lost seen groupId address permission hholds
    have hle : new.applyEvents seen ≤ (new.applyEvents lost).applyEvents seen :=
      applyEvents_mono seen (new_le (new.applyEvents lost))
    rw [applyEvents_append]
    exact hasPermission_of_le hle hholds
  · intro store other event hle
    exact applyEvent_mono event hle

end Monotone

end InMemoryMembershipStore

end MessagingRelayer
