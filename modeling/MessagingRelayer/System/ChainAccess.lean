import MessagingRelayer.Services.Subscription
import MessagingRelayer.System.Grants

/-!
# Access control from the chain

The membership sync service takes events out of the checkpoints it is served, and these are the
events that reach the membership store of the relayer, in this order and at any time between the
steps of the other parts (`Fed`). Every store on the way is below the store of some initial part of
the history of the chain (`store_le_of_taken`). So as long as the checkpoints that a reconnection
skips take nothing away, whatever a client achieves at the relayer, the history of the chain has
granted it (`authorizedByChain`).
-/

set_option autoImplicit false
set_option relaxedAutoImplicit false

namespace MessagingRelayer

open Foundation

/-! ### The events that the service takes -/

/-- The events of a checkpoint, in the order of its transactions. -/
def Checkpoint.events (checkpoint : Checkpoint) : List SuiEvent :=
  checkpoint.transactions.flatMap (·.getD [])

theorem Checkpoint.filterMap_events (libs : Externals) (groupsPackageId : String)
    (checkpoint : Checkpoint) :
    checkpoint.events.filterMap (parseSuiEvent libs · groupsPackageId) =
      checkpoint.groupsEvents libs groupsPackageId := by
  unfold Checkpoint.events Checkpoint.groupsEvents
  rw [List.filterMap_flatMap]

namespace MembershipSyncService

section Taken

variable (libs : Externals) (chain : Nat → Checkpoint)

/-- The events the service processes while the checkpoints are delivered, one after the other. -/
def taken (service : MembershipSyncService) : List Nat → List SuiEvent
  | [] => []
  | cursor :: rest =>
    (if cursor < service.nextExpected then [] else (chain cursor).events) ++
      taken (service.handleResponse libs (chainResponse chain cursor)) rest

/-- The service after the checkpoints are delivered. -/
def served (service : MembershipSyncService) (cursors : List Nat) : MembershipSyncService :=
  cursors.foldl (fun reached cursor ↦ reached.handleResponse libs (chainResponse chain cursor))
    service

theorem run_eq_served (service : MembershipSyncService) (streams : List ServedStream) :
    service.run libs (streams.map (ServedStream.items chain)) =
      served libs chain service (streams.flatMap ServedStream.cursors) := by
  have hdelivered : (streams.map (ServedStream.items chain)).flatMap delivered =
      (streams.flatMap ServedStream.cursors).map (chainResponse chain) := by
    rw [List.flatMap_map, List.map_flatMap]
    exact congrArg streams.flatMap (funext (ServedStream.delivered_items chain))
  rw [run_eq_foldl, hdelivered, List.foldl_map]
  rfl

variable {libs chain} {groupsPackageId : String}

/-- The store of the service is made of the events it has taken. -/
theorem foldl_taken (service : MembershipSyncService) (cursors : List Nat) :
    (taken libs chain service cursors).foldl (processEvent libs service.groupsPackageId)
        service.membershipStore = (served libs chain service cursors).membershipStore := by
  induction cursors generalizing service with
  | nil => rfl
  | cons cursor rest ih =>
    rw [taken, List.foldl_append]
    show _ = (served libs chain (service.handleResponse libs (chainResponse chain cursor))
      rest).membershipStore
    rw [← ih, handleResponse_chainResponse]
    split_ifs with hskip
    · rfl
    · have hevents : (chain cursor).events.foldl (processEvent libs service.groupsPackageId)
          service.membershipStore = service.membershipStore.applyEvents
            ((chain cursor).groupsEvents libs service.groupsPackageId) := by
        rw [processEvents_eq_applyEvents, Checkpoint.filterMap_events]
      rw [hevents]

/-- A delivery does not move the service back. -/
theorem nextExpected_le_handleResponse (service : MembershipSyncService) (cursor : Nat) :
    service.nextExpected ≤
      (service.handleResponse libs (chainResponse chain cursor)).nextExpected := by
  rw [handleResponse_chainResponse]
  by_cases hskip : cursor < service.nextExpected
  · rw [if_pos hskip]
  · rw [if_neg hskip]
    exact (not_lt.mp hskip).trans (Nat.le_succ cursor)

theorem nextExpected_le_served (service : MembershipSyncService) (cursors : List Nat) :
    service.nextExpected ≤ (served libs chain service cursors).nextExpected := by
  induction cursors generalizing service with
  | nil => exact le_rfl
  | cons cursor rest ih => exact (nextExpected_le_handleResponse service cursor).trans (ih _)

theorem chainEvents_initial {first second : Nat} (hle : first ≤ second) :
    chainEvents libs groupsPackageId chain 0 first <+:
      chainEvents libs groupsPackageId chain 0 second := by
  obtain ⟨more, rfl⟩ := Nat.exists_eq_add_of_le hle
  rw [chainEvents_append]
  exact List.prefix_append _ _

theorem chainEvents_split {next cursor : Nat} (hnext : next ≤ cursor) :
    chainEvents libs groupsPackageId chain 0 cursor =
      chainEvents libs groupsPackageId chain 0 next ++
        chainEvents libs groupsPackageId chain next (cursor - next) := by
  have happend := chainEvents_append libs groupsPackageId chain 0 next (cursor - next)
  rw [Nat.zero_add, Nat.add_sub_cancel' hnext] at happend
  exact happend

/-- Assumes: a checkpoint that is not skipped. Its first events leave the store below that of the
chain through the checkpoint before and these events. -/
theorem store_le_of_events {service : MembershipSyncService} {cursor : Nat}
    (hcovered : Covered libs groupsPackageId chain service)
    (hskipped : SkippedTakeNothing libs groupsPackageId chain service cursor)
    (hnext : service.nextExpected ≤ cursor) (seen : List GroupsEvent) :
    service.membershipStore.applyEvents seen ≤ InMemoryMembershipStore.new.applyEvents
      (chainEvents libs groupsPackageId chain 0 cursor ++ seen) := by
  rw [InMemoryMembershipStore.applyEvents_append, chainEvents_split hnext,
    InMemoryMembershipStore.applyEvents_append]
  refine InMemoryMembershipStore.applyEvents_mono seen ?_
  exact hskipped.trans (InMemoryMembershipStore.applyEvents_mono _ hcovered.2)

/-- Assumes: whenever a checkpoint is delivered, the checkpoints skipped before it take nothing away
from the store as it is then. After any number of the events it takes, the store of the service is
below that of some initial part of the history of the chain, which has all these events. -/
theorem store_le_of_taken {service : MembershipSyncService} {cursors : List Nat}
    {seen : List SuiEvent} (hcovered : Covered libs groupsPackageId chain service)
    (hskipped : EveryStep (deliver libs chain) (SkippedTakeNothing libs groupsPackageId chain)
      service cursors) (hseen : seen <+: taken libs chain service cursors) :
    ∃ more, chainEvents libs groupsPackageId chain 0 service.nextExpected ++ more <+:
        chainEvents libs groupsPackageId chain 0 (served libs chain service cursors).nextExpected ∧
      (seen.filterMap (parseSuiEvent libs · groupsPackageId)).Sublist more ∧
      service.membershipStore.applyEvents (seen.filterMap (parseSuiEvent libs · groupsPackageId)) ≤
        InMemoryMembershipStore.new.applyEvents
          (chainEvents libs groupsPackageId chain 0 service.nextExpected ++ more) := by
  induction cursors generalizing service seen with
  | nil =>
    obtain rfl := List.prefix_nil.mp hseen
    refine ⟨[], ?_, List.Sublist.refl _, ?_⟩
    · rw [List.append_nil]
      exact List.prefix_rfl
    · rw [List.append_nil]
      exact hcovered.2
  | cons cursor rest ih =>
    obtain ⟨hfirst, hlater⟩ := everyStep_cons_iff.mp hskipped
    have hnext := covered_deliver hcovered hfirst rfl
    have hrest := hlater _ rfl
    rw [taken] at hseen
    have hdelivered : service.handleResponse libs (chainResponse chain cursor) = _ :=
      handleResponse_chainResponse libs chain service cursor
    by_cases hskip : cursor < service.nextExpected
    · rw [if_pos hskip] at hseen hdelivered
      rw [hdelivered] at hnext hrest hseen
      obtain ⟨more, hhistory, hbelow⟩ := ih hnext hrest hseen
      refine ⟨more, ?_, hbelow⟩
      show _ <+: chainEvents libs groupsPackageId chain 0 (served libs chain
        (service.handleResponse libs (chainResponse chain cursor)) rest).nextExpected
      rw [hdelivered]
      exact hhistory
    · rw [if_neg hskip] at hseen hdelivered
      have hpackage := hcovered.1
      have hle := not_lt.mp hskip
      have hexpected : (service.handleResponse libs (chainResponse chain cursor)).nextExpected =
          cursor + 1 := by
        rw [hdelivered]
        rfl
      have hthrough : chainEvents libs groupsPackageId chain 0 (cursor + 1) =
          chainEvents libs groupsPackageId chain 0 service.nextExpected ++
            (chainEvents libs groupsPackageId chain service.nextExpected
              (cursor - service.nextExpected) ++ (chain cursor).groupsEvents libs
                groupsPackageId) := by
        rw [chainEvents_append, chainEvents_one, Nat.zero_add, chainEvents_split hle,
          List.append_assoc]
      obtain ⟨unseen, hsplit⟩ := hseen
      rcases List.append_eq_append_iff.mp hsplit with ⟨left, hevents, -⟩ | ⟨later, rfl, hafter⟩
      · -- The service is still among the events of this checkpoint.
        have hbelow := store_le_of_events hcovered hfirst hle
          (seen.filterMap (parseSuiEvent libs · groupsPackageId))
        rw [chainEvents_split hle, List.append_assoc] at hbelow
        refine ⟨_, ?_, List.sublist_append_right _ _, hbelow⟩
        refine List.IsPrefix.trans ?_ (chainEvents_initial (nextExpected_le_served
          (service.handleResponse libs (chainResponse chain cursor)) rest))
        rw [hexpected, hthrough, ← Checkpoint.filterMap_events, hevents, List.filterMap_append]
        refine (List.prefix_append_right_inj _).mpr ((List.prefix_append_right_inj _).mpr ?_)
        exact List.prefix_append _ _
      · obtain ⟨more, hhistory, hsublist, hbelow⟩ := ih hnext hrest ⟨unseen, hafter.symm⟩
        rw [hexpected, hthrough, List.append_assoc] at hhistory hbelow
        refine ⟨_, hhistory, ?_, ?_⟩
        · rw [List.filterMap_append, Checkpoint.filterMap_events, List.append_assoc]
          refine List.Sublist.trans ?_ (List.sublist_append_right _ _)
          exact (List.append_sublist_append_left _).mpr hsublist
        · rw [List.filterMap_append, InMemoryMembershipStore.applyEvents_append,
            Checkpoint.filterMap_events]
          rw [hdelivered, hpackage] at hbelow
          exact hbelow

end Taken

end MembershipSyncService

/-! ### The relayer fed by the service -/

/-- The event of the chain that an action brings. -/
def Action.suiEvent? : Action → Option SuiEvent
  | .suiEvent event => some event
  | _ => none

section Fed

open MembershipSyncService

variable (relayer : Relayer) (chain : Nat → Checkpoint) (streams : List ServedStream)

/-- The service of the relayer when it has been served the streams. -/
def Relayer.syncService : MembershipSyncService :=
  (new relayer.config.groupsPackageId .new).run relayer.libs
    (streams.map (ServedStream.items chain))

/-- The events that reached the relayer are the first that its service takes out of the streams. -/
def Fed (actions : List Action) : Prop :=
  actions.filterMap Action.suiEvent? <+: taken relayer.libs chain
    (new relayer.config.groupsPackageId .new) (streams.flatMap ServedStream.cursors)

/-- Whenever a checkpoint is delivered, the checkpoints that were skipped before it take nothing
away from the store as it is then. -/
def SkipsSafely : Prop :=
  EveryStep (deliver relayer.libs chain)
    (SkippedTakeNothing relayer.libs relayer.config.groupsPackageId chain)
    (new relayer.config.groupsPackageId .new) (streams.flatMap ServedStream.cursors)

/-- Some initial part of the history of the chain, no longer than what was delivered and with all
these events, grants the permission. -/
def GrantedByChain (seen : List GroupsEvent) (groupId address : String)
    (permission : MessagingPermission) : Prop :=
  ∃ history, history <+: chainEvents relayer.libs relayer.config.groupsPackageId chain 0
      (relayer.syncService chain streams).nextExpected ∧
    seen.Sublist history ∧
    (InMemoryMembershipStore.new.applyEvents history).hasPermission groupId address permission =
      true

/-- The request of a task, with this method, was authenticated as the address and for the group, and
it arrived when the chain granted the address the permission in the group: with a history that has
all events that had reached the relayer. -/
def SentUnderChain (past : List Action) (task : TaskId) (method : Method)
    (permission : MessagingPermission) (address groupId : String) : Prop :=
  PassedUnder (fun earlier ↦ GrantedByChain relayer chain streams
    (earlier.filterMap relayer.groupsEvent?) groupId address permission) relayer past task method
      permission address groupId

variable {relayer chain streams} {past : List Action} {action : Action} {before after : System}

theorem filterMap_groupsEvent? (actions : List Action) :
    actions.filterMap relayer.groupsEvent? = (actions.filterMap Action.suiEvent?).filterMap
      (parseSuiEvent relayer.libs · relayer.config.groupsPackageId) := by
  rw [List.filterMap_filterMap]
  refine congrArg (actions.filterMap ·) (funext fun action ↦ ?_)
  cases action <;> rfl

/-- When all events have reached the relayer, its membership store is that of the service. -/
theorem membership_of_fed (hrun : relayer.run past = some before)
    (hall : past.filterMap Action.suiEvent? = taken relayer.libs chain
      (new relayer.config.groupsPackageId .new) (streams.flatMap ServedStream.cursors)) :
    before.membership = (relayer.syncService chain streams).membershipStore := by
  rw [membership_of_run hrun, filterMap_groupsEvent?, hall, ← processEvents_eq_applyEvents]
  refine (foldl_taken (new relayer.config.groupsPackageId .new) _).trans ?_
  rw [Relayer.syncService, run_eq_served]

/-- What the membership store of a fed relayer grants, the chain has granted. -/
theorem grantedByChain_of_run (hskips : SkipsSafely relayer chain streams)
    (hrun : relayer.run past = some before) (hfed : Fed relayer chain streams past)
    {groupId address : String} {permission : MessagingPermission}
    (hheld : before.membership.hasPermission groupId address permission = true) :
    GrantedByChain relayer chain streams (past.filterMap relayer.groupsEvent?) groupId address
      permission := by
  obtain ⟨history, hhistory, hseen, hbelow⟩ := store_le_of_taken covered_new hskips hfed
  rw [← run_eq_served] at hhistory
  rw [← filterMap_groupsEvent?] at hseen hbelow
  refine ⟨history, hhistory, hseen, InMemoryMembershipStore.hasPermission_of_le hbelow ?_⟩
  rw [membership_of_run hrun] at hheld
  exact hheld

/-- A check that was passed is a grant of the chain. -/
theorem PassedCheck.sentUnderChain (hskips : SkipsSafely relayer chain streams)
    (hfed : Fed relayer chain streams past) {task : TaskId} {method : Method}
    {permission : MessagingPermission} {address groupId : String}
    (hpassed : PassedCheck relayer past task method permission address groupId) :
    SentUnderChain relayer chain streams past task method permission address groupId := by
  refine hpassed.under fun earlier later reached hsplit hrun hheld ↦ ?_
  have hearlier : Fed relayer chain streams earlier := by
    unfold Fed at hfed ⊢
    rw [hsplit, List.filterMap_append] at hfed
    exact (List.prefix_append _ _).trans hfed
  exact grantedByChain_of_run hskips hrun hearlier hheld

/-- Assumes: the relayer is fed by its service, and the checkpoints that reconnections skip take
nothing away. In every run, a step that makes a message appear, changes its content or marks it for
deletion is the write of a task whose request was authenticated as the sender of the message and for
its group, and which arrived when the chain granted that address the permission for the operation in
the group, with a history that has all events that had reached the relayer; every message in an
answer is of a group for which the request was authenticated as an address to which the chain
granted reading. When all events have arrived, the membership store is that of the service. -/
theorem authorizedByChain (hjson : relayer.libs.LawfulJson)
    (hskips : SkipsSafely relayer chain streams) (hrun : relayer.run past = some before)
    (hfed : Fed relayer chain streams past) (hstep : relayer.step before action = some after) :
    (∀ id message, before.storage.messages.lookup id = none →
      after.storage.messages.lookup id = some message →
        ∃ task, action = .insert task ∧
          SentUnderChain relayer chain streams past task .post .messagingSender
            message.senderWalletAddr message.groupId) ∧
    (∀ id message changed, before.storage.messages.lookup id = some message →
      after.storage.messages.lookup id = some changed → changed.content ≠ message.content →
        ∃ task now, action = .write task now ∧
          SentUnderChain relayer chain streams past task .put .messagingEditor
            message.senderWalletAddr message.groupId) ∧
    (∀ id message changed, before.storage.messages.lookup id = some message →
      after.storage.messages.lookup id = some changed → changed ≠ message →
        changed.syncStatus = .deletePending →
          ∃ task now, action = .write task now ∧
            SentUnderChain relayer chain streams past task .delete .messagingDeleter
              message.senderWalletAddr message.groupId) ∧
    (∀ task served response body, before.tasks.lookup task = some served →
      served.phase = .done (.messages response) → body ∈ response.bodies → ∃ reader,
        SentUnderChain relayer chain streams past task .get .messagingReader reader
          body.groupId) ∧
    (past.filterMap Action.suiEvent? = taken relayer.libs chain
        (new relayer.config.groupsPackageId .new) (streams.flatMap ServedStream.cursors) →
      before.membership = (relayer.syncService chain streams).membershipStore) := by
  refine ⟨?_, ?_, ?_, ?_, membership_of_fed hrun⟩
  · intro id message hnone hsome
    obtain ⟨task, haction, hpassed⟩ := passedCheck_of_created hjson hrun hstep hnone hsome
    exact ⟨task, haction, hpassed.sentUnderChain hskips hfed⟩
  · intro id message changed hlookup hchanged hcontent
    obtain ⟨task, now, haction, hpassed⟩ :=
      passedCheck_of_edited hrun hstep hlookup hchanged hcontent
    exact ⟨task, now, haction, hpassed.sentUnderChain hskips hfed⟩
  · intro id message changed hlookup hchanged hdiffers hstatus
    obtain ⟨task, now, haction, hpassed⟩ :=
      passedCheck_of_deleted hrun hstep hlookup hchanged hdiffers hstatus
    exact ⟨task, now, haction, hpassed.sentUnderChain hskips hfed⟩
  · intro task served response body hlookup hreply hbody
    obtain ⟨reader, hpassed⟩ := passedCheck_of_read hrun hlookup hreply hbody
    exact ⟨reader, hpassed.sentUnderChain hskips hfed⟩

/-! ### A chain for the client -/

/-- The chain on which the client joins the group and gets every permission. -/
def clientChain : Nat → Checkpoint
  | 0 => ⟨[some [sampleEvent "MemberAdded" sampleMemberBytes]]⟩
  | 1 => ⟨[none, some [sampleEvent "PermissionsGranted" samplePermissionsBytes]]⟩
  | _ => ⟨[]⟩

/-- One stream delivers both checkpoints, and fails. -/
def clientStreams : List ServedStream :=
  [⟨0, 2, some "transport error"⟩]

theorem skipsSafely_clientStreams : SkipsSafely sampleRelayer clientChain clientStreams := by
  show EveryStep _ _ _ [0, 1]
  refine everyStep_cons_iff.mpr ⟨skippedTakeNothing_of_le (Nat.le_refl 0), ?_⟩
  rintro _ ⟨⟩
  refine everyStep_cons_iff.mpr ⟨skippedTakeNothing_of_le (Nat.le_refl 1), ?_⟩
  rintro _ ⟨⟩
  exact EveryStep.nil

/-- The chain grants the client what it posts under. -/
theorem authorizedByChain_sampleOrdering :
    SentUnderChain sampleRelayer clientChain clientStreams sampleOrdering 0 .post
      .messagingSender (hexAddress sampleAddress) (hexAddress sampleGroup) := by
  have hstored : ((InMemoryStorage.new.nextOrder (hexAddress sampleGroup)).2.insertMessage
      sampleMessage).2.messages.lookup sampleMessageId = some sampleMessage :=
    (congrArg (·.2.messages.lookup sampleMessageId) createMessage_samplePosting).trans
      lookup_samplePostedStorage
  have hfed : Fed sampleRelayer clientChain clientStreams sampleOrdering := List.prefix_rfl
  obtain ⟨hcreated, -⟩ := authorizedByChain lawfulJson_sampleLibs skipsSafely_clientStreams
    run_sampleOrdering hfed (step_insert (System.lookup_setTask _ _ _ _))
  obtain ⟨task, haction, hsent⟩ := hcreated sampleMessageId sampleMessage rfl hstored
  obtain rfl : 0 = task := by simpa using haction
  exact hsent

end Fed

end MessagingRelayer
