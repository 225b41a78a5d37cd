import MessagingRelayer.System.AccessControl

/-!
# Grants on the chain

The membership store is the only thing the middleware asks about permissions, and events of the
chain are the only thing that changes it. So what a client may do is decided by the events that
reached the relayer before its request did: `hasPermission_iff_granted` says it of the store after
any run, and by `grantedOnChain` every change of the messages and every page handed out rests on a
grant that no earlier event had taken back.
-/

set_option autoImplicit false
set_option relaxedAutoImplicit false

namespace MessagingRelayer

open Foundation

/-- The action brings a Groups event of the configured package to the membership store. -/
def Relayer.Observes (relayer : Relayer) (action : Action) (parsed : GroupsEvent) : Prop :=
  ∃ event, action = .suiEvent event ∧
    parseSuiEvent relayer.libs event relayer.config.groupsPackageId = some parsed

/-- The Groups event an action brings. -/
def Relayer.groupsEvent? (relayer : Relayer) : Action → Option GroupsEvent
  | .suiEvent event => parseSuiEvent relayer.libs event relayer.config.groupsPackageId
  | _ => none

/-- In the run the address was added to the group, and not removed since. -/
def MemberOnChain (relayer : Relayer) (actions : List Action) (groupId address : String) : Prop :=
  LastGain (fun _ action ↦ relayer.Observes action (.memberAdded groupId address))
    (fun action ↦ relayer.Observes action (.memberRemoved groupId address)) actions

/-- In the run the permission was granted to the address while it was a member of the group, and no
later event added it anew, removed it or revoked the permission. -/
def GrantedOnChain (relayer : Relayer) (actions : List Action) (groupId address : String)
    (permission : MessagingPermission) : Prop :=
  LastGain
    (fun past action ↦ (∃ parsed, relayer.Observes action parsed ∧
      parsed.Grants groupId address permission) ∧ MemberOnChain relayer past groupId address)
    (fun action ↦ ∃ parsed, relayer.Observes action parsed ∧
      parsed.Clears groupId address permission) actions

section Events

variable {relayer : Relayer} {action : Action} {actions : List Action} {before after : System}

theorem groupsEvent?_eq_some_iff {parsed : GroupsEvent} :
    relayer.groupsEvent? action = some parsed ↔ relayer.Observes action parsed := by
  constructor
  · intro hparse
    cases action with
    | suiEvent event => exact ⟨event, rfl, hparse⟩
    | _ => simp [Relayer.groupsEvent?] at hparse
  · rintro ⟨event, rfl, hparse⟩
    exact hparse

/-- A step changes the membership store by the Groups event it brings, and in no other way. -/
theorem membership_of_step (hstep : relayer.step before action = some after) :
    after.membership = before.membership.applyEvents (relayer.groupsEvent? action).toList := by
  cases transition_of_step hstep with
  | event event =>
    simp only [MembershipSyncService.processEvent, Relayer.groupsEvent?]
    cases parseSuiEvent relayer.libs event relayer.config.groupsPackageId with
    | none => rfl
    | some parsed => rfl
  | task hmove hstorage =>
    cases hmove with
    | _ => rfl
  | worker hmove hstorage =>
    cases hmove with
    | _ => rfl

/-- The membership store after a run is made of the Groups events the run has brought. -/
theorem membership_of_run {finish : System} (hrun : relayer.run actions = some finish) :
    finish.membership = InMemoryMembershipStore.new.applyEvents
      (actions.filterMap relayer.groupsEvent?) := by
  refine history_induction (fun past reached ↦ reached.membership =
    InMemoryMembershipStore.new.applyEvents (past.filterMap relayer.groupsEvent?)) rfl ?_ hrun
  intro past before action after hpast hmembership hstep
  rw [membership_of_step hstep, hmembership, List.filterMap_append,
    InMemoryMembershipStore.applyEvents_append]
  rfl

/-! ### The last relevant action -/

variable (groupId address : String) (permission : MessagingPermission)

theorem member_iff_memberOnChain (actions : List Action) :
    ((InMemoryMembershipStore.new.applyEvents
      (actions.filterMap relayer.groupsEvent?)).entry groupId address).isSome = true ↔
      MemberOnChain relayer actions groupId address := by
  refine holds_iff_lastGain (fun actions ↦ ((InMemoryMembershipStore.new.applyEvents
    (actions.filterMap relayer.groupsEvent?)).entry groupId address).isSome = true) ?_ ?_ actions
  · simp [InMemoryMembershipStore.applyEvents]
  · intro past last
    rw [List.filterMap_append]
    simp only [← groupsEvent?_eq_some_iff]
    cases hparsed : relayer.groupsEvent? last with
    | none => simp [hparsed]
    | some parsed =>
      simp only [List.filterMap_cons, List.filterMap_nil, hparsed,
        InMemoryMembershipStore.isSome_entry_iff, lastGain_concat_iff, Option.some.injEq]

/-- After every run a permission is held exactly when it was granted on the chain. -/
theorem hasPermission_iff_granted {finish : System} (hrun : relayer.run actions = some finish) :
    finish.membership.hasPermission groupId address permission = true ↔
      GrantedOnChain relayer actions groupId address permission := by
  rw [membership_of_run hrun]
  refine holds_iff_lastGain (fun actions ↦ (InMemoryMembershipStore.new.applyEvents
    (actions.filterMap relayer.groupsEvent?)).hasPermission groupId address permission = true)
    ?_ ?_ actions
  · simp [InMemoryMembershipStore.hasPermission_iff, InMemoryMembershipStore.applyEvents]
  · intro past last
    rw [List.filterMap_append]
    simp only [← groupsEvent?_eq_some_iff, ← member_iff_memberOnChain]
    cases hparsed : relayer.groupsEvent? last with
    | none => simp [hparsed]
    | some parsed =>
      simp only [List.filterMap_cons, List.filterMap_nil, hparsed,
        InMemoryMembershipStore.hasPermission_iff_lastGain, lastGain_concat_iff,
        Option.some.injEq, exists_eq_left']

end Events

/-! ### What a client was granted -/

/-- The request of a task, with this method, passed the middleware earlier in the run as
`PassedCheck` says, authenticated as the address and for the group, and the actions before its
arrival had granted what they had to. -/
def PassedUnder (granted : List Action → Prop) (relayer : Relayer) (past : List Action)
    (task : TaskId) (method : Method) (permission : MessagingPermission)
    (address groupId : String) : Prop :=
  ∃ earlier later before request now signed auth,
    past = earlier ++ .arrive task request now :: later ∧
    relayer.run earlier = some before ∧
    request.method = method ∧
    Authenticated relayer.libs relayer.config.requestTtlSeconds before.membership
      (DateTime.timestamp now) request permission signed auth ∧
    auth.senderAddress = address ∧ auth.authorizedGroup = some groupId ∧
    granted earlier

/-- The request of a task, with this method, was authenticated as the address and for the group, and
it arrived when the chain had granted the permission to the address in the group. -/
def SentUnderGrant (relayer : Relayer) (past : List Action) (task : TaskId) (method : Method)
    (permission : MessagingPermission) (address groupId : String) : Prop :=
  PassedUnder (GrantedOnChain relayer · groupId address permission) relayer past task method
    permission address groupId

section Grants

variable {relayer : Relayer} {past : List Action} {action : Action} {before after : System}
  {task : TaskId} {method : Method} {permission : MessagingPermission} {address groupId : String}

/-- Assumes: where the membership store holds the permission, the actions so far have granted it. A
check that was passed was passed under a grant. -/
theorem PassedCheck.under {granted : List Action → Prop}
    (hpassed : PassedCheck relayer past task method permission address groupId)
    (hgranted : ∀ earlier later reached, past = earlier ++ later →
      relayer.run earlier = some reached →
        reached.membership.hasPermission groupId address permission = true → granted earlier) :
    PassedUnder granted relayer past task method permission address groupId := by
  obtain ⟨earlier, later, reached, request, now, signed, auth, hsplit, hrun, hmethod, hauth,
    haddress, hgroup⟩ := hpassed
  have hheld := hauth.permission_held
  obtain rfl : signed.senderAddress = address := by
    rw [← haddress, hauth.auth_eq]
  obtain rfl : signed.groupId = groupId := by
    rw [hauth.auth_eq] at hgroup
    exact Option.some.inj hgroup
  exact ⟨earlier, later, reached, request, now, signed, auth, hsplit, hrun, hmethod, hauth,
    haddress, hgroup, hgranted earlier _ reached hsplit hrun hheld⟩

/-- A check that was passed is a grant on the chain. -/
theorem PassedCheck.sentUnderGrant
    (hpassed : PassedCheck relayer past task method permission address groupId) :
    SentUnderGrant relayer past task method permission address groupId :=
  hpassed.under fun _ _ _ _ hrun hheld ↦ (hasPermission_iff_granted _ _ _ hrun).mp hheld

/-- Assumes: the JSON text of an object or array is not empty. In every run, a step that makes a
message appear, changes its content or marks it for deletion is the write of a task whose request
was authenticated as the sender of the message and for its group, and which arrived when the chain
had granted that address the permission for the operation in the group and had not taken it back;
and a message in an answer is of a group for which the request was authenticated as an address that
had been granted reading in it when the request arrived. -/
theorem grantedOnChain (hjson : relayer.libs.LawfulJson) (hrun : relayer.run past = some before)
    (hstep : relayer.step before action = some after) :
    (∀ id message, before.storage.messages.lookup id = none →
      after.storage.messages.lookup id = some message →
        ∃ task, action = .insert task ∧
          SentUnderGrant relayer past task .post .messagingSender message.senderWalletAddr
            message.groupId) ∧
    (∀ id message changed, before.storage.messages.lookup id = some message →
      after.storage.messages.lookup id = some changed → changed.content ≠ message.content →
        ∃ task now, action = .write task now ∧
          SentUnderGrant relayer past task .put .messagingEditor message.senderWalletAddr
            message.groupId) ∧
    (∀ id message changed, before.storage.messages.lookup id = some message →
      after.storage.messages.lookup id = some changed → changed ≠ message →
        changed.syncStatus = .deletePending →
          ∃ task now, action = .write task now ∧
            SentUnderGrant relayer past task .delete .messagingDeleter message.senderWalletAddr
              message.groupId) ∧
    (∀ task served response body, after.tasks.lookup task = some served →
      served.phase = .done (.messages response) → body ∈ response.bodies →
        ∃ reader, SentUnderGrant relayer (past ++ [action]) task .get .messagingReader reader
          body.groupId) := by
  refine ⟨?_, ?_, ?_, ?_⟩
  · intro id message hnone hsome
    obtain ⟨task, haction, hpassed⟩ := passedCheck_of_created hjson hrun hstep hnone hsome
    exact ⟨task, haction, hpassed.sentUnderGrant⟩
  · intro id message changed hlookup hchanged hcontent
    obtain ⟨task, now, haction, hpassed⟩ :=
      passedCheck_of_edited hrun hstep hlookup hchanged hcontent
    exact ⟨task, now, haction, hpassed.sentUnderGrant⟩
  · intro id message changed hlookup hchanged hdiffers hstatus
    obtain ⟨task, now, haction, hpassed⟩ :=
      passedCheck_of_deleted hrun hstep hlookup hchanged hdiffers hstatus
    exact ⟨task, now, haction, hpassed.sentUnderGrant⟩
  · intro task served response body hlookup hreply hbody
    have hafter : relayer.run (past ++ [action]) = some after :=
      runFrom_concat_eq_some.mpr ⟨before, hrun, hstep⟩
    obtain ⟨reader, hpassed⟩ := passedCheck_of_read hafter hlookup hreply hbody
    exact ⟨reader, hpassed.sentUnderGrant⟩

end Grants

/-- The client joins the group, and its post has its order number. -/
def sampleOrdering : List Action :=
  sampleStart ++ [.arrive 0 postRequest (sampleClock 0), .prepare 0 sampleMessageId (sampleClock 1),
    .takeOrder 0]

/-- The system when the client's post is about to be stored. -/
def sampleOrdered : System :=
  { System.init with
    membership := sampleMembership
    storage := (InMemoryStorage.new.nextOrder (hexAddress sampleGroup)).2 }.setTask 0 postRequest
      (.inserting sampleMessage)

theorem run_sampleOrdering : sampleRelayer.run sampleOrdering = some sampleOrdered :=
  runFrom_append_eq_some.mpr ⟨_, run_sampleStart,
    runFrom_orderCreate (tasks_sampleStart 0)
      (admission_postRequest (by decide : 0 < 1000000000))
      (createMessagePrepare_samplePost sampleMessageId 1)⟩

/-- The client's post is stored under the grant of its group. -/
theorem grantedOnChain_sampleOrdering :
    SentUnderGrant sampleRelayer sampleOrdering 0 .post .messagingSender
      (hexAddress sampleAddress) (hexAddress sampleGroup) := by
  have hstored : ((InMemoryStorage.new.nextOrder (hexAddress sampleGroup)).2.insertMessage
      sampleMessage).2.messages.lookup sampleMessageId = some sampleMessage :=
    (congrArg (·.2.messages.lookup sampleMessageId) createMessage_samplePosting).trans
      lookup_samplePostedStorage
  obtain ⟨hcreated, -⟩ := grantedOnChain lawfulJson_sampleLibs run_sampleOrdering
    (step_insert (System.lookup_setTask _ _ _ _))
  obtain ⟨task, haction, hsent⟩ := hcreated sampleMessageId sampleMessage rfl hstored
  obtain rfl : 0 = task := by simpa using haction
  exact hsent

end MessagingRelayer
