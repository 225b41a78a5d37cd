import MessagingRelayer.System.Provenance
import MessagingRelayer.System.Serving

/-!
# Access control

Every change of the stored messages that a client can see is made by a task whose request the
middleware accepted earlier in the run, under a key whose address is the sender of the message, for
the group of the message, while that address held the permission for the operation. Which task that
is follows from what the step can do to a message, and what its request was checked for from the
backing of the task; nothing that happens between the check and the write can matter, since the
group and the sender of a message never change.
-/

set_option autoImplicit false
set_option relaxedAutoImplicit false

namespace MessagingRelayer

open Foundation

/-- The request of a task, with this method, passed the middleware earlier in the run: its signature
was good under a key whose address is `sender`, it was authorized for the group, and the sender held
the permission in the membership store of that moment. -/
def PassedCheck (relayer : Relayer) (past : List Action) (task : TaskId) (method : Method)
    (permission : MessagingPermission) (sender groupId : String) : Prop :=
  ∃ earlier later before request now signed auth,
    past = earlier ++ .arrive task request now :: later ∧
    relayer.run earlier = some before ∧
    request.method = method ∧
    Authenticated relayer.libs relayer.config.requestTtlSeconds before.membership
      (DateTime.timestamp now) request permission signed auth ∧
    auth.senderAddress = sender ∧ auth.authorizedGroup = some groupId

section AccessControl

variable {relayer : Relayer} {past : List Action} {action : Action} {before after : System}
  {task : TaskId} {request : Request} {auth : AuthContext}

/-- An admitted request passed the check for its method. -/
theorem AdmittedAs.passedCheck {call : HandlerCall} {method : Method}
    {permission : MessagingPermission} {groupId : String}
    (hadmitted : AdmittedAs relayer past task request auth call)
    (hmethod : Routed relayer.libs request auth call → requiredPermission request.method ≠ none →
      request.method = method)
    (hpermission : requiredPermission method = some permission)
    (hgroup : auth.authorizedGroup = some groupId) :
    PassedCheck relayer past task method permission auth.senderAddress groupId := by
  obtain ⟨earlier, later, checked, now, hsplit, hrun, ⟨found, signed, hpassed⟩, hrouted⟩ :=
    hadmitted
  have hsame := hmethod hrouted (by rw [hpassed.permission_eq]; exact Option.some_ne_none found)
  obtain rfl : found = permission := by
    have hfound := hpassed.permission_eq
    rw [hsame, hpermission] at hfound
    exact (Option.some.inj hfound).symm
  exact ⟨earlier, later, checked, request, now, signed, auth, hsplit, hrun, hsame, hpassed, rfl,
    hgroup⟩

/-- A message that appears was posted by its sender in its group. -/
theorem passedCheck_of_created (hjson : relayer.libs.LawfulJson)
    (hrun : relayer.run past = some before) (hstep : relayer.step before action = some after)
    {id : Uuid} {message : Message} (hnone : before.storage.messages.lookup id = none)
    (hsome : after.storage.messages.lookup id = some message) :
    ∃ task, action = .insert task ∧
      PassedCheck relayer past task .post .messagingSender message.senderWalletAddr
        message.groupId := by
  have heffect := messageEffect_of_step hstep id
  rw [hsome] at heffect
  generalize hfound : some message = found at heffect
  cases heffect with
  | unchanged => simp [hnone] at hfound
  | @created task request inserted htask =>
    obtain rfl := Option.some.inj hfound
    refine ⟨task, rfl, ?_⟩
    obtain ⟨built, order, ⟨auth, req, id, now, hadmitted, -, hprepare⟩, rfl⟩ :=
      backed_of_run hrun _ _ htask
    obtain ⟨content, -, rfl⟩ := createMessagePrepare_eq_ok hprepare
    have hclaims : auth.authorizedGroup = some req.groupId ∧
        auth.senderAddress = req.senderAddress := by
      obtain ⟨_, _, _, _, -, -, ⟨permission, signed, hpassed⟩, hrouted⟩ := hadmitted
      exact hpassed.create_claims hjson hrouted
    have hcheck : PassedCheck relayer past task .post .messagingSender auth.senderAddress
        req.groupId :=
      hadmitted.passedCheck (fun hrouted _ ↦ by cases hrouted; assumption) rfl hclaims.1
    rw [hclaims.2] at hcheck
    exact hcheck
  | edited htask hlookup => simp [hnone] at hlookup
  | deleted htask hlookup => simp [hnone] at hlookup
  | archived hphase hid hpatch hlookup => simp [hnone] at hlookup

/-- A message whose content changes is edited by its sender in its group. -/
theorem passedCheck_of_edited (hrun : relayer.run past = some before)
    (hstep : relayer.step before action = some after) {id : Uuid} {message changed : Message}
    (hlookup : before.storage.messages.lookup id = some message)
    (hchanged : after.storage.messages.lookup id = some changed)
    (hcontent : changed.content ≠ message.content) :
    ∃ task now, action = .write task now ∧
      PassedCheck relayer past task .put .messagingEditor message.senderWalletAddr
        message.groupId := by
  have heffect := messageEffect_of_step hstep id
  rw [hchanged] at heffect
  generalize hfound : some changed = found at heffect
  cases heffect with
  | unchanged =>
    rw [hlookup] at hfound
    exact absurd (congrArg Message.content (Option.some.inj hfound)) hcontent
  | created htask hid hnone => simp [hlookup] at hnone
  | @edited task request content now stored htask hstored =>
    refine ⟨task, now, rfl, ?_⟩
    obtain ⟨auth, req, hadmitted, -, -, owned, howned, hgroup, hsender⟩ :=
      backed_of_run hrun _ _ htask
    obtain rfl := Option.some.inj (hlookup.symm.trans howned)
    rw [hsender]
    exact hadmitted.passedCheck (fun hrouted _ ↦ by cases hrouted; assumption) rfl hgroup
  | deleted htask hstored =>
    obtain rfl := Option.some.inj (hlookup.symm.trans hstored)
    exact absurd (congrArg Message.content (Option.some.inj hfound)) hcontent
  | archived hphase hid hpatch hstored =>
    obtain rfl := Option.some.inj (hlookup.symm.trans hstored)
    exact absurd (congrArg Message.content (Option.some.inj hfound)) hcontent

theorem toStatus_ne_deletePending (pass : Pass) : pass.toStatus ≠ .deletePending := by
  cases pass <;> simp [Pass.toStatus]

/-- A message that becomes marked for deletion is deleted by its sender in its group. -/
theorem passedCheck_of_deleted (hrun : relayer.run past = some before)
    (hstep : relayer.step before action = some after) {id : Uuid} {message changed : Message}
    (hlookup : before.storage.messages.lookup id = some message)
    (hchanged : after.storage.messages.lookup id = some changed) (hdiffers : changed ≠ message)
    (hstatus : changed.syncStatus = .deletePending) :
    ∃ task now, action = .write task now ∧
      PassedCheck relayer past task .delete .messagingDeleter message.senderWalletAddr
        message.groupId := by
  have heffect := messageEffect_of_step hstep id
  rw [hchanged] at heffect
  generalize hfound : some changed = found at heffect
  cases heffect with
  | unchanged =>
    rw [hlookup] at hfound
    exact absurd (Option.some.inj hfound) hdiffers
  | created htask hid hnone => simp [hlookup] at hnone
  | edited htask hstored =>
    rw [Option.some.inj hfound] at hstatus
    simp [Message.updateContent] at hstatus
  | @deleted task request now stored htask hstored =>
    refine ⟨task, now, rfl, ?_⟩
    obtain ⟨auth, hadmitted, owned, howned, hgroup, hsender⟩ := backed_of_run hrun _ _ htask
    obtain rfl := Option.some.inj (hlookup.symm.trans howned)
    rw [hsender]
    exact hadmitted.passedCheck (fun hrouted _ ↦ by cases hrouted; assumption) rfl hgroup
  | @archived now pass msg stored remaining response patchId hphase hid hpatch hstored =>
    rw [Option.some.inj hfound] at hstatus
    exact absurd hstatus (toStatus_ne_deletePending pass)

/-- A message body in an answer is of a group its reader could read. -/
theorem passedCheck_of_read (hrun : relayer.run past = some after) {served : Task}
    {response : GetMessagesResponse} {body : MessageResponse}
    (hlookup : after.tasks.lookup task = some served)
    (hreply : served.phase = .done (.messages response)) (hbody : body ∈ response.bodies) :
    ∃ reader, PassedCheck relayer past task .get .messagingReader reader body.groupId := by
  have hbacked := backed_of_run hrun task served hlookup
  rw [hreply] at hbacked
  obtain ⟨auth, query, hadmitted, hbodies⟩ := hbacked
  refine ⟨auth.senderAddress, hadmitted.passedCheck ?_ rfl (hbodies body hbody)⟩
  intro hrouted hneeded
  cases hrouted with
  | getMessages hmethod =>
    rcases hmethod with hget | hhead
    · exact hget
    · rw [hhead] at hneeded
      exact absurd rfl hneeded

/-- Assumes: the JSON text of an object or array is not empty. In every run, a step that makes a
message appear, changes the content of a message or marks it for deletion is the write of a task
whose request passed the check for that operation, as the sender of the message and for its group;
every message body in an answer is of a group in which its reader passed the check for reading; and
no message disappears or changes its identity. -/
theorem accessControl (hjson : relayer.libs.LawfulJson) (hrun : relayer.run past = some before)
    (hstep : relayer.step before action = some after) :
    (∀ id message, before.storage.messages.lookup id = none →
      after.storage.messages.lookup id = some message →
        ∃ task, action = .insert task ∧
          PassedCheck relayer past task .post .messagingSender message.senderWalletAddr
            message.groupId) ∧
    (∀ id message changed, before.storage.messages.lookup id = some message →
      after.storage.messages.lookup id = some changed → changed.content ≠ message.content →
        ∃ task now, action = .write task now ∧
          PassedCheck relayer past task .put .messagingEditor message.senderWalletAddr
            message.groupId) ∧
    (∀ id message changed, before.storage.messages.lookup id = some message →
      after.storage.messages.lookup id = some changed → changed ≠ message →
        changed.syncStatus = .deletePending →
          ∃ task now, action = .write task now ∧
            PassedCheck relayer past task .delete .messagingDeleter message.senderWalletAddr
              message.groupId) ∧
    (∀ task served response body, after.tasks.lookup task = some served →
      served.phase = .done (.messages response) → body ∈ response.bodies →
        ∃ reader, PassedCheck relayer (past ++ [action]) task .get .messagingReader reader
          body.groupId) ∧
    (∀ id message, before.storage.messages.lookup id = some message →
      ∃ kept, after.storage.messages.lookup id = some kept ∧ kept.identity = message.identity) := by
  refine ⟨?_, ?_, ?_, ?_, ?_⟩
  · intro id message hnone hsome
    exact passedCheck_of_created hjson hrun hstep hnone hsome
  · intro id message changed hlookup hchanged hcontent
    exact passedCheck_of_edited hrun hstep hlookup hchanged hcontent
  · intro id message changed hlookup hchanged hdiffers hstatus
    exact passedCheck_of_deleted hrun hstep hlookup hchanged hdiffers hstatus
  · intro task served response body hlookup hreply hbody
    have hafter : relayer.run (past ++ [action]) = some after :=
      runFrom_concat_eq_some.mpr ⟨before, hrun, hstep⟩
    exact passedCheck_of_read hafter hlookup hreply hbody
  · exact identityKept_of_step hstep

end AccessControl

/-- The steps of the client's deletion before its write. -/
def sampleDeletionChecked : List Action :=
  samplePosting ++ [.arrive 1 deleteRequest (sampleClock 3), .fetch 1]

theorem accessControl_sampleDeletion :
    PassedCheck sampleRelayer sampleDeletionChecked 1 .delete .messagingDeleter
      (hexAddress sampleAddress) (hexAddress sampleGroup) := by
  have hfresh : samplePosted.tasks.lookup 1 = none := tasks_samplePosted (by decide)
  have howned : OwnedByClient sampleMessage := ⟨rfl, rfl⟩
  have hadmission : sampleRelayer.admission samplePosted.membership (sampleClock 3)
      deleteRequest = .calling (.deleteMessage sampleAuth sampleMessageId) :=
    admission_deleteRequest (by decide)
  have hrun : sampleRelayer.run sampleDeletionChecked =
      some (samplePosted.setTask 1 deleteRequest (.deleting sampleMessageId)) :=
    runFrom_append_eq_some.mpr ⟨_, run_samplePosting, runFrom_checkDelete hfresh hadmission
      lookup_samplePostedStorage (checkOwnership_sampleAuth howned "delete")⟩
  have hstored : samplePostedStorage.deleteMessage sampleMessageId (sampleClock 4) =
      (.ok (sampleMessage.markForDeletion (sampleClock 4)), { samplePostedStorage with
        messages := samplePostedStorage.messages.insert sampleMessageId
          (sampleMessage.markForDeletion (sampleClock 4)) }) := by
    simp only [InMemoryStorage.deleteMessage, lookup_samplePostedStorage]
  have hstep : sampleRelayer.step (samplePosted.setTask 1 deleteRequest (.deleting sampleMessageId))
      (.write 1 (sampleClock 4)) = some ({ samplePosted.setTask 1 deleteRequest
        (.deleting sampleMessageId) with storage := { samplePostedStorage with
          messages := samplePostedStorage.messages.insert sampleMessageId
            (sampleMessage.markForDeletion (sampleClock 4)) } }.setTask 1 deleteRequest
              (.done (.deleted ⟨⟩))) := by
    have hstorage : (samplePosted.setTask 1 deleteRequest (.deleting sampleMessageId)).storage =
        samplePostedStorage := rfl
    simp only [Relayer.step, System.lookup_setTask, hstorage, hstored, Relayer.afterStorage]
  obtain ⟨-, -, hdeleted, -⟩ := accessControl lawfulJson_sampleLibs hrun hstep
  obtain ⟨task, now, haction, hcheck⟩ := hdeleted sampleMessageId sampleMessage
    (sampleMessage.markForDeletion (sampleClock 4)) lookup_samplePostedStorage
    (Finmap.lookup_insert _) (by
      intro hsame
      exact absurd (congrArg Message.syncStatus hsame) (by decide)) rfl
  obtain ⟨rfl, -⟩ : 1 = task ∧ sampleClock 4 = now := by simpa using haction
  exact hcheck

end MessagingRelayer
