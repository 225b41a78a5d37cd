import MessagingRelayer.System.Provenance
import MessagingRelayer.System.Serving

/-!
# Deletion

Three writers set the status of a message, and none of them looks at the status it replaces. So a
deletion lasts in a run exactly as long as no other writer gets to the message: no edit is written
over a message marked for deletion, and no write-back of the first two passes of the sync worker
finds its message marked for deletion (`deletionPermanent_iff`).
-/

set_option autoImplicit false
set_option relaxedAutoImplicit false

namespace MessagingRelayer

open Foundation

/-! ### Deleted messages -/

/-- The step is a `delete_message` of the message that returns `Ok`. -/
def DeleteReturnsOk (id : Uuid) (before : System) (action : Action) : Prop :=
  ∃ task request now deleted, action = .write task now ∧
    before.tasks.lookup task = some ⟨request, .deleting id⟩ ∧
    (before.storage.deleteMessage id now).1 = .ok deleted

/-- Once `delete_message` has returned `Ok` for a message, in every later state of the run the
message is there with one of the two deleted statuses, and its response says that it is deleted. -/
def DeletionPermanent (relayer : Relayer) (actions : List Action) : Prop :=
  ∀ past rest reached id, actions = past ++ rest → relayer.run past = some reached →
    Happened relayer.step .init past (DeleteReturnsOk id) →
      ∃ message, reached.storage.messages.lookup id = some message ∧
        (message.syncStatus = .deletePending ∨ message.syncStatus = .deleted) ∧
        (MessageResponse.fromMessage message).isDeleted = true

/-- The action does not overwrite the status of a message marked for deletion: an edit of such a
message is refused for its nonce, and a write-back in one of the first two passes finds no patch for
such a message. -/
def SparesDeleted (before : System) : Action → Prop
  | .write task _ => ∀ request id content stored,
      before.tasks.lookup task = some ⟨request, .updating id content⟩ →
      before.storage.messages.lookup id = some stored → stored.syncStatus.isDeleted = true →
        stored.nonce ≠ content.nonce ∧ content.nonce ∈ before.storage.nonces
  | .writeBack _ => ∀ pass msg remaining response stored,
      before.worker.phase = .writingBack pass (msg :: remaining) response →
      before.storage.messages.lookup msg.id = some stored → stored.syncStatus.isDeleted = true →
        pass = .deleted ∨ response.getPatchId (patchIdentifier msg.id) = none
  | _ => True

section Deletion

variable {relayer : Relayer} {past actions : List Action} {action : Action}
  {before after : System} {id : Uuid}

theorem isDeleted_iff (status : SyncStatus) :
    status.isDeleted = true ↔ status = .deletePending ∨ status = .deleted := by
  cases status <;> simp [SyncStatus.isDeleted]

theorem deleteReturnsOk_iff_lookup {task : TaskId} {request : Request} {now : DateTime}
    (htask : before.tasks.lookup task = some ⟨request, .deleting id⟩) :
    DeleteReturnsOk id before (.write task now) ↔
      ∃ stored, before.storage.messages.lookup id = some stored := by
  constructor
  · rintro ⟨task', request', now', deleted, -, -, hok⟩
    rcases before.storage.deleteMessage_cases id now' with ⟨-, hresult⟩ | ⟨stored, hlookup, -⟩
    · simp [hresult] at hok
    · exact ⟨stored, hlookup⟩
  · rintro ⟨stored, hlookup⟩
    rcases before.storage.deleteMessage_cases id now with ⟨hnone, -⟩ | ⟨found, -, hresult⟩
    · simp [hlookup] at hnone
    · exact ⟨task, request, now, found.markForDeletion now, rfl, htask, by rw [hresult]⟩

/-- A message with a deleted status was deleted earlier in the run, and so was every message the
worker holds in its third pass. -/
theorem happened_of_isDeleted (hrun : relayer.run past = some before) :
    (∀ id message, before.storage.messages.lookup id = some message →
      message.syncStatus.isDeleted = true →
        Happened relayer.step .init past (DeleteReturnsOk id)) ∧
    ∀ msg, before.worker.phase.Holds .deleted msg →
      Happened relayer.step .init past (DeleteReturnsOk msg.id) := by
  refine history_induction (fun past reached ↦
    (∀ id message, reached.storage.messages.lookup id = some message →
      message.syncStatus.isDeleted = true →
        Happened relayer.step .init past (DeleteReturnsOk id)) ∧
    ∀ msg, reached.worker.phase.Holds .deleted msg →
      Happened relayer.step .init past (DeleteReturnsOk msg.id)) ?_ ?_ hrun
  · refine ⟨fun id message hlookup ↦ ?_, fun msg hholds ↦ absurd hholds not_false⟩
    simp [System.init, InMemoryStorage.new] at hlookup
  · intro past before action after hpast hbefore hstep
    obtain ⟨hmessages, hworker⟩ := hbefore
    refine ⟨fun id message hlookup hdeleted ↦ ?_, fun msg hholds ↦ ?_⟩
    · rw [happened_concat_iff hpast]
      have heffect := messageEffect_of_step hstep id
      rw [hlookup] at heffect
      generalize hfound : some message = found at heffect
      cases heffect with
      | unchanged => exact Or.inl (hmessages id message hfound.symm hdeleted)
      | @created task request inserted htask =>
        obtain ⟨built, order, ⟨auth, req, newId, now, -, -, hprepare⟩, rfl⟩ :=
          backed_of_run hpast _ _ htask
        obtain ⟨content, -, rfl⟩ := createMessagePrepare_eq_ok hprepare
        rw [Option.some.inj hfound] at hdeleted
        exact absurd hdeleted Bool.false_ne_true
      | edited htask hstored =>
        rw [Option.some.inj hfound] at hdeleted
        exact absurd hdeleted Bool.false_ne_true
      | deleted htask hstored =>
        exact Or.inr ((deleteReturnsOk_iff_lookup htask).mpr ⟨_, hstored⟩)
      | @archived now pass msg stored remaining response patchId hphase hid hpatch hstored =>
        rw [Option.some.inj hfound] at hdeleted
        have hpass : pass = .deleted := by
          cases pass with
          | pending => exact absurd hdeleted Bool.false_ne_true
          | updated => exact absurd hdeleted Bool.false_ne_true
          | deleted => rfl
        have hholds : before.worker.phase.Holds .deleted msg := by
          rw [hphase, hpass]
          exact ⟨rfl, List.mem_cons_self⟩
        exact Or.inl (hid ▸ hworker msg hholds)
    · rw [happened_concat_iff hpast]
      rcases holds_of_step hstep hholds with hheld | ⟨listing, -, -, ⟨key, hlookup⟩, hstatus⟩
      · exact Or.inl (hworker msg hheld)
      · have hid := (nonceIndexed_of_run hpast).filed key msg hlookup
        refine Or.inl (hmessages msg.id msg (hid ▸ hlookup) ?_)
        rw [hstatus]
        rfl

/-- Assumes: every step spares the deleted messages. A message that was deleted has a deleted
status. -/
theorem isDeleted_of_sparesDeleted
    (hspares : EveryStep relayer.step SparesDeleted .init actions)
    (hrun : relayer.run actions = some before)
    (hdeleted : Happened relayer.step .init actions (DeleteReturnsOk id)) :
    ∃ message, before.storage.messages.lookup id = some message ∧
      message.syncStatus.isDeleted = true := by
  refine history_induction_of_everyStep (fun past reached ↦
    Happened relayer.step .init past (DeleteReturnsOk id) →
      ∃ message, reached.storage.messages.lookup id = some message ∧
        message.syncStatus.isDeleted = true) ?_ ?_ hspares hrun hdeleted
  · exact fun hhappened ↦ absurd hhappened not_happened_nil
  · intro past before action after hpast hkept hspared hstep hhappened
    have heffect := messageEffect_of_step hstep id
    rw [happened_concat_iff hpast] at hhappened
    rcases hhappened with hearlier | ⟨task, request, now, deleted, rfl, htask, hok⟩
    · obtain ⟨message, hlookup, hstatus⟩ := hkept hearlier
      generalize after.storage.messages.lookup id = found at heffect
      cases heffect with
      | unchanged => exact ⟨message, hlookup, hstatus⟩
      | created htask hid hnone => simp [hlookup] at hnone
      | edited htask hstored hnonce =>
        obtain rfl := Option.some.inj (hlookup.symm.trans hstored)
        obtain ⟨hdiffers, hused⟩ := hspared _ _ _ _ htask hlookup hstatus
        rcases hnonce with hsame | hunused
        · exact absurd hsame hdiffers
        · exact absurd hused hunused
      | deleted htask hstored => exact ⟨_, rfl, rfl⟩
      | @archived now pass msg stored remaining response patchId hphase hid hpatch hstored =>
        obtain rfl := Option.some.inj (hlookup.symm.trans hstored)
        subst hid
        rcases hspared _ _ _ _ _ hphase hlookup hstatus with rfl | hnone
        · exact ⟨_, rfl, rfl⟩
        · simp [hpatch] at hnone
    · obtain ⟨stored, hlookup⟩ :=
        (deleteReturnsOk_iff_lookup htask).mp ⟨task, request, now, deleted, rfl, htask, hok⟩
      have hwritten : after.storage =
          (before.storage.deleteMessage id now).2 := by
        rw [step_delete now htask] at hstep
        rw [← Option.some.inj hstep]
        rfl
      rcases before.storage.deleteMessage_cases id now with ⟨hnone, -⟩ | ⟨found, -, hresult⟩
      · simp [hlookup] at hnone
      · rw [hwritten, hresult]
        exact ⟨_, Finmap.lookup_insert _, rfl⟩

/-- In a run deletion is permanent exactly when every step spares the deleted messages. -/
theorem deletionPermanent_iff (relayer : Relayer) (actions : List Action) :
    DeletionPermanent relayer actions ↔
      EveryStep relayer.step SparesDeleted .init actions := by
  constructor
  · intro hpermanent past action rest before hsplit hpast
    -- A step that does not spare a deleted message leaves it with another status.
    have hlasting : ∀ id stored after message,
        before.storage.messages.lookup id = some stored → stored.syncStatus.isDeleted = true →
        relayer.step before action = some after →
        after.storage.messages.lookup id = some message → message.syncStatus.isDeleted = true := by
      intro id stored after message hlookup hdeleted hstep hafter
      have hhappened := (happened_of_isDeleted hpast).1 id stored hlookup hdeleted
      obtain ⟨found, hfound, hstatus, -⟩ := hpermanent (past ++ [action]) rest after id
        (by rw [hsplit]; simp) (runFrom_concat_eq_some.mpr ⟨before, hpast, hstep⟩)
        ((happened_concat_iff hpast).mpr (Or.inl hhappened))
      obtain rfl := Option.some.inj (hafter.symm.trans hfound)
      exact (isDeleted_iff _).mpr hstatus
    cases action with
    | write task now =>
      intro request id content stored htask hlookup hdeleted
      by_contra haccepted
      have hwritten : (before.storage.updateMessage id content now).2.messages.lookup id =
          some (stored.updateContent content now) := by
        simp only [InMemoryStorage.updateMessage, hlookup, ne_eq]
        rw [if_neg haccepted]
        exact Finmap.lookup_insert _
      exact absurd (hlasting id stored _ _ hlookup hdeleted (step_update now htask) hwritten)
        Bool.false_ne_true
    | writeBack now =>
      intro pass msg remaining response stored hphase hlookup hdeleted
      by_contra hoverwrites
      obtain ⟨hpass, hpatch⟩ := not_or.mp hoverwrites
      obtain ⟨patchId, hpatchId⟩ := Option.ne_none_iff_exists'.mp hpatch
      have hwritten : (writeBackMessage before.storage pass msg response now).messages.lookup
          msg.id = some (stored.withSyncStatus pass.toStatus (some patchId) now) :=
        lookup_writeBackMessage now hpatchId hlookup
      have hstatus :=
        hlasting msg.id stored _ _ hlookup hdeleted (step_writeBack now hphase) hwritten
      cases pass with
      | pending => exact absurd hstatus Bool.false_ne_true
      | updated => exact absurd hstatus Bool.false_ne_true
      | deleted => exact hpass rfl
    | arrive task request now => trivial
    | prepare task id now => trivial
    | takeOrder task => trivial
    | insert task => trivial
    | notify task => trivial
    | respond task now => trivial
    | fetch task => trivial
    | read task listing => trivial
    | suiEvent event => trivial
    | tick => trivial
    | receive => trivial
    | snapshot listing => trivial
    | upload reply => trivial
    | finishPass => trivial
  · intro hspares past rest reached id hsplit hpast hhappened
    rw [hsplit] at hspares
    obtain ⟨message, hlookup, hdeleted⟩ :=
      isDeleted_of_sparesDeleted hspares.of_append hpast hhappened
    exact ⟨message, hlookup, (isDeleted_iff _).mp hdeleted, hdeleted⟩

end Deletion

/-! ### A deletion between an upload and its write-back -/

/-- Assumes: an accepted delete request for a message of the sender in the group. Served without
interruption it is a deletion that returns. -/
theorem happened_serveDelete {relayer : Relayer} {past : List Action} {system : System}
    {task : TaskId} {request : Request} {auth : AuthContext} {admitted written : DateTime}
    {id : Uuid} {existing : Message} (hpast : relayer.run past = some system)
    (hfresh : system.tasks.lookup task = none)
    (hadmission : relayer.admission system.membership admitted request =
      .calling (.deleteMessage auth id))
    (hexisting : system.storage.messages.lookup id = some existing)
    (hcheck : deleteMessageCheck auth existing = .ok ()) :
    Happened relayer.step .init (past ++ serveDelete task request admitted written)
      (DeleteReturnsOk id) := by
  have hchecked : relayer.run (past ++ [Action.arrive task request admitted, .fetch task]) =
      some (system.setTask task request (.deleting id)) :=
    runFrom_append_eq_some.mpr ⟨_, hpast, runFrom_checkDelete hfresh hadmission hexisting hcheck⟩
  refine ⟨past ++ [Action.arrive task request admitted, .fetch task], .write task written, [], _,
    ?_, hchecked, ?_⟩
  · simp [serveDelete]
  · exact (deleteReturnsOk_iff_lookup (System.lookup_setTask _ _ _ _)).mpr ⟨existing, hexisting⟩

/-- The client deletes its message after it was uploaded and before it is written back. -/
def sampleDeletion : List Action :=
  samplePosting ++ sampleSnapshot ++ sampleUpload ++
    serveDelete 1 deleteRequest (sampleClock 3) (sampleClock 4)

/-- The storage after the deletion. -/
def sampleDeletedStorage : InMemoryStorage :=
  { samplePostedStorage with
    messages := samplePostedStorage.messages.insert sampleMessageId
      (sampleMessage.markForDeletion (sampleClock 4)) }

/-- The write-back makes the deleted message one that is not deleted. -/
theorem lookup_writeBack_sampleDeletedStorage :
    (writeBackMessage sampleDeletedStorage .pending sampleMessage sampleReply
      (sampleClock 5)).messages.lookup sampleMessageId =
        some ((sampleMessage.markForDeletion (sampleClock 4)).withSyncStatus .synced
          (some "sample-patch") (sampleClock 5)) :=
  lookup_writeBackMessage (sampleClock 5) getPatchId_sampleReply (Finmap.lookup_insert _)

/-- A client deletes its message between the upload of the message and its write-back, and the
deletion does not last. -/
theorem not_deletionPermanent_of_writeBack :
    ¬ ∀ relayer actions, DeletionPermanent relayer actions := by
  intro hpermanent
  have hfresh : sampleUploaded.tasks.lookup 1 = none := tasks_samplePosted (by decide)
  have howned : OwnedByClient sampleMessage := ⟨rfl, rfl⟩
  have hcheck := checkOwnership_sampleAuth howned "delete"
  have hadmission : sampleRelayer.admission sampleUploaded.membership (sampleClock 3)
      deleteRequest = .calling (.deleteMessage sampleAuth sampleMessageId) :=
    admission_deleteRequest (by decide)
  have hdeleted : sampleRelayer.run sampleDeletion = some ({ sampleUploaded with
      storage := sampleDeletedStorage }.setTask 1 deleteRequest (.done (.deleted ⟨⟩))) :=
    runFrom_append_eq_some.mpr ⟨_, run_sampleUpload,
      runFrom_serveDelete hfresh hadmission lookup_samplePostedStorage hcheck⟩
  have hreturned : Happened sampleRelayer.step .init sampleDeletion
      (DeleteReturnsOk sampleMessageId) :=
    happened_serveDelete run_sampleUpload hfresh hadmission lookup_samplePostedStorage hcheck
  have hhappened : Happened sampleRelayer.step .init
      (sampleDeletion ++ [.writeBack (sampleClock 5)]) (DeleteReturnsOk sampleMessageId) :=
    (happened_concat_iff hdeleted).mpr (Or.inl hreturned)
  have hwritten := runFrom_concat_eq_some.mpr ⟨_, hdeleted,
    step_writeBack (sampleClock 5) rfl⟩
  obtain ⟨message, hlookup, -, hlasting⟩ :=
    hpermanent sampleRelayer _ _ [] _ sampleMessageId (List.append_nil _).symm hwritten hhappened
  have hsame : message = (sampleMessage.markForDeletion (sampleClock 4)).withSyncStatus .synced
      (some "sample-patch") (sampleClock 5) :=
    Option.some.inj (hlookup.symm.trans lookup_writeBack_sampleDeletedStorage)
  rw [hsame] at hlasting
  exact absurd hlasting Bool.false_ne_true

end MessagingRelayer
