import MessagingRelayer.System.Archive
import MessagingRelayer.System.StoredContent

/-!
# Where the archive and its identifiers come from

A patch of the archive is the copy of a message as it was stored when the worker took a snapshot
(`archive_authentic`), so the archive has no content that no client has sent, and no group, sender,
order or time that the stored message has not. The patch identifier of a stored message is the one
its last write-back recorded, and an upload of a copy of the message has returned it
(`patchId_recorded`).
-/

set_option autoImplicit false
set_option relaxedAutoImplicit false

namespace MessagingRelayer

open Foundation

/-! ### What the worker does to a message -/

/-- The worker takes a snapshot for the pass, and the message is stored with the status of it. -/
def TakenFor (pass : Pass) (msg : Message) (before : System) (action : Action) : Prop :=
  (∃ listing, action = .snapshot listing) ∧ before.worker.phase = .snapshot pass ∧
    before.storage.messages.lookup msg.id = some msg ∧ msg.syncStatus = pass.fromStatus

/-- The messages of a pass are uploaded, and the publisher replies. -/
def Uploads (pass : Pass) (messages : List Message) (response : QuiltStoreResponse)
    (before : System) (action : Action) : Prop :=
  action = .upload (.ok response) ∧ before.worker.phase = .uploading pass messages

/-- The message is written back with a patch identifier. -/
def RecordsPatch (id : Uuid) (patchId : String) (before : System) (action : Action) : Prop :=
  ∃ now pass msg remaining response, action = .writeBack now ∧
    before.worker.phase = .writingBack pass (msg :: remaining) response ∧ msg.id = id ∧
    response.getPatchId (patchIdentifier id) = some patchId

/-- An upload of a copy of the message has returned the patch identifier. -/
def Returned (relayer : Relayer) (past : List Action) (archive : List Patch) (id : Uuid)
    (patchId : String) : Prop :=
  ∃ pass messages response, Happened relayer.step .init past (Uploads pass messages response) ∧
    (∃ msg ∈ messages, msg.id = id ∧ ⟨patchIdentifier id, pass.copy msg⟩ ∈ archive) ∧
    response.getPatchId (patchIdentifier id) = some patchId

section Worker

variable {relayer : Relayer} {past : List Action} {action : Action} {before after : System}
  {pass : Pass} {msg : Message}

/-- What the worker holds it has taken from the storage in a snapshot for its pass. -/
theorem takenFor_of_holds (hrun : relayer.run past = some before)
    (hholds : before.worker.phase.Holds pass msg) :
    Happened relayer.step .init past (TakenFor pass msg) := by
  refine history_induction (fun past reached ↦ reached.worker.phase.Holds pass msg →
    Happened relayer.step .init past (TakenFor pass msg)) ?_ ?_ hrun hholds
  · exact fun hheld ↦ absurd hheld not_false
  · intro past before action after hpast hearlier hstep hheld
    rw [happened_concat_iff hpast]
    rcases holds_of_step hstep hheld with hold | ⟨listing, haction, hphase, ⟨key, hkey⟩, hstatus⟩
    · exact Or.inl (hearlier hold)
    · have hfiled := (nonceIndexed_of_run hpast).filed key msg hkey
      exact Or.inr ⟨⟨listing, haction⟩, hphase, hfiled ▸ hkey, hstatus⟩

/-- A message that the worker has taken is still stored, with the identity it was taken with. -/
theorem stored_of_takenFor (hrun : relayer.run past = some before)
    (htaken : Happened relayer.step .init past (TakenFor pass msg)) :
    ∃ stored, before.storage.messages.lookup msg.id = some stored ∧
      stored.identity = msg.identity := by
  obtain ⟨first, action, rest, reached, rfl, hfirst, -, -, hlookup, -⟩ := htaken
  obtain ⟨middle, hmiddle, hlater⟩ := runFrom_append_eq_some.mp hrun
  obtain rfl : reached = middle := Option.some.inj (hfirst.symm.trans hmiddle)
  exact identity_kept_of_run hlater msg.id msg hlookup

/-- The content of a message that the worker has taken was carried by an admitted request. -/
theorem carried_of_takenFor (htaken : Happened relayer.step .init past (TakenFor pass msg)) :
    ∃ request task, Carries relayer past task request none msg.content ∨
      Carries relayer past task request (some msg.id) msg.content := by
  obtain ⟨first, action, rest, reached, rfl, hfirst, -, -, hlookup, -⟩ := htaken
  obtain ⟨request, task, -, hcarries⟩ := lastWritten_of_run hfirst hlookup
  exact ⟨request, task, hcarries.imp (Carries.append · _) (Carries.append · _)⟩

/-! ### Patches -/

/-- A patch after a step was there before, or the step uploads it. -/
theorem patch_of_step (hstep : relayer.step before action = some after) {patch : Patch}
    (hmem : patch ∈ after.archive) : patch ∈ before.archive ∨
      ∃ pass messages, before.worker.phase = .uploading pass messages ∧
        ∃ msg ∈ messages, patch = ⟨patchIdentifier msg.id, pass.copy msg⟩ := by
  rcases worker_of_step hstep with ⟨-, hsame⟩ | hmove
  · exact Or.inl (hsame ▸ hmem)
  · generalize after.worker = worker at hmove
    generalize after.archive = archive at hmove hmem
    cases hmove with
    | @uploaded pass messages response hphase =>
      rcases List.mem_append.mp hmem with hold | hnew
      · exact Or.inl hold
      · obtain ⟨msg, hlisted, rfl⟩ := List.mem_map.mp hnew
        exact Or.inr ⟨pass, messages, hphase, msg, hlisted, rfl⟩
    | _ => exact Or.inl hmem

theorem patch_of_run (hrun : relayer.run past = some before) {patch : Patch}
    (hmem : patch ∈ before.archive) :
    ∃ pass msg, patch = ⟨patchIdentifier msg.id, pass.copy msg⟩ ∧
      Happened relayer.step .init past (TakenFor pass msg) := by
  refine history_induction (fun past reached ↦ ∀ patch ∈ reached.archive, ∃ pass msg,
    patch = ⟨patchIdentifier msg.id, pass.copy msg⟩ ∧
      Happened relayer.step .init past (TakenFor pass msg)) ?_ ?_ hrun patch hmem
  · intro patch hmem
    simp [System.init] at hmem
  · intro past before action after hpast hearlier hstep patch hmem
    rcases patch_of_step hstep hmem with hold | ⟨pass, messages, hphase, msg, hlisted, rfl⟩
    · obtain ⟨pass, msg, hcopy, htaken⟩ := hearlier patch hold
      exact ⟨pass, msg, hcopy, htaken.append [action]⟩
    · have hholds : before.worker.phase.Holds pass msg := by
        rw [hphase]
        exact ⟨rfl, hlisted⟩
      exact ⟨pass, msg, rfl, (takenFor_of_holds hpast hholds).append [action]⟩

/-- In every state of every run, a patch of the archive is named by its message and is the copy of
it as it was stored, with the status of the pass, when the worker took a snapshot; its content was
carried by an admitted request; and the message is still stored with the same group, sender, order
and time of creation. -/
theorem archive_authentic (hrun : relayer.run past = some before) {patch : Patch}
    (hmem : patch ∈ before.archive) :
    ∃ pass msg, patch = ⟨patchIdentifier msg.id, pass.copy msg⟩ ∧
      Happened relayer.step .init past (TakenFor pass msg) ∧
      (∃ request task, Carries relayer past task request none msg.content ∨
        Carries relayer past task request (some msg.id) msg.content) ∧
      ∃ stored, before.storage.messages.lookup msg.id = some stored ∧
        stored.identity = msg.identity := by
  obtain ⟨pass, msg, hcopy, htaken⟩ := patch_of_run hrun hmem
  exact ⟨pass, msg, hcopy, htaken, carried_of_takenFor htaken, stored_of_takenFor hrun htaken⟩

/-- The one patch of the archive after the upload is the copy of the client's message. -/
theorem archive_authentic_sampleUpload :
    ∃ pass msg, sampleUploaded.archive = [⟨patchIdentifier msg.id, pass.copy msg⟩] ∧
      Happened sampleRelayer.step .init (samplePosting ++ sampleSnapshot ++ sampleUpload)
        (TakenFor pass msg) := by
  obtain ⟨pass, msg, hpatch, htaken, -⟩ :=
    archive_authentic run_sampleUpload (List.mem_singleton_self _)
  exact ⟨pass, msg, congrArg (fun patch : Patch ↦ [patch]) hpatch, htaken⟩

/-! ### Replies -/

/-- What is still to be written back has been uploaded, and the reply is that of the upload. -/
theorem uploads_of_writingBack (hrun : relayer.run past = some before) {remaining : List Message}
    {response : QuiltStoreResponse}
    (hphase : before.worker.phase = .writingBack pass remaining response) :
    ∃ messages, Happened relayer.step .init past (Uploads pass messages response) ∧
      ∀ msg ∈ remaining, msg ∈ messages ∧
        ⟨patchIdentifier msg.id, pass.copy msg⟩ ∈ before.archive := by
  refine history_induction (fun past reached ↦ ∀ pass remaining response,
    reached.worker.phase = .writingBack pass remaining response →
      ∃ messages, Happened relayer.step .init past (Uploads pass messages response) ∧
        ∀ msg ∈ remaining, msg ∈ messages ∧
          ⟨patchIdentifier msg.id, pass.copy msg⟩ ∈ reached.archive) ?_ ?_ hrun pass remaining
    response hphase
  · intro pass remaining response hphase
    simp [System.init, SyncWorker.new] at hphase
  · intro past before action after hpast hearlier hstep pass remaining response hafter
    have hkept {earlier : List Message}
        (hphase : before.worker.phase = .writingBack pass earlier response)
        (hsubset : ∀ msg ∈ remaining, msg ∈ earlier) :
        ∃ messages, Happened relayer.step .init (past ++ [action])
          (Uploads pass messages response) ∧ ∀ msg ∈ remaining, msg ∈ messages ∧
            ⟨patchIdentifier msg.id, pass.copy msg⟩ ∈ after.archive := by
      obtain ⟨messages, huploads, hlisted⟩ := hearlier pass earlier response hphase
      exact ⟨messages, huploads.append [action], fun msg hmsg ↦
        ⟨(hlisted msg (hsubset msg hmsg)).1, archive_mono hstep (hlisted msg (hsubset msg hmsg)).2⟩⟩
    rcases worker_of_step hstep with ⟨hsame, -⟩ | hmove
    · exact hkept (hsame ▸ hafter) fun msg hmsg ↦ hmsg
    · generalize after.worker = worker at hmove hafter
      generalize after.archive = archive at hmove hkept ⊢
      cases hmove with
      | ticked hphase => exact absurd hafter (by simp [SyncWorker.startCycle])
      | received hphase =>
        unfold SyncWorker.receive at hafter
        simp only at hafter
        split_ifs at hafter
        · simp [hphase] at hafter
        · simp [SyncWorker.startCycle] at hafter
      | @snapped taken listing hphase hlisting =>
        unfold SyncWorker.takeSnapshot at hafter
        split_ifs at hafter
        · cases taken <;> simp [SyncWorker.leavePass, Pass.next] at hafter
      | @failed taken messages err hphase =>
        cases taken <;> simp [SyncWorker.leavePass, Pass.next] at hafter
      | @uploaded taken messages reply hphase =>
        obtain ⟨rfl, rfl, rfl⟩ : taken = pass ∧ messages = remaining ∧ reply = response := by
          simpa using hafter
        refine ⟨messages, (happened_concat_iff hpast).mpr (Or.inr ⟨rfl, hphase⟩),
          fun msg hmsg ↦ ⟨hmsg, List.mem_append_right _ (List.mem_map_of_mem hmsg)⟩⟩
      | @wroteBack taken msg rest reply now hphase =>
        obtain ⟨rfl, rfl, rfl⟩ : taken = pass ∧ rest = remaining ∧ reply = response := by
          simpa using hafter
        exact hkept hphase fun other hother ↦ List.mem_cons_of_mem msg hother
      | @finished taken reply hphase =>
        cases taken <;> simp [SyncWorker.leavePass, Pass.next] at hafter

end Worker

/-! ### Patch identifiers -/

section Recorded

variable {relayer : Relayer} {past : List Action} {action : Action} {before after : System}
  {id : Uuid} {patchId : String} {stored : Message}

/-- A step records one patch identifier for a message at most. -/
theorem RecordsPatch.eq {other : String} (hrecords : RecordsPatch id patchId before action)
    (hother : RecordsPatch id other before action) : patchId = other := by
  obtain ⟨now, pass, msg, remaining, response, -, hphase, -, hpatch⟩ := hrecords
  obtain ⟨later, taken, written, rest, reply, -, hagain, -, hfound⟩ := hother
  obtain ⟨-, -, rfl⟩ := SyncPhase.writingBack.inj (hphase.symm.trans hagain)
  exact Option.some.inj (hpatch.symm.trans hfound)

/-- A message that is written back is stored, and has the patch identifier afterwards. -/
theorem RecordsPatch.lookup (hrun : relayer.run past = some before)
    (hstep : relayer.step before action = some after)
    (hrecords : RecordsPatch id patchId before action) :
    ∃ stored, ∃ pass : Pass, ∃ now : DateTime,
      before.storage.messages.lookup id = some stored ∧
      after.storage.messages.lookup id =
        some (stored.withSyncStatus pass.toStatus (some patchId) now) := by
  obtain ⟨now, pass, msg, remaining, response, rfl, hphase, rfl, hpatch⟩ := hrecords
  have hholds : before.worker.phase.Holds pass msg := by
    rw [hphase]
    exact ⟨rfl, List.mem_cons_self⟩
  obtain ⟨stored, hstored, -⟩ := stored_of_takenFor hrun (takenFor_of_holds hrun hholds)
  rw [step_writeBack now hphase] at hstep
  refine ⟨stored, pass, now, hstored, ?_⟩
  rw [← Option.some.inj hstep]
  exact lookup_writeBackMessage now hpatch hstored

/-- A message about to be inserted waits for its first archival. -/
theorem fresh_of_inserting {task : TaskId} {request : Request} {message : Message}
    (hrun : relayer.run past = some before)
    (htask : before.tasks.lookup task = some ⟨request, .inserting message⟩) :
    message.quiltPatchId = none ∧ message.syncStatus = .syncPending := by
  obtain ⟨built, order, ⟨auth, req, id, now, -, -, hprepare⟩, rfl⟩ := backed_of_run hrun _ _ htask
  obtain ⟨content, -, rfl⟩ := createMessagePrepare_eq_ok hprepare
  exact ⟨rfl, rfl⟩

/-- A message after a step that records no patch identifier for it has the one it had, or has just
been created without one. -/
theorem quiltPatchId_of_step (hrun : relayer.run past = some before)
    (hstep : relayer.step before action = some after)
    (hother : ∀ patchId, ¬ RecordsPatch id patchId before action)
    (hlookup : after.storage.messages.lookup id = some stored) :
    (∃ earlier, before.storage.messages.lookup id = some earlier ∧
      stored.quiltPatchId = earlier.quiltPatchId) ∨
    (before.storage.messages.lookup id = none ∧ stored.quiltPatchId = none) := by
  have heffect := messageEffect_of_step hstep id
  rw [hlookup] at heffect
  generalize hfound : some stored = found at heffect
  cases heffect with
  | unchanged => exact Or.inl ⟨stored, hfound.symm, rfl⟩
  | created htask hid hnone =>
    obtain rfl := Option.some.inj hfound
    exact Or.inr ⟨hnone, (fresh_of_inserting hrun htask).1⟩
  | edited htask hstored =>
    obtain rfl := Option.some.inj hfound
    exact Or.inl ⟨_, hstored, rfl⟩
  | deleted htask hstored =>
    obtain rfl := Option.some.inj hfound
    exact Or.inl ⟨_, hstored, rfl⟩
  | @archived now pass msg earlier remaining response found hphase hid hpatch hstored =>
    exact absurd ⟨now, pass, msg, remaining, response, rfl, hphase, hid, hpatch⟩ (hother found)

/-- The patch identifier of a stored message is the one that was recorded last, and for a message
that is not stored none was recorded. -/
theorem lastRecorded_of_run (hrun : relayer.run past = some before) (id : Uuid) :
    (∀ stored, before.storage.messages.lookup id = some stored → ∀ patchId,
      stored.quiltPatchId = some patchId ↔
        LastHappened relayer.step .init past (RecordsPatch id) patchId) ∧
    (before.storage.messages.lookup id = none → ∀ patchId,
      ¬ LastHappened relayer.step .init past (RecordsPatch id) patchId) := by
  refine history_induction (fun past reached ↦
    (∀ stored, reached.storage.messages.lookup id = some stored → ∀ patchId,
      stored.quiltPatchId = some patchId ↔
        LastHappened relayer.step .init past (RecordsPatch id) patchId) ∧
    (reached.storage.messages.lookup id = none → ∀ patchId,
      ¬ LastHappened relayer.step .init past (RecordsPatch id) patchId)) ?_ ?_ hrun
  · refine ⟨fun stored hlookup ↦ ?_, fun _ patchId ↦ not_lastHappened_nil⟩
    simp [System.init, InMemoryStorage.new] at hlookup
  · rintro past before action after hpast ⟨hstored, hfresh⟩ hstep
    by_cases hrecords : ∃ patchId, RecordsPatch id patchId before action
    · -- The identifier that the step records is the last one, whatever there was before.
      obtain ⟨recorded, hrecords⟩ := hrecords
      obtain ⟨earlier, pass, now, -, hafter⟩ := hrecords.lookup hpast hstep
      refine ⟨fun stored hlookup patchId ↦ ?_, fun hnone ↦ by simp [hafter] at hnone⟩
      obtain rfl := Option.some.inj (hafter.symm.trans hlookup)
      rw [lastHappened_concat_iff hpast hstep]
      show some recorded = some patchId ↔ _
      constructor
      · intro hsame
        exact Or.inl (Option.some.inj hsame ▸ hrecords)
      · rintro (hlast | ⟨-, hother⟩)
        · exact congrArg some (hrecords.eq hlast)
        · exact absurd hrecords (hother recorded)
    · have hother : ∀ patchId, ¬ RecordsPatch id patchId before action := not_exists.mp hrecords
      have hsame (patchId : String) :
          LastHappened relayer.step .init (past ++ [action]) (RecordsPatch id) patchId ↔
            LastHappened relayer.step .init past (RecordsPatch id) patchId := by
        rw [lastHappened_concat_iff hpast hstep]
        exact ⟨fun hlast ↦ hlast.elim (absurd · (hother patchId)) And.left,
          fun hlast ↦ Or.inr ⟨hlast, hother⟩⟩
      constructor
      · intro stored hlookup patchId
        rw [hsame]
        rcases quiltPatchId_of_step hpast hstep hother hlookup with ⟨earlier, hearlier, hkept⟩ |
          ⟨hnone, hempty⟩
        · rw [hkept]
          exact hstored earlier hearlier patchId
        · rw [hempty]
          exact iff_of_false (Option.some_ne_none _).symm (hfresh hnone patchId)
      · intro hnone patchId
        rw [hsame]
        refine hfresh (Option.eq_none_iff_forall_ne_some.mpr fun earlier hearlier ↦ ?_) patchId
        obtain ⟨kept, hkept, -⟩ := identityKept_of_step hstep id earlier hearlier
        simp [hnone] at hkept

/-- The status of a message says whether it has a patch identifier: none while it waits for its
first archival, and one when it is archived. -/
def HasPatchOnceArchived (message : Message) : Prop :=
  (message.syncStatus = .syncPending → message.quiltPatchId = none) ∧
    (message.syncStatus.isArchived = true → message.quiltPatchId ≠ none)

theorem hasPatchOnceArchived_of_waiting (hother : stored.syncStatus ≠ .syncPending)
    (hwaits : stored.syncStatus.isArchived = false) : HasPatchOnceArchived stored :=
  ⟨fun hpending ↦ absurd hpending hother,
    fun harchived ↦ absurd (harchived.symm.trans hwaits) (by decide)⟩

theorem hasPatchOnceArchived_of_run (hrun : relayer.run past = some before)
    (hlookup : before.storage.messages.lookup id = some stored) : HasPatchOnceArchived stored := by
  refine history_induction (fun past reached ↦ ∀ stored,
    reached.storage.messages.lookup id = some stored → HasPatchOnceArchived stored) ?_ ?_ hrun
      stored hlookup
  · intro stored hlookup
    simp [System.init, InMemoryStorage.new] at hlookup
  · intro past before action after hpast hearlier hstep stored hlookup
    have heffect := messageEffect_of_step hstep id
    rw [hlookup] at heffect
    generalize hfound : some stored = found at heffect
    cases heffect with
    | unchanged => exact hearlier stored hfound.symm
    | created htask hid hnone =>
      obtain rfl := Option.some.inj hfound
      obtain ⟨hnumber, hstatus⟩ := fresh_of_inserting hpast htask
      exact ⟨fun _ ↦ hnumber, fun harchived ↦ by simp [hstatus, SyncStatus.isArchived] at harchived⟩
    | edited htask hstored =>
      obtain rfl := Option.some.inj hfound
      exact hasPatchOnceArchived_of_waiting (by simp [Message.updateContent]) rfl
    | deleted htask hstored =>
      obtain rfl := Option.some.inj hfound
      exact hasPatchOnceArchived_of_waiting (by simp [Message.markForDeletion]) rfl
    | @archived now pass msg earlier remaining response found hphase hid hpatch hstored =>
      obtain rfl := Option.some.inj hfound
      refine ⟨fun hpending ↦ ?_, fun _ ↦ Option.some_ne_none found⟩
      cases pass <;> exact absurd hpending (by simp [Message.withSyncStatus, Pass.toStatus])

/-- A patch identifier that was recorded for a message an upload of its copy has returned. -/
theorem returned_of_records (hrun : relayer.run past = some before)
    (hrecords : RecordsPatch id patchId before action) :
    Returned relayer past before.archive id patchId := by
  obtain ⟨now, pass, msg, remaining, response, -, hphase, rfl, hpatch⟩ := hrecords
  obtain ⟨messages, huploads, hlisted⟩ := uploads_of_writingBack hrun hphase
  obtain ⟨hmem, hpatched⟩ := hlisted msg List.mem_cons_self
  exact ⟨pass, messages, response, huploads, ⟨msg, hmem, rfl, hpatched⟩, hpatch⟩

/-- In every state of every run, a stored message has the patch identifier that its last write-back
recorded, which an upload of its copy has returned; it has none while it waits for its first
archival, and one when its status says that it is archived. -/
theorem patchId_recorded (hrun : relayer.run past = some before)
    (hlookup : before.storage.messages.lookup id = some stored) :
    (∀ patchId, stored.quiltPatchId = some patchId ↔
      LastHappened relayer.step .init past (RecordsPatch id) patchId) ∧
    (∀ patchId, stored.quiltPatchId = some patchId →
      Returned relayer past before.archive id patchId) ∧
    (stored.syncStatus = .syncPending → stored.quiltPatchId = none) ∧
    (stored.syncStatus.isArchived = true → stored.quiltPatchId ≠ none) := by
  have hlast := (lastRecorded_of_run hrun id).1 stored hlookup
  refine ⟨hlast, fun patchId hpatch ↦ ?_, hasPatchOnceArchived_of_run hrun hlookup⟩
  obtain ⟨first, action, rest, reached, after, rfl, hfirst, hrecords, hstep, -⟩ :=
    (hlast patchId).mp hpatch
  obtain ⟨pass, messages, response, huploads, ⟨msg, hmem, hid, hpatched⟩, hfound⟩ :=
    returned_of_records hfirst hrecords
  obtain ⟨middle, hmiddle, hlater⟩ := runFrom_append_eq_some.mp hrun
  obtain rfl : reached = middle := Option.some.inj (hfirst.symm.trans hmiddle)
  refine ⟨pass, messages, response, huploads.append _, ⟨msg, hmem, hid, ?_⟩, hfound⟩
  exact invariant_of_run (fun system ↦ (⟨patchIdentifier id, pass.copy msg⟩ : Patch) ∈
    system.archive) hpatched (fun _ _ _ hkept hstep ↦ archive_mono hstep hkept) hlater

/-- The client's message has been written back: its patch identifier was recorded. -/
theorem patchId_recorded_sampleUpload :
    LastHappened sampleRelayer.step .init
      (samplePosting ++ sampleSnapshot ++ sampleUpload ++ [.writeBack (sampleClock 3)])
      (RecordsPatch sampleMessageId) "sample-patch" := by
  have hwritten : (writeBackMessage samplePostedStorage .pending sampleMessage sampleReply
      (sampleClock 3)).messages.lookup sampleMessageId =
        some (sampleMessage.withSyncStatus .synced (some "sample-patch") (sampleClock 3)) :=
    lookup_writeBackMessage (sampleClock 3) getPatchId_sampleReply lookup_samplePostedStorage
  have hrun := runFrom_concat_eq_some.mpr
    ⟨_, run_sampleUpload, step_writeBack (sampleClock 3) rfl⟩
  exact ((patchId_recorded hrun hwritten).1 "sample-patch").mp rfl

end Recorded

end MessagingRelayer
