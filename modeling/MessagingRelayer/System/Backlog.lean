import MessagingRelayer.Services.SyncPass
import MessagingRelayer.System.Archive

/-!
# The backlog

The worker counts notifications and starts a cycle when there have been enough. A message is stored
first and its notification sent afterwards, the count starts again at zero after every cycle, and a
cycle takes no more messages than fit into a batch. Still, when the threshold is not above the batch
size and every upload succeeds, the messages that wait to be archived are covered: by the count, by
notifications in the channel, and by requests that have stored their message and not notified the
worker yet (`backlog_bounded`).

The invariant is `Covered`. In the pass that archives new messages those the worker holds are
exempt, and the count stands for nothing any more.
-/

set_option autoImplicit false
set_option relaxedAutoImplicit false

namespace MessagingRelayer

open Foundation

/-! ### What is counted -/

/-- The request has stored its message and not notified the worker yet. -/
def TaskPhase.isNotifying : TaskPhase → Bool
  | .notifying _ => true
  | _ => false

/-- The tasks that have stored a message and not notified the worker yet. -/
def notifying (tasks : HashMap TaskId Task) : Finset TaskId :=
  tasks.keys.filter fun task ↦ (tasks.lookup task).any (·.phase.isNotifying)

namespace System

/-- The messages that were never archived. -/
def pending (system : System) : Finset Uuid :=
  system.storage.idsWithStatus .syncPending

/-- The notifications that are sent and not received, or still to be sent. -/
def unreceived (system : System) : Nat :=
  system.notifications + (notifying system.tasks).card

end System

/-- The messages that the worker has in the snapshot of its first pass. -/
def SyncPhase.exempt : SyncPhase → Finset Uuid
  | .uploading .pending messages => (messages.map Message.id).toFinset
  | .writingBack .pending remaining _ => (remaining.map Message.id).toFinset
  | _ => ∅

/-- The notifications received that no snapshot has answered yet. -/
def SyncWorker.unanswered (worker : SyncWorker) : Nat :=
  match worker.phase with
  | .waiting => worker.messageCount
  | .snapshot .pending => worker.messageCount
  | _ => 0

/-- If the step is the reply to an upload, the upload succeeds with a patch identifier for every
message. -/
def UploadSucceeds (before : System) (action : Action) : Prop :=
  ∀ pass messages reply, before.worker.phase = .uploading pass messages →
    action = .upload reply → ∃ response, reply = .ok response ∧
      ∀ msg ∈ messages, response.getPatchId (patchIdentifier msg.id) ≠ none

/-- The count stays below the threshold while the worker waits; the messages never archived, without
those the worker is archiving, are covered by notifications; and what the worker writes back has a
patch. -/
structure Covered (threshold : Nat) (system : System) : Prop where
  waiting : system.worker.phase = .waiting → system.worker.messageCount < threshold
  starting : system.worker.phase = .snapshot .pending → system.worker.messageCount ≤ threshold
  covered : (system.pending \ system.worker.phase.exempt).card ≤
    system.worker.unanswered + system.unreceived
  answered : ∀ remaining response, system.worker.phase = .writingBack .pending remaining response →
    ∀ msg ∈ remaining, response.getPatchId (patchIdentifier msg.id) ≠ none

/-! ### What a step does to the counts -/

/-- The step stores a new message. -/
def Inserts (before : System) (action : Action) : Prop :=
  ∃ task request message, action = .insert task ∧
    before.tasks.lookup task = some ⟨request, .inserting message⟩ ∧
    before.storage.messages.lookup message.id = none ∧ message.nonce ∉ before.storage.nonces

section Counts

variable {relayer : Relayer} {before after : System} {action : Action} {task : TaskId}
  {tasks : HashMap TaskId Task} {request : Request} {phase : TaskPhase} {id : Uuid}

theorem mem_notifying :
    task ∈ notifying tasks ↔
      ∃ found, tasks.lookup task = some found ∧ found.phase.isNotifying = true := by
  unfold notifying
  rw [Finset.mem_filter, Option.any_eq_true]
  constructor
  · rintro ⟨-, found, hfound, hnotifying⟩
    exact ⟨found, hfound, hnotifying⟩
  · rintro ⟨found, hfound, hnotifying⟩
    exact ⟨Finmap.mem_keys.mpr (Finmap.mem_of_lookup_eq_some hfound), found, hfound, hnotifying⟩

/-- A message that was never archived after a step was so before, or the step stores it. -/
theorem pending_of_step (hstep : relayer.step before action = some after)
    (hid : id ∈ after.pending) :
    id ∈ before.pending ∨ ∃ task request message, action = .insert task ∧
      before.tasks.lookup task = some ⟨request, .inserting message⟩ ∧ message.id = id ∧
      before.storage.messages.lookup id = none ∧ message.nonce ∉ before.storage.nonces := by
  obtain ⟨message, hlookup, hstatus⟩ := InMemoryStorage.mem_idsWithStatus.mp hid
  have heffect := messageEffect_of_step hstep id
  rw [hlookup] at heffect
  generalize hfound : some message = found at heffect
  cases heffect with
  | unchanged =>
    exact Or.inl (InMemoryStorage.mem_idsWithStatus.mpr ⟨message, hfound.symm, hstatus⟩)
  | @created task request inserted htask hsame hnone hnonce =>
    exact Or.inr ⟨task, request, inserted, rfl, htask, hsame, hnone, hnonce⟩
  | edited htask hstored =>
    rw [Option.some.inj hfound] at hstatus
    exact absurd hstatus (by simp [Message.updateContent])
  | deleted htask hstored =>
    rw [Option.some.inj hfound] at hstatus
    exact absurd hstatus (by simp [Message.markForDeletion])
  | @archived now pass msg stored remaining response patchId hphase hsame hpatch hstored =>
    rw [Option.some.inj hfound] at hstatus
    have hpass : pass.toStatus = .syncPending := hstatus
    cases pass <;> exact absurd hpass (by decide)

/-- Unless a step stores a new message, no message becomes one that was never archived. -/
theorem pending_subset (hstep : relayer.step before action = some after)
    (hnot : ¬ Inserts before action) : after.pending ⊆ before.pending := by
  intro id hid
  rcases pending_of_step hstep hid with hbefore | ⟨task, request, message, rfl, htask, rfl, hrest⟩
  · exact hbefore
  · exact absurd ⟨task, request, message, rfl, htask, hrest⟩ hnot

/-- A step that stores a new message adds one to those that were never archived. -/
theorem pending_subset_insert (hstep : relayer.step before action = some after)
    (hinserts : Inserts before action) : ∃ id, after.pending ⊆ insert id before.pending := by
  obtain ⟨task, request, message, rfl, htask, -⟩ := hinserts
  refine ⟨message.id, fun id hid ↦ ?_⟩
  rw [Finset.mem_insert]
  rcases pending_of_step hstep hid with hbefore | ⟨other, again, found, hinsert, hfound, rfl, -⟩
  · exact Or.inr hbefore
  · obtain rfl : task = other := by simpa using hinsert
    rw [htask] at hfound
    obtain ⟨-, rfl⟩ : request = again ∧ message = found := by simpa using hfound
    exact Or.inl rfl

theorem notifying_insert (tasks : HashMap TaskId Task) (task : TaskId) (request : Request)
    (phase : TaskPhase) :
    notifying (tasks.insert task ⟨request, phase⟩) =
      if phase.isNotifying then insert task (notifying tasks)
      else (notifying tasks).erase task := by
  ext other
  rw [mem_notifying, HashMap.lookup_insert_eq]
  by_cases hsame : other = task
  · cases hphase : phase.isNotifying <;> simp [hsame, hphase]
  · cases hphase : phase.isNotifying <;> simp [hsame, mem_notifying]

/-- A task that has stored its message and moves on sends the notification. -/
theorem sent_of_notifying (hmove : TaskMove relayer before action task request phase)
    (hnotifying : task ∈ notifying before.tasks) : action.sent = 1 := by
  obtain ⟨found, hfound, hphase⟩ := mem_notifying.mp hnotifying
  have hother : ∀ other, before.tasks.lookup task = some other →
      other.phase.isNotifying = false → action.sent = 1 := by
    intro other hlookup hnot
    obtain rfl := Option.some.inj (hlookup.symm.trans hfound)
    rw [hphase] at hnot
    exact absurd hnot.symm Bool.false_ne_true
  cases hmove with
  | admitted hfresh => simp [hfresh] at hfound
  | notified htask => rfl
  | prepared htask => exact hother _ htask rfl
  | ordered htask => exact hother _ htask rfl
  | inserted htask => exact hother _ htask rfl
  | respondedCreate htask => exact hother _ htask rfl
  | respondedUpdate htask => exact hother _ htask rfl
  | checkedUpdate htask => exact hother _ htask rfl
  | checkedDelete htask => exact hother _ htask rfl
  | updated htask => exact hother _ htask rfl
  | deleted htask => exact hother _ htask rfl
  | answered htask hlisting => exact hother _ htask rfl

theorem card_notifying_insert (hmove : TaskMove relayer before action task request phase) :
    (notifying before.tasks).card ≤
      (notifying (before.tasks.insert task ⟨request, phase⟩)).card + action.sent := by
  rw [notifying_insert]
  by_cases hmem : task ∈ notifying before.tasks
  · rw [sent_of_notifying hmove hmem]
    split_ifs
    · rw [Finset.insert_eq_of_mem hmem]
      exact Nat.le_succ _
    · exact (Finset.card_erase_add_one hmem).ge
  · refine (Finset.card_le_card ?_).trans (Nat.le_add_right _ _)
    split_ifs
    · exact Finset.subset_insert _ _
    · rw [Finset.erase_eq_of_notMem hmem]

/-- The notifications to come only go down when one is received. -/
theorem unreceived_of_step (hstep : relayer.step before action = some after) :
    before.unreceived ≤ after.unreceived + action.taken := by
  unfold System.unreceived
  cases transition_of_step hstep with
  | task hmove hstorage hqueue =>
    have hcard := card_notifying_insert hmove
    simp only
    omega
  | worker hmove hstorage hqueue =>
    simp only
    omega
  | event event => exact Nat.le_add_right _ _

/-- A step that stores a new message makes one more notification to come. -/
theorem unreceived_of_inserts (hstep : relayer.step before action = some after)
    (hinserts : Inserts before action) : before.unreceived < after.unreceived := by
  obtain ⟨task, request, message, rfl, htask, hid, hnonce⟩ := hinserts
  have hnew : task ∉ notifying before.tasks := by
    intro hmem
    obtain ⟨found, hfound, hphase⟩ := mem_notifying.mp hmem
    obtain rfl := Option.some.inj (htask.symm.trans hfound)
    exact absurd hphase Bool.false_ne_true
  rw [step_insert htask] at hstep
  rcases before.storage.insertMessage_cases message with ⟨err, -, htaken | hused⟩ | ⟨-, -, hresult⟩
  · simp [hid] at htaken
  · exact absurd hused hnonce
  · rw [← Option.some.inj hstep, hresult]
    unfold System.unreceived
    have hphase : (TaskPhase.notifying message.id).isNotifying = true := rfl
    show before.notifications + _ < before.notifications + (notifying (before.tasks.insert task
      ⟨request, .notifying message.id⟩)).card
    rw [notifying_insert, if_pos hphase, Finset.card_insert_of_notMem hnew]
    omega

end Counts

/-! ### The invariant -/

section Backlog

variable {relayer : Relayer} {threshold : Nat} {actions : List Action} {before after : System}
  {action : Action}

theorem covered_init (hthreshold : 1 ≤ threshold) : Covered threshold .init where
  waiting _ := hthreshold
  starting hphase := by simp [System.init, SyncWorker.new] at hphase
  covered := by
    have hnone : System.init.pending = ∅ := rfl
    rw [hnone, Finset.empty_sdiff]
    exact Nat.zero_le _
  answered remaining response hphase := by simp [System.init, SyncWorker.new] at hphase

/-- Assumes: the worker does not move. What is stored is matched by notifications to come. -/
theorem Covered.of_worker_eq (hcovered : Covered threshold before)
    (hstep : relayer.step before action = some after) (hworker : after.worker = before.worker)
    (htaken : action.taken = 0) : Covered threshold after where
  waiting hphase := by
    rw [hworker] at hphase ⊢
    exact hcovered.waiting hphase
  starting hphase := by
    rw [hworker] at hphase ⊢
    exact hcovered.starting hphase
  covered := by
    have hbefore := hcovered.covered
    have hcome := unreceived_of_step hstep
    rw [hworker]
    by_cases hinserts : Inserts before action
    · obtain ⟨id, hsubset⟩ := pending_subset_insert hstep hinserts
      have hmore := unreceived_of_inserts hstep hinserts
      have hle : (after.pending \ before.worker.phase.exempt).card ≤
          (before.pending \ before.worker.phase.exempt).card + 1 := by
        refine (Finset.card_le_card fun other hother ↦ ?_).trans (Finset.card_insert_le id _)
        rw [Finset.mem_sdiff] at hother
        rcases Finset.mem_insert.mp (hsubset hother.1) with rfl | hold
        · exact Finset.mem_insert_self _ _
        · exact Finset.mem_insert_of_mem (Finset.mem_sdiff.mpr ⟨hold, hother.2⟩)
      omega
    · have hle := Finset.card_le_card
        (Finset.sdiff_subset_sdiff (pending_subset hstep hinserts)
          (Finset.Subset.refl before.worker.phase.exempt))
      omega
  answered remaining response hphase := by
    rw [hworker] at hphase
    exact hcovered.answered remaining response hphase

/-- A step of the worker stores no new message. -/
theorem not_inserts_of_workerMove {worker : SyncWorker} {archive : List Patch}
    (hmove : WorkerMove relayer before action worker archive) : ¬ Inserts before action := by
  rintro ⟨task, request, message, rfl, -⟩
  cases hmove

theorem covered_of_waiting (hphase : after.worker.phase = .waiting)
    (hcount : after.worker.messageCount < threshold)
    (hcovered : after.pending.card ≤ after.worker.messageCount + after.unreceived) :
    Covered threshold after where
  waiting _ := hcount
  starting hstarting := by simp [hphase] at hstarting
  covered := by
    simp only [hphase, SyncPhase.exempt, SyncWorker.unanswered, Finset.sdiff_empty]
    exact hcovered
  answered remaining response hwriting := by simp [hphase] at hwriting

theorem covered_of_starting (hphase : after.worker.phase = .snapshot .pending)
    (hcount : after.worker.messageCount ≤ threshold)
    (hcovered : after.pending.card ≤ after.worker.messageCount + after.unreceived) :
    Covered threshold after where
  waiting hwaiting := by simp [hphase] at hwaiting
  starting _ := hcount
  covered := by
    simp only [hphase, SyncPhase.exempt, SyncWorker.unanswered, Finset.sdiff_empty]
    exact hcovered
  answered remaining response hwriting := by simp [hphase] at hwriting

/-- After the snapshot of the first pass the count stands for nothing. -/
theorem covered_of_archiving (hwaiting : after.worker.phase ≠ .waiting)
    (hstarting : after.worker.phase ≠ .snapshot .pending)
    (hcovered : (after.pending \ after.worker.phase.exempt).card ≤ after.unreceived)
    (hanswered : ∀ remaining response,
      after.worker.phase = .writingBack .pending remaining response →
        ∀ msg ∈ remaining, response.getPatchId (patchIdentifier msg.id) ≠ none) :
    Covered threshold after where
  waiting hphase := absurd hphase hwaiting
  starting hphase := absurd hphase hstarting
  covered := hcovered.trans (Nat.le_add_left _ _)
  answered := hanswered

/-- Nothing is exempt, and nothing is left to count, when a pass is over. -/
theorem covered_leavePass (hthreshold : 1 ≤ threshold) {worker : SyncWorker} {pass : Pass}
    (hworker : after.worker = worker.leavePass pass)
    (hcovered : after.pending.card ≤ after.unreceived) : Covered threshold after := by
  by_cases hlast : pass = .deleted
  · subst hlast
    have hphase : after.worker = ⟨.waiting, 0⟩ := hworker
    refine covered_of_waiting (by rw [hphase]) (by rw [hphase]; exact hthreshold) ?_
    exact hcovered.trans (Nat.le_add_left _ _)
  · obtain ⟨next, hnext, hphase⟩ : ∃ next, next ≠ Pass.pending ∧
        after.worker.phase = .snapshot next := by
      rw [hworker]
      cases pass with
      | pending => exact ⟨.updated, by decide, rfl⟩
      | updated => exact ⟨.deleted, by decide, rfl⟩
      | deleted => exact absurd rfl hlast
    refine covered_of_archiving (by simp [hphase]) (by simpa [hphase] using hnext) ?_ ?_
    · simp only [hphase, SyncPhase.exempt, Finset.sdiff_empty]
      exact hcovered
    · simp [hphase]

/-- Past the snapshot of the first pass the count stands for nothing. -/
theorem unanswered_eq_zero {worker : SyncWorker} (hwaiting : worker.phase ≠ .waiting)
    (hstarting : worker.phase ≠ .snapshot .pending) : worker.unanswered = 0 := by
  unfold SyncWorker.unanswered
  split
  · exact absurd ‹_› hwaiting
  · exact absurd ‹_› hstarting
  · rfl

/-- Assumes: the worker is past the snapshot of its first pass. The messages it is not archiving are
covered by notifications to come. -/
theorem Covered.archiving (hcovered : Covered threshold before)
    (hunanswered : before.worker.unanswered = 0) :
    (before.pending \ before.worker.phase.exempt).card ≤ before.unreceived := by
  have hle := hcovered.covered
  rw [hunanswered, Nat.zero_add] at hle
  exact hle

/-- The snapshot of the first pass takes all that the count stands for: the count is at most the
batch size. -/
theorem card_sdiff_snapshot {listing : List Message} {batchSize count unreceived : Nat}
    (hindexed : before.storage.NonceIndexed)
    (hlisting : before.storage.messages.IterationOrder listing) (hcount : count ≤ batchSize)
    (hcovered : before.pending.card ≤ count + unreceived) :
    (before.pending \ ((InMemoryStorage.getMessagesBySyncStatus listing .syncPending
      batchSize).map Message.id).toFinset).card ≤ unreceived := by
  have hlength := InMemoryStorage.length_getMessagesBySyncStatus hindexed hlisting .syncPending
    batchSize
  have hids := InMemoryStorage.nodup_getMessagesBySyncStatus hindexed hlisting .syncPending
    batchSize
  have hsubset : ((InMemoryStorage.getMessagesBySyncStatus listing .syncPending
      batchSize).map Message.id).toFinset ⊆ before.pending := by
    intro id hid
    obtain ⟨msg, hmem, rfl⟩ := List.mem_map.mp (List.mem_toFinset.mp hid)
    exact InMemoryStorage.mem_idsWithStatus.mpr
      ⟨msg, InMemoryStorage.lookup_of_mem_snapshot hindexed hlisting hmem⟩
  rw [Finset.card_sdiff_of_subset hsubset, List.toFinset_card_of_nodup hids, List.length_map,
    hlength]
  have hpending : before.pending.card = (before.storage.idsWithStatus .syncPending).card := rfl
  omega

/-- Only the first pass exempts messages. -/
theorem exempt_of_ne {pass : Pass} (hpass : pass ≠ .pending) (messages : List Message)
    (response : QuiltStoreResponse) :
    (SyncPhase.uploading pass messages).exempt = ∅ ∧
      (SyncPhase.writingBack pass messages response).exempt = ∅ := by
  cases pass with
  | pending => exact absurd rfl hpass
  | updated => exact ⟨rfl, rfl⟩
  | deleted => exact ⟨rfl, rfl⟩

/-- Assumes: the worker is past the snapshot of its first pass, and so it is after a step in
which it neither stores nor receives anything. If no more is exempt than before, the rest
stays covered. -/
theorem Covered.archiving_mono (hcovered : Covered threshold before)
    (hstep : relayer.step before action = some after) (hunanswered : before.worker.unanswered = 0)
    (htaken : action.taken = 0)
    (hsubset : after.pending \ after.worker.phase.exempt ⊆
      before.pending \ before.worker.phase.exempt) :
    (after.pending \ after.worker.phase.exempt).card ≤ after.unreceived := by
  have hcome := unreceived_of_step hstep
  have hle := Finset.card_le_card hsubset
  have hbefore := hcovered.archiving hunanswered
  omega

/-- Assumes: the reply has a patch for the message. After its write-back in the first pass the
message is archived. -/
theorem notMem_pending_of_writeBack {msg : Message} {remaining : List Message}
    {response : QuiltStoreResponse} {now : DateTime} (hindexed : before.storage.NonceIndexed)
    (hstep : relayer.step before (.writeBack now) = some after)
    (hphase : before.worker.phase = .writingBack .pending (msg :: remaining) response)
    (hpatch : response.getPatchId (patchIdentifier msg.id) ≠ none) : msg.id ∉ after.pending := by
  intro hmem
  obtain ⟨message, hlookup, hstatus⟩ := InMemoryStorage.mem_idsWithStatus.mp hmem
  obtain ⟨patchId, hpatchId⟩ := Option.ne_none_iff_exists'.mp hpatch
  rw [step_writeBack now hphase] at hstep
  rw [← Option.some.inj hstep] at hlookup
  change (writeBackMessage before.storage .pending msg response now).messages.lookup msg.id =
    some message at hlookup
  rw [lookup_writeBackMessage_eq hindexed, if_pos rfl, Option.map_eq_some_iff] at hlookup
  obtain ⟨stored, hstored, rfl⟩ := hlookup
  rw [Pass.writeBack, hindexed.filed msg.id stored hstored, hpatchId] at hstatus
  have harchived : Pass.pending.toStatus = .syncPending := hstatus
  exact absurd harchived (by decide)

/-! ### The steps of the worker -/

/-- A tick starts a cycle, and the count stands for what it stood for. -/
theorem Covered.startCycle (hcovered : Covered threshold before)
    (hphase : before.worker.phase = .waiting) (hworker : after.worker = before.worker.startCycle)
    (hpending : after.pending.card ≤ before.pending.card)
    (hcome : before.unreceived ≤ after.unreceived) : Covered threshold after := by
  have hbefore := hcovered.covered
  simp only [hphase, SyncPhase.exempt, SyncWorker.unanswered, Finset.sdiff_empty] at hbefore
  have hcount : after.worker.messageCount = before.worker.messageCount := by rw [hworker]; rfl
  refine covered_of_starting (by rw [hworker]; rfl) ?_ ?_
  · rw [hcount]
    exact (hcovered.waiting hphase).le
  · rw [hcount]
    omega

/-- A notification that is received is counted. -/
theorem Covered.receive (hcovered : Covered threshold before)
    (hphase : before.worker.phase = .waiting)
    (hworker : after.worker = before.worker.receive threshold)
    (hpending : after.pending.card ≤ before.pending.card)
    (hcome : before.unreceived ≤ after.unreceived + 1) : Covered threshold after := by
  have hbelow := hcovered.waiting hphase
  have hbefore := hcovered.covered
  simp only [hphase, SyncPhase.exempt, SyncWorker.unanswered, Finset.sdiff_empty] at hbefore
  unfold SyncWorker.receive at hworker
  simp only at hworker
  split_ifs at hworker with hreached
  · have hcount : after.worker.messageCount = before.worker.messageCount + 1 := by rw [hworker]
    refine covered_of_waiting (by rw [hworker]; exact hphase) ?_ ?_
    · omega
    · omega
  · have hcount : after.worker.messageCount = before.worker.messageCount + 1 := by rw [hworker]; rfl
    refine covered_of_starting (by rw [hworker]; rfl) ?_ ?_
    · omega
    · omega

/-- Assumes: the batch has room for all that the threshold lets accumulate. The first pass takes
what the count stands for. -/
theorem Covered.firstSnapshot {listing : List Message} {batchSize : Nat}
    (hcovered : Covered threshold before) (hthreshold : 1 ≤ threshold)
    (hbatch : threshold ≤ batchSize)
    (hindexed : before.storage.NonceIndexed)
    (hlisting : before.storage.messages.IterationOrder listing)
    (hphase : before.worker.phase = .snapshot .pending)
    (hworker : after.worker = before.worker.takeSnapshot .pending
      (InMemoryStorage.getMessagesBySyncStatus listing .syncPending batchSize))
    (hsubset : after.pending ⊆ before.pending) (hcome : before.unreceived ≤ after.unreceived) :
    Covered threshold after := by
  have hcount := hcovered.starting hphase
  have hbefore := hcovered.covered
  simp only [hphase, SyncPhase.exempt, SyncWorker.unanswered, Finset.sdiff_empty] at hbefore
  have hrest := card_sdiff_snapshot hindexed hlisting (hcount.trans hbatch) hbefore
  unfold SyncWorker.takeSnapshot at hworker
  split_ifs at hworker with hempty
  · rw [hempty, List.map_nil, List.toFinset_nil, Finset.sdiff_empty] at hrest
    have hcard := Finset.card_le_card hsubset
    exact covered_leavePass hthreshold hworker (by omega)
  · refine covered_of_archiving (by simp [hworker]) (by simp [hworker]) ?_ (by simp [hworker])
    have hexempt : after.worker.phase.exempt =
        ((InMemoryStorage.getMessagesBySyncStatus listing .syncPending batchSize).map
          Message.id).toFinset := by
      rw [hworker]
      rfl
    have hle := Finset.card_le_card
      (Finset.sdiff_subset_sdiff hsubset (Finset.Subset.refl after.worker.phase.exempt))
    rw [hexempt] at hle ⊢
    omega

/-- The later passes take nothing that was never archived. -/
theorem Covered.laterSnapshot {pass : Pass} {messages : List Message}
    (hcovered : Covered threshold before) (hthreshold : 1 ≤ threshold) (hpass : pass ≠ .pending)
    (hphase : before.worker.phase = .snapshot pass)
    (hworker : after.worker = before.worker.takeSnapshot pass messages)
    (hpending : after.pending.card ≤ before.pending.card)
    (hcome : before.unreceived ≤ after.unreceived) : Covered threshold after := by
  have hrest := hcovered.archiving
    (unanswered_eq_zero (by simp [hphase]) (by simpa [hphase] using hpass))
  have hexempt : before.worker.phase.exempt = ∅ := by rw [hphase]; rfl
  rw [hexempt, Finset.sdiff_empty] at hrest
  unfold SyncWorker.takeSnapshot at hworker
  split_ifs at hworker with hempty
  · exact covered_leavePass hthreshold hworker (by omega)
  · refine covered_of_archiving (by simp [hworker]) (by simp [hworker]) ?_ (by simp [hworker])
    rw [hworker, (exempt_of_ne hpass messages ⟨[]⟩).1, Finset.sdiff_empty]
    omega

/-- An upload that succeeds leaves the messages of the snapshot to be written back. -/
theorem Covered.uploaded {pass : Pass} {messages : List Message} {response : QuiltStoreResponse}
    (hcovered : Covered threshold before)
    (hstep : relayer.step before (.upload (.ok response)) = some after)
    (hphase : before.worker.phase = .uploading pass messages)
    (hworker : after.worker = { before.worker with phase := .writingBack pass messages response })
    (hsubset : after.pending ⊆ before.pending)
    (hanswered : ∀ msg ∈ messages, response.getPatchId (patchIdentifier msg.id) ≠ none) :
    Covered threshold after := by
  refine covered_of_archiving (by simp [hworker]) (by simp [hworker]) ?_ ?_
  · refine hcovered.archiving_mono hstep
      (unanswered_eq_zero (by simp [hphase]) (by simp [hphase])) rfl ?_
    have hexempt : after.worker.phase.exempt = before.worker.phase.exempt := by
      rw [hworker, hphase]
      cases pass <;> rfl
    rw [hexempt]
    exact Finset.sdiff_subset_sdiff hsubset (Finset.Subset.refl _)
  · intro remaining found hafter
    obtain ⟨-, rfl, rfl⟩ : pass = .pending ∧ messages = remaining ∧ response = found := by
      simpa [hworker] using hafter
    exact hanswered

/-- A write-back of the first pass archives its message. -/
theorem Covered.wroteBack {pass : Pass} {msg : Message} {remaining : List Message}
    {response : QuiltStoreResponse} {now : DateTime} (hcovered : Covered threshold before)
    (hindexed : before.storage.NonceIndexed)
    (hstep : relayer.step before (.writeBack now) = some after)
    (hphase : before.worker.phase = .writingBack pass (msg :: remaining) response)
    (hworker : after.worker = { before.worker with phase := .writingBack pass remaining response })
    (hsubset : after.pending ⊆ before.pending) : Covered threshold after := by
  refine covered_of_archiving (by simp [hworker]) (by simp [hworker]) ?_ ?_
  · refine hcovered.archiving_mono hstep
      (unanswered_eq_zero (by simp [hphase]) (by simp [hphase])) rfl ?_
    by_cases hpass : pass = .pending
    · subst hpass
      have hwritten := notMem_pending_of_writeBack hindexed hstep hphase
        (hcovered.answered _ response hphase msg List.mem_cons_self)
      intro id hid
      rw [hworker, Finset.mem_sdiff] at hid
      rw [hphase, Finset.mem_sdiff]
      refine ⟨hsubset hid.1, fun hexempt ↦ ?_⟩
      rcases List.mem_cons.mp (List.mem_toFinset.mp hexempt) with rfl | hrest
      · exact hwritten hid.1
      · exact hid.2 (List.mem_toFinset.mpr hrest)
    · rw [hworker, hphase, (exempt_of_ne hpass _ response).2, (exempt_of_ne hpass _ response).2]
      exact Finset.sdiff_subset_sdiff hsubset (Finset.Subset.refl _)
  · intro others found hafter other hmem
    obtain ⟨rfl, rfl, rfl⟩ : pass = .pending ∧ remaining = others ∧ response = found := by
      simpa [hworker] using hafter
    exact hcovered.answered _ response hphase other (List.mem_cons_of_mem _ hmem)

/-- Assumes: a threshold that is positive and not above the batch size. A step of the worker keeps
the backlog covered. -/
theorem Covered.of_workerMove {worker : SyncWorker} {archive : List Patch}
    (hcovered : Covered relayer.config.walrusSyncMessageThreshold before)
    (hthreshold : 1 ≤ relayer.config.walrusSyncMessageThreshold)
    (hbatch : relayer.config.walrusSyncMessageThreshold ≤
      walrusBatchSize relayer.config.walrusSyncBatchSize)
    (hindexed : before.storage.NonceIndexed) (hsucceeds : UploadSucceeds before action)
    (hstep : relayer.step before action = some after)
    (hmove : WorkerMove relayer before action worker archive) (hworker : after.worker = worker) :
    Covered relayer.config.walrusSyncMessageThreshold after := by
  have hsubset := pending_subset hstep (not_inserts_of_workerMove hmove)
  have hpending := Finset.card_le_card hsubset
  have hcome := unreceived_of_step hstep
  cases hmove with
  | ticked hphase => exact hcovered.startCycle hphase hworker hpending hcome
  | received hphase hqueued => exact hcovered.receive hphase hworker hpending hcome
  | @snapped pass listing hphase hlisting =>
    by_cases hpass : pass = .pending
    · subst hpass
      exact hcovered.firstSnapshot hthreshold hbatch hindexed hlisting hphase hworker hsubset hcome
    · exact hcovered.laterSnapshot hthreshold hpass hphase hworker hpending hcome
  | @failed pass messages err hphase =>
    obtain ⟨response, hreply, -⟩ := hsucceeds pass messages (.error err) hphase rfl
    simp at hreply
  | @uploaded pass messages response hphase =>
    obtain ⟨replied, hreply, hanswered⟩ := hsucceeds pass messages (.ok response) hphase rfl
    obtain rfl := Except.ok.inj hreply
    exact hcovered.uploaded hstep hphase hworker hsubset hanswered
  | wroteBack hphase => exact hcovered.wroteBack hindexed hstep hphase hworker hsubset
  | @finished pass response hphase =>
    have hrest := hcovered.archiving
      (unanswered_eq_zero (by simp [hphase]) (by simp [hphase]))
    have hexempt : before.worker.phase.exempt = ∅ := by
      rw [hphase]
      cases pass <;> rfl
    rw [hexempt, Finset.sdiff_empty] at hrest
    exact covered_leavePass hthreshold hworker (hpending.trans (hrest.trans hcome))

/-! ### Every run -/

/-- Assumes: a threshold that is positive and not above the batch size, and uploads that succeed
with a patch identifier for every message. Whenever the worker waits, its count is below the
threshold, and the messages never archived are no more than the count, the notifications in the
channel, and the requests that have stored a message and not notified the worker yet. -/
theorem backlog_bounded (hthreshold : 1 ≤ relayer.config.walrusSyncMessageThreshold)
    (hbatch : relayer.config.walrusSyncMessageThreshold ≤
      walrusBatchSize relayer.config.walrusSyncBatchSize)
    (hsucceeds : EveryStep relayer.step UploadSucceeds .init actions)
    (hrun : relayer.run actions = some after) (hwaiting : after.worker.phase = .waiting) :
    after.worker.messageCount < relayer.config.walrusSyncMessageThreshold ∧
      (after.storage.idsWithStatus .syncPending).card ≤
        after.worker.messageCount + after.notifications + (notifying after.tasks).card := by
  have hcovered : Covered relayer.config.walrusSyncMessageThreshold after := by
    refine history_induction_of_everyStep
      (fun _ reached ↦ Covered relayer.config.walrusSyncMessageThreshold reached)
      (covered_init hthreshold) ?_ hsucceeds hrun
    intro past before action after hpast hcovered hcond hstep
    cases transition_of_step hstep with
    | task hmove hstorage hqueue =>
      exact hcovered.of_worker_eq hstep rfl (by cases hmove <;> rfl)
    | worker hmove hstorage hqueue =>
      exact hcovered.of_workerMove hthreshold hbatch (nonceIndexed_of_run hpast) hcond hstep hmove
        rfl
    | event event => exact hcovered.of_worker_eq hstep rfl rfl
  have hle := hcovered.covered
  simp only [hwaiting, SyncPhase.exempt, SyncWorker.unanswered, Finset.sdiff_empty] at hle
  refine ⟨hcovered.waiting hwaiting, ?_⟩
  rw [Nat.add_assoc]
  exact hle

/-- Steps that end no upload are steps at which every upload succeeds. -/
theorem uploadSucceeds_of_notMem {start : System}
    (hnone : ∀ action ∈ actions, ∀ reply, action ≠ .upload reply) :
    EveryStep relayer.step UploadSucceeds start actions := by
  refine EveryStep.of_forall fun action hmem before pass messages reply _ hupload ↦ ?_
  exact absurd hupload (hnone action hmem reply)

theorem uploadSucceeds_sampleCycle :
    EveryStep sampleRelayer.step UploadSucceeds samplePosted sampleCycle := by
  have hupload : EveryStep sampleRelayer.step UploadSucceeds sampleUploading sampleUpload := by
    refine everyStep_cons_iff.mpr ⟨?_, fun _ _ ↦ EveryStep.nil⟩
    intro pass messages reply hphase hreply
    obtain ⟨rfl, rfl⟩ : Pass.pending = pass ∧ [sampleMessage] = messages := by
      simpa [sampleUploading] using hphase
    obtain rfl : .ok sampleReply = reply := by simpa using hreply
    refine ⟨sampleReply, rfl, fun msg hmem ↦ ?_⟩
    rw [List.mem_singleton.mp hmem]
    exact getPatchId_sampleReply ▸ Option.some_ne_none _
  have hsnapshot : EveryStep sampleRelayer.step UploadSucceeds samplePosted sampleSnapshot :=
    uploadSucceeds_of_notMem (by simp [sampleSnapshot])
  have hafter : EveryStep sampleRelayer.step UploadSucceeds sampleUploaded
      [.writeBack (sampleClock 3), .finishPass, .snapshot [sampleSynced],
        .snapshot [sampleSynced]] :=
    uploadSucceeds_of_notMem (by simp)
  exact (hsnapshot.append runFrom_sampleSnapshot hupload).append
    (runFrom_append_eq_some.mpr ⟨_, runFrom_sampleSnapshot, rfl⟩) hafter

/-- A client's post has been archived, and the worker has not received its notification. -/
theorem backlog_bounded_sampleCycle :
    sampleCycled.worker.messageCount < 50 ∧
      (sampleCycled.storage.idsWithStatus .syncPending).card ≤
        sampleCycled.worker.messageCount + sampleCycled.notifications +
          (notifying sampleCycled.tasks).card := by
  have hposting : EveryStep sampleRelayer.step UploadSucceeds .init samplePosting :=
    uploadSucceeds_of_notMem (by simp [samplePosting, sampleStart, serveCreate])
  exact backlog_bounded (by decide) (by decide)
    (hposting.append run_samplePosting uploadSucceeds_sampleCycle)
    (runFrom_append_eq_some.mpr ⟨_, run_samplePosting, runFrom_sampleCycle⟩) rfl

end Backlog

end MessagingRelayer
