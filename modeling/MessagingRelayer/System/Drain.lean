import MessagingRelayer.Foundation.Linearization
import MessagingRelayer.Services.SyncPass
import MessagingRelayer.System.Archive
import MessagingRelayer.System.Backlog
import MessagingRelayer.System.Replay

/-!
# The worker drains the backlog

While no request changes the messages and the uploads succeed, every cycle of the worker takes a
full batch from each of the three classes of waiting messages, or what there is of it: `Draining`
counts the messages of a class by the passes that are over, in every state of a cycle
(`draining_of_step`), so that after a number of cycles a class has shrunk by as many batches
(`card_of_cycles`). After enough of them every message is archived, and the archive is a copy of the
storage (`complete_of_cycles`).
-/

set_option autoImplicit false
set_option relaxedAutoImplicit false

namespace MessagingRelayer

open Foundation

/-! ### Cycles -/

/-- The step starts a cycle of the worker. -/
def Relayer.startsCycle? (relayer : Relayer) (system : System) : Action → Option Unit
  | .tick => some ()
  | .receive =>
    if (system.worker.receive relayer.config.walrusSyncMessageThreshold).phase = .waiting then none
    else some ()
  | _ => none

/-- The number of cycles that start along a run. -/
def Relayer.cycles (relayer : Relayer) (start : System) (actions : List Action) : Nat :=
  (effects relayer.step relayer.startsCycle? start actions).length

/-- No request changes the messages in the step; and if the step is the reply to an upload, the
upload succeeds with a patch identifier for every message. -/
def Undisturbed (before : System) (action : Action) : Prop :=
  (∀ task, action ≠ .insert task) ∧ (∀ task now, action ≠ .write task now) ∧
    UploadSucceeds before action

/-- The place of a pass in a cycle. -/
def Pass.index : Pass → Nat
  | pending => 0
  | updated => 1
  | deleted => 2

/-- The passes of a cycle that have taken their batch; while the worker waits, all of the cycle
before. -/
def SyncPhase.passed : SyncPhase → Nat
  | .waiting => 3
  | .snapshot pass => pass.index
  | .uploading pass _ => pass.index
  | .writingBack pass _ _ => pass.index + 1

/-- The messages of a class that are uploaded and still to be written back. -/
def SyncPhase.left (pass : Pass) : SyncPhase → Nat
  | .writingBack current remaining _ => if current = pass then remaining.length else 0
  | _ => 0

/-- How many batches were taken from a class, after so many cycles and so many passes of the last
one. -/
def Pass.turns (cycles passed : Nat) (pass : Pass) : Nat :=
  if pass.index < passed then cycles else cycles - 1

/-- Of the messages that waited in each class at the start, every pass that is over has taken a
batch; and the worker holds messages as they are stored, as many as the batch has, with a patch for
each that it writes back. -/
structure Draining (waited : Pass → Nat) (batchSize cycles : Nat) (system : System) : Prop where
  count : ∀ pass, (system.storage.idsWithStatus pass.fromStatus).card =
    waited pass - pass.turns cycles system.worker.phase.passed * batchSize +
      system.worker.phase.left pass
  started : system.worker.phase ≠ .waiting → 1 ≤ cycles
  uploading : ∀ pass messages, system.worker.phase = .uploading pass messages →
    Batch system.storage pass messages ∧
      messages.length = min batchSize (system.storage.idsWithStatus pass.fromStatus).card
  writing : ∀ pass remaining response, system.worker.phase = .writingBack pass remaining response →
    Batch system.storage pass remaining ∧
      ∀ msg ∈ remaining, response.getPatchId (patchIdentifier msg.id) ≠ none

section Counting

variable {storage other : InMemoryStorage} {pass : Pass} {messages : List Message} {msg : Message}

theorem Pass.index_injective : Function.Injective Pass.index := by
  intro first second hsame
  cases first <;> cases second <;> first | rfl | exact absurd hsame (by decide)

section Turns

variable (cycles : Nat) (pass : Pass)

@[simp] theorem Pass.turns_three : pass.turns cycles 3 = cycles := by
  cases pass <;> rfl

@[simp] theorem Pass.turns_zero : pass.turns cycles 0 = cycles - 1 := by
  cases pass <;> rfl

@[simp] theorem Pass.turns_index : pass.turns cycles pass.index = cycles - 1 :=
  if_neg (lt_irrefl _)

@[simp] theorem Pass.turns_succ : pass.turns cycles (pass.index + 1) = cycles :=
  if_pos (Nat.lt_succ_self _)

variable {pass}

/-- A pass that is over makes no difference to the class of another. -/
theorem Pass.turns_of_ne {other : Pass} (hne : other ≠ pass) :
    other.turns cycles (pass.index + 1) = other.turns cycles pass.index := by
  have hindex : other.index ≠ pass.index := fun hsame ↦ hne (Pass.index_injective hsame)
  have hiff : other.index < pass.index + 1 ↔ other.index < pass.index := by omega
  simp only [Pass.turns, hiff]

variable {cycles}

/-- A batch more is the difference of a cycle. -/
theorem sub_turn (hstarted : 1 ≤ cycles) (count batchSize : Nat) :
    count - cycles * batchSize = count - (cycles - 1) * batchSize - batchSize := by
  obtain ⟨earlier, rfl⟩ := Nat.exists_eq_add_of_le' hstarted
  rw [Nat.add_sub_cancel, Nat.succ_mul, Nat.sub_sub]

end Turns

@[simp] theorem passed_leavePass (worker : SyncWorker) (pass : Pass) :
    (worker.leavePass pass).phase.passed = pass.index + 1 := by
  cases pass <;> rfl

@[simp] theorem left_leavePass (worker : SyncWorker) (left pass : Pass) :
    (worker.leavePass left).phase.left pass = 0 := by
  cases left <;> rfl

theorem idsWithStatus_congr (hsame : storage.messages = other.messages) (status : SyncStatus) :
    storage.idsWithStatus status = other.idsWithStatus status := by
  unfold InMemoryStorage.idsWithStatus
  rw [hsame]

theorem Batch.congr (hbatch : Batch storage pass messages)
    (hsame : storage.messages = other.messages) : Batch other pass messages where
  stored msg hmem := hsame ▸ hbatch.stored msg hmem
  distinct := hbatch.distinct

/-- Assumes: the reply has a patch for the message, which is stored with the status of the pass. Its
write-back takes it from the class of the pass, and leaves the other classes as they are. -/
theorem idsWithStatus_writeBackMessage (hindexed : storage.NonceIndexed)
    {response : QuiltStoreResponse} (now : DateTime) (hlookup : storage.messages.lookup msg.id =
      some msg) (hstatus : msg.syncStatus = pass.fromStatus)
    (hpatch : response.getPatchId (patchIdentifier msg.id) ≠ none) (class' : Pass) :
    (writeBackMessage storage pass msg response now).idsWithStatus class'.fromStatus =
      (storage.idsWithStatus class'.fromStatus).erase msg.id := by
  obtain ⟨patchId, hpatchId⟩ := Option.ne_none_iff_exists'.mp hpatch
  have harchived : pass.toStatus ≠ class'.fromStatus := by
    cases pass <;> cases class' <;> decide
  ext id
  rw [Finset.mem_erase, InMemoryStorage.mem_idsWithStatus, InMemoryStorage.mem_idsWithStatus,
    lookup_writeBackMessage_eq hindexed]
  by_cases hsame : id = msg.id
  · subst hsame
    simp [hlookup, Pass.writeBack, hpatchId, Message.withSyncStatus, harchived]
  · simp [hsame]

/-- The messages of a batch that are still to be written back are a batch after a write-back. -/
theorem Batch.rest (hindexed : storage.NonceIndexed) {response : QuiltStoreResponse}
    (now : DateTime) (hbatch : Batch storage pass (msg :: messages)) :
    Batch (writeBackMessage storage pass msg response now) pass messages where
  stored other hmem := by
    obtain ⟨hlookup, hstatus⟩ := hbatch.stored other (List.mem_cons_of_mem msg hmem)
    have hne : other.id ≠ msg.id := by
      intro hsame
      exact (List.nodup_cons.mp hbatch.distinct).1 (hsame ▸ List.mem_map_of_mem hmem)
    rw [lookup_writeBackMessage_eq hindexed, if_neg hne]
    exact ⟨hlookup, hstatus⟩
  distinct := (List.nodup_cons.mp hbatch.distinct).2

end Counting

/-! ### The steps of a cycle -/

section Steps

variable {relayer : Relayer} {before after : System} {action : Action} {waited : Pass → Nat}
  {batchSize cycles : Nat}

/-- An undisturbed step that is no write-back leaves the messages as they are. -/
theorem messages_of_undisturbed (hstep : relayer.step before action = some after)
    (hquiet : Undisturbed before action) :
    after.storage.messages = before.storage.messages ∨ ∃ now, action = .writeBack now := by
  obtain ⟨hinsert, hwrite, -⟩ := hquiet
  have heffect := storageEffect_of_step hstep
  generalize after.storage = storage at heffect ⊢
  cases heffect with
  | unchanged => exact Or.inl rfl
  | ordered htask => exact Or.inl rfl
  | @inserted task => exact absurd rfl (hinsert task)
  | @edited task _ _ _ now => exact absurd rfl (hwrite task now)
  | @deleted task _ _ now => exact absurd rfl (hwrite task now)
  | @archived now => exact Or.inr ⟨now, rfl⟩

theorem Draining.idle (hdraining : Draining waited batchSize cycles before)
    (hworker : after.worker.phase = before.worker.phase)
    (hmessages : after.storage.messages = before.storage.messages) :
    Draining waited batchSize cycles after where
  count pass := by
    rw [hworker, idsWithStatus_congr hmessages]
    exact hdraining.count pass
  started hphase := hdraining.started (hworker ▸ hphase)
  uploading pass messages hphase := by
    obtain ⟨hbatch, hlength⟩ := hdraining.uploading pass messages (hworker ▸ hphase)
    rw [idsWithStatus_congr hmessages]
    exact ⟨hbatch.congr hmessages.symm, hlength⟩
  writing pass remaining response hphase := by
    obtain ⟨hbatch, hpatch⟩ := hdraining.writing pass remaining response (hworker ▸ hphase)
    exact ⟨hbatch.congr hmessages.symm, hpatch⟩

/-- A cycle starts: no pass of it is over. -/
theorem Draining.startCycle (hdraining : Draining waited batchSize cycles before)
    (hphase : before.worker.phase = .waiting)
    (hafter : after.worker.phase = .snapshot .pending)
    (hmessages : after.storage.messages = before.storage.messages) :
    Draining waited batchSize (cycles + 1) after where
  count pass := by
    have hcount := hdraining.count pass
    rw [hphase] at hcount
    rw [hafter, idsWithStatus_congr hmessages, hcount]
    show waited pass - pass.turns cycles 3 * batchSize + 0 =
      waited pass - pass.turns (cycles + 1) 0 * batchSize + 0
    simp
  started _ := by omega
  uploading pass messages huploading := by simp [hafter] at huploading
  writing pass remaining response hwriting := by simp [hafter] at hwriting

/-- The worker leaves a pass that has taken its batch. -/
theorem Draining.leave {pass : Pass} {worker : SyncWorker}
    (hcount : ∀ other, (before.storage.idsWithStatus other.fromStatus).card =
      waited other - other.turns cycles (pass.index + 1) * batchSize)
    (hstarted : 1 ≤ cycles) (hafter : after.worker = worker.leavePass pass)
    (hmessages : after.storage.messages = before.storage.messages) :
    Draining waited batchSize cycles after where
  count other := by
    rw [hafter, idsWithStatus_congr hmessages, hcount other]
    simp
  started _ := hstarted
  uploading other messages huploading := by
    rw [hafter] at huploading
    cases pass <;> simp [SyncWorker.leavePass, Pass.next] at huploading
  writing other remaining response hwriting := by
    rw [hafter] at hwriting
    cases pass <;> simp [SyncWorker.leavePass, Pass.next] at hwriting

/-- A snapshot finds a batch, or what there is of it. -/
theorem Draining.takeSnapshot {pass : Pass} {listing : List Message}
    (hdraining : Draining waited batchSize cycles before) (hindexed : before.storage.NonceIndexed)
    (hphase : before.worker.phase = .snapshot pass)
    (hlisting : before.storage.messages.IterationOrder listing)
    (hafter : after.worker = before.worker.takeSnapshot pass
      (InMemoryStorage.getMessagesBySyncStatus listing pass.fromStatus batchSize))
    (hmessages : after.storage.messages = before.storage.messages) :
    Draining waited batchSize cycles after := by
  have hlength := InMemoryStorage.length_getMessagesBySyncStatus hindexed hlisting pass.fromStatus
    batchSize
  have hbatch := batch_snapshot hindexed hlisting pass batchSize
  have hstarted : 1 ≤ cycles := hdraining.started (by simp [hphase])
  have hcounts : ∀ other, (before.storage.idsWithStatus other.fromStatus).card =
      waited other - other.turns cycles pass.index * batchSize := by
    intro other
    have hcount := hdraining.count other
    rw [hphase] at hcount
    exact hcount
  generalize InMemoryStorage.getMessagesBySyncStatus listing pass.fromStatus batchSize = batch
    at hlength hbatch hafter
  unfold SyncWorker.takeSnapshot at hafter
  split_ifs at hafter with hempty
  · -- Nothing waits in the class, or the batch size is zero: no batch would take anything.
    refine Draining.leave (fun other ↦ ?_) hstarted hafter hmessages
    by_cases hsame : other = pass
    · subst hsame
      have hown := hcounts other
      rw [hempty, List.length_nil] at hlength
      rw [Pass.turns_index] at hown
      rw [Pass.turns_succ, sub_turn hstarted, ← hown]
      omega
    · rw [Pass.turns_of_ne cycles hsame]
      exact hcounts other
  · constructor
    · intro other
      rw [hafter, idsWithStatus_congr hmessages, hcounts other]
      rfl
    · exact fun _ ↦ hstarted
    · intro other messages huploading
      rw [hafter] at huploading
      obtain ⟨rfl, rfl⟩ := SyncPhase.uploading.inj huploading
      rw [idsWithStatus_congr hmessages]
      exact ⟨hbatch.congr hmessages.symm, hlength⟩
    · intro other remaining response hwriting
      rw [hafter] at hwriting
      simp at hwriting

/-- A batch is uploaded: the pass has taken it. -/
theorem Draining.upload {pass : Pass} {messages : List Message} {response : QuiltStoreResponse}
    (hdraining : Draining waited batchSize cycles before)
    (hphase : before.worker.phase = .uploading pass messages)
    (hpatch : ∀ msg ∈ messages, response.getPatchId (patchIdentifier msg.id) ≠ none)
    (hafter : after.worker.phase = .writingBack pass messages response)
    (hmessages : after.storage.messages = before.storage.messages) :
    Draining waited batchSize cycles after where
  count other := by
    obtain ⟨-, hlength⟩ := hdraining.uploading pass messages hphase
    have hstarted : 1 ≤ cycles := hdraining.started (by simp [hphase])
    have hcount : (before.storage.idsWithStatus other.fromStatus).card =
        waited other - other.turns cycles pass.index * batchSize := by
      have hany := hdraining.count other
      rw [hphase] at hany
      exact hany
    rw [hafter, idsWithStatus_congr hmessages]
    show _ = waited other - other.turns cycles (pass.index + 1) * batchSize +
      if pass = other then messages.length else 0
    by_cases hsame : pass = other
    · subst hsame
      rw [Pass.turns_index] at hcount
      rw [Pass.turns_succ, if_pos rfl, sub_turn hstarted, ← hcount]
      omega
    · rw [if_neg hsame, Pass.turns_of_ne cycles (Ne.symm hsame)]
      exact hcount
  started _ := hdraining.started (by simp [hphase])
  uploading other found huploading := by simp [hafter] at huploading
  writing other remaining reply hwriting := by
    rw [hafter] at hwriting
    obtain ⟨rfl, rfl, rfl⟩ := SyncPhase.writingBack.inj hwriting
    exact ⟨(hdraining.uploading _ _ hphase).1.congr hmessages.symm, hpatch⟩

/-- A message is written back: it leaves its class. -/
theorem Draining.writeBack {pass : Pass} {msg : Message} {remaining : List Message}
    {response : QuiltStoreResponse} {now : DateTime}
    (hdraining : Draining waited batchSize cycles before) (hindexed : before.storage.NonceIndexed)
    (hphase : before.worker.phase = .writingBack pass (msg :: remaining) response)
    (hafter : after.worker.phase = .writingBack pass remaining response)
    (hstorage : after.storage = writeBackMessage before.storage pass msg response now) :
    Draining waited batchSize cycles after := by
  obtain ⟨hbatch, hpatch⟩ := hdraining.writing pass _ response hphase
  obtain ⟨hlookup, hstatus⟩ := hbatch.stored msg List.mem_cons_self
  have hids := idsWithStatus_writeBackMessage hindexed now hlookup hstatus
    (hpatch msg List.mem_cons_self)
  constructor
  · intro other
    have hcount : (before.storage.idsWithStatus other.fromStatus).card =
        waited other - other.turns cycles (pass.index + 1) * batchSize +
          if pass = other then remaining.length + 1 else 0 := by
      have hany := hdraining.count other
      rw [hphase] at hany
      exact hany
    rw [hafter, hstorage, hids]
    show _ = waited other - other.turns cycles (pass.index + 1) * batchSize +
      if pass = other then remaining.length else 0
    by_cases hsame : pass = other
    · subst hsame
      have hmem : msg.id ∈ before.storage.idsWithStatus pass.fromStatus :=
        InMemoryStorage.mem_idsWithStatus.mpr ⟨msg, hlookup, hstatus⟩
      rw [if_pos rfl] at hcount ⊢
      rw [Finset.card_erase_of_mem hmem, hcount]
      omega
    · have hnot : msg.id ∉ before.storage.idsWithStatus other.fromStatus := by
        rw [InMemoryStorage.mem_idsWithStatus]
        rintro ⟨found, hfound, hother⟩
        obtain rfl := Option.some.inj (hlookup.symm.trans hfound)
        exact hsame (fromStatus_injective (hstatus.symm.trans hother))
      rw [Finset.erase_eq_of_notMem hnot, hcount, if_neg hsame, if_neg hsame]
  · exact fun _ ↦ hdraining.started (by simp [hphase])
  · intro other found huploading
    simp [hafter] at huploading
  · intro other found reply hwriting
    rw [hafter] at hwriting
    obtain ⟨rfl, rfl, rfl⟩ := SyncPhase.writingBack.inj hwriting
    rw [hstorage]
    exact ⟨hbatch.rest hindexed now,
      fun other hother ↦ hpatch other (List.mem_cons_of_mem _ hother)⟩

/-- Assumes: an undisturbed step. The counts go on, with one more cycle if the step starts one. -/
theorem draining_of_step
    (hdraining : Draining waited (walrusBatchSize relayer.config.walrusSyncBatchSize) cycles before)
    (hindexed : before.storage.NonceIndexed) (hquiet : Undisturbed before action)
    (hstep : relayer.step before action = some after) :
    Draining waited (walrusBatchSize relayer.config.walrusSyncBatchSize)
      (cycles + (relayer.startsCycle? before action).toList.length) after := by
  have hmessages (hother : ∀ now, action ≠ .writeBack now) :
      after.storage.messages = before.storage.messages :=
    (messages_of_undisturbed hstep hquiet).resolve_right fun ⟨now, haction⟩ ↦ hother now haction
  cases transition_of_step hstep with
  | event event => exact hdraining.idle rfl rfl
  | task hmove hstorage =>
    cases hmove with
    | _ => exact hdraining.idle rfl (hmessages (by simp))
  | worker hmove hstorage =>
    cases hmove with
    | ticked hphase => exact hdraining.startCycle hphase rfl (hmessages (by simp))
    | received hphase hqueued =>
      by_cases hwaits : (before.worker.receive
          relayer.config.walrusSyncMessageThreshold).phase = .waiting
      · simp only [Relayer.startsCycle?, if_pos hwaits]
        exact hdraining.idle (hwaits.trans hphase.symm) (hmessages (by simp))
      · simp only [Relayer.startsCycle?, if_neg hwaits]
        refine hdraining.startCycle hphase ?_ (hmessages (by simp))
        show (before.worker.receive relayer.config.walrusSyncMessageThreshold).phase = _
        unfold SyncWorker.receive at hwaits ⊢
        simp only at hwaits ⊢
        split_ifs at hwaits ⊢
        · exact absurd hphase hwaits
        · rfl
    | snapped hphase hlisting =>
      exact hdraining.takeSnapshot hindexed hphase hlisting rfl (hmessages (by simp))
    | failed hphase =>
      obtain ⟨response, herror, -⟩ := hquiet.2.2 _ _ _ hphase rfl
      simp at herror
    | uploaded hphase =>
      obtain ⟨response, hreply, hpatch⟩ := hquiet.2.2 _ _ _ hphase rfl
      obtain rfl := Except.ok.inj hreply
      exact hdraining.upload hphase hpatch rfl (hmessages (by simp))
    | @wroteBack pass msg remaining response now hphase =>
      rw [step_writeBack now hphase] at hstep
      have hwritten := congrArg System.storage (Option.some.inj hstep)
      exact hdraining.writeBack hindexed hphase rfl hwritten.symm
    | @finished pass response hphase =>
      have hcounts : ∀ other : Pass, (before.storage.idsWithStatus other.fromStatus).card =
          waited other - other.turns cycles (pass.index + 1) *
            walrusBatchSize relayer.config.walrusSyncBatchSize := by
        intro other
        have hcount := hdraining.count other
        rw [hphase] at hcount
        simpa [SyncPhase.passed, SyncPhase.left] using hcount
      exact Draining.leave hcounts (hdraining.started (by simp [hphase])) rfl (hmessages (by simp))

end Steps

/-! ### Runs -/

section Cycles

variable {relayer : Relayer} {past actions : List Action} {start finish : System}

/-- Assumes: the worker waits. Its passes have taken nothing since. -/
theorem draining_start (hwaiting : start.worker.phase = .waiting) (batchSize : Nat) :
    Draining (fun pass ↦ (start.storage.idsWithStatus pass.fromStatus).card) batchSize 0 start where
  count pass := by
    rw [hwaiting]
    show _ = _ - pass.turns 0 3 * batchSize + 0
    simp
  started hphase := absurd hwaiting hphase
  uploading pass messages huploading := by simp [hwaiting] at huploading
  writing pass remaining response hwriting := by simp [hwaiting] at hwriting

theorem draining_of_run (hrun : relayer.run past = some start)
    (hwaiting : start.worker.phase = .waiting)
    (hquiet : EveryStep relayer.step Undisturbed start actions)
    (hactions : runFrom relayer.step start actions = some finish) :
    Draining (fun pass ↦ (start.storage.idsWithStatus pass.fromStatus).card)
      (walrusBatchSize relayer.config.walrusSyncBatchSize) (relayer.cycles start actions)
        finish := by
  refine history_induction_of_everyStep (fun actions reached ↦
    Draining (fun pass ↦ (start.storage.idsWithStatus pass.fromStatus).card)
      (walrusBatchSize relayer.config.walrusSyncBatchSize) (relayer.cycles start actions) reached)
    (draining_start hwaiting _) ?_ hquiet hactions
  intro segment before action after hsegment hdraining hcond hstep
  have hreached : relayer.run (past ++ segment) = some before :=
    runFrom_append_eq_some.mpr ⟨start, hrun, hsegment⟩
  have hcycles : relayer.cycles start (segment ++ [action]) =
      relayer.cycles start segment + (relayer.startsCycle? before action).toList.length := by
    unfold Relayer.cycles
    rw [effects_concat hsegment, List.length_append]
  rw [hcycles]
  exact draining_of_step hdraining (nonceIndexed_of_run hreached) hcond hstep

/-- Assumes: a run from a state in which the worker waits to another one, in which no request
changes the messages and every upload succeeds with a patch identifier for every message. Each class
of waiting messages has shrunk by as many batches as cycles have started, or to nothing. -/
theorem card_of_cycles (hrun : relayer.run past = some start)
    (hwaiting : start.worker.phase = .waiting)
    (hquiet : EveryStep relayer.step Undisturbed start actions)
    (hactions : runFrom relayer.step start actions = some finish)
    (hend : finish.worker.phase = .waiting) (pass : Pass) :
    (finish.storage.idsWithStatus pass.fromStatus).card =
      (start.storage.idsWithStatus pass.fromStatus).card - relayer.cycles start actions *
        walrusBatchSize relayer.config.walrusSyncBatchSize := by
  have hcount := (draining_of_run hrun hwaiting hquiet hactions).count pass
  rw [hend] at hcount
  have hturns : pass.turns (relayer.cycles start actions) SyncPhase.waiting.passed =
      relayer.cycles start actions := Pass.turns_three _ pass
  rw [hturns] at hcount
  exact hcount

end Cycles

/-! ### The archive is complete -/

section Complete

variable {relayer : Relayer} {past actions : List Action} {start finish before after : System}
  {action : Action} {id : Uuid} {stored : Message}

/-- Assumes: a tidy archive, and a worker that writes back messages as they are stored. A message
that is archived after an undisturbed step was so before, as it is, or the step has written it back
and the archive has it. -/
theorem archivedAs_of_undisturbed (htidy : ArchiveTidy before)
    (hwriting : ∀ pass remaining response,
      before.worker.phase = .writingBack pass remaining response →
        Batch before.storage pass remaining)
    (hquiet : Undisturbed before action) (hstep : relayer.step before action = some after)
    (hlookup : after.storage.messages.lookup id = some stored)
    (harchived : stored.syncStatus.isArchived = true) :
    ArchivedAs after.archive id stored ∨
      (before.storage.messages.lookup id = some stored ∧
        (ArchivedAs before.archive id stored → ArchivedAs after.archive id stored)) := by
  have heffect := messageEffect_of_step hstep id
  rw [hlookup] at heffect
  generalize hfound : some stored = found at heffect
  cases heffect with
  | unchanged =>
    refine Or.inr ⟨rfl, (archivedAs_congr fun patch hid ↦ ?_).mp⟩
    exact archive_same_of_archived htidy hstep hfound.symm harchived hid
  | @created task => exact absurd rfl (hquiet.1 task)
  | @edited task _ _ now => exact absurd rfl (hquiet.2.1 task now)
  | @deleted task _ now => exact absurd rfl (hquiet.2.1 task now)
  | @archived now pass msg earlier remaining response patchId hphase hid hpatch hstored =>
    subst hid
    have hsame : msg = earlier :=
      Option.some.inj (((hwriting pass _ response hphase).stored msg
        List.mem_cons_self).1.symm.trans hstored)
    have harchive : after.archive = before.archive := by
      rw [step_writeBack now hphase] at hstep
      rw [← Option.some.inj hstep]
    obtain ⟨hexists, hcopy⟩ := htidy.latestPatch_iff List.mem_cons_self hphase
    rw [harchive, Option.some.inj hfound]
    refine Or.inl ⟨hexists, fun patch hlatest ↦ ?_⟩
    rw [hcopy patch hlatest, ← hsame]
    exact ⟨rfl, rfl⟩

/-- A status that no pass looks for says that the message is archived. -/
theorem isArchived_of_ne {status : SyncStatus} (hnone : ∀ pass : Pass, status ≠ pass.fromStatus) :
    status.isArchived = true := by
  cases status with
  | syncPending => exact absurd rfl (hnone .pending)
  | updatePending => exact absurd rfl (hnone .updated)
  | deletePending => exact absurd rfl (hnone .deleted)
  | synced => rfl
  | updated => rfl
  | deleted => rfl

/-- Assumes: the clock increases; and after a state in which the worker waits, no request changes
the messages and every upload succeeds with a patch identifier for every message, until the worker
waits again and as many cycles have started as the greatest class of waiting messages has batches.
Then every stored message is archived, and the patch a reader takes for it carries its content and
its status, unless it was archived from the beginning and the archive did not have it so then. -/
theorem complete_of_cycles (hclock : ClockIncreasing (past ++ actions))
    (hrun : relayer.run past = some start) (hwaiting : start.worker.phase = .waiting)
    (hquiet : EveryStep relayer.step Undisturbed start actions)
    (hactions : runFrom relayer.step start actions = some finish)
    (hend : finish.worker.phase = .waiting)
    (henough : ∀ pass : Pass, (start.storage.idsWithStatus pass.fromStatus).card ≤
      relayer.cycles start actions * walrusBatchSize relayer.config.walrusSyncBatchSize)
    (hlookup : finish.storage.messages.lookup id = some stored) :
    stored.syncStatus.isArchived = true ∧
      ((∀ earlier, start.storage.messages.lookup id = some earlier →
        earlier.syncStatus.isArchived = true → ArchivedAs start.archive id earlier) →
          ArchivedAs finish.archive id stored) := by
  have harchived : stored.syncStatus.isArchived = true := by
    refine isArchived_of_ne fun pass hstatus ↦ ?_
    have hcard := card_of_cycles hrun hwaiting hquiet hactions hend pass
    rw [Nat.sub_eq_zero_of_le (henough pass), Finset.card_eq_zero] at hcard
    have hmem : id ∈ finish.storage.idsWithStatus pass.fromStatus :=
      InMemoryStorage.mem_idsWithStatus.mpr ⟨stored, hlookup, hstatus⟩
    rw [hcard] at hmem
    exact absurd hmem (Finset.notMem_empty id)
  refine ⟨harchived, fun hfresh ↦ ?_⟩
  refine history_induction_of_everyStep (fun actions reached ↦ EveryStep relayer.step Undisturbed
    start actions → ClockIncreasing (past ++ actions) → ∀ stored,
      reached.storage.messages.lookup id = some stored → stored.syncStatus.isArchived = true →
        ArchivedAs reached.archive id stored) ?_ ?_ hquiet hactions hquiet hclock stored hlookup
    harchived
  · exact fun _ _ earlier hearlier hstatus ↦ hfresh earlier hearlier hstatus
  · intro segment before action after hsegment hkept hcond hstep hevery hclock stored hlookup
      harchived
    have hreached : relayer.run (past ++ segment) = some before :=
      runFrom_append_eq_some.mpr ⟨start, hrun, hsegment⟩
    rw [← List.append_assoc] at hclock
    have hdraining := draining_of_run hrun hwaiting hevery.of_append hsegment
    rcases archivedAs_of_undisturbed (archiveTidy_of_run hclock.of_append hreached)
      (fun pass remaining response hphase ↦ (hdraining.writing pass remaining response hphase).1)
      hcond hstep hlookup harchived with hnew | ⟨hbefore, hgoesOn⟩
    · exact hnew
    · exact hgoesOn (hkept hevery.of_append hclock.of_append stored hbefore harchived)

end Complete

/-! ### One cycle over one message -/

/-- Steps that serve no request are undisturbed when the uploads among them succeed. -/
theorem undisturbed_of_uploads {relayer : Relayer} {start : System} {actions : List Action}
    (huploads : EveryStep relayer.step UploadSucceeds start actions)
    (hnone : ∀ action ∈ actions, action.task? = none) :
    EveryStep relayer.step Undisturbed start actions := by
  intro past action rest before hsplit hpast
  have htask := hnone action (by rw [hsplit]; simp)
  refine ⟨?_, ?_, huploads past action rest before hsplit hpast⟩
  · rintro task rfl
    simp [Action.task?] at htask
  · rintro task now rfl
    simp [Action.task?] at htask

theorem undisturbed_sampleCycle :
    EveryStep sampleRelayer.step Undisturbed samplePosted sampleCycle := by
  refine undisturbed_of_uploads uploadSucceeds_sampleCycle ?_
  simp [sampleCycle, sampleSnapshot, sampleUpload, Action.task?]

theorem clockIncreasing_sampleCycle : ClockIncreasing (samplePosting ++ sampleCycle) := by
  have hreadings : readings (samplePosting ++ sampleCycle) = (List.range 4).map sampleClock := rfl
  unfold ClockIncreasing
  rw [hreadings]
  decide

theorem card_of_cycles_sampleCycle :
    (sampleCycled.storage.idsWithStatus .syncPending).card =
      (samplePosted.storage.idsWithStatus .syncPending).card -
        sampleRelayer.cycles samplePosted sampleCycle * 100 :=
  card_of_cycles run_samplePosting rfl undisturbed_sampleCycle runFrom_sampleCycle rfl .pending

theorem complete_of_cycles_sampleCycle :
    sampleSynced.syncStatus.isArchived = true ∧
      ArchivedAs sampleCycled.archive sampleMessageId sampleSynced := by
  have hsingle : ∀ {id message}, samplePostedStorage.messages.lookup id = some message →
      id = sampleMessageId ∧ message = sampleMessage := by
    intro id message hlookup
    rw [samplePostedStorage, HashMap.lookup_insert_eq] at hlookup
    split_ifs at hlookup with hid
    · exact ⟨hid, (Option.some.inj hlookup).symm⟩
    · simp at hlookup
  have henough (pass : Pass) : (samplePosted.storage.idsWithStatus pass.fromStatus).card ≤
      sampleRelayer.cycles samplePosted sampleCycle *
        walrusBatchSize sampleRelayer.config.walrusSyncBatchSize := by
    have hcard : (samplePosted.storage.idsWithStatus pass.fromStatus).card ≤ 1 := by
      refine Finset.card_le_one.mpr fun first hfirst second hsecond ↦ ?_
      obtain ⟨message, hlookup, -⟩ := InMemoryStorage.mem_idsWithStatus.mp hfirst
      obtain ⟨other, hother, -⟩ := InMemoryStorage.mem_idsWithStatus.mp hsecond
      exact (hsingle hlookup).1.trans (hsingle hother).1.symm
    have hcycles : 0 < sampleRelayer.cycles samplePosted sampleCycle := by
      unfold Relayer.cycles sampleCycle sampleSnapshot
      rw [List.cons_append, List.cons_append, effects, List.length_append]
      exact Nat.add_pos_left (by decide) _
    have hbound : 1 ≤ sampleRelayer.cycles samplePosted sampleCycle *
        walrusBatchSize sampleRelayer.config.walrusSyncBatchSize :=
      Nat.mul_pos hcycles (by decide)
    exact hcard.trans hbound
  obtain ⟨harchived, hcarried⟩ := complete_of_cycles clockIncreasing_sampleCycle run_samplePosting
    rfl undisturbed_sampleCycle runFrom_sampleCycle rfl henough (Finmap.lookup_insert _)
  refine ⟨harchived, hcarried fun earlier hearlier hstatus ↦ ?_⟩
  rw [(hsingle hearlier).2] at hstatus
  exact absurd hstatus (by decide)

end MessagingRelayer
