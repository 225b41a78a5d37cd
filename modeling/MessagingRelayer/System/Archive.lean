import MessagingRelayer.System.Provenance
import MessagingRelayer.System.Serving

/-!
# The archive

A reader of the archive takes, of all patches of a message, the one with the greatest `updated_at`.
A message whose status says that it is archived should be that patch: `ArchiveFresh`. The clock is
assumed to increase strictly. Then the archive is fresh in every state of a run exactly when every
write-back finds its message with the content it had in the snapshot
(`archiveFresh_iff_writesBackSnapshot`): the write-back sets the target status whatever has happened
to the message since.

The invariant behind it is `ArchiveTidy`. Every patch is older than the stored message or is the
copy of it, and of a message the worker holds the upload is, or will be, the latest patch.
-/

set_option autoImplicit false
set_option relaxedAutoImplicit false

namespace MessagingRelayer

open Foundation

/-! ### Copies -/

/-- What a pass uploads of a message. -/
def Pass.copy (pass : Pass) (msg : Message) : Message :=
  { msg with syncStatus := pass.toStatus }

section Copies

variable {pass other : Pass} {msg : Message}

@[simp] theorem id_copy : (pass.copy msg).id = msg.id :=
  rfl

@[simp] theorem updatedAt_copy : (pass.copy msg).updatedAt = msg.updatedAt :=
  rfl

@[simp] theorem content_copy : (pass.copy msg).content = msg.content :=
  rfl

@[simp] theorem syncStatus_copy : (pass.copy msg).syncStatus = pass.toStatus :=
  rfl

theorem message_of_mem_patches {messages : List Message} {patch : Patch}
    (hmem : patch ∈ pass.patches messages) : ∃ msg ∈ messages, patch.message = pass.copy msg := by
  obtain ⟨msg, hlisted, rfl⟩ := List.mem_map.mp hmem
  exact ⟨msg, hlisted, rfl⟩

theorem fromStatus_injective : Function.Injective Pass.fromStatus := by
  intro first second hsame
  cases first <;> cases second <;> first | rfl | exact absurd hsame (by decide)

theorem isArchived_fromStatus (pass : Pass) : pass.fromStatus.isArchived = false := by
  cases pass <;> rfl

end Copies

/-! ### The clock -/

/-- The clock readings of a run, in order. -/
def readings (actions : List Action) : List DateTime :=
  actions.filterMap Action.now?

/-- Every reading of the clock is later than those before it. -/
def ClockIncreasing (actions : List Action) : Prop :=
  (readings actions).Pairwise (· < ·)

section Clock

variable {relayer : Relayer} {past : List Action} {action : Action} {before after : System}

theorem readings_concat (past : List Action) (action : Action) :
    readings (past ++ [action]) = readings past ++ action.now?.toList := by
  unfold readings
  rw [List.filterMap_append]
  cases hnow : action.now? <;> simp [hnow]

theorem ClockIncreasing.of_append {first second : List Action}
    (hclock : ClockIncreasing (first ++ second)) : ClockIncreasing first := by
  unfold ClockIncreasing readings at hclock
  rw [List.filterMap_append, List.pairwise_append] at hclock
  exact hclock.1

theorem ClockIncreasing.of_concat (hclock : ClockIncreasing (past ++ [action])) :
    ClockIncreasing past ∧
      ∀ now, action.now? = some now → ∀ earlier ∈ readings past, earlier < now := by
  unfold ClockIncreasing at hclock
  rw [readings_concat, List.pairwise_append] at hclock
  refine ⟨hclock.1, fun now hnow earlier hearlier ↦ hclock.2.2 earlier hearlier now ?_⟩
  rw [hnow]
  exact List.mem_singleton_self now

/-- A stored message was last updated at a reading of the run. -/
theorem updatedAt_mem_readings (hrun : relayer.run past = some before) :
    ∀ id message, before.storage.messages.lookup id = some message →
      message.updatedAt ∈ readings past := by
  refine history_induction
    (fun past reached ↦ ∀ id message, reached.storage.messages.lookup id = some message →
      message.updatedAt ∈ readings past) ?_ ?_ hrun
  · intro id message hlookup
    simp [System.init, InMemoryStorage.new] at hlookup
  · intro past before action after hpast hearlier hstep id message hlookup
    rw [readings_concat, List.mem_append]
    have heffect := messageEffect_of_step hstep id
    rw [hlookup] at heffect
    generalize hfound : some message = found at heffect
    cases heffect with
    | unchanged => exact Or.inl (hearlier id message hfound.symm)
    | @created task request inserted htask =>
      obtain ⟨built, order, ⟨auth, req, newId, now, -, hprepared, hprepare⟩, rfl⟩ :=
        backed_of_run hpast _ _ htask
      obtain ⟨content, -, rfl⟩ := createMessagePrepare_eq_ok hprepare
      rw [Option.some.inj hfound]
      exact Or.inl (List.mem_filterMap.mpr ⟨_, hprepared, rfl⟩)
    | edited htask hstored =>
      rw [Option.some.inj hfound]
      exact Or.inr List.mem_cons_self
    | deleted htask hstored =>
      rw [Option.some.inj hfound]
      exact Or.inr List.mem_cons_self
    | archived hphase hid hpatch hstored =>
      rw [Option.some.inj hfound]
      exact Or.inr List.mem_cons_self

/-- The readings of this step are later than the last update of every stored message. -/
def ReadsLater (before : System) (action : Action) : Prop :=
  ∀ now, action.now? = some now → ∀ id message,
    before.storage.messages.lookup id = some message → message.updatedAt < now

theorem readsLater_of_clock (hclock : ClockIncreasing (past ++ [action]))
    (hrun : relayer.run past = some before) : ReadsLater before action :=
  fun now hnow id message hlookup ↦
    hclock.of_concat.2 now hnow _ (updatedAt_mem_readings hrun id message hlookup)

/-- The step writes back the message with this identifier. -/
def WritesBack (before : System) (action : Action) (id : Uuid) : Prop :=
  ∃ now pass msg remaining response, action = .writeBack now ∧
    before.worker.phase = .writingBack pass (msg :: remaining) response ∧ msg.id = id

/-- Assumes: the step reads a later time. A stored message stays as it is, or becomes newer; and
unless it is written back, one that is not archived does not become archived. -/
theorem advances_of_step (hlater : ReadsLater before action)
    (hstep : relayer.step before action = some after) {id : Uuid} {message : Message}
    (hlookup : before.storage.messages.lookup id = some message) :
    ∃ newer, after.storage.messages.lookup id = some newer ∧
      (newer = message ∨ message.updatedAt < newer.updatedAt) ∧
      (¬ WritesBack before action id →
        message.syncStatus.isArchived = false → newer.syncStatus.isArchived = false) := by
  have heffect := messageEffect_of_step hstep id
  generalize after.storage.messages.lookup id = found at heffect
  cases heffect with
  | unchanged => exact ⟨message, hlookup, Or.inl rfl, fun _ hstatus ↦ hstatus⟩
  | created htask hid hnone => simp [hlookup] at hnone
  | edited htask hstored =>
    obtain rfl := Option.some.inj (hlookup.symm.trans hstored)
    exact ⟨_, rfl, Or.inr (hlater _ rfl id message hlookup), fun _ _ ↦ rfl⟩
  | deleted htask hstored =>
    obtain rfl := Option.some.inj (hlookup.symm.trans hstored)
    exact ⟨_, rfl, Or.inr (hlater _ rfl id message hlookup), fun _ _ ↦ rfl⟩
  | archived hphase hid hpatch hstored =>
    obtain rfl := Option.some.inj (hlookup.symm.trans hstored)
    exact ⟨_, rfl, Or.inr (hlater _ rfl id message hlookup),
      fun hother ↦ absurd ⟨_, _, _, _, _, rfl, hphase, hid⟩ hother⟩

end Clock

/-! ### The invariant -/

/-- Every patch is older than its stored message, or is the copy of the message as it is; the
worker holds different messages, each as it is stored or older than that and not archived; no other
patch of a message it holds is as new as the copy it uploads, and what it writes back it has
uploaded. -/
structure ArchiveTidy (system : System) : Prop where
  patch_old : ∀ patch ∈ system.archive, ∃ stored,
    system.storage.messages.lookup patch.message.id = some stored ∧
      (patch.message.updatedAt < stored.updatedAt ∨
        ∃ pass : Pass, stored.syncStatus = pass.fromStatus ∧ patch.message = pass.copy stored)
  held_distinct : (system.worker.phase.held.map Message.id).Nodup
  held_old : ∀ pass msg, system.worker.phase.Holds pass msg → msg.syncStatus = pass.fromStatus ∧
    ∃ stored, system.storage.messages.lookup msg.id = some stored ∧
      (stored = msg ∨ msg.updatedAt < stored.updatedAt) ∧ stored.syncStatus.isArchived = false
  held_latest : ∀ pass msg, system.worker.phase.Holds pass msg → ∀ patch ∈ system.archive,
    patch.message.id = msg.id →
      patch.message.updatedAt < msg.updatedAt ∨ patch.message = pass.copy msg
  uploaded : ∀ pass remaining response, system.worker.phase = .writingBack pass remaining response →
    ∀ msg ∈ remaining, ∃ patch ∈ system.archive, patch.message = pass.copy msg

section Tidy

variable {relayer : Relayer} {past : List Action} {action : Action} {before after : System}

theorem archiveTidy_init : ArchiveTidy .init where
  patch_old patch hmem := by simp [System.init] at hmem
  held_distinct := List.nodup_nil
  held_old pass msg hholds := absurd hholds not_false
  held_latest pass msg hholds := absurd hholds not_false
  uploaded pass remaining response hphase := by simp [System.init, SyncWorker.new] at hphase

/-- A patch after a step was there before, or is a copy of a snapshot that was uploaded. -/
theorem archive_of_step (hstep : relayer.step before action = some after) {patch : Patch}
    (hmem : patch ∈ after.archive) :
    patch ∈ before.archive ∨ ∃ pass messages response,
      before.worker.phase = .uploading pass messages ∧
      after.worker.phase = .writingBack pass messages response ∧
      ∃ msg ∈ messages, patch.message = pass.copy msg := by
  rcases worker_of_step hstep with ⟨-, hsame⟩ | hmove
  · exact Or.inl (hsame ▸ hmem)
  · generalize after.worker = worker at hmove
    generalize after.archive = archive at hmove hmem
    cases hmove with
    | ticked hphase => exact Or.inl hmem
    | received hphase => exact Or.inl hmem
    | snapped hphase hlisting => exact Or.inl hmem
    | failed hphase => exact Or.inl hmem
    | @uploaded pass messages response hphase =>
      rcases List.mem_append.mp hmem with hold | hnew
      · exact Or.inl hold
      · exact Or.inr ⟨pass, messages, response, hphase, rfl, message_of_mem_patches hnew⟩
    | wroteBack hphase => exact Or.inl hmem
    | finished hphase => exact Or.inl hmem

/-- No step takes a patch from the archive. -/
theorem archive_mono (hstep : relayer.step before action = some after) {patch : Patch}
    (hmem : patch ∈ before.archive) : patch ∈ after.archive := by
  rcases worker_of_step hstep with ⟨-, hsame⟩ | hmove
  · exact hsame ▸ hmem
  · generalize after.worker = worker at hmove
    generalize after.archive = archive at hmove ⊢
    cases hmove with
    | uploaded hphase => exact List.mem_append_left _ hmem
    | _ => exact hmem

theorem held_leavePass (worker : SyncWorker) (left : Pass) :
    (worker.leavePass left).phase.held = [] := by
  cases left <;> rfl

/-- A message the worker still holds after a step is not the one the step wrote back. -/
theorem not_writesBack_of_holds (htidy : ArchiveTidy before)
    (hstep : relayer.step before action = some after) {pass : Pass} {msg : Message}
    (hholds : after.worker.phase.Holds pass msg) : ¬ WritesBack before action msg.id := by
  rintro ⟨now, current, written, remaining, response, rfl, hphase, hid⟩
  have hafter : after.worker.phase = .writingBack current remaining response := by
    rw [step_writeBack now hphase] at hstep
    rw [← Option.some.inj hstep]
  have hdistinct := htidy.held_distinct
  rw [hphase] at hdistinct
  rw [hafter] at hholds
  exact (List.nodup_cons.mp hdistinct).1 (hid ▸ List.mem_map_of_mem hholds.2)

/-- The messages the worker holds are different. -/
theorem held_distinct_of_step (hindexed : before.storage.NonceIndexed) (htidy : ArchiveTidy before)
    (hstep : relayer.step before action = some after) :
    (after.worker.phase.held.map Message.id).Nodup := by
  rcases worker_of_step hstep with ⟨hsame, -⟩ | hmove
  · rw [hsame]
    exact htidy.held_distinct
  · have hdistinct := htidy.held_distinct
    generalize after.worker = worker at hmove ⊢
    generalize after.archive = archive at hmove
    cases hmove with
    | ticked hphase => exact List.nodup_nil
    | received hphase =>
      unfold SyncWorker.receive
      simp only
      split_ifs
      · exact hdistinct
      · exact List.nodup_nil
    | @snapped pass listing hphase hlisting =>
      unfold SyncWorker.takeSnapshot
      split_ifs with hempty
      · rw [held_leavePass]
        exact List.nodup_nil
      · have hsublist : (InMemoryStorage.getMessagesBySyncStatus listing pass.fromStatus
            (walrusBatchSize relayer.config.walrusSyncBatchSize)).Sublist listing :=
          (List.take_sublist _ _).trans List.filter_sublist
        exact (hlisting.nodup_map Message.id hindexed.filed).sublist (hsublist.map _)
    | failed hphase =>
      rw [held_leavePass]
      exact List.nodup_nil
    | uploaded hphase =>
      rw [hphase] at hdistinct
      exact hdistinct
    | wroteBack hphase =>
      rw [hphase] at hdistinct
      exact (List.nodup_cons.mp hdistinct).2
    | finished hphase =>
      rw [held_leavePass]
      exact List.nodup_nil

/-- What the worker writes back after a step it wrote back before, or it has just been uploaded. -/
theorem uploaded_of_step (hstep : relayer.step before action = some after) {pass : Pass}
    {remaining : List Message} {response : QuiltStoreResponse} {msg : Message}
    (hafter : after.worker.phase = .writingBack pass remaining response) (hmem : msg ∈ remaining) :
    (∃ earlier, before.worker.phase = .writingBack pass earlier response ∧ msg ∈ earlier) ∨
      ∃ patch ∈ after.archive, patch.message = pass.copy msg := by
  have hheld : msg ∈ after.worker.phase.held := by
    rw [hafter]
    exact hmem
  rcases worker_of_step hstep with ⟨hsame, -⟩ | hmove
  · exact Or.inl ⟨remaining, hsame ▸ hafter, hmem⟩
  · generalize after.worker = worker at hmove hafter hheld
    generalize after.archive = archive at hmove ⊢
    cases hmove with
    | ticked hphase => exact absurd hheld List.not_mem_nil
    | received hphase =>
      unfold SyncWorker.receive at hafter hheld
      simp only at hafter hheld
      split_ifs at hafter hheld
      · exact Or.inl ⟨remaining, hafter, hmem⟩
      · exact absurd hheld List.not_mem_nil
    | snapped hphase hlisting =>
      unfold SyncWorker.takeSnapshot at hafter hheld
      split_ifs at hafter hheld
      · rw [held_leavePass] at hheld
        exact absurd hheld List.not_mem_nil
    | failed hphase =>
      rw [held_leavePass] at hheld
      exact absurd hheld List.not_mem_nil
    | @uploaded current messages reply hphase =>
      obtain ⟨rfl, rfl, rfl⟩ : current = pass ∧ messages = remaining ∧ reply = response := by
        simpa using hafter
      refine Or.inr ⟨⟨patchIdentifier msg.id, current.copy msg⟩, ?_, rfl⟩
      exact List.mem_append_right _ (List.mem_map_of_mem hmem)
    | @wroteBack current written rest reply now hphase =>
      obtain ⟨rfl, rfl, rfl⟩ : current = pass ∧ rest = remaining ∧ reply = response := by
        simpa using hafter
      exact Or.inl ⟨_, hphase, List.mem_cons_of_mem written hmem⟩
    | finished hphase =>
      rw [held_leavePass] at hheld
      exact absurd hheld List.not_mem_nil

/-- Assumes: the step reads a later time. A step keeps the archive tidy. -/
theorem archiveTidy_of_step (hindexed : before.storage.NonceIndexed)
    (hlater : ReadsLater before action) (htidy : ArchiveTidy before)
    (hstep : relayer.step before action = some after) : ArchiveTidy after where
  patch_old patch hmem := by
    rcases archive_of_step hstep hmem with hold |
      ⟨pass, messages, response, hphase, -, msg, hmsg, hcopy⟩
    · obtain ⟨stored, hlookup, hage⟩ := htidy.patch_old patch hold
      obtain ⟨newer, hnewer, hadvance, -⟩ := advances_of_step hlater hstep hlookup
      refine ⟨newer, hnewer, ?_⟩
      rcases hadvance with rfl | hyounger
      · exact hage
      · left
        rcases hage with holder | ⟨pass, -, hcopy⟩
        · exact holder.trans hyounger
        · rw [hcopy]
          exact hyounger
    · have hholds : before.worker.phase.Holds pass msg := by
        rw [hphase]
        exact ⟨rfl, hmsg⟩
      obtain ⟨hstatus, stored, hlookup, hage, -⟩ := htidy.held_old pass msg hholds
      obtain ⟨newer, hnewer, hadvance, -⟩ := advances_of_step hlater hstep hlookup
      rw [hcopy]
      refine ⟨newer, hnewer, ?_⟩
      rcases hadvance with rfl | hyounger
      · rcases hage with rfl | holder
        · exact Or.inr ⟨pass, hstatus, rfl⟩
        · exact Or.inl holder
      · rcases hage with rfl | holder
        · exact Or.inl hyounger
        · exact Or.inl (holder.trans hyounger)
  held_distinct := held_distinct_of_step hindexed htidy hstep
  held_old pass msg hholds := by
    have hnot := not_writesBack_of_holds htidy hstep hholds
    have hbefore : msg.syncStatus = pass.fromStatus ∧
        ∃ stored, before.storage.messages.lookup msg.id = some stored ∧
          (stored = msg ∨ msg.updatedAt < stored.updatedAt) ∧
          stored.syncStatus.isArchived = false := by
      rcases holds_of_step hstep hholds with hheld | ⟨listing, -, -, ⟨key, hlookup⟩, hstatus⟩
      · exact htidy.held_old pass msg hheld
      · have hkey := hindexed.filed key msg hlookup
        refine ⟨hstatus, msg, hkey ▸ hlookup, Or.inl rfl, ?_⟩
        rw [hstatus]
        exact isArchived_fromStatus pass
    obtain ⟨hstatus, stored, hlookup, hage, hpending⟩ := hbefore
    obtain ⟨newer, hnewer, hadvance, hkept⟩ := advances_of_step hlater hstep hlookup
    refine ⟨hstatus, newer, hnewer, ?_, hkept hnot hpending⟩
    rcases hadvance with rfl | hyounger
    · exact hage
    · rcases hage with rfl | holder
      · exact Or.inr hyounger
      · exact Or.inr (holder.trans hyounger)
  held_latest pass msg hholds patch hmem hid := by
    rcases holds_of_step hstep hholds with hheld | ⟨listing, -, hphase, ⟨key, hlookup⟩, hstatus⟩
    · rcases archive_of_step hstep hmem with hold | ⟨current, messages, response, hphase, -, other,
        hother, hcopy⟩
      · exact htidy.held_latest pass msg hheld patch hold hid
      · have hdistinct := htidy.held_distinct
        rw [hphase] at hheld hdistinct
        obtain ⟨rfl, hmsg⟩ := hheld
        rw [hcopy] at hid
        obtain rfl := List.inj_on_of_nodup_map hdistinct hother hmsg hid
        exact Or.inr hcopy
    · rcases archive_of_step hstep hmem with hold | ⟨current, messages, response, huploading, -⟩
      · obtain ⟨stored, hstored, hage⟩ := htidy.patch_old patch hold
        have hkey := hindexed.filed key msg hlookup
        rw [hid, hkey, hlookup] at hstored
        obtain rfl := Option.some.inj hstored
        rcases hage with holder | ⟨current, hcurrent, hcopy⟩
        · exact Or.inl holder
        · obtain rfl := fromStatus_injective (hcurrent.symm.trans hstatus)
          exact Or.inr hcopy
      · simp [hphase] at huploading
  uploaded pass remaining response hafter msg hmem := by
    rcases uploaded_of_step hstep hafter hmem with ⟨earlier, hphase, hearlier⟩ | huploaded
    · obtain ⟨patch, hpatch, hcopy⟩ := htidy.uploaded pass earlier response hphase msg hearlier
      exact ⟨patch, archive_mono hstep hpatch, hcopy⟩
    · exact huploaded

/-- Assumes: the clock increases. The archive is tidy in every state of the run. -/
theorem archiveTidy_of_run (hclock : ClockIncreasing past) (hrun : relayer.run past = some before) :
    ArchiveTidy before := by
  refine history_induction (fun past reached ↦ ClockIncreasing past → ArchiveTidy reached) ?_ ?_
    hrun
    hclock
  · exact fun _ ↦ archiveTidy_init
  · intro past before action after hpast htidy hstep hclock
    exact archiveTidy_of_step (nonceIndexed_of_run hpast) (readsLater_of_clock hclock hpast)
      (htidy hclock.of_concat.1) hstep

end Tidy

/-! ### Freshness -/

/-- The patch a reader takes for a message: no patch of the message has a greater `updated_at`. -/
def LatestPatch (archive : List Patch) (id : Uuid) (patch : Patch) : Prop :=
  patch ∈ archive ∧ patch.message.id = id ∧
    ∀ other ∈ archive, other.message.id = id → other.message.updatedAt ≤ patch.message.updatedAt

/-- The archive has a patch of the message, and the one a reader takes carries its content and its
status. -/
def ArchivedAs (archive : List Patch) (id : Uuid) (message : Message) : Prop :=
  (∃ patch, LatestPatch archive id patch) ∧ ∀ patch, LatestPatch archive id patch →
    patch.message.content = message.content ∧ patch.message.syncStatus = message.syncStatus

/-- Every stored message whose status says that it is archived is archived as it is. -/
def ArchiveFresh (system : System) : Prop :=
  ∀ id message, system.storage.messages.lookup id = some message →
    message.syncStatus.isArchived = true → ArchivedAs system.archive id message

/-- A write-back that has a patch for its message finds the message with the content it had in the
snapshot. -/
def WritesBackSnapshot (before : System) : Action → Prop
  | .writeBack _ => ∀ pass msg remaining response stored,
      before.worker.phase = .writingBack pass (msg :: remaining) response →
      response.getPatchId (patchIdentifier msg.id) ≠ none →
      before.storage.messages.lookup msg.id = some stored → stored.content = msg.content
  | _ => True

section Fresh

variable {relayer : Relayer} {past actions : List Action} {action : Action}
  {before after : System}

/-- Of a message that is still to be written back the latest patch is the copy of it. -/
theorem ArchiveTidy.latestPatch_iff (htidy : ArchiveTidy before) {pass : Pass} {msg : Message}
    {remaining : List Message} {response : QuiltStoreResponse} (hmem : msg ∈ remaining)
    (hphase : before.worker.phase = .writingBack pass remaining response) :
    (∃ patch, LatestPatch before.archive msg.id patch) ∧
      ∀ patch, LatestPatch before.archive msg.id patch → patch.message = pass.copy msg := by
  have hholds : before.worker.phase.Holds pass msg := by
    rw [hphase]
    exact ⟨rfl, hmem⟩
  have hlatest := htidy.held_latest pass msg hholds
  obtain ⟨copy, hcopy, hmessage⟩ := htidy.uploaded pass remaining response hphase msg hmem
  have hid : copy.message.id = msg.id := by rw [hmessage, id_copy]
  constructor
  · refine ⟨copy, hcopy, hid, fun other hother hsame ↦ ?_⟩
    rw [hmessage, updatedAt_copy]
    rcases hlatest other hother hsame with holder | hequal
    · exact le_of_lt holder
    · rw [hequal, updatedAt_copy]
  · rintro patch ⟨hpatch, hsame, hgreatest⟩
    have hleast := hgreatest copy hcopy hid
    rw [hmessage, updatedAt_copy] at hleast
    rcases hlatest patch hpatch hsame with holder | hequal
    · exact absurd holder (not_lt_of_ge hleast)
    · exact hequal

/-- Patches of other messages do not matter to a reader. -/
theorem archivedAs_congr {archive more : List Patch} {id : Uuid} {message : Message}
    (hsame : ∀ patch : Patch, patch.message.id = id → (patch ∈ archive ↔ patch ∈ more)) :
    ArchivedAs archive id message ↔ ArchivedAs more id message := by
  have hlatest : ∀ patch, LatestPatch archive id patch ↔ LatestPatch more id patch := by
    intro patch
    constructor
    · rintro ⟨hmem, hid, hgreatest⟩
      exact ⟨(hsame patch hid).mp hmem, hid,
        fun other hother hother' ↦ hgreatest other ((hsame other hother').mpr hother) hother'⟩
    · rintro ⟨hmem, hid, hgreatest⟩
      exact ⟨(hsame patch hid).mpr hmem, hid,
        fun other hother hother' ↦ hgreatest other ((hsame other hother').mp hother) hother'⟩
  unfold ArchivedAs
  simp only [hlatest]

/-- Assumes: a tidy archive. A stored message that is archived is not in a snapshot that is uploaded
now, so the step leaves its patches alone. -/
theorem archive_same_of_archived (htidy : ArchiveTidy before)
    (hstep : relayer.step before action = some after) {id : Uuid} {message : Message}
    (hlookup : before.storage.messages.lookup id = some message)
    (harchived : message.syncStatus.isArchived = true) {patch : Patch}
    (hid : patch.message.id = id) : patch ∈ before.archive ↔ patch ∈ after.archive := by
  refine ⟨archive_mono hstep, fun hmem ↦ ?_⟩
  rcases archive_of_step hstep hmem with hold |
    ⟨pass, messages, response, hphase, -, msg, hmsg, hcopy⟩
  · exact hold
  · have hholds : before.worker.phase.Holds pass msg := by
      rw [hphase]
      exact ⟨rfl, hmsg⟩
    obtain ⟨-, stored, hstored, -, hpending⟩ := htidy.held_old pass msg hholds
    have hsame : msg.id = id := by rw [← hid, hcopy, id_copy]
    rw [hsame, hlookup] at hstored
    obtain rfl := Option.some.inj hstored
    exact absurd (harchived.symm.trans hpending) (by decide)

/-- Assumes: a tidy archive, and a write-back that finds the content of its snapshot. A step keeps
the archive fresh. -/
theorem archiveFresh_of_step (hrun : relayer.run past = some before)
    (htidy : ArchiveTidy before) (hfresh : ArchiveFresh before)
    (hcond : WritesBackSnapshot before action)
    (hstep : relayer.step before action = some after) : ArchiveFresh after := by
  intro id message hlookup harchived
  have heffect := messageEffect_of_step hstep id
  rw [hlookup] at heffect
  generalize hfound : some message = found at heffect
  cases heffect with
  | unchanged =>
    refine (archivedAs_congr fun patch hid ↦ ?_).mp (hfresh id message hfound.symm harchived)
    exact archive_same_of_archived htidy hstep hfound.symm harchived hid
  | @created task request inserted htask =>
    obtain ⟨built, order, ⟨auth, req, newId, now, -, -, hprepare⟩, rfl⟩ :=
      backed_of_run hrun _ _ htask
    obtain ⟨content, -, rfl⟩ := createMessagePrepare_eq_ok hprepare
    rw [Option.some.inj hfound] at harchived
    exact absurd harchived Bool.false_ne_true
  | edited htask hstored =>
    rw [Option.some.inj hfound] at harchived
    exact absurd harchived Bool.false_ne_true
  | deleted htask hstored =>
    rw [Option.some.inj hfound] at harchived
    exact absurd harchived Bool.false_ne_true
  | @archived now pass msg stored remaining response patchId hphase hid hpatch hstored =>
    subst hid
    have hsnapshot : stored.content = msg.content :=
      hcond pass msg remaining response stored hphase (by simp [hpatch]) hstored
    have harchive : after.archive = before.archive := by
      rw [step_writeBack now hphase] at hstep
      rw [← Option.some.inj hstep]
    obtain ⟨hexists, hcopy⟩ := htidy.latestPatch_iff List.mem_cons_self hphase
    rw [harchive, Option.some.inj hfound]
    refine ⟨hexists, fun patch hlatest ↦ ?_⟩
    rw [hcopy patch hlatest]
    exact ⟨hsnapshot.symm, rfl⟩

/-- Assumes: the clock increases strictly. The archive is fresh in every state of a run exactly when
every write-back of the run finds its message with the content of the snapshot. -/
theorem archiveFresh_iff_writesBackSnapshot (hclock : ClockIncreasing actions) :
    (∀ past rest reached, actions = past ++ rest → relayer.run past = some reached →
      ArchiveFresh reached) ↔ EveryStep relayer.step WritesBackSnapshot .init actions := by
  constructor
  · intro hfresh past action rest before hsplit hpast
    cases action with
    | writeBack now =>
      intro pass msg remaining response stored hphase hpatch hlookup
      obtain ⟨patchId, hpatchId⟩ := Option.ne_none_iff_exists'.mp hpatch
      have hafter := hfresh (past ++ [Action.writeBack now]) rest _ (by rw [hsplit]; simp)
        (runFrom_concat_eq_some.mpr ⟨before, hpast, step_writeBack now hphase⟩)
      have hwritten : (writeBackMessage before.storage pass msg response now).messages.lookup
          msg.id = some (stored.withSyncStatus pass.toStatus (some patchId) now) :=
        lookup_writeBackMessage now hpatchId hlookup
      have harchived : pass.toStatus.isArchived = true := by
        cases pass <;> rfl
      rw [hsplit] at hclock
      obtain ⟨⟨patch, hlatest⟩, hcopy⟩ :=
        (archiveTidy_of_run hclock.of_append hpast).latestPatch_iff List.mem_cons_self hphase
      have hcarried := ((hafter msg.id _ hwritten harchived).2 patch hlatest).1
      rw [hcopy patch hlatest] at hcarried
      exact hcarried.symm
    | _ => trivial
  · intro hevery past rest reached hsplit hpast
    rw [hsplit] at hevery hclock
    refine history_induction_of_everyStep
      (fun past reached ↦ ClockIncreasing past → ArchiveFresh reached) ?_ ?_ hevery.of_append hpast
      hclock.of_append
    · intro _ id message hlookup
      simp [System.init, InMemoryStorage.new] at hlookup
    · intro past before action after hpast hfresh hcond hstep hclock
      exact archiveFresh_of_step hpast (archiveTidy_of_run hclock.of_append hpast)
        (hfresh hclock.of_append) hcond hstep

end Fresh

/-! ### An edit between an upload and its write-back -/

/-- The reply to a successful upload gives an identifier for every patch of it. -/
def ReturnsIdentifiers (before : System) (action : Action) : Prop :=
  ∀ pass messages response, before.worker.phase = .uploading pass messages →
    action = .upload (.ok response) →
      ∀ msg ∈ messages, response.getPatchId (patchIdentifier msg.id) ≠ none

/-- Where nothing is uploaded the publisher has nothing to return. -/
theorem returnsIdentifiers_of_notMem {relayer : Relayer} {start : System} {actions : List Action}
    (hnone : ∀ response, .upload (.ok response) ∉ actions) :
    EveryStep relayer.step ReturnsIdentifiers start actions := by
  refine EveryStep.of_forall fun action hmem before pass messages response _ hupload ↦ ?_
  exact absurd (hupload ▸ hmem) (hnone response)

/-- The client edits its message after it was uploaded and before it is written back. -/
def sampleLag : List Action :=
  samplePosting ++ sampleSnapshot ++ sampleUpload ++
    (serveUpdate 1 putRequest (sampleClock 3) (sampleClock 4) (sampleClock 5) ++
      [.writeBack (sampleClock 6)])

theorem clockIncreasing_sampleLag : ClockIncreasing sampleLag := by
  have hreadings : readings sampleLag = (List.range 7).map sampleClock := rfl
  unfold ClockIncreasing
  rw [hreadings]
  decide

theorem returnsIdentifiers_sampleLag :
    EveryStep sampleRelayer.step ReturnsIdentifiers .init sampleLag := by
  have hbefore : EveryStep sampleRelayer.step ReturnsIdentifiers .init
      (samplePosting ++ sampleSnapshot) :=
    returnsIdentifiers_of_notMem (by
      simp [samplePosting, sampleStart, serveCreate, sampleSnapshot])
  have hupload : EveryStep sampleRelayer.step ReturnsIdentifiers sampleUploading sampleUpload := by
    refine everyStep_cons_iff.mpr ⟨?_, fun _ _ ↦ EveryStep.nil⟩
    intro pass messages response hphase hreply msg hmem
    obtain ⟨rfl, rfl⟩ : Pass.pending = pass ∧ [sampleMessage] = messages := by
      simpa [sampleUploading] using hphase
    obtain rfl : sampleReply = response := by simpa using hreply
    rw [List.mem_singleton.mp hmem]
    exact getPatchId_sampleReply ▸ Option.some_ne_none _
  have hafter : EveryStep sampleRelayer.step ReturnsIdentifiers sampleUploaded
      (serveUpdate 1 putRequest (sampleClock 3) (sampleClock 4) (sampleClock 5) ++
        [.writeBack (sampleClock 6)]) :=
    returnsIdentifiers_of_notMem (by simp [serveUpdate])
  exact (hbefore.append run_sampleSnapshot hupload).append run_sampleUpload hafter

/-- A client edits its message between the upload of the message and its write-back: the write-back
says that the message is archived, and the archive has the content from before the edit. -/
theorem not_archiveFresh_of_edit :
    ¬ ∀ relayer actions finish, ClockIncreasing actions →
      EveryStep (Relayer.step relayer) ReturnsIdentifiers .init actions →
        relayer.run actions = some finish → ArchiveFresh finish := by
  intro hfresh
  have hnew : sampleUploaded.tasks.lookup 1 = none := tasks_samplePosted (by decide)
  have hedited : sampleRelayer.run (samplePosting ++ sampleSnapshot ++ sampleUpload ++
      serveUpdate 1 putRequest (sampleClock 3) (sampleClock 4) (sampleClock 5)) =
        some ({ sampleUploaded with storage := sampleEditedStorage 4 }.setTask 1 putRequest
          (.done (sampleRelayer.updateReply (sampleClock 5)))) :=
    runFrom_append_eq_some.mpr ⟨_, run_sampleUpload, runFrom_putRequest rfl hnew (by decide)
      lookup_samplePostedStorage ⟨rfl, rfl⟩ (updateMessage_samplePostedStorage 4)⟩
  have hrun := runFrom_concat_eq_some.mpr ⟨_, hedited,
    step_writeBack (sampleClock 6) rfl⟩
  have hwritten : (writeBackMessage (sampleEditedStorage 4) .pending sampleMessage sampleReply
      (sampleClock 6)).messages.lookup sampleMessageId =
        some ((sampleMessage.updateContent editedContent (sampleClock 4)).withSyncStatus .synced
          (some "sample-patch") (sampleClock 6)) :=
    lookup_writeBackMessage (sampleClock 6) getPatchId_sampleReply (Finmap.lookup_insert _)
  rw [List.append_assoc] at hrun
  obtain ⟨⟨patch, hlatest⟩, hcarries⟩ := hfresh sampleRelayer sampleLag _
    clockIncreasing_sampleLag returnsIdentifiers_sampleLag hrun sampleMessageId _ hwritten rfl
  have hcontent := (hcarries patch hlatest).1
  obtain rfl := List.mem_singleton.mp hlatest.1
  have hmsg : ([0xc0, 0xff, 0xee] : List UInt8) = [0xf0, 0x0d] :=
    congrArg MessageContent.encryptedMsg hcontent
  exact absurd hmsg (by decide)

/-- The client's message is written back as it was uploaded. -/
def sampleArchival : List Action :=
  samplePosting ++ sampleSnapshot ++ sampleUpload ++ [.writeBack (sampleClock 3), .finishPass]

theorem clockIncreasing_sampleArchival : ClockIncreasing sampleArchival := by
  have hreadings : readings sampleArchival = (List.range 4).map sampleClock := rfl
  unfold ClockIncreasing
  rw [hreadings]
  decide

theorem archiveFresh_sampleArchival :
    EveryStep sampleRelayer.step WritesBackSnapshot .init sampleArchival ∧
      ∀ past rest reached, sampleArchival = past ++ rest → sampleRelayer.run past = some reached →
        ArchiveFresh reached := by
  have hbefore : EveryStep sampleRelayer.step WritesBackSnapshot .init
      (samplePosting ++ sampleSnapshot ++ sampleUpload) := by
    refine EveryStep.of_forall fun action hmem before ↦ ?_
    cases action with
    | writeBack now =>
      simp [samplePosting, sampleStart, serveCreate, sampleSnapshot, sampleUpload] at hmem
    | _ => trivial
  have hwritten : EveryStep sampleRelayer.step WritesBackSnapshot sampleUploaded
      [.writeBack (sampleClock 3), .finishPass] := by
    refine everyStep_cons_iff.mpr ⟨?_, fun _ _ ↦ everyStep_cons_iff.mpr
      ⟨trivial, fun _ _ ↦ EveryStep.nil⟩⟩
    intro pass msg remaining response stored hphase _ hlookup
    obtain ⟨-, ⟨rfl, -⟩, -⟩ : Pass.pending = pass ∧ (sampleMessage = msg ∧ [] = remaining) ∧
        sampleReply = response := by
      simpa [sampleUploaded] using hphase
    obtain rfl := Option.some.inj (lookup_samplePostedStorage.symm.trans hlookup)
    rfl
  have hall := hbefore.append run_sampleUpload hwritten
  exact ⟨hall, (archiveFresh_iff_writesBackSnapshot clockIncreasing_sampleArchival).mpr hall⟩

end MessagingRelayer
