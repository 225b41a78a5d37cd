import MessagingRelayer.System.Archive
import MessagingRelayer.System.Deletion

/-!
# The edited flag

A message response says that the message is edited when `updated_at` differs from `created_at`, and
all three writers of a stored message set `updated_at`. With a clock that increases strictly the
flag tells exactly whether any of them has got to the message since it was created
(`newer_iff_touched`). So it reports the edits in a run exactly when the deletions and write-backs
of the run find a message that was edited before (`editedExact_iff`).
-/

set_option autoImplicit false
set_option relaxedAutoImplicit false

namespace MessagingRelayer

open Foundation

/-- The step is an `update_message` of the message that returns `Ok`. -/
def UpdateReturnsOk (id : Uuid) (before : System) (action : Action) : Prop :=
  ∃ task request content now updated, action = .write task now ∧
    before.tasks.lookup task = some ⟨request, .updating id content⟩ ∧
    (before.storage.updateMessage id content now).1 = .ok updated

/-- The step sets the status of the message and leaves its content: a `delete_message` that returns
`Ok`, or a write-back with a patch for the message. -/
def SetsStatus (id : Uuid) (before : System) (action : Action) : Prop :=
  DeleteReturnsOk id before action ∨
    ∃ now pass msg remaining response patchId stored, action = .writeBack now ∧
      before.worker.phase = .writingBack pass (msg :: remaining) response ∧ msg.id = id ∧
      response.getPatchId (patchIdentifier id) = some patchId ∧
      before.storage.messages.lookup id = some stored

/-- The step writes to the message. -/
def Touches (id : Uuid) (before : System) (action : Action) : Prop :=
  UpdateReturnsOk id before action ∨ SetsStatus id before action

/-- In every state of the run the response of a stored message says that it is edited exactly when
an `update_message` of it has returned `Ok`. -/
def EditedExact (relayer : Relayer) (actions : List Action) : Prop :=
  ∀ past rest reached, actions = past ++ rest → relayer.run past = some reached →
    ∀ id message, reached.storage.messages.lookup id = some message →
      ((MessageResponse.fromMessage message).isEdited = true ↔
        Happened relayer.step .init past (UpdateReturnsOk id))

/-- Every step of the run that sets the status of a message comes after an edit of the message. -/
def SetsStatusOfEdited (relayer : Relayer) (actions : List Action) : Prop :=
  ∀ past action rest before id, actions = past ++ action :: rest →
    relayer.run past = some before → SetsStatus id before action →
      Happened relayer.step .init past (UpdateReturnsOk id)

section EditedFlag

variable {relayer : Relayer} {past actions : List Action} {action : Action}
  {before after : System} {id : Uuid} {message : Message}

/-- A step that writes to a message finds it stored and leaves it with the time of the step. -/
theorem lookup_of_touches (htouches : Touches id before action) :
    ∃ after now stored message, relayer.step before action = some after ∧
      action.now? = some now ∧ before.storage.messages.lookup id = some stored ∧
      after.storage.messages.lookup id = some message ∧ message.updatedAt = now ∧
      message.createdAt = stored.createdAt := by
  rcases htouches with ⟨task, request, content, now, updated, rfl, htask, hok⟩ |
    ⟨task, request, now, deleted, rfl, htask, hok⟩ |
    ⟨now, pass, msg, remaining, response, patchId, stored, rfl, hphase, rfl, hpatch, hlookup⟩
  · rcases before.storage.updateMessage_cases id content now with ⟨err, hresult⟩ |
      ⟨stored, hlookup, -, hresult⟩
    · simp [hresult] at hok
    · refine ⟨_, now, stored, stored.updateContent content now, step_update now htask, rfl, hlookup,
        ?_, rfl, rfl⟩
      rw [System.storage_setTask, hresult]
      exact Finmap.lookup_insert _
  · rcases before.storage.deleteMessage_cases id now with ⟨-, hresult⟩ | ⟨stored, hlookup, hresult⟩
    · simp [hresult] at hok
    · refine ⟨_, now, stored, stored.markForDeletion now, step_delete now htask, rfl, hlookup, ?_,
        rfl, rfl⟩
      rw [System.storage_setTask, hresult]
      exact Finmap.lookup_insert _
  · exact ⟨_, now, stored, stored.withSyncStatus pass.toStatus (some patchId) now,
      step_writeBack now hphase, rfl, hlookup, lookup_writeBackMessage now hpatch hlookup, rfl, rfl⟩

/-- A message that a step does not write to is the one that was stored, or the step inserts it. -/
theorem lookup_of_not_touches (hstep : relayer.step before action = some after)
    (hnot : ¬ Touches id before action)
    (hlookup : after.storage.messages.lookup id = some message) :
    before.storage.messages.lookup id = some message ∨
      ∃ task request, before.tasks.lookup task = some ⟨request, .inserting message⟩ ∧
        before.storage.messages.lookup id = none := by
  have heffect := messageEffect_of_step hstep id
  rw [hlookup] at heffect
  generalize hfound : some message = found at heffect
  cases heffect with
  | unchanged => exact Or.inl rfl
  | @created task request inserted htask hid hnone =>
    obtain rfl := Option.some.inj hfound
    exact Or.inr ⟨task, request, htask, hnone⟩
  | @edited task request content now stored htask hstored hnonce =>
    refine absurd (Or.inl
      ⟨task, request, content, now, stored.updateContent content now, rfl, htask, ?_⟩) hnot
    rw [InMemoryStorage.updateMessage_eq_ok content now hstored hnonce]
  | deleted htask hstored =>
    exact absurd (Or.inr (Or.inl ((deleteReturnsOk_iff_lookup htask).mpr ⟨_, hstored⟩))) hnot
  | archived hphase hid hpatch hstored =>
    exact absurd (Or.inr (Or.inr ⟨_, _, _, _, _, _, _, rfl, hphase, hid, hpatch, hstored⟩)) hnot

/-- A message that was written to is stored ever after. -/
theorem stored_of_happened (hrun : relayer.run past = some before)
    (hhappened : Happened relayer.step .init past (Touches id)) :
    before.storage.messages.lookup id ≠ none := by
  obtain ⟨first, action, rest, middle, rfl, hfirst, htouches⟩ := hhappened
  obtain ⟨reached, hreached, hrest⟩ := runFrom_append_eq_some.mp hrun
  obtain rfl : middle = reached := Option.some.inj (hfirst.symm.trans hreached)
  obtain ⟨next, now, stored, message, hnext, -, -, hlookup, -, -⟩ := lookup_of_touches htouches
  rw [runFrom_cons, hnext] at hrest
  obtain ⟨kept, hkept, -⟩ := identity_kept_of_run hrest id message hlookup
  rw [hkept]
  exact Option.some_ne_none kept

/-- Assumes: a clock that increases strictly. A stored message is as old as its last update exactly
as long as nothing has written to it. -/
theorem newer_iff_touched (hclock : ClockIncreasing past) (hrun : relayer.run past = some before)
    (hlookup : before.storage.messages.lookup id = some message) :
    message.createdAt ≤ message.updatedAt ∧
      (message.updatedAt ≠ message.createdAt ↔
        Happened relayer.step .init past (Touches id)) := by
  refine history_induction (fun past reached ↦ ClockIncreasing past → ∀ message,
    reached.storage.messages.lookup id = some message →
      message.createdAt ≤ message.updatedAt ∧ (message.updatedAt ≠ message.createdAt ↔
        Happened relayer.step .init past (Touches id))) ?_ ?_ hrun hclock message hlookup
  · intro _ message hlookup
    simp [System.init, InMemoryStorage.new] at hlookup
  · intro past before action after hpast hearlier hstep hclock message hlookup
    rw [happened_concat_iff hpast]
    by_cases htouches : Touches id before action
    · obtain ⟨next, now, stored, found, hnext, hnow, hstored, hfound, hupdated, hcreated⟩ :=
        lookup_of_touches htouches
      obtain rfl : next = after := Option.some.inj (hnext.symm.trans hstep)
      obtain rfl : message = found := Option.some.inj (hlookup.symm.trans hfound)
      have hnewer := readsLater_of_clock hclock hpast now hnow id stored hstored
      have hlater : stored.createdAt < now :=
        lt_of_le_of_lt (hearlier hclock.of_append stored hstored).1 hnewer
      rw [hupdated, hcreated]
      exact ⟨hlater.le, fun _ ↦ Or.inr htouches, fun _ ↦ hlater.ne'⟩
    · have hlast : (Happened relayer.step .init past (Touches id) ∨ Touches id before action) ↔
          Happened relayer.step .init past (Touches id) :=
        or_iff_left htouches
      rw [hlast]
      rcases lookup_of_not_touches hstep htouches hlookup with hstored |
        ⟨task, request, htask, hnone⟩
      · exact hearlier hclock.of_append message hstored
      · obtain ⟨built, order, ⟨auth, req, newId, now, -, -, hprepare⟩, rfl⟩ :=
          backed_of_run hpast _ _ htask
        obtain ⟨content, -, rfl⟩ := createMessagePrepare_eq_ok hprepare
        exact ⟨le_refl now, fun hne ↦ absurd rfl hne,
          fun hhappened ↦ absurd hnone (stored_of_happened hpast hhappened)⟩

/-- An edit is not a step that only sets the status. -/
theorem not_updateReturnsOk_of_setsStatus (hsets : SetsStatus id before action) :
    ¬ UpdateReturnsOk id before action := by
  rintro ⟨task, request, content, now, updated, rfl, htask, -⟩
  rcases hsets with ⟨other, request', now', deleted, hwrite, hdeleting, -⟩ |
    ⟨now', -, -, -, -, -, -, hwrite, -⟩
  · obtain ⟨rfl, -⟩ : task = other ∧ now = now' := by simpa using hwrite
    simp [htask] at hdeleting
  · simp at hwrite

/-- Assumes: a clock that increases strictly. The flag reports the edits of a run exactly when every
deletion and every write-back of the run comes after an edit of its message. -/
theorem editedExact_iff (hclock : ClockIncreasing actions) :
    EditedExact relayer actions ↔ SetsStatusOfEdited relayer actions := by
  have hflag : ∀ message : Message, (MessageResponse.fromMessage message).isEdited = true ↔
      message.updatedAt ≠ message.createdAt := fun message ↦ decide_eq_true_iff
  constructor
  · rintro hexact past action rest before id rfl hpast hsets
    obtain ⟨after, now, stored, message, hstep, -, -, hlookup, -, -⟩ :=
      lookup_of_touches (Or.inr hsets)
    have hsplit : past ++ action :: rest = (past ++ [action]) ++ rest := by simp
    have hrun := runFrom_concat_eq_some.mpr ⟨before, hpast, hstep⟩
    rw [hsplit] at hexact hclock
    have hnewer := (newer_iff_touched hclock.of_append hrun hlookup).2.mpr
      ((happened_concat_iff hpast).mpr (Or.inr (Or.inr hsets)))
    have hedited := (hexact _ rest after rfl hrun id message hlookup).mp
      ((hflag message).mpr hnewer)
    exact ((happened_concat_iff hpast).mp hedited).resolve_right
      (not_updateReturnsOk_of_setsStatus hsets)
  · rintro hsets past rest reached rfl hpast id message hlookup
    rw [hflag, (newer_iff_touched hclock.of_append hpast hlookup).2]
    constructor
    · rintro ⟨first, action, later, before, rfl, hfirst, hedits | hstatus⟩
      · exact ⟨first, action, later, before, rfl, hfirst, hedits⟩
      · exact (hsets first action (later ++ rest) before id (by simp) hfirst hstatus).append _
    · rintro ⟨first, action, later, before, rfl, hfirst, hedits⟩
      exact ⟨first, action, later, before, rfl, hfirst, Or.inl hedits⟩

end EditedFlag

/-! ### An archival of a message that was never edited -/

/-- A client posts a message that is archived. -/
theorem editedExact_iff_sampleArchival :
    EditedExact sampleRelayer sampleArchival ↔ SetsStatusOfEdited sampleRelayer sampleArchival :=
  editedExact_iff clockIncreasing_sampleArchival

/-- The write-back of a message that was never edited makes it appear edited. -/
theorem not_editedExact_of_writeBack :
    ¬ ∀ relayer actions, ClockIncreasing actions → EditedExact relayer actions := by
  intro hexact
  have hwritten : (writeBackMessage samplePostedStorage .pending sampleMessage sampleReply
      (sampleClock 3)).messages.lookup sampleMessageId =
        some (sampleMessage.withSyncStatus .synced (some "sample-patch") (sampleClock 3)) :=
    lookup_writeBackMessage (sampleClock 3) getPatchId_sampleReply lookup_samplePostedStorage
  have hrun := runFrom_concat_eq_some.mpr ⟨_, run_sampleUpload,
    step_writeBack (sampleClock 3) rfl⟩
  obtain ⟨past, action, rest, before, hsplit, -, task, request, content, now, updated, rfl, -, -⟩ :=
    (hexact sampleRelayer sampleArchival clockIncreasing_sampleArchival _ [.finishPass] _
      (by simp [sampleArchival]) hrun sampleMessageId _ hwritten).mp (by decide)
  have hmem : Action.write task now ∈
      samplePosting ++ sampleSnapshot ++ sampleUpload ++ [.writeBack (sampleClock 3)] := by
    rw [hsplit]
    simp
  simp [samplePosting, sampleStart, serveCreate, sampleSnapshot, sampleUpload] at hmem

end MessagingRelayer
