import MessagingRelayer.Services.SyncPass
import MessagingRelayer.System.Step

/-!
# A pass as steps of the system

The steps of the worker through a pass, taken without interruption, do what `syncMessages` does
(`runFrom_passActions`).
-/

set_option autoImplicit false
set_option relaxedAutoImplicit false

namespace MessagingRelayer

open Foundation

/-- The steps of the worker through a pass over these messages, without interruption. -/
def passActions (messages listing : List Message) (reply : Except String QuiltStoreResponse)
    (clock : Uuid → DateTime) : List Action :=
  .snapshot listing ::
    if messages = [] then []
    else .upload reply ::
      match reply with
      | .error _ => []
      | .ok _ => messages.map (fun msg ↦ .writeBack (clock msg.id)) ++ [.finishPass]

section PassActions

variable {relayer : Relayer} {system : System} {pass : Pass}

theorem runFrom_writeBacks {messages : List Message} {response : QuiltStoreResponse}
    (clock : Uuid → DateTime) (hphase : system.worker.phase = .writingBack pass messages response) :
    runFrom relayer.step system (messages.map fun msg ↦ .writeBack (clock msg.id)) =
      some { system with
        storage := writeBackAll system.storage pass response clock messages
        worker := { system.worker with phase := .writingBack pass [] response } } := by
  induction messages generalizing system with
  | nil =>
    rw [← hphase]
    rfl
  | cons msg rest ih =>
    rw [List.map_cons, runFrom_cons, step_writeBack _ hphase, Option.bind_some, ih rfl]
    rfl

/-- The steps of a pass leave the storage that `syncMessages` leaves behind, and the worker goes on
after the pass. -/
theorem runFrom_passActions {listing : List Message} (hphase : system.worker.phase = .snapshot pass)
    (hlisting : system.storage.messages.IterationOrder listing)
    (reply : Except String QuiltStoreResponse) (clock : Uuid → DateTime) :
    ∃ finish, runFrom relayer.step system (passActions
        (InMemoryStorage.getMessagesBySyncStatus listing pass.fromStatus
          (walrusBatchSize relayer.config.walrusSyncBatchSize)) listing reply clock) = some finish ∧
      finish.storage = (syncMessages system.storage pass
        (walrusBatchSize relayer.config.walrusSyncBatchSize) listing reply clock).2 ∧
      finish.worker = system.worker.leavePass pass := by
  have hsnapshot : relayer.step system (.snapshot listing) = some { system with
      worker := system.worker.takeSnapshot pass (InMemoryStorage.getMessagesBySyncStatus listing
        pass.fromStatus (walrusBatchSize relayer.config.walrusSyncBatchSize)) } := by
    simp only [Relayer.step, hphase, if_pos hlisting]
  rw [syncMessages_snd]
  generalize InMemoryStorage.getMessagesBySyncStatus listing pass.fromStatus
    (walrusBatchSize relayer.config.walrusSyncBatchSize) = batch at hsnapshot ⊢
  unfold passActions
  rw [runFrom_cons, hsnapshot, Option.bind_some]
  by_cases hempty : batch = []
  · subst hempty
    refine ⟨_, rfl, ?_, rfl⟩
    cases reply <;> rfl
  · rw [if_neg hempty, runFrom_cons]
    have htaken : system.worker.takeSnapshot pass batch =
        { system.worker with phase := .uploading pass batch } := by
      unfold SyncWorker.takeSnapshot
      rw [if_neg hempty]
    rw [htaken]
    cases reply with
    | error err => exact ⟨_, rfl, rfl, by cases pass <;> rfl⟩
    | ok response =>
      simp only [Relayer.step, Option.bind_some]
      refine ⟨_, runFrom_append_eq_some.mpr ⟨_, runFrom_writeBacks clock rfl, rfl⟩, rfl, ?_⟩
      cases pass <;> rfl

end PassActions

end MessagingRelayer
