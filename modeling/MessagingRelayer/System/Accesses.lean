import MessagingRelayer.Storage.Calls
import MessagingRelayer.System.Effects

/-!
# The storage of the running relayer

The storage is modelled twice: on its own, under the accesses of concurrent calls
(`SharedStorage`), and as a part of the relayer, where the tasks that serve requests and the worker
make those calls. Here the second is connected to the first. A task that waits to insert its
message is a call that has its order number (`Simulates`), every step of the relayer is at most one
access (`simulates_of_step`), and so whatever holds of all storages that accesses reach holds of
the storage of the running relayer (`reachable_of_run`).
-/

set_option autoImplicit false
set_option relaxedAutoImplicit false

namespace MessagingRelayer

open Foundation

/-- The message of a task that has its order number and is still to insert it. -/
def TaskPhase.orderedMessage : TaskPhase → Option Message
  | .inserting message => some message
  | _ => none

/-- The messages that have an order number and are still to be inserted. -/
def System.creating (system : System) (task : TaskId) : Option Message :=
  (system.tasks.lookup task).bind fun found ↦ found.phase.orderedMessage

/-- The storage is that of the relayer, and the calls under way are its tasks that wait to insert
their message. -/
structure Simulates (system : System) (shared : SharedStorage) : Prop where
  storage : shared.storage = system.storage
  creating : ∀ task, shared.creating.lookup task = system.creating task

/-- The action calls an operation that changes the storage. -/
def Action.isAccess : Action → Bool
  | takeOrder _ => true
  | insert _ => true
  | write _ _ => true
  | writeBack _ => true
  | _ => false

section Accesses

variable {relayer : Relayer} {before after : System} {action : Action} {task : TaskId}
  {request : Request} {phase : TaskPhase} {shared : SharedStorage} {polled : String}

theorem creating_setTask (system : System) (task other : TaskId) (request : Request)
    (phase : TaskPhase) :
    (system.setTask task request phase).creating other =
      if other = task then phase.orderedMessage else system.creating other := by
  unfold System.creating
  by_cases hother : other = task
  · rw [if_pos hother, hother, System.lookup_setTask]
    rfl
  · rw [if_neg hother, System.lookup_setTask_of_ne _ _ _ _ hother]

/-- Only a task that takes its order number comes to wait with it, and only one that inserts its
message waits no more. -/
theorem orderedMessage_of_move (hmove : TaskMove relayer before action task request phase)
    (hnot : action.isAccess = false) :
    before.creating task = none ∧ phase.orderedMessage = none := by
  unfold System.creating
  cases hmove with
  | admitted hfresh =>
    rw [hfresh]
    exact ⟨rfl, relayer.admission_induction _ _ _ (fun phase ↦ phase.orderedMessage = none)
      (fun _ ↦ rfl) (fun _ ↦ rfl) (fun _ ↦ rfl) fun _ ↦ rfl⟩
  | prepared htask =>
    rw [htask]
    refine ⟨rfl, ?_⟩
    unfold Relayer.preparation
    split <;> rfl
  | checkedUpdate htask =>
    rw [htask]
    refine ⟨rfl, ?_⟩
    unfold Relayer.updateCheck
    split
    · rfl
    · split <;> rfl
  | checkedDelete htask =>
    rw [htask]
    refine ⟨rfl, ?_⟩
    unfold Relayer.deleteCheck
    split
    · rfl
    · split <;> rfl
  | notified htask => exact ⟨by rw [htask]; rfl, rfl⟩
  | respondedCreate htask => exact ⟨by rw [htask]; rfl, rfl⟩
  | respondedUpdate htask => exact ⟨by rw [htask]; rfl, rfl⟩
  | answered htask hlisting => exact ⟨by rw [htask]; rfl, rfl⟩
  | ordered htask => simp [Action.isAccess] at hnot
  | inserted htask => simp [Action.isAccess] at hnot
  | updated htask => simp [Action.isAccess] at hnot
  | deleted htask => simp [Action.isAccess] at hnot

/-- A step that makes no access keeps the storage and the calls under way. -/
theorem simulates_of_not_access (hsim : Simulates before shared)
    (hstep : relayer.step before action = some after) (hnot : action.isAccess = false) :
    Simulates after shared := by
  have hstorage : ∀ storage, StorageEffect before action storage → storage = before.storage := by
    intro storage heffect
    cases heffect with
    | unchanged => rfl
    | _ => simp [Action.isAccess] at hnot
  cases transition_of_step hstep with
  | @task _ task request phase storage notifications hmove heffect hqueue =>
    obtain ⟨hbefore, hafter⟩ := orderedMessage_of_move hmove hnot
    refine ⟨hsim.storage.trans (hstorage _ heffect).symm, fun other ↦ ?_⟩
    rw [hsim.creating]
    have hcreating := creating_setTask before task other request phase
    refine Eq.trans ?_ hcreating.symm
    split_ifs with hother
    · rw [hother, hbefore, hafter]
    · rfl
  | worker hmove heffect hqueue =>
    exact ⟨hsim.storage.trans (hstorage _ heffect).symm, hsim.creating⟩
  | event event => exact ⟨hsim.storage, hsim.creating⟩

/-- A task does not wait to insert a message when its storage call has returned. -/
theorem orderedMessage_afterStorage (result : Except StorageError Message)
    {onSuccess : Message → TaskPhase}
    (hphase : ∀ message, (onSuccess message).orderedMessage = none) :
    (Relayer.afterStorage result onSuccess).orderedMessage = none := by
  cases result with
  | error err => rfl
  | ok message => exact hphase message

/-- Assumes: an access that leaves this storage behind, and with the task that makes it, a message
to insert exactly when its new phase has one. -/
theorem Simulates.setTask (hsim : Simulates before shared) {access : StorageAccess}
    {later : SharedStorage} {storage : InMemoryStorage}
    (hstep : shared.step polled access = some later) (hstorage : later.storage = storage)
    (hcreating : ∀ other, later.creating.lookup other =
      if other = task then phase.orderedMessage else shared.creating.lookup other) :
    ∃ accesses later, runFrom (SharedStorage.step polled) shared accesses = some later ∧
      Simulates ({ before with storage := storage }.setTask task request phase) later := by
  refine ⟨[access], later, by rw [runFrom_cons, hstep]; rfl, hstorage, fun other ↦ ?_⟩
  rw [hcreating, creating_setTask]
  split_ifs with hother
  · rfl
  · exact hsim.creating other

theorem simulates_takeOrder (hsim : Simulates before shared) {message : Message}
    (htask : before.tasks.lookup task = some ⟨request, .ordering message⟩) :
    ∃ accesses later, runFrom (SharedStorage.step polled) shared accesses = some later ∧
      Simulates ({ before with storage := (before.storage.nextOrder message.groupId).2 }.setTask
        task request (.inserting (message.setOrder (before.storage.nextOrder message.groupId).1)))
          later := by
  have hfree : shared.creating.lookup task = none := by
    rw [hsim.creating, System.creating, htask]
    rfl
  rw [← hsim.storage]
  have hstep : shared.step polled (.takeOrder task message) = some { shared with
      storage := (shared.storage.nextOrder message.groupId).2
      creating := shared.creating.insert task
        (message.setOrder (shared.storage.nextOrder message.groupId).1) } := by
    simp only [SharedStorage.step, hfree]
  exact hsim.setTask hstep rfl fun other ↦ HashMap.lookup_insert_eq _ _ _ _

theorem simulates_insert (hsim : Simulates before shared) {message : Message}
    (htask : before.tasks.lookup task = some ⟨request, .inserting message⟩) :
    ∃ accesses later, runFrom (SharedStorage.step polled) shared accesses = some later ∧
      Simulates ({ before with storage := (before.storage.insertMessage message).2 }.setTask task
        request (Relayer.afterStorage (before.storage.insertMessage message).1 fun created ↦
          .notifying created.id)) later := by
  have hcall : shared.creating.lookup task = some message := by
    rw [hsim.creating, System.creating, htask]
    rfl
  rw [← hsim.storage]
  have hstep : shared.step polled (.insert task) = some { shared with
      storage := (shared.storage.insertMessage message).2
      creating := shared.creating.erase task } := by
    simp only [SharedStorage.step, hcall]
  refine hsim.setTask hstep rfl fun other ↦ ?_
  rw [orderedMessage_afterStorage _ fun _ ↦ rfl]
  by_cases hother : other = task
  · rw [if_pos hother, hother]
    exact Finmap.lookup_erase _ _
  · rw [if_neg hother]
    exact Finmap.lookup_erase_ne hother

/-- Assumes: an access that leaves the calls under way as they are. A task that waits for nothing
makes it, and waits for nothing afterwards. -/
theorem Simulates.write (hsim : Simulates before shared) {access : StorageAccess}
    {storage : InMemoryStorage} (hbefore : before.creating task = none)
    (hafter : phase.orderedMessage = none)
    (hstep : shared.step polled access = some { shared with storage := storage }) :
    ∃ accesses later, runFrom (SharedStorage.step polled) shared accesses = some later ∧
      Simulates ({ before with storage := storage }.setTask task request phase) later := by
  refine hsim.setTask hstep rfl fun other ↦ ?_
  show shared.creating.lookup other = _
  split_ifs with hother
  · rw [hother, hsim.creating, hbefore, hafter]
  · rfl

/-- Every step of the relayer is an access of its storage, or none. -/
theorem simulates_of_step (polled : String) (hsim : Simulates before shared)
    (hstep : relayer.step before action = some after) :
    ∃ accesses later, runFrom (SharedStorage.step polled) shared accesses = some later ∧
      Simulates after later := by
  by_cases haccess : action.isAccess = true
  · cases action with
    | takeOrder task =>
      simp only [Relayer.step] at hstep
      split at hstep
      case h_1 request message htask =>
        rw [← Option.some.inj hstep]
        exact simulates_takeOrder hsim htask
      · simp at hstep
    | insert task =>
      simp only [Relayer.step] at hstep
      split at hstep
      case h_1 request message htask =>
        rw [← Option.some.inj hstep]
        exact simulates_insert hsim htask
      · simp at hstep
    | write task now =>
      simp only [Relayer.step] at hstep
      split at hstep
      case h_1 request id content htask =>
        rw [← Option.some.inj hstep, ← hsim.storage]
        have hfree : before.creating task = none := by rw [System.creating, htask]; rfl
        have haccess : shared.step polled (.updateMessage id content now) = some { shared with
          storage := (shared.storage.updateMessage id content now).2 } := rfl
        exact hsim.write hfree (orderedMessage_afterStorage _ fun _ ↦ rfl) haccess
      case h_2 request id htask =>
        rw [← Option.some.inj hstep, ← hsim.storage]
        have hfree : before.creating task = none := by rw [System.creating, htask]; rfl
        have haccess : shared.step polled (.deleteMessage id now) = some { shared with
          storage := (shared.storage.deleteMessage id now).2 } := rfl
        exact hsim.write hfree (orderedMessage_afterStorage _ fun _ ↦ rfl) haccess
      · simp at hstep
    | writeBack now =>
      simp only [Relayer.step] at hstep
      split at hstep
      case h_1 pass msg remaining response hphase =>
        rw [← Option.some.inj hstep, ← hsim.storage]
        unfold writeBackMessage
        cases response.getPatchId (patchIdentifier msg.id) with
        | none => exact ⟨[], shared, rfl, rfl, hsim.creating⟩
        | some patchId =>
          exact ⟨[.updateSyncStatus msg.id pass.toStatus (some patchId) now], _, rfl, rfl,
            hsim.creating⟩
      · simp at hstep
    | _ => simp [Action.isAccess] at haccess
  · exact ⟨[], shared, rfl, simulates_of_not_access hsim hstep (Bool.eq_false_iff.mpr haccess)⟩

/-- The storage of the running relayer is one that concurrent calls reach. -/
theorem reachable_of_run {actions : List Action} {finish : System}
    (hrun : relayer.run actions = some finish) : finish.storage.Reachable := by
  have hstart : Simulates .init .init := ⟨rfl, fun _ ↦ rfl⟩
  obtain ⟨accesses, shared, hshared, hsim⟩ := run_of_simulation Simulates hstart
    (fun _ _ _ _ hrelated hstep ↦ simulates_of_step "" hrelated hstep) hrun
  exact ⟨"", accesses, shared, hshared, hsim.storage⟩

end Accesses

end MessagingRelayer
