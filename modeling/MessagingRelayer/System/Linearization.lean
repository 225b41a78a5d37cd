import MessagingRelayer.Storage.Linearization
import MessagingRelayer.System.Grants
import MessagingRelayer.System.Operations

/-!
# The running relayer and a sequential storage

Requests are served at the same time, and each calls the storage once. A call takes effect in one
step of its task, and the calls in the order of these steps are the history of the storage
(`Relayer.calls`). A storage that performs the history one call after the other is the one the
relayer has, apart from order numbers, and gives every task the result it got
(`storage_linearizable`). The order numbers differ because a create takes its number before it takes
effect. When the creates of a group take effect in the order of their numbers, the storage is that
of the history with its order numbers, and every read is answered from it
(`reads_linearizable_of_insertsFirst`).
-/

set_option autoImplicit false
set_option relaxedAutoImplicit false

namespace MessagingRelayer

open Foundation

/-! ### The history -/

/-- The storage call that takes effect at an action. -/
def System.storageCall? (system : System) : Action → Option StorageCall
  | .insert task => (system.creating task).map .createMessage
  | .write task now =>
    match system.tasks.lookup task with
    | some ⟨_, .updating id content⟩ => some (.updateMessage id content now)
    | some ⟨_, .deleting id⟩ => some (.deleteMessage id now)
    | _ => none
  | .writeBack now =>
    match system.worker.phase with
    | .writingBack pass (msg :: _) response =>
      (response.getPatchId (patchIdentifier msg.id)).map fun patchId ↦
        .updateSyncStatus msg.id pass.toStatus (some patchId) now
    | _ => none
  | _ => none

/-- How a task goes on from the result of its call. -/
def StorageCall.resume (call : StorageCall) (result : Except StorageError Message) : TaskPhase :=
  Relayer.afterStorage result fun returned ↦
    match call with
    | .createMessage _ => .notifying returned.id
    | .updateMessage _ _ _ => .respondingUpdate
    | _ => .done (.deleted ⟨⟩)

/-- The order counters are in the range of an `i64`. -/
def InMemoryStorage.CountersFit (storage : InMemoryStorage) : Prop :=
  ∀ groupId, storage.lastOrder groupId < 2 ^ 63

/-- The tasks that have an order number of the group and are still to insert their message. -/
def System.waiting (system : System) (groupId : String) : Finset TaskId :=
  system.tasks.keys.filter fun task ↦ (system.creating task).any (·.groupId == groupId)

namespace Relayer

variable (relayer : Relayer)

/-- The calls of a run, in the order in which they take effect. -/
def calls (actions : List Action) : List StorageCall :=
  effects relayer.step System.storageCall? .init actions

/-- The storage that performs the calls of a run one after the other. -/
def sequential (actions : List Action) : InMemoryStorage :=
  InMemoryStorage.new.performAll (relayer.calls actions)

end Relayer

/-- A message is inserted only when no task waits to insert one of its group with a smaller order
number. -/
def InsertsFirst (before : System) (action : Action) : Prop :=
  ∀ task message, action = .insert task → before.creating task = some message →
    ∀ other waiting, before.creating other = some waiting → waiting.groupId = message.groupId →
      message.order.getD 0 ≤ waiting.order.getD 0

/-! ### What a step does to the storage -/

section Effects

variable {relayer : Relayer} {past : List Action} {action : Action} {before after : System}
  {task : TaskId} {request : Request} {message : Message} {call : StorageCall}

theorem creating_eq_some (hcreating : before.creating task = some message) :
    ∃ request, before.tasks.lookup task = some ⟨request, .inserting message⟩ := by
  obtain ⟨⟨request, phase⟩, hlookup, hphase⟩ := Option.bind_eq_some_iff.mp hcreating
  cases phase with
  | inserting found =>
    obtain rfl := Option.some.inj hphase
    exact ⟨request, hlookup⟩
  | _ => simp [TaskPhase.orderedMessage] at hphase

/-- The result of a call, without its order number, decides how the task goes on. -/
theorem resume_congr {first second : InMemoryStorage.Outcome Message}
    (hsame : first.unordered = second.unordered) : call.resume first.1 = call.resume second.1 := by
  obtain ⟨result, storage⟩ := first
  obtain ⟨other, later⟩ := second
  unfold InMemoryStorage.Outcome.unordered at hsame
  cases result with
  | error err =>
    cases other with
    | error later => rw [Except.error.inj hsame]
    | ok found => simp [Except.map] at hsame
  | ok message =>
    cases other with
    | error err => simp [Except.map] at hsame
    | ok found =>
      have hid : message.id = found.id := by
        have hmessage : message.unordered = found.unordered := Except.ok.inj hsame
        rw [← message.id_unordered, hmessage, found.id_unordered]
      unfold StorageCall.resume Relayer.afterStorage
      cases call <;> simp [hid]

/-- A step in which a call takes effect does what the call does, and its task goes on from the
result. -/
theorem takeEffect_of_step (hstep : relayer.step before action = some after)
    (hcall : before.storageCall? action = some call) :
    after.storage = (before.storage.takeEffect call).2 ∧
      ∀ task, action.task? = some task → ∃ request, after.tasks.lookup task =
        some ⟨request, call.resume (before.storage.takeEffect call).1⟩ := by
  cases action with
  | insert task =>
    obtain ⟨message, hcreating, rfl⟩ := Option.map_eq_some_iff.mp hcall
    obtain ⟨request, htask⟩ := creating_eq_some hcreating
    rw [step_insert htask] at hstep
    rw [← Option.some.inj hstep]
    refine ⟨rfl, fun found hfound ↦ ?_⟩
    obtain rfl : task = found := Option.some.inj hfound
    exact ⟨request, System.lookup_setTask _ _ _ _⟩
  | write task now =>
    simp only [System.storageCall?] at hcall
    split at hcall
    case h_1 request id content htask =>
      obtain rfl := Option.some.inj hcall
      rw [step_update now htask] at hstep
      rw [← Option.some.inj hstep]
      refine ⟨rfl, fun found hfound ↦ ?_⟩
      obtain rfl : task = found := Option.some.inj hfound
      exact ⟨request, System.lookup_setTask _ _ _ _⟩
    case h_2 request id htask =>
      obtain rfl := Option.some.inj hcall
      rw [step_delete now htask] at hstep
      rw [← Option.some.inj hstep]
      refine ⟨rfl, fun found hfound ↦ ?_⟩
      obtain rfl : task = found := Option.some.inj hfound
      exact ⟨request, System.lookup_setTask _ _ _ _⟩
    · simp at hcall
  | writeBack now =>
    simp only [System.storageCall?] at hcall
    split at hcall
    case h_1 pass msg remaining response hphase =>
      obtain ⟨patchId, hpatch, rfl⟩ := Option.map_eq_some_iff.mp hcall
      rw [step_writeBack now hphase] at hstep
      rw [← Option.some.inj hstep]
      refine ⟨?_, fun found hfound ↦ by simp [Action.task?] at hfound⟩
      simp only [writeBackMessage, hpatch]
      rfl
    · simp at hcall
  | _ => simp [System.storageCall?] at hcall

/-- A step in which no call takes effect leaves the storage as it was, or takes an order number. -/
theorem storage_cases_of_no_call (hstep : relayer.step before action = some after)
    (hcall : before.storageCall? action = none) :
    after.storage = before.storage ∨ ∃ task request message, action = .takeOrder task ∧
      before.tasks.lookup task = some ⟨request, .ordering message⟩ ∧
      after.storage = (before.storage.nextOrder message.groupId).2 := by
  have heffect := storageEffect_of_step hstep
  generalize after.storage = storage at heffect
  cases heffect with
  | unchanged => exact Or.inl rfl
  | ordered htask => exact Or.inr ⟨_, _, _, rfl, htask, rfl⟩
  | inserted htask hid hnonce =>
    simp [System.storageCall?, System.creating, htask, TaskPhase.orderedMessage] at hcall
  | edited htask hlookup hnonce => simp [System.storageCall?, htask] at hcall
  | deleted htask hlookup => simp [System.storageCall?, htask] at hcall
  | archived hphase hpatch hlookup => simp [System.storageCall?, hphase, hpatch] at hcall

/-- A step in which no call takes effect leaves the messages and the nonces alone. -/
theorem storage_of_no_call (hstep : relayer.step before action = some after)
    (hcall : before.storageCall? action = none) :
    after.storage.messages = before.storage.messages ∧
      after.storage.nonces = before.storage.nonces := by
  rcases storage_cases_of_no_call hstep hcall with hsame | ⟨task, request, message, -, -, htaken⟩
  · rw [hsame]
    exact ⟨rfl, rfl⟩
  · rw [htaken]
    exact ⟨rfl, rfl⟩

end Effects

/-! ### What a step does to the order numbers -/

/-- What a step does to the counters and to the tasks that wait to insert their message. -/
inductive OrderMove (before after : System) (action : Action) : Prop
  | ordered {task : TaskId} {message : Message} (hcall : before.storageCall? action = none)
      (hfree : before.creating task = none)
      (hlast : ∀ groupId, after.storage.lastOrder groupId =
        if groupId = message.groupId then before.storage.lastOrder message.groupId + 1
        else before.storage.lastOrder groupId)
      (hcreating : ∀ other, after.creating other = if other = task then
        some (message.setOrder (before.storage.lastOrder message.groupId + 1))
        else before.creating other)
  | inserted {task : TaskId} {message : Message} (haction : action = .insert task)
      (hwaits : before.creating task = some message)
      (hlast : ∀ groupId, after.storage.lastOrder groupId = before.storage.lastOrder groupId)
      (hcreating : ∀ other, after.creating other =
        if other = task then none else before.creating other)
  | quiet (hcreates : ∀ call, before.storageCall? action = some call →
        ∀ groupId, call.creates groupId = false)
      (hlast : ∀ groupId, after.storage.lastOrder groupId = before.storage.lastOrder groupId)
      (hcreating : ∀ other, after.creating other = before.creating other)

section Orders

variable {relayer : Relayer} {past : List Action} {action : Action} {before after : System}
  {task : TaskId} {request : Request} {phase : TaskPhase} {message : Message}

/-- Every state of the relayer is one of the storage under concurrent calls. -/
theorem simulated_of_run (hrun : relayer.run past = some before) :
    ∃ accesses shared, SharedStorage.run "" accesses = some shared ∧ Simulates before shared := by
  have hstart : Simulates .init .init := ⟨rfl, fun _ ↦ rfl⟩
  exact run_of_simulation Simulates hstart
    (fun _ _ _ _ hrelated hstep ↦ simulates_of_step "" hrelated hstep) hrun

/-- No two tasks wait with the same order number of a group. -/
theorem creating_distinct (hrun : relayer.run past = some before) {other : TaskId}
    {waiting : Message} (htask : before.creating task = some message)
    (hother : before.creating other = some waiting) (hgroup : waiting.groupId = message.groupId)
    (horder : waiting.order = message.order) : other = task := by
  obtain ⟨accesses, shared, hshared, hsim⟩ := simulated_of_run hrun
  have hsame : (Sum.inr other : Uuid ⊕ CallId) = Sum.inr task :=
    (ordersIssued_of_accesses hshared).distinct (.inr other) (.inr task) waiting message
      ((hsim.creating other).trans hother) ((hsim.creating task).trans htask) hgroup
      (by rw [horder])
  exact Sum.inr.inj hsame

/-- A step of a task that waits for nothing, to a phase that waits for nothing. -/
theorem creating_setTask_of_none {system : System} (hbefore : system.creating task = none)
    (hafter : phase.orderedMessage = none) (other : TaskId) :
    (system.setTask task request phase).creating other = system.creating other := by
  rw [creating_setTask]
  split_ifs with hother
  · rw [hother, hbefore, hafter]
  · rfl

theorem orderMove_of_step (hrun : relayer.run past = some before)
    (hstep : relayer.step before action = some after) : OrderMove before after action := by
  by_cases haccess : action.isAccess = true
  · cases action with
    | takeOrder task =>
      simp only [Relayer.step] at hstep
      split at hstep
      case h_1 request message htask =>
        rw [← Option.some.inj hstep]
        refine .ordered rfl (by rw [System.creating, htask]; rfl)
          (lastOrder_nextOrder before.storage message.groupId) fun other ↦ ?_
        rw [← nextOrder_eq]
        exact creating_setTask _ _ _ _ _
      · simp at hstep
    | insert task =>
      simp only [Relayer.step] at hstep
      split at hstep
      case h_1 request message htask =>
        rw [← Option.some.inj hstep]
        have hwaits : before.creating task = some message := by rw [System.creating, htask]; rfl
        refine .inserted rfl hwaits (fun groupId ↦ ?_) fun other ↦ ?_
        · refine lastOrder_congr ?_ groupId
          rcases before.storage.insertMessage_cases message with ⟨err, hresult, -⟩ |
            ⟨-, -, hresult⟩
          · rw [System.storage_setTask, hresult]
          · rw [System.storage_setTask, hresult]
        · rw [creating_setTask, orderedMessage_afterStorage _ fun _ ↦ rfl]
          rfl
      · simp at hstep
    | write task now =>
      simp only [Relayer.step] at hstep
      split at hstep
      case h_1 request id content htask =>
        rw [← Option.some.inj hstep]
        refine .quiet (fun call hcall groupId ↦ ?_) (fun groupId ↦ ?_) fun other ↦ ?_
        · simp only [System.storageCall?, htask, Option.some.injEq] at hcall
          rw [← hcall]
          rfl
        · exact lastOrder_congr (before.storage.groupOrders_updateMessage id content now) groupId
        · exact creating_setTask_of_none (by rw [System.creating, htask]; rfl)
            (orderedMessage_afterStorage _ fun _ ↦ rfl) other
      case h_2 request id htask =>
        rw [← Option.some.inj hstep]
        refine .quiet (fun call hcall groupId ↦ ?_) (fun groupId ↦ ?_) fun other ↦ ?_
        · simp only [System.storageCall?, htask, Option.some.injEq] at hcall
          rw [← hcall]
          rfl
        · exact lastOrder_congr (before.storage.groupOrders_deleteMessage id now) groupId
        · exact creating_setTask_of_none (by rw [System.creating, htask]; rfl)
            (orderedMessage_afterStorage _ fun _ ↦ rfl) other
      · simp at hstep
    | writeBack now =>
      simp only [Relayer.step] at hstep
      split at hstep
      case h_1 pass msg remaining response hphase =>
        rw [← Option.some.inj hstep]
        refine .quiet (fun call hcall groupId ↦ ?_) (fun groupId ↦ ?_) fun other ↦ rfl
        · simp only [System.storageCall?, hphase, Option.map_eq_some_iff] at hcall
          obtain ⟨patchId, -, rfl⟩ := hcall
          rfl
        · refine lastOrder_congr ?_ groupId
          unfold writeBackMessage
          split
          · rfl
          · exact before.storage.groupOrders_updateSyncStatus _ _ _ _
      · simp at hstep
    | _ => simp [Action.isAccess] at haccess
  · have hnot := Bool.eq_false_iff.mpr haccess
    obtain ⟨accesses, shared, -, hsim⟩ := simulated_of_run hrun
    have hlater := simulates_of_not_access hsim hstep hnot
    refine .quiet (fun call hcall ↦ ?_) (fun groupId ↦ ?_) fun other ↦ ?_
    · cases action with
      | insert task => simp [Action.isAccess] at hnot
      | write task now => simp [Action.isAccess] at hnot
      | writeBack now => simp [Action.isAccess] at hnot
      | _ => simp [System.storageCall?] at hcall
    · rw [← hlater.storage, hsim.storage]
    · rw [← hlater.creating, hsim.creating]

/-! ### Counting the tasks that wait -/

variable {groupId : String}

theorem mem_waiting :
    task ∈ before.waiting groupId ↔
      ∃ message, before.creating task = some message ∧ message.groupId = groupId := by
  unfold System.waiting
  rw [Finset.mem_filter, Option.any_eq_true]
  simp only [beq_iff_eq]
  constructor
  · exact fun hmem ↦ hmem.2
  · rintro ⟨message, hcreating, hgroup⟩
    obtain ⟨request, htask⟩ := creating_eq_some hcreating
    exact ⟨Finmap.mem_keys.mpr (Finmap.mem_of_lookup_eq_some htask), message, hcreating, hgroup⟩

/-- The tasks that wait after a task has come to wait with a message, or waits no more. -/
theorem waiting_eq {found : Option Message}
    (hcreating : ∀ other, after.creating other =
      if other = task then found else before.creating other) (groupId : String) :
    after.waiting groupId = if found.any (·.groupId == groupId) then
      insert task (before.waiting groupId) else (before.waiting groupId).erase task := by
  ext other
  rw [mem_waiting, hcreating]
  by_cases hsame : other = task
  · subst hsame
    cases found with
    | none => simp
    | some message =>
      by_cases hgroup : message.groupId = groupId
      · simp [hgroup]
      · simp [hgroup]
  · cases hany : found.any (·.groupId == groupId) with
    | true => simp [hsame, mem_waiting]
    | false => simp [hsame, mem_waiting]

/-- The counter of a group is ahead of what has taken effect by the tasks that wait. -/
theorem counted_of_step (hrun : relayer.run past = some before)
    (hstep : relayer.step before action = some after) (groupId : String) :
    after.storage.lastOrder groupId + (before.waiting groupId).card =
      before.storage.lastOrder groupId + (after.waiting groupId).card +
        ((before.storageCall? action).toList.countP (·.creates groupId) : Nat) := by
  cases orderMove_of_step hrun hstep with
  | @ordered task message hcall hfree hlast hcreating =>
    have hnew : task ∉ before.waiting groupId := by
      rw [mem_waiting, hfree]
      simp
    rw [hlast, waiting_eq hcreating, hcall]
    by_cases hgroup : groupId = message.groupId
    · subst hgroup
      have hmember : (message.setOrder (before.storage.lastOrder message.groupId + 1)).groupId =
          message.groupId := rfl
      simp only [if_true, Option.any_some, hmember, BEq.rfl, Finset.card_insert_of_notMem hnew,
        Option.toList_none, List.countP_nil]
      push_cast
      omega
    · have hmember : (message.setOrder (before.storage.lastOrder message.groupId + 1)).groupId ≠
          groupId := Ne.symm hgroup
      simp [hgroup, hmember, Finset.erase_eq_of_notMem hnew]
  | @inserted task message haction hwaits hlast hcreating =>
    rw [hlast, waiting_eq hcreating]
    simp only [Option.any_none, Bool.false_eq_true, if_false, haction, System.storageCall?, hwaits,
      Option.map_some, Option.toList_some]
    by_cases hgroup : message.groupId = groupId
    · have hmem : task ∈ before.waiting groupId := mem_waiting.mpr ⟨message, hwaits, hgroup⟩
      have hcard := Finset.card_erase_add_one hmem
      simp only [List.countP_singleton, StorageCall.creates, hgroup, BEq.rfl, if_true]
      omega
    · have hnot : task ∉ before.waiting groupId := by
        rw [mem_waiting, hwaits]
        simp [hgroup]
      simp [StorageCall.creates, hgroup, Finset.erase_eq_of_notMem hnot]
  | quiet hcreates hlast hcreating =>
    have hsame : after.waiting groupId = before.waiting groupId := by
      ext task
      rw [mem_waiting, mem_waiting, hcreating]
    rw [hlast, hsame]
    cases hcall : before.storageCall? action with
    | none => simp
    | some call => simp [hcreates call hcall groupId]

end Orders

/-! ### All runs -/

section Runs

variable {relayer : Relayer} {past : List Action} {before : System}

/-- The storage of a system against a sequential storage, apart from order numbers. -/
structure Linearizes (system : System) (sequential : InMemoryStorage) : Prop where
  same : system.storage.UpToOrders sequential
  counted : ∀ groupId, system.storage.lastOrder groupId =
    sequential.lastOrder groupId + (system.waiting groupId).card

theorem linearizes_of_step {action : Action} {after : System} {sequential : InMemoryStorage}
    (hrun : relayer.run past = some before) (hlinear : Linearizes before sequential)
    (hstep : relayer.step before action = some after) :
    Linearizes after (sequential.performAll (before.storageCall? action).toList) := by
  have hcount := counted_of_step hrun hstep
  cases hcall : before.storageCall? action with
  | none =>
    obtain ⟨hmessages, hnonces⟩ := storage_of_no_call hstep hcall
    refine ⟨⟨fun id ↦ ?_, hnonces.trans hlinear.same.nonces⟩, fun groupId ↦ ?_⟩
    · rw [hmessages]
      exact hlinear.same.messages id
    · have hbefore := hlinear.counted groupId
      have hafter := hcount groupId
      rw [hcall] at hafter
      simp only [Option.toList_none, List.countP_nil] at hafter
      show after.storage.lastOrder groupId = sequential.lastOrder groupId + _
      omega
  | some call =>
    refine ⟨?_, fun groupId ↦ ?_⟩
    · rw [(takeEffect_of_step hstep hcall).1]
      exact (InMemoryStorage.upToOrders_takeEffect hlinear.same call).1
    · have hbefore := hlinear.counted groupId
      have hafter := hcount groupId
      rw [hcall] at hafter
      simp only [Option.toList_some, List.countP_singleton] at hafter
      show after.storage.lastOrder groupId = (sequential.perform call).2.lastOrder groupId + _
      rw [InMemoryStorage.lastOrder_perform]
      split_ifs at hafter ⊢ <;> omega

/-- A counter of order numbers grows by one in a step at most. -/
theorem lastOrder_le_of_run (hrun : relayer.run past = some before) (groupId : String) :
    before.storage.lastOrder groupId ≤ past.length := by
  refine history_induction (fun past reached ↦
    reached.storage.lastOrder groupId ≤ (past.length : Int)) ?_ ?_ hrun
  · rfl
  · intro past before action after hpast hbound hstep
    rw [List.length_append, List.length_singleton]
    push_cast
    cases orderMove_of_step hpast hstep with
    | ordered hcall hfree hlast hcreating =>
      rw [hlast]
      split_ifs with hgroup
      · subst hgroup
        omega
      · omega
    | inserted haction hwaits hlast hcreating =>
      rw [hlast]
      omega
    | quiet hcreates hlast hcreating =>
      rw [hlast]
      omega

/-- Within `2 ^ 63` steps no counter leaves the range of an `i64`. -/
theorem countersFit_of_run (hrun : relayer.run past = some before) (hsteps : past.length < 2 ^ 63) :
    before.storage.CountersFit := by
  intro groupId
  have hbound := lastOrder_le_of_run hrun groupId
  omega

/-- In every state of the relayer its storage is the one that has performed the calls so far one
after the other, in the order in which they took effect, apart from order numbers; its counters are
ahead by the creates that wait with a number; and a task whose call takes effect goes on as it would
from the result of the sequential storage. Within `2 ^ 63` steps no counter overflows. -/
theorem storage_linearizable (hrun : relayer.run past = some before) :
    before.storage.UpToOrders (relayer.sequential past) ∧
    (∀ groupId, before.storage.lastOrder groupId =
      (relayer.sequential past).lastOrder groupId + (before.waiting groupId).card) ∧
    (∀ action after call task, relayer.step before action = some after →
      before.storageCall? action = some call → action.task? = some task →
        ∃ request, after.tasks.lookup task =
          some ⟨request, call.resume ((relayer.sequential past).perform call).1⟩) ∧
    (past.length < 2 ^ 63 →
      before.storage.CountersFit ∧ (relayer.sequential past).CountersFit) := by
  have hlinear : Linearizes before (relayer.sequential past) :=
    related_of_run Linearizes
      ⟨⟨fun _ ↦ rfl, rfl⟩, fun groupId ↦ rfl⟩
      (fun _ _ _ _ _ hpast hrelated hstep ↦ linearizes_of_step hpast hrelated hstep) hrun
  refine ⟨hlinear.same, hlinear.counted, ?_, fun hsteps ↦ ?_⟩
  · intro action after call task hstep hcall htask
    obtain ⟨-, hresumed⟩ := takeEffect_of_step hstep hcall
    obtain ⟨request, hlookup⟩ := hresumed task htask
    refine ⟨request, ?_⟩
    rw [hlookup, resume_congr (InMemoryStorage.upToOrders_takeEffect hlinear.same call).2]
  · have hfit := countersFit_of_run hrun hsteps
    refine ⟨hfit, fun groupId ↦ ?_⟩
    have hahead := hlinear.counted groupId
    have hcounter := hfit groupId
    omega

end Runs

/-- The client's post has a number, and has not taken effect. -/
theorem storage_linearizable_sampleOrdering :
    sampleOrdered.storage.lastOrder (hexAddress sampleGroup) =
      (sampleRelayer.sequential sampleOrdering).lastOrder (hexAddress sampleGroup) +
        (sampleOrdered.waiting (hexAddress sampleGroup)).card :=
  (storage_linearizable run_sampleOrdering).2.1 _

/-! ### Runs whose creates take effect in order -/

section Ordered

variable {relayer : Relayer} {past : List Action} {before : System}

/-- The storage has the messages of the sequential one, and the tasks of a group that wait have the
numbers that come next. -/
structure InStep (system : System) (sequential : InMemoryStorage) : Prop where
  agrees : system.storage.Agrees sequential
  le_last : ∀ groupId, sequential.lastOrder groupId ≤ system.storage.lastOrder groupId
  above : ∀ task message, system.creating task = some message → ∃ order,
    message.order = some order ∧ sequential.lastOrder message.groupId < order ∧
      order ≤ system.storage.lastOrder message.groupId
  filled : ∀ groupId order, sequential.lastOrder groupId < order →
    order ≤ system.storage.lastOrder groupId → ∃ task message,
      system.creating task = some message ∧ message.groupId = groupId ∧ message.order = some order

/-- A task that inserts its message before all that wait has the number that comes next. -/
theorem InStep.order_eq {sequential : InMemoryStorage} {task : TaskId} {message : Message}
    (hinStep : InStep before sequential) (hfirst : InsertsFirst before (.insert task))
    (hwaits : before.creating task = some message) :
    message.order = some (sequential.lastOrder message.groupId + 1) := by
  obtain ⟨order, horder, hlow, hhigh⟩ := hinStep.above task message hwaits
  obtain ⟨other, waiting, hother, hgroup, hnext⟩ :=
    hinStep.filled message.groupId (sequential.lastOrder message.groupId + 1) (by omega) (by omega)
  have hle := hfirst task message rfl hwaits other waiting hother hgroup
  rw [horder, hnext, Option.getD_some, Option.getD_some] at hle
  rw [horder, show order = sequential.lastOrder message.groupId + 1 by omega]

section Moves

variable {after : System} {sequential later : InMemoryStorage} {task : TaskId} {message : Message}

/-- A task takes the next number and comes to wait. -/
theorem InStep.ordered (hinStep : InStep before sequential)
    (hagrees : after.storage.Agrees sequential) (hfree : before.creating task = none)
    (hlast : ∀ groupId, after.storage.lastOrder groupId =
      if groupId = message.groupId then before.storage.lastOrder message.groupId + 1
      else before.storage.lastOrder groupId)
    (hcreating : ∀ other, after.creating other = if other = task then
      some (message.setOrder (before.storage.lastOrder message.groupId + 1))
      else before.creating other) : InStep after sequential := by
  have hmore : ∀ groupId, before.storage.lastOrder groupId ≤ after.storage.lastOrder groupId := by
    intro groupId
    rw [hlast]
    split_ifs with hgroup
    · rw [hgroup]
      exact Int.le_add_one le_rfl
    · exact le_rfl
  refine ⟨hagrees, fun groupId ↦ (hinStep.le_last groupId).trans (hmore groupId),
    fun other waiting hother ↦ ?_, fun groupId order hlow hhigh ↦ ?_⟩
  · rw [hcreating] at hother
    split_ifs at hother with hsame
    · obtain rfl := Option.some.inj hother
      have hnew : after.storage.lastOrder message.groupId =
          before.storage.lastOrder message.groupId + 1 := (hlast _).trans (if_pos rfl)
      exact ⟨_, rfl, Int.lt_add_one_of_le (hinStep.le_last message.groupId), hnew.ge⟩
    · obtain ⟨order, horder, hlow, hhigh⟩ := hinStep.above other waiting hother
      exact ⟨order, horder, hlow, hhigh.trans (hmore _)⟩
  · rw [hlast] at hhigh
    by_cases hnew : groupId = message.groupId ∧
        order = before.storage.lastOrder message.groupId + 1
    · obtain ⟨rfl, rfl⟩ := hnew
      exact ⟨task, _, (hcreating task).trans (if_pos rfl), rfl, rfl⟩
    · have hold : order ≤ before.storage.lastOrder groupId := by
        split_ifs at hhigh with hgroup
        · have hother : order ≠ before.storage.lastOrder message.groupId + 1 :=
            fun horder ↦ hnew ⟨hgroup, horder⟩
          rw [hgroup]
          omega
        · exact hhigh
      obtain ⟨other, waiting, hother, hmessage⟩ := hinStep.filled groupId order hlow hold
      refine ⟨other, waiting, ?_, hmessage⟩
      rw [hcreating, if_neg ?_, hother]
      rintro rfl
      simp [hfree] at hother

/-- The task with the number that comes next inserts its message. -/
theorem InStep.inserted (hinStep : InStep before sequential) (hagrees : after.storage.Agrees later)
    (hwaits : before.creating task = some message)
    (hnext : message.order = some (sequential.lastOrder message.groupId + 1))
    (hdistinct : ∀ other waiting, before.creating other = some waiting →
      waiting.groupId = message.groupId → waiting.order = message.order → other = task)
    (hcounter : ∀ groupId, later.lastOrder groupId =
      sequential.lastOrder groupId + if message.groupId = groupId then 1 else 0)
    (hlast : ∀ groupId, after.storage.lastOrder groupId = before.storage.lastOrder groupId)
    (hcreating : ∀ other, after.creating other =
      if other = task then none else before.creating other) : InStep after later := by
  obtain ⟨number, hnumber, -, hroom⟩ := hinStep.above task message hwaits
  obtain rfl : number = sequential.lastOrder message.groupId + 1 :=
    Option.some.inj (hnumber.symm.trans hnext)
  refine ⟨hagrees, fun groupId ↦ ?_, fun other waiting hother ↦ ?_,
    fun groupId order hlow hhigh ↦ ?_⟩
  · have hle := hinStep.le_last groupId
    rw [hcounter, hlast]
    split_ifs with hgroup
    · exact hgroup ▸ hroom
    · omega
  · rw [hcreating] at hother
    split_ifs at hother with hsame
    obtain ⟨order, horder, hlow, hhigh⟩ := hinStep.above other waiting hother
    refine ⟨order, horder, ?_, (hlast _).symm ▸ hhigh⟩
    rw [hcounter]
    split_ifs with hgroup
    · have hother : order ≠ sequential.lastOrder message.groupId + 1 := by
        rintro rfl
        exact hsame (hdistinct other waiting hother hgroup.symm (horder.trans hnext.symm))
      rw [hgroup] at hother
      omega
    · omega
  · rw [hcounter] at hlow
    rw [hlast] at hhigh
    obtain ⟨other, waiting, hother, hgroup, horder⟩ :=
      hinStep.filled groupId order (by split_ifs at hlow <;> omega) hhigh
    refine ⟨other, waiting, ?_, hgroup, horder⟩
    rw [hcreating, if_neg ?_, hother]
    rintro rfl
    obtain rfl := Option.some.inj (hother.symm.trans hwaits)
    rw [if_pos hgroup, ← hgroup] at hlow
    have hsame : order = sequential.lastOrder waiting.groupId + 1 :=
      Option.some.inj (horder.symm.trans hnext)
    omega

/-- Nothing happens to the order numbers. -/
theorem InStep.quiet (hinStep : InStep before sequential) (hagrees : after.storage.Agrees later)
    (hcounter : ∀ groupId, later.lastOrder groupId = sequential.lastOrder groupId)
    (hlast : ∀ groupId, after.storage.lastOrder groupId = before.storage.lastOrder groupId)
    (hcreating : ∀ other, after.creating other = before.creating other) : InStep after later where
  agrees := hagrees
  le_last groupId := by
    rw [hcounter, hlast]
    exact hinStep.le_last groupId
  above task message htask := by
    rw [hcounter, hlast]
    exact hinStep.above task message ((hcreating task).symm.trans htask)
  filled groupId order hlow hhigh := by
    rw [hcounter] at hlow
    rw [hlast] at hhigh
    obtain ⟨task, message, htask, hmessage⟩ := hinStep.filled groupId order hlow hhigh
    exact ⟨task, message, (hcreating task).trans htask, hmessage⟩

end Moves

/-- The call of an action creates a message only where a task inserts it. -/
theorem createMessage_of_call {action : Action} {message : Message}
    (hcall : before.storageCall? action = some (.createMessage message)) :
    ∃ task, action = .insert task ∧ before.creating task = some message := by
  cases action with
  | insert task =>
    obtain ⟨found, hwaits, hfound⟩ := Option.map_eq_some_iff.mp hcall
    obtain rfl := StorageCall.createMessage.inj hfound
    exact ⟨task, rfl, hwaits⟩
  | write task now =>
    simp only [System.storageCall?] at hcall
    split at hcall <;> simp at hcall
  | writeBack now =>
    simp only [System.storageCall?] at hcall
    split at hcall <;> simp at hcall
  | _ => simp [System.storageCall?] at hcall

theorem agrees_of_step {action : Action} {after : System} {sequential : InMemoryStorage}
    (hinStep : InStep before sequential) (hfirst : InsertsFirst before action)
    (hstep : relayer.step before action = some after) :
    after.storage.Agrees (sequential.performAll (before.storageCall? action).toList) := by
  cases hcall : before.storageCall? action with
  | none =>
    obtain ⟨hmessages, hnonces⟩ := storage_of_no_call hstep hcall
    exact ⟨hmessages.trans hinStep.agrees.messages, hnonces.trans hinStep.agrees.nonces⟩
  | some call =>
    rw [(takeEffect_of_step hstep hcall).1]
    refine (InMemoryStorage.agrees_takeEffect hinStep.agrees fun message hmessage ↦ ?_).1
    subst hmessage
    obtain ⟨task, rfl, hwaits⟩ := createMessage_of_call hcall
    exact hinStep.order_eq hfirst hwaits

theorem inStep_of_step {action : Action} {after : System} {sequential : InMemoryStorage}
    (hrun : relayer.run past = some before) (hinStep : InStep before sequential)
    (hfirst : InsertsFirst before action) (hstep : relayer.step before action = some after) :
    InStep after (sequential.performAll (before.storageCall? action).toList) := by
  have hagrees := agrees_of_step hinStep hfirst hstep
  cases orderMove_of_step hrun hstep with
  | ordered hcall hfree hlast hcreating =>
    rw [hcall] at hagrees ⊢
    exact hinStep.ordered hagrees hfree hlast hcreating
  | @inserted task message haction hwaits hlast hcreating =>
    subst haction
    refine hinStep.inserted hagrees hwaits (hinStep.order_eq hfirst hwaits)
      (fun other waiting ↦ creating_distinct hrun hwaits) (fun groupId ↦ ?_) hlast hcreating
    simp only [System.storageCall?, hwaits, Option.map_some, Option.toList_some]
    refine (InMemoryStorage.lastOrder_perform _ _ groupId).trans ?_
    simp [StorageCall.creates]
  | quiet hcreates hlast hcreating =>
    refine hinStep.quiet hagrees (fun groupId ↦ ?_) hlast hcreating
    cases hcall : before.storageCall? action with
    | none => rfl
    | some call =>
      refine (InMemoryStorage.lastOrder_perform _ _ groupId).trans ?_
      simp [hcreates call hcall groupId]

/-- An answer to a read depends on the messages alone. -/
theorem readReply_congr (auth : AuthContext) (query : GetMessagesQuery) (listing : List Message)
    {storage other : InMemoryStorage} (hmessages : storage.messages = other.messages) :
    Relayer.readReply auth query storage listing = Relayer.readReply auth query other listing := by
  unfold Relayer.readReply getMessages InMemoryStorage.getMessage
  rw [hmessages]

/-- Assumes: no message is inserted while a task waits with a smaller order number of its group. The
storage of the relayer has the messages and the nonces of the sequential storage, order numbers
included, and every read meets its messages and is answered from it. Within `2 ^ 63` steps no
counter overflows. -/
theorem reads_linearizable_of_insertsFirst
    (hfirst : EveryStep relayer.step InsertsFirst .init past)
    (hrun : relayer.run past = some before) :
    before.storage.messages = (relayer.sequential past).messages ∧
    before.storage.nonces = (relayer.sequential past).nonces ∧
    (∀ task request auth query listing after,
      before.tasks.lookup task = some ⟨request, .calling (.getMessages auth query)⟩ →
        relayer.step before (.read task listing) = some after →
          (relayer.sequential past).messages.IterationOrder listing ∧
          after.tasks.lookup task = some ⟨request,
            .done (Relayer.readReply auth query (relayer.sequential past) listing)⟩) ∧
    (past.length < 2 ^ 63 →
      before.storage.CountersFit ∧ (relayer.sequential past).CountersFit) := by
  have hinStep : InStep before (relayer.sequential past) :=
    related_of_everyStep InStep
      ⟨⟨rfl, rfl⟩, fun _ ↦ le_rfl, fun task message htask ↦ by simp [System.creating,
        System.init] at htask, fun groupId order hlow hhigh ↦ by
          exact absurd (hlow.trans_le hhigh) (lt_irrefl _)⟩
      (fun _ _ _ _ _ hpast hrelated hcond hstep ↦ inStep_of_step hpast hrelated hcond hstep)
      hfirst hrun
  obtain ⟨hmessages, hnonces⟩ := hinStep.agrees
  refine ⟨hmessages, hnonces, ?_, fun hsteps ↦ ?_⟩
  · intro task request auth query listing after htask hstep
    simp only [Relayer.step, htask] at hstep
    split_ifs at hstep with hlisting
    refine ⟨hmessages ▸ hlisting, ?_⟩
    rw [← Option.some.inj hstep, System.lookup_setTask,
      readReply_congr auth query listing hmessages]
  · have hfit := countersFit_of_run hrun hsteps
    exact ⟨hfit, fun groupId ↦ (hinStep.le_last groupId).trans_lt (hfit groupId)⟩

end Ordered

/-! ### Two creates and a read -/

section Crossing

/-- The message of the second attempt to post. -/
def repeatedMessage : Message :=
  (postedMessage otherMessageId 3).setOrder 2

/-- The client's post arrives twice, and both tasks take an order number before either inserts its
message. -/
def sampleCrossing : List Action :=
  sampleOrdering ++ [.arrive 1 postRequest (sampleClock 2),
    .prepare 1 otherMessageId (sampleClock 3), .takeOrder 1]

/-- The system when two creates wait. -/
def sampleCrossed : System :=
  { sampleOrdered with
    storage := (sampleOrdered.storage.nextOrder (hexAddress sampleGroup)).2 }.setTask 1 postRequest
      (.inserting repeatedMessage)

/-- The storage when one of the two is stored. -/
def sampleSettledStorage : InMemoryStorage :=
  { sampleCrossed.storage with
    nonces := insert sampleMessage.nonce ∅
    messages := Finmap.insert sampleMessageId sampleMessage ∅ }

/-- Both tasks insert, of which one is refused, and the client asks for its message. -/
def sampleSettling : List Action :=
  [.insert 0, .insert 1, .arrive 2 getRequest (sampleClock 4)]

/-- The system when the client's question is about to be answered. -/
def sampleSettled : System :=
  (({ sampleCrossed with storage := sampleSettledStorage }.setTask 0 postRequest
    (.notifying sampleMessageId)).setTask 1 postRequest
      (.done (.failed (ApiError.fromStorageError .duplicateNonce)))).setTask 2 getRequest
        (.calling (.getMessages sampleAuth ⟨some sampleMessageId, none, none, none, none⟩))

theorem run_sampleCrossing : sampleRelayer.run sampleCrossing = some sampleCrossed := by
  have hfresh : sampleOrdered.tasks.lookup 1 = none :=
    (System.lookup_setTask_of_ne _ _ _ _ (by decide)).trans (tasks_sampleStart 1)
  have hadmission : sampleRelayer.admission sampleOrdered.membership (sampleClock 2) postRequest =
      .calling (.createMessage sampleAuth samplePost) := admission_postRequest (by decide)
  exact runFrom_append_eq_some.mpr ⟨_, run_sampleOrdering, runFrom_orderCreate hfresh hadmission
    (createMessagePrepare_samplePost otherMessageId 3)⟩

/-- The tasks that wait are the two posts, with their order numbers. -/
theorem creating_sampleCrossed (other : TaskId) : sampleCrossed.creating other =
    if other = 1 then some repeatedMessage else if other = 0 then some sampleMessage else none := by
  have hnone : ({ System.init with membership := sampleMembership } : System).creating other =
      none := by
    rw [System.creating, tasks_sampleStart]
    rfl
  refine (creating_setTask _ 1 other postRequest _).trans ?_
  split_ifs with hlast hfirst
  · rfl
  · refine (creating_setTask _ 0 other postRequest _).trans ?_
    rw [if_pos hfirst]
    rfl
  · refine (creating_setTask _ 0 other postRequest _).trans ?_
    rw [if_neg hfirst]
    exact hnone

theorem step_insert_sampleCrossed : sampleRelayer.step sampleCrossed (.insert 0) =
    some ({ sampleCrossed with storage := sampleSettledStorage }.setTask 0 postRequest
      (.notifying sampleMessageId)) := by
  have hinserted : sampleCrossed.storage.insertMessage sampleMessage =
      (.ok sampleMessage, sampleSettledStorage) := rfl
  have htask : sampleCrossed.tasks.lookup 0 = some ⟨postRequest, .inserting sampleMessage⟩ :=
    (System.lookup_setTask_of_ne _ _ _ _ (by decide)).trans (System.lookup_setTask _ _ _ _)
  rw [step_insert htask, hinserted]
  rfl

theorem runFrom_sampleSettling :
    runFrom sampleRelayer.step sampleCrossed sampleSettling = some sampleSettled := by
  have hrefused : sampleSettledStorage.insertMessage repeatedMessage =
      (.error .duplicateNonce, sampleSettledStorage) := by
    have hfree : sampleSettledStorage.messages.lookup repeatedMessage.id = none := by
      have hid : repeatedMessage.id ≠ sampleMessageId := by decide
      refine (Finmap.lookup_insert_of_ne _ hid).trans ?_
      simp
    have hused : repeatedMessage.nonce ∈ sampleSettledStorage.nonces := Finset.mem_insert_self _ _
    unfold InMemoryStorage.insertMessage
    rw [hfree, if_neg (by simp), if_pos hused]
  have htask : ({ sampleCrossed with storage := sampleSettledStorage }.setTask 0 postRequest
      (.notifying sampleMessageId)).tasks.lookup 1 = some ⟨postRequest,
        .inserting repeatedMessage⟩ :=
    (System.lookup_setTask_of_ne _ _ _ _ (by decide)).trans (System.lookup_setTask _ _ _ _)
  rw [sampleSettling, runFrom_cons, step_insert_sampleCrossed, Option.bind_some, runFrom_cons,
    step_insert htask, Option.bind_some]
  have hstorage : ({ sampleCrossed with storage := sampleSettledStorage }.setTask 0 postRequest
      (.notifying sampleMessageId)).storage = sampleSettledStorage := rfl
  rw [hstorage, hrefused]
  refine Option.bind_eq_some_iff.mpr
    ⟨sampleSettled, step_arrive ?_ (admission_getRequest (by decide)), rfl⟩
  rw [System.lookup_setTask_of_ne _ _ _ _ (by decide)]
  refine (System.lookup_setTask_of_ne _ _ _ _ (by decide)).trans ?_
  refine (System.lookup_setTask_of_ne _ _ _ _ (by decide)).trans ?_
  exact (System.lookup_setTask_of_ne _ _ _ _ (by decide)).trans (tasks_sampleStart 2)

/-- The first post has the smaller number and inserts first. -/
theorem insertsFirst_sampleSettling :
    EveryStep sampleRelayer.step InsertsFirst .init (sampleCrossing ++ sampleSettling) := by
  have hnone {start : System} {actions : List Action}
      (hquiet : ∀ action ∈ actions, ∀ task, action ≠ .insert task) :
      EveryStep sampleRelayer.step InsertsFirst start actions := by
    refine EveryStep.of_forall ?_
    rintro action hmem before task message rfl
    exact absurd rfl (hquiet _ hmem task)
  refine EveryStep.append (hnone (by simp [sampleCrossing, sampleOrdering, sampleStart]))
    run_sampleCrossing (everyStep_cons_iff.mpr ⟨?_, fun next hnext ↦ ?_⟩)
  · intro task message haction hwaits other waiting hother hgroup
    obtain rfl : 0 = task := Action.insert.inj haction
    rw [creating_sampleCrossed] at hwaits hother
    obtain rfl : sampleMessage = message := Option.some.inj hwaits
    split_ifs at hother
    · obtain rfl := Option.some.inj hother
      decide
    · obtain rfl := Option.some.inj hother
      exact le_rfl
  · rw [step_insert_sampleCrossed] at hnext
    obtain rfl := Option.some.inj hnext
    refine everyStep_cons_iff.mpr ⟨?_, fun _ _ ↦ hnone (by simp)⟩
    have hlast (other : TaskId) (waiting : Message)
        (hother : ({ sampleCrossed with storage := sampleSettledStorage }.setTask 0 postRequest
          (.notifying sampleMessageId)).creating other = some waiting) :
        waiting = repeatedMessage := by
      rw [creating_setTask] at hother
      split_ifs at hother with hfirst
      · simp [TaskPhase.orderedMessage] at hother
      · have hcrossed : sampleCrossed.creating other = some waiting := hother
        rw [creating_sampleCrossed, if_neg hfirst] at hcrossed
        split_ifs at hcrossed
        exact (Option.some.inj hcrossed).symm
    intro task message haction hwaits other waiting hother hgroup
    rw [hlast task message hwaits, hlast other waiting hother]

/-- The client's question meets the messages of the sequential storage, and is answered from it. -/
theorem reads_linearizable_sampleSettling :
    (sampleRelayer.sequential (sampleCrossing ++ sampleSettling)).messages.IterationOrder
      [sampleMessage] ∧
    ∃ after, sampleRelayer.step sampleSettled (.read 2 [sampleMessage]) = some after ∧
      after.tasks.lookup 2 = some ⟨getRequest, .done (Relayer.readReply sampleAuth
        ⟨some sampleMessageId, none, none, none, none⟩
        (sampleRelayer.sequential (sampleCrossing ++ sampleSettling)) [sampleMessage])⟩ := by
  have hrun : sampleRelayer.run (sampleCrossing ++ sampleSettling) = some sampleSettled :=
    runFrom_append_eq_some.mpr ⟨_, run_sampleCrossing, runFrom_sampleSettling⟩
  have htask : sampleSettled.tasks.lookup 2 = some ⟨getRequest,
      .calling (.getMessages sampleAuth ⟨some sampleMessageId, none, none, none, none⟩)⟩ :=
    System.lookup_setTask _ _ _ _
  have hlisting : sampleSettled.storage.messages.IterationOrder [sampleMessage] :=
    HashMap.iterationOrder_singleton sampleMessageId sampleMessage
  obtain ⟨after, hread⟩ :
      ∃ after, sampleRelayer.step sampleSettled (.read 2 [sampleMessage]) = some after := by
    simp only [Relayer.step, htask]
    exact ⟨_, if_pos hlisting⟩
  obtain ⟨-, -, hreads, -⟩ :=
    reads_linearizable_of_insertsFirst insertsFirst_sampleSettling hrun
  obtain ⟨hmeets, hanswered⟩ := hreads 2 _ _ _ _ after htask hread
  exact ⟨hmeets, after, hread, hanswered⟩

end Crossing

end MessagingRelayer
