import MessagingRelayer.Foundation.Purge
import MessagingRelayer.System.Linearization

/-!
# Requests that leave no trace

A request that is turned away, or that only reads, has no part in what the relayer does for anybody
else: the steps of such tasks can be left out of a run, and the storage, the membership store, the
worker, the archive and every other task end up as they did (`purge_harmless`). A step looks at no
task but its own (`step_withTasks`), and a step of a task that is harmless in the end changes
nothing that tasks share (`shared_of_not_stained`).
-/

set_option autoImplicit false
set_option relaxedAutoImplicit false

namespace MessagingRelayer

open Foundation

/-! ### A step looks at its own task -/

/-- The system with other tasks. -/
def System.withTasks (system : System) (tasks : HashMap TaskId Task) : System :=
  { system with tasks := tasks }

section Frame

variable {relayer : Relayer} {before after : System} {action : Action} {task : TaskId}
  {tasks : HashMap TaskId Task} {request : Request} {phase : TaskPhase}

/-- A task that is not that of the action stays as it is. -/
theorem lookup_of_step_of_ne (hstep : relayer.step before action = some after)
    (hne : action.task? ≠ some task) : after.tasks.lookup task = before.tasks.lookup task := by
  rcases tasks_of_step hstep with hsame | ⟨moved, request, phase, hmove, htasks⟩
  · rw [hsame]
  · rw [htasks, HashMap.lookup_insert_eq, if_neg]
    rintro rfl
    exact hne hmove.task_eq

/-- The tasks after a step of one of them among other tasks. -/
def stepped (tasks : HashMap TaskId Task) (after : System) (action : Action) :
    HashMap TaskId Task :=
  match action.task? with
  | none => tasks
  | some task =>
    match after.tasks.lookup task with
    | none => tasks
    | some served => tasks.insert task served

theorem stepped_setTask (system : System) (haction : action.task? = some task) :
    stepped tasks (system.setTask task request phase) action =
      tasks.insert task ⟨request, phase⟩ := by
  unfold stepped
  simp only [haction, System.lookup_setTask]

/-- A step is possible among other tasks when its own is there, and does the same. -/
theorem step_withTasks (hown : ∀ task, action.task? = some task →
      tasks.lookup task = before.tasks.lookup task)
    (hstep : relayer.step before action = some after) :
    relayer.step (before.withTasks tasks) action =
      some (after.withTasks (stepped tasks after action)) := by
  cases action with
  | suiEvent event =>
    rw [← Option.some.inj hstep]
    rfl
  | tick =>
    simp only [Relayer.step] at hstep
    split at hstep
    · rw [← Option.some.inj hstep]
      simp only [Relayer.step, System.withTasks, *]
      rfl
    · simp at hstep
  | receive =>
    simp only [Relayer.step] at hstep
    split at hstep
    · rw [← Option.some.inj hstep]
      simp only [Relayer.step, System.withTasks, *]
      rfl
    · simp at hstep
  | snapshot listing =>
    simp only [Relayer.step] at hstep
    split at hstep
    · split_ifs at hstep
      rw [← Option.some.inj hstep]
      simp only [Relayer.step, System.withTasks, *]
      rfl
    · simp at hstep
  | upload reply =>
    simp only [Relayer.step] at hstep
    split at hstep
    · rw [← Option.some.inj hstep]
      simp only [Relayer.step, System.withTasks, *]
      rfl
    · simp at hstep
  | writeBack now =>
    simp only [Relayer.step] at hstep
    split at hstep
    · rw [← Option.some.inj hstep]
      simp only [Relayer.step, System.withTasks, *]
      rfl
    · simp at hstep
  | finishPass =>
    simp only [Relayer.step] at hstep
    split at hstep
    · rw [← Option.some.inj hstep]
      simp only [Relayer.step, System.withTasks, *]
      rfl
    · simp at hstep
  | arrive task request now =>
    simp only [Relayer.step] at hstep
    split at hstep
    · simp at hstep
    · rw [← Option.some.inj hstep, stepped_setTask _ rfl]
      simp only [Relayer.step, System.withTasks, hown _ rfl, *]
      rfl
  | prepare task id now =>
    simp only [Relayer.step] at hstep
    split at hstep
    · rw [← Option.some.inj hstep, stepped_setTask _ rfl]
      simp only [Relayer.step, System.withTasks, hown _ rfl, *]
      rfl
    · simp at hstep
  | takeOrder task =>
    simp only [Relayer.step] at hstep
    split at hstep
    · rw [← Option.some.inj hstep, stepped_setTask _ rfl]
      simp only [Relayer.step, System.withTasks, hown _ rfl, *]
      rfl
    · simp at hstep
  | insert task =>
    simp only [Relayer.step] at hstep
    split at hstep
    · rw [← Option.some.inj hstep, stepped_setTask _ rfl]
      simp only [Relayer.step, System.withTasks, hown _ rfl, *]
      rfl
    · simp at hstep
  | notify task =>
    simp only [Relayer.step] at hstep
    split at hstep
    · rw [← Option.some.inj hstep, stepped_setTask _ rfl]
      simp only [Relayer.step, System.withTasks, hown _ rfl, *]
      rfl
    · simp at hstep
  | respond task now =>
    simp only [Relayer.step] at hstep
    split at hstep
    · rw [← Option.some.inj hstep, stepped_setTask _ rfl]
      simp only [Relayer.step, System.withTasks, hown _ rfl, *]
      rfl
    · rw [← Option.some.inj hstep, stepped_setTask _ rfl]
      simp only [Relayer.step, System.withTasks, hown _ rfl, *]
      rfl
    · simp at hstep
  | fetch task =>
    simp only [Relayer.step] at hstep
    split at hstep
    · rw [← Option.some.inj hstep, stepped_setTask _ rfl]
      simp only [Relayer.step, System.withTasks, hown _ rfl, *]
      rfl
    · rw [← Option.some.inj hstep, stepped_setTask _ rfl]
      simp only [Relayer.step, System.withTasks, hown _ rfl, *]
      rfl
    · simp at hstep
  | write task now =>
    simp only [Relayer.step] at hstep
    split at hstep
    · rw [← Option.some.inj hstep, stepped_setTask _ rfl]
      simp only [Relayer.step, System.withTasks, hown _ rfl, *]
      rfl
    · rw [← Option.some.inj hstep, stepped_setTask _ rfl]
      simp only [Relayer.step, System.withTasks, hown _ rfl, *]
      rfl
    · simp at hstep
  | read task listing =>
    simp only [Relayer.step] at hstep
    split at hstep
    · split_ifs at hstep
      rw [← Option.some.inj hstep, stepped_setTask _ rfl]
      simp only [Relayer.step, System.withTasks, hown _ rfl, *]
      rfl
    · simp at hstep

end Frame

/-! ### Tasks that have changed something -/

/-- The create has its order number. -/
def TaskPhase.isOrdered : TaskPhase → Bool
  | .inserting _ => true
  | .notifying _ => true
  | .respondingCreate _ => true
  | .done (.created _) => true
  | _ => false

/-- The update or the deletion is done. -/
def TaskPhase.hasWritten : TaskPhase → Bool
  | .respondingUpdate => true
  | .done (.updated _) => true
  | .done (.deleted _) => true
  | _ => false

/-- The answer is that of a request that changed nothing: it was turned away, it was a read, or it
failed before it had an order number. -/
inductive Harmless (actions : List Action) (task : TaskId) : TaskPhase → Prop
  | preflight (response : PreflightResponse) :
      Harmless actions task (.done (.preflight response))
  | unauthenticated (response : AuthErrorResponse) :
      Harmless actions task (.done (.unauthenticated response))
  | rejected (rejection : Rejection) : Harmless actions task (.done (.rejected rejection))
  | messages (response : GetMessagesResponse) : Harmless actions task (.done (.messages response))
  | failed (err : ApiError) (hnot : Action.takeOrder task ∉ actions) :
      Harmless actions task (.done (.failed err))

/-- The task has taken an order number, or its update or deletion is done. -/
def Stained (past : List Action) (system : System) (task : TaskId) : Prop :=
  Action.takeOrder task ∈ past ∨
    ∃ served, system.tasks.lookup task = some served ∧ served.phase.hasWritten = true

section Stained

variable {relayer : Relayer} {past rest : List Action} {before after finish : System}
  {action : Action} {task : TaskId} {served : Task}

/-- A step of a task is one of its moves. -/
theorem move_of_step (hstep : relayer.step before action = some after)
    (hown : action.task? = some task) :
    ∃ request phase, TaskMove relayer before action task request phase ∧
      after.tasks.lookup task = some ⟨request, phase⟩ := by
  cases transition_of_step hstep with
  | @task _ moved request phase storage notifications hmove hstorage hqueue =>
    obtain rfl : moved = task := Option.some.inj (hmove.task_eq.symm.trans hown)
    exact ⟨request, phase, hmove, Finmap.lookup_insert _⟩
  | worker hmove hstorage hqueue => simp [hmove.task_eq] at hown
  | event event => simp [Action.task?] at hown

/-- A task that moves has just arrived, or it goes on with the request that it has. -/
theorem fresh_or_served_of_move {request : Request} {phase : TaskPhase}
    (hmove : TaskMove relayer before action task request phase) :
    (before.tasks.lookup task = none ∧ ∃ now, action = .arrive task request now) ∨
      ∃ earlier, before.tasks.lookup task = some ⟨request, earlier⟩ := by
  cases hmove with
  | admitted hfresh => exact Or.inl ⟨hfresh, _, rfl⟩
  | prepared htask => exact Or.inr ⟨_, htask⟩
  | ordered htask => exact Or.inr ⟨_, htask⟩
  | inserted htask => exact Or.inr ⟨_, htask⟩
  | notified htask => exact Or.inr ⟨_, htask⟩
  | respondedCreate htask => exact Or.inr ⟨_, htask⟩
  | respondedUpdate htask => exact Or.inr ⟨_, htask⟩
  | checkedUpdate htask => exact Or.inr ⟨_, htask⟩
  | checkedDelete htask => exact Or.inr ⟨_, htask⟩
  | updated htask => exact Or.inr ⟨_, htask⟩
  | deleted htask => exact Or.inr ⟨_, htask⟩
  | answered htask hlisting => exact Or.inr ⟨_, htask⟩

/-- The request of a task has arrived in the run. -/
theorem arrived_of_run (hrun : relayer.run past = some finish)
    (hlookup : finish.tasks.lookup task = some served) :
    ∃ now, Action.arrive task served.request now ∈ past := by
  refine history_induction (fun past reached ↦ ∀ served,
    reached.tasks.lookup task = some served →
      ∃ now, Action.arrive task served.request now ∈ past) ?_ ?_ hrun served hlookup
  · intro served hlookup
    simp [System.init] at hlookup
  · intro past before action after hpast harrived hstep served hlookup
    have hearlier {found : Task} (hfound : before.tasks.lookup task = some found) :
        ∃ now, Action.arrive task found.request now ∈ past ++ [action] := by
      obtain ⟨now, hmem⟩ := harrived found hfound
      exact ⟨now, List.mem_append_left _ hmem⟩
    by_cases hown : action.task? = some task
    · obtain ⟨request, phase, hmove, hfound⟩ := move_of_step hstep hown
      obtain rfl := Option.some.inj (hlookup.symm.trans hfound)
      rcases fresh_or_served_of_move hmove with ⟨-, now, rfl⟩ | ⟨earlier, hserved⟩
      · exact ⟨now, List.mem_append_right _ (List.mem_singleton_self _)⟩
      · obtain ⟨now, hmem⟩ := hearlier hserved
        exact ⟨now, hmem⟩
    · exact hearlier ((lookup_of_step_of_ne hstep hown).symm.trans hlookup)

/-- A task comes to a phase with an order number by taking one, or from such a phase, and leaves
such a phase for another or for a failure. -/
structure OrderPassed (before : System) (action : Action) (task : TaskId) (phase : TaskPhase) :
    Prop where
  comes : phase.isOrdered = true → action = .takeOrder task ∨
    ∃ served, before.tasks.lookup task = some served ∧ served.phase.isOrdered = true
  takes : action = .takeOrder task → phase.isOrdered = true
  leaves : ∀ served, before.tasks.lookup task = some served → served.phase.isOrdered = true →
    phase.isOrdered = true ∨ ∃ err, phase = .done (.failed err)

theorem orderPassed_of_unordered {phase : TaskPhase} (hphase : phase.isOrdered = false)
    (haction : action ≠ .takeOrder task) (hbefore : ∀ served,
      before.tasks.lookup task = some served → served.phase.isOrdered = false) :
    OrderPassed before action task phase where
  comes hordered := by simp [hphase] at hordered
  takes htakes := absurd htakes haction
  leaves served hlookup hordered := by simp [hbefore served hlookup] at hordered

theorem orderPassed_of_ordered {phase : TaskPhase}
    (hlookup : before.tasks.lookup task = some served)
    (hordered : served.phase.isOrdered = true) (haction : action ≠ .takeOrder task)
    (hphase : phase.isOrdered = true ∨ ∃ err, phase = .done (.failed err)) :
    OrderPassed before action task phase where
  comes _ := Or.inr ⟨served, hlookup, hordered⟩
  takes htakes := absurd htakes haction
  leaves _ _ _ := hphase

theorem orderPassed_of_move {request : Request} {phase : TaskPhase}
    (hmove : TaskMove relayer before action task request phase) :
    OrderPassed before action task phase := by
  cases hmove with
  | admitted hfresh =>
    refine orderPassed_of_unordered ?_ (by simp) (by simp [hfresh])
    exact relayer.admission_induction _ _ _ (fun phase ↦ phase.isOrdered = false)
      (fun _ ↦ rfl) (fun _ ↦ rfl) (fun _ ↦ rfl) fun _ ↦ rfl
  | prepared htask =>
    refine orderPassed_of_unordered ?_ (by simp) (by simp [htask, TaskPhase.isOrdered])
    unfold Relayer.preparation
    split <;> rfl
  | ordered htask =>
    exact ⟨fun _ ↦ Or.inl rfl, fun _ ↦ rfl, fun _ _ _ ↦ Or.inl rfl⟩
  | inserted htask =>
    refine orderPassed_of_ordered htask rfl (by simp) ?_
    unfold Relayer.afterStorage
    split
    · exact Or.inr ⟨_, rfl⟩
    · exact Or.inl rfl
  | notified htask => exact orderPassed_of_ordered htask rfl (by simp) (Or.inl rfl)
  | respondedCreate htask => exact orderPassed_of_ordered htask rfl (by simp) (Or.inl rfl)
  | respondedUpdate htask =>
    exact orderPassed_of_unordered rfl (by simp) (by simp [htask, TaskPhase.isOrdered])
  | checkedUpdate htask =>
    refine orderPassed_of_unordered ?_ (by simp) (by simp [htask, TaskPhase.isOrdered])
    unfold Relayer.updateCheck
    split
    · rfl
    · split <;> rfl
  | checkedDelete htask =>
    refine orderPassed_of_unordered ?_ (by simp) (by simp [htask, TaskPhase.isOrdered])
    unfold Relayer.deleteCheck
    split
    · rfl
    · split <;> rfl
  | updated htask =>
    refine orderPassed_of_unordered ?_ (by simp) (by simp [htask, TaskPhase.isOrdered])
    unfold Relayer.afterStorage
    split <;> rfl
  | deleted htask =>
    refine orderPassed_of_unordered ?_ (by simp) (by simp [htask, TaskPhase.isOrdered])
    unfold Relayer.afterStorage
    split <;> rfl
  | answered htask hlisting =>
    refine orderPassed_of_unordered ?_ (by simp) (by simp [htask, TaskPhase.isOrdered])
    unfold Relayer.readReply
    split <;> rfl

/-- Among other tasks a step changes its own task as it would there. -/
theorem lookup_stepped {tasks : HashMap TaskId Task}
    (hstep : relayer.step before action = some after) :
    (stepped tasks after action).lookup task =
      if action.task? = some task then after.tasks.lookup task else tasks.lookup task := by
  unfold stepped
  split_ifs with hown
  · obtain ⟨request, phase, -, hafter⟩ := move_of_step hstep hown
    simp only [hown, hafter, Finmap.lookup_insert]
  · split
    · rfl
    case h_2 moved hmoved =>
      split
      · rfl
      · refine Finmap.lookup_insert_of_ne _ ?_
        rintro rfl
        exact hown hmoved

/-- What the order number of a task says about its phase. -/
structure OrderKnown (past : List Action) (system : System) (task : TaskId) : Prop where
  taken : ∀ served, system.tasks.lookup task = some served → served.phase.isOrdered = true →
    Action.takeOrder task ∈ past
  kept : Action.takeOrder task ∈ past → ∃ served, system.tasks.lookup task = some served ∧
    (served.phase.isOrdered = true ∨ ∃ err, served.phase = .done (.failed err))

theorem orderKnown_of_run (hrun : relayer.run past = some before) (task : TaskId) :
    OrderKnown past before task := by
  refine history_induction (fun past reached ↦ OrderKnown past reached task) ?_ ?_ hrun
  · refine ⟨fun served hlookup ↦ ?_, fun hmem ↦ absurd hmem List.not_mem_nil⟩
    simp [System.init] at hlookup
  · intro past before action after hpast hknown hstep
    by_cases hown : action.task? = some task
    · obtain ⟨request, phase, hmove, hlookup⟩ := move_of_step hstep hown
      have hpassed := orderPassed_of_move hmove
      refine ⟨fun served hserved hordered ↦ ?_, fun hmem ↦ ?_⟩
      · obtain rfl := Option.some.inj (hlookup.symm.trans hserved)
        rcases hpassed.comes hordered with rfl | ⟨earlier, hearlier, hphase⟩
        · exact List.mem_append_right _ (List.mem_singleton_self _)
        · exact List.mem_append_left _ (hknown.taken earlier hearlier hphase)
      · rcases List.mem_append.mp hmem with hold | hnew
        · obtain ⟨⟨served, earlier⟩, hearlier, hphase | ⟨err, hfailed⟩⟩ := hknown.kept hold
          · exact ⟨_, hlookup, hpassed.leaves _ hearlier hphase⟩
          · obtain rfl : earlier = .done (.failed err) := hfailed
            exact ⟨_, done_of_step hstep hearlier, Or.inr ⟨err, rfl⟩⟩
        · exact ⟨_, hlookup, Or.inl (hpassed.takes (List.mem_singleton.mp hnew).symm)⟩
    · have hkept := lookup_of_step_of_ne hstep hown
      refine ⟨fun served hserved hordered ↦ ?_, fun hmem ↦ ?_⟩
      · exact List.mem_append_left _ (hknown.taken served (hkept ▸ hserved) hordered)
      · rcases List.mem_append.mp hmem with hold | hnew
        · rw [hkept]
          exact hknown.kept hold
        · obtain rfl := List.mem_singleton.mp hnew
          exact absurd rfl hown

/-- What a task has changed stays changed. -/
theorem Stained.step (hstained : Stained past before task)
    (hstep : relayer.step before action = some after) : Stained (past ++ [action]) after task := by
  rcases hstained with htaken | ⟨served, hlookup, hwritten⟩
  · exact Or.inl (List.mem_append_left _ htaken)
  by_cases hown : action.task? = some task
  · obtain ⟨request, phase, hmove, hafter⟩ := move_of_step hstep hown
    refine Or.inr ⟨_, hafter, ?_⟩
    obtain ⟨earlier, reached⟩ := served
    cases hmove with
    | admitted hfresh => simp [hfresh] at hlookup
    | respondedUpdate htask => rfl
    | prepared htask | ordered htask | inserted htask | notified htask | respondedCreate htask
      | checkedUpdate htask | checkedDelete htask | updated htask | deleted htask
      | answered htask hlisting =>
      rw [htask] at hlookup
      obtain ⟨rfl, rfl⟩ := Task.mk.inj (Option.some.inj hlookup)
      simp [TaskPhase.hasWritten] at hwritten
  · rw [← lookup_of_step_of_ne hstep hown] at hlookup
    exact Or.inr ⟨served, hlookup, hwritten⟩

theorem Stained.run (hstained : Stained past before task)
    (hrest : runFrom relayer.step before rest = some finish) :
    Stained (past ++ rest) finish task := by
  refine history_induction (fun later reached ↦ Stained (past ++ later) reached task) ?_ ?_ hrest
  · rw [List.append_nil]
    exact hstained
  · intro later reached action after hlater hreached hstep
    rw [← List.append_assoc]
    exact hreached.step hstep

/-- A task that is harmless in the end has changed nothing. -/
theorem not_stained_of_harmless (hrun : relayer.run past = some finish)
    (hharmless : ∀ served, finish.tasks.lookup task = some served →
      Harmless past task served.phase) : ¬ Stained past finish task := by
  rintro (htaken | ⟨⟨request, phase⟩, hlookup, hwritten⟩)
  · obtain ⟨⟨request, phase⟩, hlookup, hordered⟩ := (orderKnown_of_run hrun task).kept htaken
    cases hharmless _ hlookup with
    | failed err hnot => exact hnot htaken
    | _ => simp [TaskPhase.isOrdered] at hordered
  · cases hharmless _ hlookup with
    | _ => simp [TaskPhase.hasWritten] at hwritten

/-- A step after which its task has changed nothing leaves everything tasks share as it was. -/
theorem shared_of_not_stained (hrun : relayer.run past = some before)
    (hstep : relayer.step before action = some after) (hown : action.task? = some task)
    (hnot : ¬ Stained (past ++ [action]) after task) : after = before.withTasks after.tasks := by
  have hwritten : ∀ served, after.tasks.lookup task = some served →
      served.phase.hasWritten = false := by
    intro served hlookup
    exact Bool.eq_false_iff.mpr fun hphase ↦ hnot (Or.inr ⟨served, hlookup, hphase⟩)
  have hunordered : ∀ request phase, before.tasks.lookup task = some ⟨request, phase⟩ →
      phase.isOrdered = false := by
    intro request phase hlookup
    refine Bool.eq_false_iff.mpr fun hordered ↦ hnot (Or.inl (List.mem_append_left _ ?_))
    exact (orderKnown_of_run hrun task).taken _ hlookup hordered
  cases transition_of_step hstep with
  | worker hmove hstorage hqueue => simp [hmove.task_eq] at hown
  | event event => simp [Action.task?] at hown
  | @task _ moved request phase storage notifications hmove hstorage hqueue =>
    obtain rfl : moved = task := Option.some.inj (hmove.task_eq.symm.trans hown)
    have hafter : phase.hasWritten = false := hwritten _ (Finmap.lookup_insert _)
    have hsame (hstorage : storage = before.storage) (hsent : action.sent = 0)
        (htaken : action.taken = 0) :
        ({ before with
          storage := storage
          notifications := notifications
          tasks := before.tasks.insert moved ⟨request, phase⟩ } : System) =
        before.withTasks (before.tasks.insert moved ⟨request, phase⟩) := by
      rw [hsent, htaken] at hqueue
      rw [hstorage, show notifications = before.notifications from hqueue]
      rfl
    cases hmove with
    | admitted hfresh => exact hsame (by cases hstorage; rfl) rfl rfl
    | prepared htask => exact hsame (by cases hstorage; rfl) rfl rfl
    | respondedUpdate htask => exact hsame (by cases hstorage; rfl) rfl rfl
    | checkedUpdate htask => exact hsame (by cases hstorage; rfl) rfl rfl
    | checkedDelete htask => exact hsame (by cases hstorage; rfl) rfl rfl
    | answered htask hlisting => exact hsame (by cases hstorage; rfl) rfl rfl
    | ordered htask =>
      exact absurd (Or.inl (List.mem_append_right _ (List.mem_singleton_self _))) hnot
    | inserted htask => exact absurd (hunordered _ _ htask) (by simp [TaskPhase.isOrdered])
    | notified htask => exact absurd (hunordered _ _ htask) (by simp [TaskPhase.isOrdered])
    | respondedCreate htask => exact absurd (hunordered _ _ htask) (by simp [TaskPhase.isOrdered])
    | @updated _ _ id content now htask =>
      refine hsame ?_ rfl rfl
      cases hstorage with
      | unchanged => rfl
      | @edited _ _ _ _ _ stored hfound hstored hnonce =>
        obtain ⟨-, hsameCall⟩ := Task.mk.inj (Option.some.inj (htask.symm.trans hfound))
        obtain ⟨rfl, rfl⟩ := TaskPhase.updating.inj hsameCall
        rw [InMemoryStorage.updateMessage_eq_ok content now hstored hnonce] at hafter
        exact absurd hafter (by simp [Relayer.afterStorage, TaskPhase.hasWritten])
      | deleted hfound hstored =>
        simp [htask] at hfound
    | @deleted _ _ id now htask =>
      refine hsame ?_ rfl rfl
      rcases before.storage.deleteMessage_cases id now with ⟨hnone, -⟩ | ⟨stored, -, hresult⟩
      · cases hstorage with
        | unchanged => rfl
        | edited hfound hstored hnonce => simp [htask] at hfound
        | deleted hfound hstored =>
          obtain ⟨-, hsameCall⟩ := Task.mk.inj (Option.some.inj (htask.symm.trans hfound))
          obtain rfl := TaskPhase.deleting.inj hsameCall
          simp [hnone] at hstored
      · rw [hresult] at hafter
        exact absurd hafter (by simp [Relayer.afterStorage, TaskPhase.hasWritten])

end Stained

/-! ### Leaving harmless tasks out -/

/-- The action is not a step of a hidden task. -/
def visible (hidden : TaskId → Bool) (action : Action) : Bool :=
  !action.task?.any hidden

section Purge

variable {relayer : Relayer} {actions : List Action} {finish : System} {hidden : TaskId → Bool}

/-- Without the hidden tasks the system is the same. -/
def SameApartFrom (hidden : TaskId → Bool) (system purged : System) : Prop :=
  ∃ tasks, purged = system.withTasks tasks ∧
    ∀ task, hidden task = false → tasks.lookup task = system.tasks.lookup task

/-- A hidden step changes nothing that tasks share. -/
def HidesWell (relayer : Relayer) (hidden : TaskId → Bool) (before : System) (action : Action) :
    Prop :=
  ∀ task after, action.task? = some task → hidden task = true →
    relayer.step before action = some after → after = before.withTasks after.tasks

theorem hidesWell_of_harmless (hrun : relayer.run actions = some finish)
    (hharmless : ∀ task served, hidden task = true → finish.tasks.lookup task = some served →
      Harmless actions task served.phase) :
    EveryStep relayer.step (HidesWell relayer hidden) .init actions := by
  rintro past action rest before rfl hpast task after hown hhidden hstep
  refine shared_of_not_stained hpast hstep hown fun hstained ↦ ?_
  have hsplit : past ++ action :: rest = past ++ [action] ++ rest := by simp
  have hwhole := hrun
  rw [hsplit] at hwhole
  obtain ⟨middle, hmiddle, hrest⟩ := runFrom_append_eq_some.mp hwhole
  obtain ⟨reached, hreached, hlater⟩ := runFrom_concat_eq_some.mp hmiddle
  obtain rfl := Option.some.inj (hpast.symm.trans hreached)
  obtain rfl := Option.some.inj (hstep.symm.trans hlater)
  refine not_stained_of_harmless hrun (fun served ↦ hharmless task served hhidden) ?_
  rw [hsplit]
  exact hstained.run hrest

theorem sameApartFrom_of_hidden {before after purged : System} {action : Action}
    (hsame : SameApartFrom hidden before purged) (hcond : HidesWell relayer hidden before action)
    (haction : visible hidden action = false) (hstep : relayer.step before action = some after) :
    SameApartFrom hidden after purged := by
  obtain ⟨task, hown, hhidden⟩ : ∃ task, action.task? = some task ∧ hidden task = true := by
    simpa [visible, Option.any_eq_true] using haction
  obtain ⟨tasks, rfl, htasks⟩ := hsame
  refine ⟨tasks, ?_, fun other hother ↦ ?_⟩
  · rw [hcond task after hown hhidden hstep]
    rfl
  · rw [lookup_of_step_of_ne hstep, htasks other hother]
    rw [hown]
    rintro ⟨⟩
    simp [hhidden] at hother

theorem sameApartFrom_of_visible {before after purged : System} {action : Action}
    (hsame : SameApartFrom hidden before purged) (haction : visible hidden action = true)
    (hstep : relayer.step before action = some after) :
    ∃ later, relayer.step purged action = some later ∧ SameApartFrom hidden after later := by
  obtain ⟨tasks, rfl, htasks⟩ := hsame
  have hown : ∀ task, action.task? = some task →
      tasks.lookup task = before.tasks.lookup task := by
    intro task htask
    refine htasks task (Bool.eq_false_iff.mpr fun hhidden ↦ ?_)
    simp [visible, htask, hhidden] at haction
  refine ⟨_, step_withTasks hown hstep, _, rfl, fun task htask ↦ ?_⟩
  rw [lookup_stepped hstep]
  split_ifs with htaken
  · rfl
  · rw [htasks task htask, lookup_of_step_of_ne hstep htaken]

/-- Assumes: tasks that are harmless in the end: turned away, answered with messages, or failed
before an order number was taken. Without their steps the run is a run, which ends with the same
storage, membership store, notifications, worker and archive, and with every other task as it
was. -/
theorem purge_harmless (hrun : relayer.run actions = some finish)
    (hharmless : ∀ task served, hidden task = true → finish.tasks.lookup task = some served →
      Harmless actions task served.phase) :
    ∃ purged, relayer.run (actions.filter (visible hidden)) = some purged ∧
      purged.storage = finish.storage ∧ purged.membership = finish.membership ∧
      purged.notifications = finish.notifications ∧ purged.worker = finish.worker ∧
      purged.archive = finish.archive ∧
      ∀ task, hidden task = false → purged.tasks.lookup task = finish.tasks.lookup task := by
  obtain ⟨purged, hpurged, tasks, rfl, htasks⟩ :=
    run_filter_of_unwinding (visible hidden) (SameApartFrom hidden)
      (⟨∅, rfl, fun _ _ ↦ rfl⟩ : SameApartFrom hidden .init .init)
      (fun _ _ _ _ _ _ hsame hcond haction hstep ↦
        sameApartFrom_of_hidden hsame hcond haction hstep)
      (fun _ _ _ _ _ _ hsame _ haction hstep ↦ sameApartFrom_of_visible hsame haction hstep)
      (hidesWell_of_harmless hrun hharmless) hrun
  exact ⟨_, hpurged, rfl, rfl, rfl, rfl, rfl, htasks⟩

end Purge

/-- A request without any headers. -/
def bareRequest : Request where
  method := .get
  route := .messages
  query := ""
  headers := []
  body := some []

theorem admission_bareRequest (membership : InMemoryMembershipStore) (now : DateTime) :
    ∃ response, sampleRelayer.admission membership now bareRequest =
      .done (.unauthenticated response) :=
  ⟨_, rfl⟩

/-- The client joins the group and posts its message, and somebody is turned away. -/
def sampleRefusing : List Action :=
  samplePosting ++ [.arrive 1 bareRequest (sampleClock 3)]

/-- The second request. -/
def isSecond (task : TaskId) : Bool :=
  task == 1

/-- Without the request that is turned away, the client's post is stored just as well. -/
theorem purge_harmless_sampleRefusing :
    ∃ purged, sampleRelayer.run (sampleRefusing.filter (visible isSecond)) = some purged ∧
      purged.storage = samplePostedStorage := by
  obtain ⟨response, hresponse⟩ := admission_bareRequest samplePosted.membership (sampleClock 3)
  have hrun : sampleRelayer.run sampleRefusing =
      some (samplePosted.setTask 1 bareRequest (.done (.unauthenticated response))) :=
    runFrom_concat_eq_some.mpr ⟨samplePosted, run_samplePosting,
      step_arrive (tasks_samplePosted (by decide)) hresponse⟩
  have hharmless : ∀ task served, isSecond task = true →
      (samplePosted.setTask 1 bareRequest (.done (.unauthenticated response))).tasks.lookup task =
        some served → Harmless sampleRefusing task served.phase := by
    intro task served hsecond hlookup
    obtain rfl : task = 1 := beq_iff_eq.mp hsecond
    rw [System.lookup_setTask] at hlookup
    rw [← Option.some.inj hlookup]
    exact .unauthenticated response
  obtain ⟨purged, hpurged, hstorage, -⟩ := purge_harmless hrun hharmless
  exact ⟨purged, hpurged, hstorage⟩

end MessagingRelayer
