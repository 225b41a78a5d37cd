import MessagingRelayer.System.Replay

/-!
# The operation of a task

A task that serves a create or an update performs one operation: the insertion or the update of a
message in the storage that returns `Ok`. What a run has performed for a task can be told from the
phase the task is in (`accounted_of_run`), and the answer to the request is final (`done_of_step`).
-/

set_option autoImplicit false
set_option relaxedAutoImplicit false

namespace MessagingRelayer

open Foundation

/-! ### Operations -/

/-- What a request comes to: a message is delivered, or it is updated. -/
inductive Operation
  | delivery (messageId : Uuid)
  | update (messageId : Uuid)
deriving DecidableEq

/-- The step is the storage call of the task that performs the operation: an insertion or an update
that returns `Ok`. -/
def Performs (task : TaskId) : Operation → System → Action → Prop
  | .delivery id, before, action => ∃ request message created, action = .insert task ∧
      before.tasks.lookup task = some ⟨request, .inserting message⟩ ∧ message.id = id ∧
      (before.storage.insertMessage message).1 = .ok created
  | .update id, before, action => ∃ request content now updated, action = .write task now ∧
      before.tasks.lookup task = some ⟨request, .updating id content⟩ ∧
      (before.storage.updateMessage id content now).1 = .ok updated

/-- The step answers an update of the task, at this time. -/
def AnswersUpdate (task : TaskId) (now : DateTime) (before : System) (action : Action) : Prop :=
  ∃ request, action = .respond task now ∧
    before.tasks.lookup task = some ⟨request, .respondingUpdate⟩

/-! ### The operation of a task -/

section Operations

variable {relayer : Relayer} {past : List Action} {action : Action} {before after reached : System}
  {task : TaskId} {request : Request} {phase : TaskPhase} {operation : Operation}
  {performed : Option Operation}

/-- The task has performed this operation and no other, or none. -/
def Performed (relayer : Relayer) (past : List Action) (task : TaskId)
    (performed : Option Operation) : Prop :=
  ∀ operation, Happened relayer.step .init past (Performs task operation) ↔
    performed = some operation

/-- What the run so far says about a task that is in a phase, or that is not there yet. -/
def Accounted (relayer : Relayer) (past : List Action) (task : TaskId) : Option TaskPhase → Prop
  | some (.notifying id) => Performed relayer past task (some (.delivery id))
  | some (.respondingCreate id) => Performed relayer past task (some (.delivery id))
  | some .respondingUpdate => ∃ id, Performed relayer past task (some (.update id))
  | some (.done (.created response)) => ∃ id now,
      .created response = relayer.createReply id now ∧
      Performed relayer past task (some (.delivery id))
  | some (.done (.updated response)) => ∃ id now,
      .updated response = relayer.updateReply now ∧
      Performed relayer past task (some (.update id)) ∧
      Happened relayer.step .init past (AnswersUpdate task now)
  | some (.done _) => True
  | _ => Performed relayer past task none

/-- A task performs its operation when it inserts or updates. -/
theorem Performs.about_to (hperforms : Performs task operation before action) :
    action.task? = some task ∧ ∃ request phase,
      before.tasks.lookup task = some ⟨request, phase⟩ ∧
      ((∃ message, phase = .inserting message) ∨ ∃ id content, phase = .updating id content) := by
  cases operation with
  | delivery id =>
    obtain ⟨request, message, created, rfl, htask, -⟩ := hperforms
    exact ⟨rfl, request, _, htask, Or.inl ⟨message, rfl⟩⟩
  | update id =>
    obtain ⟨request, content, now, updated, rfl, htask, -⟩ := hperforms
    exact ⟨rfl, request, _, htask, Or.inr ⟨id, content, rfl⟩⟩

theorem TaskMove.task_eq (hmove : TaskMove relayer before action task request phase) :
    action.task? = some task := by
  cases hmove <;> rfl

theorem WorkerMove.task_eq {worker : SyncWorker} {archive : List Patch}
    (hmove : WorkerMove relayer before action worker archive) : action.task? = none := by
  cases hmove <;> rfl

/-- A step by which the task performs nothing leaves what it has performed. -/
theorem Performed.quiet (hperformed : Performed relayer past task performed)
    (hpast : relayer.run past = some before)
    (hquiet : ∀ operation, ¬ Performs task operation before action) :
    Performed relayer (past ++ [action]) task performed := by
  intro operation
  rw [happened_concat_iff hpast, hperformed operation]
  exact or_iff_left (hquiet operation)

/-- A task that has performed nothing has performed the operation of the step afterwards. -/
theorem Performed.perform (hperformed : Performed relayer past task none)
    (hpast : relayer.run past = some before)
    (hperforms : ∀ other, Performs task other before action ↔ other = operation) :
    Performed relayer (past ++ [action]) task (some operation) := by
  intro other
  rw [happened_concat_iff hpast, hperformed other, hperforms other]
  simp [eq_comm]

/-- A task is accounted for while others take steps. -/
theorem Accounted.quiet {phase : Option TaskPhase} (haccounted : Accounted relayer past task phase)
    (hpast : relayer.run past = some before)
    (hquiet : ∀ operation, ¬ Performs task operation before action) :
    Accounted relayer (past ++ [action]) task phase := by
  unfold Accounted at haccounted ⊢
  split at haccounted
  · exact haccounted.quiet hpast hquiet
  · exact haccounted.quiet hpast hquiet
  · obtain ⟨id, hperformed⟩ := haccounted
    exact ⟨id, hperformed.quiet hpast hquiet⟩
  · obtain ⟨id, now, hreply, hperformed⟩ := haccounted
    exact ⟨id, now, hreply, hperformed.quiet hpast hquiet⟩
  · obtain ⟨id, now, hreply, hperformed, hanswered⟩ := haccounted
    exact ⟨id, now, hreply, hperformed.quiet hpast hquiet, hanswered.append _⟩
  · trivial
  · exact haccounted.quiet hpast hquiet

/-! ### The moves of a task -/

/-- Assumes: nothing is performed yet. The phases a task takes before its storage call, and its
answer where there is none, account for that. -/
theorem accounted_admission {membership : InMemoryMembershipStore} {now : DateTime}
    (hperformed : Performed relayer past task none) :
    Accounted relayer past task (some (relayer.admission membership now request)) :=
  relayer.admission_induction _ _ _ (fun phase ↦ Accounted relayer past task (some phase))
    (fun _ ↦ trivial) (fun _ ↦ trivial) (fun _ ↦ trivial) fun _ ↦ hperformed

theorem accounted_preparation {auth : AuthContext} {req : CreateMessageRequest} {id : Uuid}
    {now : DateTime} (hperformed : Performed relayer past task none) :
    Accounted relayer past task (some (relayer.preparation auth req id now)) := by
  unfold Relayer.preparation
  split
  · trivial
  · exact hperformed

theorem accounted_updateCheck {auth : AuthContext} {req : UpdateMessageRequest}
    {storage : InMemoryStorage} (hperformed : Performed relayer past task none) :
    Accounted relayer past task (some (relayer.updateCheck auth req storage)) := by
  unfold Relayer.updateCheck
  split
  · trivial
  · split
    · trivial
    · exact hperformed

theorem accounted_deleteCheck {auth : AuthContext} {messageId : Uuid} {storage : InMemoryStorage}
    (hperformed : Performed relayer past task none) :
    Accounted relayer past task (some (Relayer.deleteCheck auth messageId storage)) := by
  unfold Relayer.deleteCheck
  split
  · trivial
  · split
    · trivial
    · exact hperformed

theorem accounted_readReply {auth : AuthContext} {query : GetMessagesQuery}
    {storage : InMemoryStorage} {listing : List Message} :
    Accounted relayer past task (some (.done (Relayer.readReply auth query storage listing))) := by
  unfold Relayer.readReply
  split <;> trivial

/-- A task that inserts its message has delivered it, or is answered with the failure. -/
theorem accounted_insert {message : Message} (hpast : relayer.run past = some before)
    (hperformed : Performed relayer past task none)
    (htask : before.tasks.lookup task = some ⟨request, .inserting message⟩) :
    Accounted relayer (past ++ [.insert task]) task
      (some (Relayer.afterStorage (before.storage.insertMessage message).1 fun created ↦
        .notifying created.id)) := by
  rcases before.storage.insertMessage_cases message with ⟨err, hresult, -⟩ | ⟨-, -, hresult⟩
  · rw [hresult]
    trivial
  · rw [hresult]
    refine hperformed.perform hpast fun other ↦ ?_
    cases other with
    | delivery id =>
      constructor
      · rintro ⟨request', found, created, -, hfound, rfl, -⟩
        obtain ⟨-, rfl⟩ : request = request' ∧ message = found := by simpa [htask] using hfound
        rfl
      · intro hsame
        obtain rfl := Operation.delivery.inj hsame
        exact ⟨request, message, message, rfl, htask, rfl, by rw [hresult]⟩
    | update id =>
      constructor
      · rintro ⟨_, _, _, _, haction, -⟩
        simp at haction
      · simp

/-- A task that updates a message has done so, or is answered with the failure. -/
theorem accounted_update {id : Uuid} {content : MessageContent} {now : DateTime}
    (hpast : relayer.run past = some before) (hperformed : Performed relayer past task none)
    (htask : before.tasks.lookup task = some ⟨request, .updating id content⟩) :
    Accounted relayer (past ++ [.write task now]) task
      (some (Relayer.afterStorage (before.storage.updateMessage id content now).1 fun _ ↦
        .respondingUpdate)) := by
  rcases before.storage.updateMessage_cases id content now with ⟨err, hresult⟩ |
    ⟨stored, -, -, hresult⟩
  · rw [hresult]
    trivial
  · rw [hresult]
    refine ⟨id, hperformed.perform hpast fun other ↦ ?_⟩
    cases other with
    | delivery copied =>
      constructor
      · rintro ⟨_, _, _, haction, -⟩
        simp at haction
      · simp
    | update copied =>
      constructor
      · rintro ⟨request', found, now', updated, -, hfound, -⟩
        obtain ⟨-, rfl, -⟩ : request = request' ∧ id = copied ∧ content = found := by
          simpa [htask] using hfound
        rfl
      · intro hsame
        obtain rfl := Operation.update.inj hsame
        exact ⟨request, content, now, _, rfl, htask, by rw [hresult]⟩

/-- Assumes: the tasks are accounted for. A task that moves is accounted for in its new phase. -/
theorem accounted_of_move (hpast : relayer.run past = some before)
    (hbefore : Accounted relayer past task ((before.tasks.lookup task).map Task.phase))
    (hmove : TaskMove relayer before action task request phase) :
    Accounted relayer (past ++ [action]) task (some phase) := by
  -- Only an insertion and an update perform anything.
  have hquiet (hidle : ∀ served, before.tasks.lookup task = some served →
      (∀ message, served.phase ≠ .inserting message) ∧
        ∀ id content, served.phase ≠ .updating id content)
      (operation : Operation) : ¬ Performs task operation before action := by
    intro hperforms
    obtain ⟨-, _, _, htask, ⟨message, rfl⟩ | ⟨id, content, rfl⟩⟩ := hperforms.about_to
    · exact (hidle _ htask).1 message rfl
    · exact (hidle _ htask).2 id content rfl
  cases hmove with
  | admitted hfresh =>
    rw [hfresh] at hbefore
    exact accounted_admission (Performed.quiet hbefore hpast (hquiet (by simp [hfresh])))
  | prepared htask =>
    rw [htask] at hbefore
    exact accounted_preparation (Performed.quiet hbefore hpast (hquiet (by simp [htask])))
  | ordered htask =>
    rw [htask] at hbefore
    exact Performed.quiet hbefore hpast (hquiet (by simp [htask]))
  | inserted htask =>
    rw [htask] at hbefore
    exact accounted_insert hpast hbefore htask
  | notified htask =>
    rw [htask] at hbefore
    exact Performed.quiet hbefore hpast (hquiet (by simp [htask]))
  | respondedCreate htask =>
    rw [htask] at hbefore
    exact ⟨_, _, rfl, Performed.quiet hbefore hpast (hquiet (by simp [htask]))⟩
  | @respondedUpdate _ _ now htask =>
    rw [htask] at hbefore
    obtain ⟨id, hperformed⟩ := hbefore
    exact ⟨id, now, rfl, hperformed.quiet hpast (hquiet (by simp [htask])),
      (happened_concat_iff hpast).mpr (Or.inr ⟨request, rfl, htask⟩)⟩
  | checkedUpdate htask =>
    rw [htask] at hbefore
    exact accounted_updateCheck (Performed.quiet hbefore hpast (hquiet (by simp [htask])))
  | checkedDelete htask =>
    rw [htask] at hbefore
    exact accounted_deleteCheck (Performed.quiet hbefore hpast (hquiet (by simp [htask])))
  | updated htask =>
    rw [htask] at hbefore
    exact accounted_update hpast hbefore htask
  | deleted htask =>
    unfold Relayer.afterStorage
    split <;> trivial
  | answered htask hlisting => exact accounted_readReply

/-- In every state of the system every task is accounted for. -/
theorem accounted_of_run (hrun : relayer.run past = some reached) (task : TaskId) :
    Accounted relayer past task ((reached.tasks.lookup task).map Task.phase) := by
  refine history_induction
    (fun past reached ↦ ∀ task, Accounted relayer past task
      ((reached.tasks.lookup task).map Task.phase)) ?_ ?_ hrun task
  · intro task operation
    simp [not_happened_nil]
  · intro past before action after hpast hall hstep task
    cases transition_of_step hstep with
    | @task _ moved request phase storage notifications hmove hstorage =>
      rw [HashMap.lookup_insert_eq]
      split_ifs with htask
      · subst htask
        exact accounted_of_move hpast (hall task) hmove
      · refine (hall task).quiet hpast fun operation hperforms ↦ htask ?_
        exact Option.some.inj (hperforms.about_to.1.symm.trans hmove.task_eq)
    | worker hmove hstorage =>
      refine (hall task).quiet hpast fun operation hperforms ↦ ?_
      exact absurd (hmove.task_eq.symm.trans hperforms.about_to.1) (by simp)
    | event event =>
      refine (hall task).quiet hpast fun operation hperforms ↦ ?_
      exact absurd hperforms.about_to.1 (by simp [Action.task?])

/-- An answer is final. -/
theorem done_of_step {reply : Reply} (hstep : relayer.step before action = some after)
    (htask : before.tasks.lookup task = some ⟨request, .done reply⟩) :
    after.tasks.lookup task = some ⟨request, .done reply⟩ := by
  rcases tasks_of_step hstep with hsame | ⟨moved, request', phase, hmove, htasks⟩
  · rw [hsame]
    exact htask
  · rw [htasks, HashMap.lookup_insert_eq]
    split_ifs with hmoved
    · subst hmoved
      cases hmove <;> simp_all
    · exact htask

/-- A task whose update was answered has that answer from then on. -/
theorem answered_of_happened {now : DateTime} (hrun : relayer.run past = some reached)
    (hanswered : Happened relayer.step .init past (AnswersUpdate task now)) :
    ∃ request, reached.tasks.lookup task = some ⟨request, .done (relayer.updateReply now)⟩ := by
  revert hanswered
  refine history_induction (fun past reached ↦
    Happened relayer.step .init past (AnswersUpdate task now) →
      ∃ request, reached.tasks.lookup task = some ⟨request, .done (relayer.updateReply now)⟩)
    (fun hanswered ↦ absurd hanswered not_happened_nil) ?_ hrun
  intro past before action after hpast hall hstep hanswered
  rcases (happened_concat_iff hpast).mp hanswered with hearlier | ⟨request, rfl, htask⟩
  · obtain ⟨request, htask⟩ := hall hearlier
    exact ⟨request, done_of_step hstep htask⟩
  · simp only [Relayer.step, htask] at hstep
    exact ⟨request, Option.some.inj hstep ▸ System.lookup_setTask _ _ _ _⟩

end Operations

end MessagingRelayer
