import MessagingRelayer.System.Step

/-!
# What a step can do

The inversion lemma of the step function. `StorageEffect` lists what a step can do to the storage,
with the phase of the task or of the worker it stems from, `TaskMove` lists the moves of a task, and
`WorkerMove` those of the sync worker with what they do to the archive. By `transition_of_step`
every step is a move of a task, a move of the worker or an event of the chain. The invariants of the
system are proved from these lists and not from the step function.
-/

set_option autoImplicit false
set_option relaxedAutoImplicit false

namespace MessagingRelayer

open Foundation

/-! ### The storage -/

/-- The storage a step leaves behind. -/
inductive StorageEffect (before : System) : Action → InMemoryStorage → Prop
  | unchanged (action : Action) : StorageEffect before action before.storage
  | ordered {task : TaskId} {request : Request} {message : Message}
      (htask : before.tasks.lookup task = some ⟨request, .ordering message⟩) :
      StorageEffect before (.takeOrder task) (before.storage.nextOrder message.groupId).2
  | inserted {task : TaskId} {request : Request} {message : Message}
      (htask : before.tasks.lookup task = some ⟨request, .inserting message⟩)
      (hid : before.storage.messages.lookup message.id = none)
      (hnonce : message.nonce ∉ before.storage.nonces) :
      StorageEffect before (.insert task) { before.storage with
        nonces := insert message.nonce before.storage.nonces
        messages := before.storage.messages.insert message.id message }
  | edited {task : TaskId} {request : Request} {id : Uuid} {content : MessageContent}
      {now : DateTime} {stored : Message}
      (htask : before.tasks.lookup task = some ⟨request, .updating id content⟩)
      (hlookup : before.storage.messages.lookup id = some stored)
      (hnonce : stored.nonce = content.nonce ∨ content.nonce ∉ before.storage.nonces) :
      StorageEffect before (.write task now) { before.storage with
        nonces := insert content.nonce (before.storage.nonces.erase stored.nonce)
        messages := before.storage.messages.insert id (stored.updateContent content now) }
  | deleted {task : TaskId} {request : Request} {id : Uuid} {now : DateTime} {stored : Message}
      (htask : before.tasks.lookup task = some ⟨request, .deleting id⟩)
      (hlookup : before.storage.messages.lookup id = some stored) :
      StorageEffect before (.write task now) { before.storage with
        messages := before.storage.messages.insert id (stored.markForDeletion now) }
  | archived {now : DateTime} {pass : Pass} {msg stored : Message} {remaining : List Message}
      {response : QuiltStoreResponse} {patchId : String}
      (hphase : before.worker.phase = .writingBack pass (msg :: remaining) response)
      (hpatch : response.getPatchId (patchIdentifier msg.id) = some patchId)
      (hlookup : before.storage.messages.lookup msg.id = some stored) :
      StorageEffect before (.writeBack now) { before.storage with
        messages := before.storage.messages.insert msg.id
          (stored.withSyncStatus pass.toStatus (some patchId) now) }

/-- What a step makes of the message under an identifier. -/
inductive MessageEffect (before : System) (id : Uuid) : Action → Option Message → Prop
  | unchanged (action : Action) :
      MessageEffect before id action (before.storage.messages.lookup id)
  | created {task : TaskId} {request : Request} {message : Message}
      (htask : before.tasks.lookup task = some ⟨request, .inserting message⟩)
      (hid : message.id = id) (hlookup : before.storage.messages.lookup id = none)
      (hnonce : message.nonce ∉ before.storage.nonces) :
      MessageEffect before id (.insert task) (some message)
  | edited {task : TaskId} {request : Request} {content : MessageContent} {now : DateTime}
      {stored : Message}
      (htask : before.tasks.lookup task = some ⟨request, .updating id content⟩)
      (hlookup : before.storage.messages.lookup id = some stored)
      (hnonce : stored.nonce = content.nonce ∨ content.nonce ∉ before.storage.nonces) :
      MessageEffect before id (.write task now) (some (stored.updateContent content now))
  | deleted {task : TaskId} {request : Request} {now : DateTime} {stored : Message}
      (htask : before.tasks.lookup task = some ⟨request, .deleting id⟩)
      (hlookup : before.storage.messages.lookup id = some stored) :
      MessageEffect before id (.write task now) (some (stored.markForDeletion now))
  | archived {now : DateTime} {pass : Pass} {msg stored : Message} {remaining : List Message}
      {response : QuiltStoreResponse} {patchId : String}
      (hphase : before.worker.phase = .writingBack pass (msg :: remaining) response)
      (hid : msg.id = id) (hpatch : response.getPatchId (patchIdentifier id) = some patchId)
      (hlookup : before.storage.messages.lookup id = some stored) :
      MessageEffect before id (.writeBack now)
        (some (stored.withSyncStatus pass.toStatus (some patchId) now))

/-- A step changes at most the message its storage operation is about. -/
theorem StorageEffect.messageEffect {before : System} {action : Action} {storage : InMemoryStorage}
    (heffect : StorageEffect before action storage) (id : Uuid) :
    MessageEffect before id action (storage.messages.lookup id) := by
  cases heffect with
  | unchanged => exact .unchanged action
  | ordered htask => exact .unchanged _
  | inserted htask hid hnonce =>
    rw [HashMap.lookup_insert_eq]
    split_ifs with hsame
    · subst hsame
      exact .created htask rfl hid hnonce
    · exact .unchanged _
  | edited htask hlookup hnonce =>
    rw [HashMap.lookup_insert_eq]
    split_ifs with hsame
    · subst hsame
      exact .edited htask hlookup hnonce
    · exact .unchanged _
  | deleted htask hlookup =>
    rw [HashMap.lookup_insert_eq]
    split_ifs with hsame
    · subst hsame
      exact .deleted htask hlookup
    · exact .unchanged _
  | archived hphase hpatch hlookup =>
    rw [HashMap.lookup_insert_eq]
    split_ifs with hsame
    · subst hsame
      exact .archived hphase rfl hpatch hlookup
    · exact .unchanged _

/-! ### The tasks -/

/-- The moves of a task: its request and the phase it is in afterwards. -/
inductive TaskMove (relayer : Relayer) (before : System) :
    Action → TaskId → Request → TaskPhase → Prop
  | admitted {task : TaskId} {request : Request} {now : DateTime}
      (hfresh : before.tasks.lookup task = none) :
      TaskMove relayer before (.arrive task request now) task request
        (relayer.admission before.membership now request)
  | prepared {task : TaskId} {request : Request} {auth : AuthContext} {req : CreateMessageRequest}
      {id : Uuid} {now : DateTime}
      (htask : before.tasks.lookup task = some ⟨request, .calling (.createMessage auth req)⟩) :
      TaskMove relayer before (.prepare task id now) task request
        (relayer.preparation auth req id now)
  | ordered {task : TaskId} {request : Request} {message : Message}
      (htask : before.tasks.lookup task = some ⟨request, .ordering message⟩) :
      TaskMove relayer before (.takeOrder task) task request
        (.inserting (message.setOrder (before.storage.nextOrder message.groupId).1))
  | inserted {task : TaskId} {request : Request} {message : Message}
      (htask : before.tasks.lookup task = some ⟨request, .inserting message⟩) :
      TaskMove relayer before (.insert task) task request
        (Relayer.afterStorage (before.storage.insertMessage message).1 fun created ↦
          .notifying created.id)
  | notified {task : TaskId} {request : Request} {messageId : Uuid}
      (htask : before.tasks.lookup task = some ⟨request, .notifying messageId⟩) :
      TaskMove relayer before (.notify task) task request (.respondingCreate messageId)
  | respondedCreate {task : TaskId} {request : Request} {messageId : Uuid} {now : DateTime}
      (htask : before.tasks.lookup task = some ⟨request, .respondingCreate messageId⟩) :
      TaskMove relayer before (.respond task now) task request
        (.done (relayer.createReply messageId now))
  | respondedUpdate {task : TaskId} {request : Request} {now : DateTime}
      (htask : before.tasks.lookup task = some ⟨request, .respondingUpdate⟩) :
      TaskMove relayer before (.respond task now) task request (.done (relayer.updateReply now))
  | checkedUpdate {task : TaskId} {request : Request} {auth : AuthContext}
      {req : UpdateMessageRequest}
      (htask : before.tasks.lookup task = some ⟨request, .calling (.updateMessage auth req)⟩) :
      TaskMove relayer before (.fetch task) task request
        (relayer.updateCheck auth req before.storage)
  | checkedDelete {task : TaskId} {request : Request} {auth : AuthContext} {messageId : Uuid}
      (htask : before.tasks.lookup task = some
        ⟨request, .calling (.deleteMessage auth messageId)⟩) :
      TaskMove relayer before (.fetch task) task request
        (Relayer.deleteCheck auth messageId before.storage)
  | updated {task : TaskId} {request : Request} {messageId : Uuid} {content : MessageContent}
      {now : DateTime}
      (htask : before.tasks.lookup task = some ⟨request, .updating messageId content⟩) :
      TaskMove relayer before (.write task now) task request
        (Relayer.afterStorage (before.storage.updateMessage messageId content now).1 fun _ ↦
          .respondingUpdate)
  | deleted {task : TaskId} {request : Request} {messageId : Uuid} {now : DateTime}
      (htask : before.tasks.lookup task = some ⟨request, .deleting messageId⟩) :
      TaskMove relayer before (.write task now) task request
        (Relayer.afterStorage (before.storage.deleteMessage messageId now).1 fun _ ↦
          .done (.deleted ⟨⟩))
  | answered {task : TaskId} {request : Request} {auth : AuthContext} {query : GetMessagesQuery}
      {listing : List Message}
      (htask : before.tasks.lookup task = some ⟨request, .calling (.getMessages auth query)⟩)
      (hlisting : before.storage.messages.IterationOrder listing) :
      TaskMove relayer before (.read task listing) task request
        (.done (Relayer.readReply auth query before.storage listing))

/-! ### The worker -/

/-- The moves of the sync worker: its state and the archive afterwards. -/
inductive WorkerMove (relayer : Relayer) (before : System) :
    Action → SyncWorker → List Patch → Prop
  | ticked (hphase : before.worker.phase = .waiting) :
      WorkerMove relayer before .tick before.worker.startCycle before.archive
  | received (hphase : before.worker.phase = .waiting) (hqueued : 0 < before.notifications) :
      WorkerMove relayer before .receive
        (before.worker.receive relayer.config.walrusSyncMessageThreshold) before.archive
  | snapped {pass : Pass} {listing : List Message} (hphase : before.worker.phase = .snapshot pass)
      (hlisting : before.storage.messages.IterationOrder listing) :
      WorkerMove relayer before (.snapshot listing)
        (before.worker.takeSnapshot pass (InMemoryStorage.getMessagesBySyncStatus listing
          pass.fromStatus (walrusBatchSize relayer.config.walrusSyncBatchSize))) before.archive
  | failed {pass : Pass} {messages : List Message} {err : String}
      (hphase : before.worker.phase = .uploading pass messages) :
      WorkerMove relayer before (.upload (.error err)) (before.worker.leavePass pass) before.archive
  | uploaded {pass : Pass} {messages : List Message} {response : QuiltStoreResponse}
      (hphase : before.worker.phase = .uploading pass messages) :
      WorkerMove relayer before (.upload (.ok response))
        { before.worker with phase := .writingBack pass messages response }
        (before.archive ++ pass.patches messages)
  | wroteBack {pass : Pass} {msg : Message} {remaining : List Message}
      {response : QuiltStoreResponse} {now : DateTime}
      (hphase : before.worker.phase = .writingBack pass (msg :: remaining) response) :
      WorkerMove relayer before (.writeBack now)
        { before.worker with phase := .writingBack pass remaining response } before.archive
  | finished {pass : Pass} {response : QuiltStoreResponse}
      (hphase : before.worker.phase = .writingBack pass [] response) :
      WorkerMove relayer before .finishPass (before.worker.leavePass pass) before.archive

/-! ### The system -/

/-- The notifications an action sends. -/
def Action.sent : Action → Nat
  | notify _ => 1
  | _ => 0

/-- The notifications an action takes from the channel. -/
def Action.taken : Action → Nat
  | receive => 1
  | _ => 0

/-- A step of the system: one task, the worker, or the membership store changes, and the storage
with it. -/
inductive Transition (relayer : Relayer) (before : System) : Action → System → Prop
  | task {action : Action} {task : TaskId} {request : Request} {phase : TaskPhase}
      {storage : InMemoryStorage} {notifications : Nat}
      (hmove : TaskMove relayer before action task request phase)
      (hstorage : StorageEffect before action storage)
      (hqueue : notifications + action.taken = before.notifications + action.sent) :
      Transition relayer before action { before with
        storage := storage
        notifications := notifications
        tasks := before.tasks.insert task ⟨request, phase⟩ }
  | worker {action : Action} {worker : SyncWorker} {archive : List Patch}
      {storage : InMemoryStorage} {notifications : Nat}
      (hmove : WorkerMove relayer before action worker archive)
      (hstorage : StorageEffect before action storage)
      (hqueue : notifications + action.taken = before.notifications + action.sent) :
      Transition relayer before action { before with
        storage := storage
        notifications := notifications
        worker := worker
        archive := archive }
  | event (event : SuiEvent) :
      Transition relayer before (.suiEvent event) { before with
        membership := MembershipSyncService.processEvent relayer.libs
          relayer.config.groupsPackageId before.membership event }

section Inversion

variable {relayer : Relayer} {before after : System} {action : Action}

/-- The storage effect of an insertion. -/
theorem storageEffect_insertMessage {task : TaskId} {request : Request} {message : Message}
    (htask : before.tasks.lookup task = some ⟨request, .inserting message⟩) :
    StorageEffect before (.insert task) (before.storage.insertMessage message).2 := by
  rcases before.storage.insertMessage_cases message with ⟨err, hresult, -⟩ | ⟨hid, hnonce, hresult⟩
  · rw [hresult]
    exact .unchanged _
  · rw [hresult]
    exact .inserted htask hid hnonce

theorem storageEffect_updateMessage {task : TaskId} {request : Request} {id : Uuid}
    {content : MessageContent} (now : DateTime)
    (htask : before.tasks.lookup task = some ⟨request, .updating id content⟩) :
    StorageEffect before (.write task now) (before.storage.updateMessage id content now).2 := by
  rcases before.storage.updateMessage_cases id content now with
    ⟨err, hresult⟩ | ⟨stored, hlookup, hnonce, hresult⟩
  · rw [hresult]
    exact .unchanged _
  · rw [hresult]
    exact .edited htask hlookup hnonce

theorem storageEffect_deleteMessage {task : TaskId} {request : Request} {id : Uuid}
    (now : DateTime) (htask : before.tasks.lookup task = some ⟨request, .deleting id⟩) :
    StorageEffect before (.write task now) (before.storage.deleteMessage id now).2 := by
  rcases before.storage.deleteMessage_cases id now with ⟨-, hresult⟩ | ⟨stored, hlookup, hresult⟩
  · rw [hresult]
    exact .unchanged _
  · rw [hresult]
    exact .deleted htask hlookup

theorem storageEffect_writeBackMessage {pass : Pass} {msg : Message} {remaining : List Message}
    {response : QuiltStoreResponse} (now : DateTime)
    (hphase : before.worker.phase = .writingBack pass (msg :: remaining) response) :
    StorageEffect before (.writeBack now)
      (writeBackMessage before.storage pass msg response now) := by
  unfold writeBackMessage
  cases hpatch : response.getPatchId (patchIdentifier msg.id) with
  | none => exact .unchanged _
  | some patchId =>
    rcases before.storage.updateSyncStatus_cases msg.id pass.toStatus (some patchId) now with
      ⟨-, hresult⟩ | ⟨stored, hlookup, hresult⟩
    · simp only [hresult]
      exact .unchanged _
    · simp only [hresult]
      exact .archived hphase hpatch hlookup

/-- Every step is one of the transitions in the list. -/
theorem transition_of_step (hstep : relayer.step before action = some after) :
    Transition relayer before action after := by
  cases action with
  | arrive task request now =>
    simp only [Relayer.step] at hstep
    split at hstep
    · simp at hstep
    case h_2 hfresh =>
      obtain rfl := Option.some.inj hstep
      exact .task (.admitted hfresh) (.unchanged _) rfl
  | prepare task id now =>
    simp only [Relayer.step] at hstep
    split at hstep
    case h_1 htask =>
      obtain rfl := Option.some.inj hstep
      exact .task (.prepared htask) (.unchanged _) rfl
    · simp at hstep
  | takeOrder task =>
    simp only [Relayer.step] at hstep
    split at hstep
    case h_1 htask =>
      obtain rfl := Option.some.inj hstep
      exact .task (.ordered htask) (.ordered htask) rfl
    · simp at hstep
  | insert task =>
    simp only [Relayer.step] at hstep
    split at hstep
    case h_1 htask =>
      obtain rfl := Option.some.inj hstep
      exact .task (.inserted htask) (storageEffect_insertMessage htask) rfl
    · simp at hstep
  | notify task =>
    simp only [Relayer.step] at hstep
    split at hstep
    case h_1 htask =>
      obtain rfl := Option.some.inj hstep
      exact .task (.notified htask) (.unchanged _) rfl
    · simp at hstep
  | respond task now =>
    simp only [Relayer.step] at hstep
    split at hstep
    case h_1 htask =>
      obtain rfl := Option.some.inj hstep
      exact .task (.respondedCreate htask) (.unchanged _) rfl
    case h_2 htask =>
      obtain rfl := Option.some.inj hstep
      exact .task (.respondedUpdate htask) (.unchanged _) rfl
    · simp at hstep
  | fetch task =>
    simp only [Relayer.step] at hstep
    split at hstep
    case h_1 htask =>
      obtain rfl := Option.some.inj hstep
      exact .task (.checkedUpdate htask) (.unchanged _) rfl
    case h_2 htask =>
      obtain rfl := Option.some.inj hstep
      exact .task (.checkedDelete htask) (.unchanged _) rfl
    · simp at hstep
  | write task now =>
    simp only [Relayer.step] at hstep
    split at hstep
    case h_1 htask =>
      obtain rfl := Option.some.inj hstep
      exact .task (.updated htask) (storageEffect_updateMessage now htask) rfl
    case h_2 htask =>
      obtain rfl := Option.some.inj hstep
      exact .task (.deleted htask) (storageEffect_deleteMessage now htask) rfl
    · simp at hstep
  | read task listing =>
    simp only [Relayer.step] at hstep
    split at hstep
    case h_1 htask =>
      split_ifs at hstep with hlisting
      obtain rfl := Option.some.inj hstep
      exact .task (.answered htask hlisting) (.unchanged _) rfl
    · simp at hstep
  | suiEvent event =>
    obtain rfl := Option.some.inj hstep
    exact .event event
  | tick =>
    simp only [Relayer.step] at hstep
    split at hstep
    case h_1 hphase =>
      obtain rfl := Option.some.inj hstep
      exact .worker (.ticked hphase) (.unchanged _) rfl
    · simp at hstep
  | receive =>
    simp only [Relayer.step] at hstep
    split at hstep
    case h_1 queued hphase hqueued =>
      obtain rfl := Option.some.inj hstep
      exact .worker (.received hphase (hqueued ▸ Nat.succ_pos queued)) (.unchanged _)
        hqueued.symm
    · simp at hstep
  | snapshot listing =>
    simp only [Relayer.step] at hstep
    split at hstep
    case h_1 hphase =>
      split_ifs at hstep with hlisting
      obtain rfl := Option.some.inj hstep
      exact .worker (.snapped hphase hlisting) (.unchanged _) rfl
    · simp at hstep
  | upload reply =>
    simp only [Relayer.step] at hstep
    split at hstep
    case h_1 hphase =>
      obtain rfl := Option.some.inj hstep
      cases reply with
      | error err => exact .worker (.failed hphase) (.unchanged _) rfl
      | ok response => exact .worker (.uploaded hphase) (.unchanged _) rfl
    · simp at hstep
  | writeBack now =>
    simp only [Relayer.step] at hstep
    split at hstep
    case h_1 hphase =>
      obtain rfl := Option.some.inj hstep
      exact .worker (.wroteBack hphase) (storageEffect_writeBackMessage now hphase) rfl
    · simp at hstep
  | finishPass =>
    simp only [Relayer.step] at hstep
    split at hstep
    case h_1 hphase =>
      obtain rfl := Option.some.inj hstep
      exact .worker (.finished hphase) (.unchanged _) rfl
    · simp at hstep

/-! ### The parts of a transition -/

theorem storageEffect_of_step (hstep : relayer.step before action = some after) :
    StorageEffect before action after.storage := by
  cases transition_of_step hstep with
  | task hmove hstorage => exact hstorage
  | worker hmove hstorage => exact hstorage
  | event event => exact .unchanged _

theorem messageEffect_of_step (hstep : relayer.step before action = some after) (id : Uuid) :
    MessageEffect before id action (after.storage.messages.lookup id) :=
  (storageEffect_of_step hstep).messageEffect id

/-- A step moves one task, or leaves the tasks as they are. -/
theorem tasks_of_step (hstep : relayer.step before action = some after) :
    after.tasks = before.tasks ∨ ∃ task request phase,
      TaskMove relayer before action task request phase ∧
        after.tasks = before.tasks.insert task ⟨request, phase⟩ := by
  cases transition_of_step hstep with
  | task hmove hstorage => exact Or.inr ⟨_, _, _, hmove, rfl⟩
  | worker hmove hstorage => exact Or.inl rfl
  | event event => exact Or.inl rfl

/-- A step moves the worker, or leaves the worker and the archive as they are. -/
theorem worker_of_step (hstep : relayer.step before action = some after) :
    (after.worker = before.worker ∧ after.archive = before.archive) ∨
      WorkerMove relayer before action after.worker after.archive := by
  cases transition_of_step hstep with
  | task hmove hstorage => exact Or.inl ⟨rfl, rfl⟩
  | worker hmove hstorage => exact Or.inr hmove
  | event event => exact Or.inl ⟨rfl, rfl⟩

/-! ### What the worker holds -/

section Holds

variable {pass : Pass} {msg : Message}

theorem not_holds_leavePass (worker : SyncWorker) (left : Pass) :
    ¬ (worker.leavePass left).phase.Holds pass msg := by
  cases left <;> exact not_false

/-- What the worker holds after a step it held before, or it has just taken it from the storage with
the status of the pass. -/
theorem holds_of_step (hstep : relayer.step before action = some after)
    (hholds : after.worker.phase.Holds pass msg) :
    before.worker.phase.Holds pass msg ∨
      ∃ listing, action = .snapshot listing ∧ before.worker.phase = .snapshot pass ∧
        (∃ key, before.storage.messages.lookup key = some msg) ∧
        msg.syncStatus = pass.fromStatus := by
  rcases worker_of_step hstep with ⟨hsame, -⟩ | hmove
  · exact Or.inl (hsame ▸ hholds)
  · generalize after.worker = worker at hmove hholds
    generalize after.archive = archive at hmove
    cases hmove with
    | ticked hphase => exact absurd hholds not_false
    | received hphase =>
      unfold SyncWorker.receive at hholds
      simp only at hholds
      split_ifs at hholds
      · exact Or.inl hholds
      · exact absurd hholds not_false
    | @snapped taken listing hphase hlisting =>
      unfold SyncWorker.takeSnapshot at hholds
      split_ifs at hholds with hempty
      · exact absurd hholds (not_holds_leavePass _ _)
      · obtain ⟨rfl, hmem⟩ := hholds
        obtain ⟨hlisted, hstatus⟩ := InMemoryStorage.mem_getMessagesBySyncStatus hmem
        exact Or.inr ⟨listing, rfl, hphase, hlisting.mem_iff.mp hlisted, hstatus⟩
    | failed hphase => exact absurd hholds (not_holds_leavePass _ _)
    | uploaded hphase =>
      rw [hphase]
      exact Or.inl hholds
    | wroteBack hphase =>
      rw [hphase]
      exact Or.inl ⟨hholds.1, List.mem_cons_of_mem _ hholds.2⟩
    | finished hphase => exact absurd hholds (not_holds_leavePass _ _)

end Holds

end Inversion

end MessagingRelayer
