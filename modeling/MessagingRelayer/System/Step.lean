import MessagingRelayer.Foundation.PartialRun
import MessagingRelayer.Handlers.Messages
import MessagingRelayer.Services.MembershipSync
import MessagingRelayer.Services.WalrusSync

/-!
# The relayer as a transition system

The state is what the parts of the relayer share (the storage, the membership store, the channel of
notifications) with the tasks that serve requests, the sync worker and the archive the publisher
keeps. An action is one critical section of one part, together with everything the part does not
choose itself: the request, the clock reading, the random identifier, the order in which a walk
meets the messages, the reply of the publisher. So a run is a list of actions, and any interleaving
of the parts is a run.

A task is finished when its phase is `done`; a client that goes away is a task that takes no further
step. Task identifiers are used once.
-/

set_option autoImplicit false
set_option relaxedAutoImplicit false

namespace MessagingRelayer

open Foundation

/-! ### The state -/

/-- The configuration that the modelled parts read. -/
structure Config where
  requestTtlSeconds : Int
  groupsPackageId : String
  walrusSyncBatchSize : Nat
  walrusSyncMessageThreshold : Nat

/-- A relayer: the libraries it is built with, its configuration and its keypair. -/
structure Relayer where
  libs : Externals
  config : Config
  keyPair : EnclaveKeyPair

/-- The answer to a request. -/
inductive Reply
  | preflight (response : PreflightResponse)
  | unauthenticated (response : AuthErrorResponse)
  | rejected (rejection : Rejection)
  | failed (err : ApiError)
  | created (response : ProcessedDataResponse (IntentMessage CreateMessageResponse))
  | messages (response : GetMessagesResponse)
  | updated (response : ProcessedDataResponse (IntentMessage EmptyResponse))
  | deleted (response : EmptyResponse)
deriving DecidableEq

/-- What a task will do next. -/
inductive TaskPhase
  /-- The handler has been called with its parameters. -/
  | calling (call : HandlerCall)
  /-- `create_message` calls the storage, which takes an order first. -/
  | ordering (message : Message)
  /-- The storage has the order and inserts the message. -/
  | inserting (message : Message)
  /-- The message is stored, the worker is not notified yet. -/
  | notifying (messageId : Uuid)
  | respondingCreate (messageId : Uuid)
  /-- `update_message` has checked the stored message. -/
  | updating (messageId : Uuid) (content : MessageContent)
  | respondingUpdate
  /-- `delete_message` has checked the stored message. -/
  | deleting (messageId : Uuid)
  | done (reply : Reply)
deriving DecidableEq

/-- A request that is being served. -/
structure Task where
  request : Request
  phase : TaskPhase
deriving DecidableEq

/-- Names of tasks. -/
abbrev TaskId := Nat

/-- The state of the system. -/
structure System where
  storage : InMemoryStorage
  membership : InMemoryMembershipStore
  tasks : HashMap TaskId Task
  notifications : Nat
  worker : SyncWorker
  archive : List Patch

namespace System

/-- The relayer at its start. -/
def init : System where
  storage := .new
  membership := .new
  tasks := ∅
  notifications := 0
  worker := .new
  archive := []

/-- The system with a task in a new phase. -/
def setTask (system : System) (task : TaskId) (request : Request) (phase : TaskPhase) : System :=
  { system with tasks := system.tasks.insert task ⟨request, phase⟩ }

section Tasks

variable (system : System) (task : TaskId) (request : Request) (phase : TaskPhase)

@[simp] theorem storage_setTask : (system.setTask task request phase).storage = system.storage :=
  rfl

@[simp] theorem membership_setTask :
    (system.setTask task request phase).membership = system.membership :=
  rfl

@[simp] theorem notifications_setTask :
    (system.setTask task request phase).notifications = system.notifications :=
  rfl

@[simp] theorem worker_setTask : (system.setTask task request phase).worker = system.worker :=
  rfl

@[simp] theorem archive_setTask : (system.setTask task request phase).archive = system.archive :=
  rfl

@[simp] theorem lookup_setTask :
    (system.setTask task request phase).tasks.lookup task = some ⟨request, phase⟩ :=
  Finmap.lookup_insert _

theorem lookup_setTask_of_ne {other : TaskId} (hne : other ≠ task) :
    (system.setTask task request phase).tasks.lookup other = system.tasks.lookup other :=
  Finmap.lookup_insert_of_ne _ hne

/-- Only the last phase of a task is kept. -/
@[simp] theorem setTask_setTask (later : Request) (last : TaskPhase) :
    (system.setTask task request phase).setTask task later last =
      system.setTask task later last := by
  unfold setTask
  simp only [Finmap.insert_insert]

/-- A task's phase has no part in the fields a step writes. -/
theorem setTask_with_storage (storage : InMemoryStorage) (later : TaskPhase) :
    ({ system.setTask task request phase with storage := storage } : System).setTask task request
      later = { system with storage := storage }.setTask task request later := by
  unfold setTask
  simp only [Finmap.insert_insert]

end Tasks

end System

/-! ### The actions -/

/-- One critical section of one part of the system. -/
inductive Action
  /-- A request arrives: middleware, routing and extractors. -/
  | arrive (task : TaskId) (request : Request) (now : DateTime)
  /-- `create_message` before the storage call. -/
  | prepare (task : TaskId) (id : Uuid) (now : DateTime)
  | takeOrder (task : TaskId)
  | insert (task : TaskId)
  | notify (task : TaskId)
  /-- The signed response to a create or an update. -/
  | respond (task : TaskId) (now : DateTime)
  /-- `get_message` in `update_message` and `delete_message`, with the checks that follow. -/
  | fetch (task : TaskId)
  /-- The storage call of `update_message` or `delete_message`. -/
  | write (task : TaskId) (now : DateTime)
  /-- `get_messages`, with the order of the walk. -/
  | read (task : TaskId) (listing : List Message)
  /-- An event of the chain reaches the membership store. -/
  | suiEvent (event : SuiEvent)
  | tick
  | receive
  | snapshot (listing : List Message)
  | upload (reply : Except String QuiltStoreResponse)
  | writeBack (now : DateTime)
  | finishPass

/-- The clock reading an action makes. -/
def Action.now? : Action → Option DateTime
  | arrive _ _ now => some now
  | prepare _ _ now => some now
  | respond _ now => some now
  | write _ now => some now
  | writeBack now => some now
  | _ => none

namespace Relayer

variable (relayer : Relayer)

/-! ### The steps of a task -/

/-- The phase a request starts in: answered by the CORS layer, the middleware or the router, or
calling its handler. -/
def admission (membership : InMemoryMembershipStore) (now : DateTime) (request : Request) :
    TaskPhase :=
  match corsLayer request with
  | some response => .done (.preflight response)
  | none =>
    match authMiddleware relayer.libs relayer.config.requestTtlSeconds membership
      (DateTime.timestamp now) request with
    | .error response => .done (.unauthenticated response)
    | .ok auth =>
      match dispatch relayer.libs request auth with
      | .error rejection => .done (.rejected rejection)
      | .ok call => .calling call

/-- The phase after `create_message` has built the message. -/
def preparation (auth : AuthContext) (req : CreateMessageRequest) (id : Uuid) (now : DateTime) :
    TaskPhase :=
  match createMessagePrepare relayer.libs auth req id now with
  | .error err => .done (.failed err)
  | .ok message => .ordering message

/-- The phase after the checks of `update_message`. -/
def updateCheck (auth : AuthContext) (req : UpdateMessageRequest) (storage : InMemoryStorage) :
    TaskPhase :=
  match storage.getMessage req.messageId with
  | .error err => .done (.failed (ApiError.fromStorageError err))
  | .ok existing =>
    match updateMessageCheck relayer.libs auth req existing with
    | .error err => .done (.failed err)
    | .ok content => .updating req.messageId content

/-- The phase after the checks of `delete_message`. -/
def deleteCheck (auth : AuthContext) (messageId : Uuid) (storage : InMemoryStorage) : TaskPhase :=
  match storage.getMessage messageId with
  | .error err => .done (.failed (ApiError.fromStorageError err))
  | .ok existing =>
    match deleteMessageCheck auth existing with
    | .error err => .done (.failed err)
    | .ok () => .deleting messageId

/-- The phase after a storage call: a failure is the answer. -/
def afterStorage (result : Except StorageError Message) (onSuccess : Message → TaskPhase) :
    TaskPhase :=
  match result with
  | .error err => .done (.failed (ApiError.fromStorageError err))
  | .ok message => onSuccess message

/-- The answer of `get_messages`. -/
def readReply (auth : AuthContext) (query : GetMessagesQuery) (storage : InMemoryStorage)
    (listing : List Message) : Reply :=
  match getMessages auth query storage listing with
  | .error err => .failed err
  | .ok response => .messages response

/-- The answer of `create_message`. -/
def createReply (messageId : Uuid) (now : DateTime) : Reply :=
  .created (toSignedResponse CreateMessageResponse.toBytes relayer.keyPair ⟨messageId⟩
    (DateTime.timestampMillis now) .messageDelivery)

/-- The answer of `update_message`. -/
def updateReply (now : DateTime) : Reply :=
  .updated (toSignedResponse EmptyResponse.toBytes relayer.keyPair ⟨⟩
    (DateTime.timestampMillis now) .messageDelivery)

/-! ### The step function -/

/-- The state after an action, where the action is possible. -/
def step (system : System) : Action → Option System
  | .arrive task request now =>
    match system.tasks.lookup task with
    | some _ => none
    | none => some (system.setTask task request (relayer.admission system.membership now request))
  | .prepare task id now =>
    match system.tasks.lookup task with
    | some ⟨request, .calling (.createMessage auth req)⟩ =>
      some (system.setTask task request (relayer.preparation auth req id now))
    | _ => none
  | .takeOrder task =>
    match system.tasks.lookup task with
    | some ⟨request, .ordering message⟩ =>
      let (order, storage) := system.storage.nextOrder message.groupId
      some ({ system with storage := storage }.setTask task request
        (.inserting (message.setOrder order)))
    | _ => none
  | .insert task =>
    match system.tasks.lookup task with
    | some ⟨request, .inserting message⟩ =>
      let (result, storage) := system.storage.insertMessage message
      some ({ system with storage := storage }.setTask task request
        (afterStorage result fun created ↦ .notifying created.id))
    | _ => none
  | .notify task =>
    match system.tasks.lookup task with
    | some ⟨request, .notifying messageId⟩ =>
      some ({ system with notifications := system.notifications + 1 }.setTask task request
        (.respondingCreate messageId))
    | _ => none
  | .respond task now =>
    match system.tasks.lookup task with
    | some ⟨request, .respondingCreate messageId⟩ =>
      some (system.setTask task request (.done (relayer.createReply messageId now)))
    | some ⟨request, .respondingUpdate⟩ =>
      some (system.setTask task request (.done (relayer.updateReply now)))
    | _ => none
  | .fetch task =>
    match system.tasks.lookup task with
    | some ⟨request, .calling (.updateMessage auth req)⟩ =>
      some (system.setTask task request (relayer.updateCheck auth req system.storage))
    | some ⟨request, .calling (.deleteMessage auth messageId)⟩ =>
      some (system.setTask task request (deleteCheck auth messageId system.storage))
    | _ => none
  | .write task now =>
    match system.tasks.lookup task with
    | some ⟨request, .updating messageId content⟩ =>
      let (result, storage) := system.storage.updateMessage messageId content now
      some ({ system with storage := storage }.setTask task request
        (afterStorage result fun _ ↦ .respondingUpdate))
    | some ⟨request, .deleting messageId⟩ =>
      let (result, storage) := system.storage.deleteMessage messageId now
      some ({ system with storage := storage }.setTask task request
        (afterStorage result fun _ ↦ .done (.deleted ⟨⟩)))
    | _ => none
  | .read task listing =>
    match system.tasks.lookup task with
    | some ⟨request, .calling (.getMessages auth query)⟩ =>
      if system.storage.messages.IterationOrder listing then
        some (system.setTask task request (.done (readReply auth query system.storage listing)))
      else none
    | _ => none
  | .suiEvent event =>
    some { system with
      membership := MembershipSyncService.processEvent relayer.libs
        relayer.config.groupsPackageId system.membership event }
  | .tick =>
    match system.worker.phase with
    | .waiting => some { system with worker := system.worker.startCycle }
    | _ => none
  | .receive =>
    match system.worker.phase, system.notifications with
    | .waiting, queued + 1 =>
      some { system with
        notifications := queued
        worker := system.worker.receive relayer.config.walrusSyncMessageThreshold }
    | _, _ => none
  | .snapshot listing =>
    match system.worker.phase with
    | .snapshot pass =>
      if system.storage.messages.IterationOrder listing then
        some { system with
          worker := system.worker.takeSnapshot pass
            (InMemoryStorage.getMessagesBySyncStatus listing pass.fromStatus
              (walrusBatchSize relayer.config.walrusSyncBatchSize)) }
      else none
    | _ => none
  | .upload reply =>
    match system.worker.phase with
    | .uploading pass messages =>
      some { system with
        worker := system.worker.handleReply pass messages reply
        archive := match reply with
          | .error _ => system.archive
          | .ok _ => system.archive ++ pass.patches messages }
    | _ => none
  | .writeBack now =>
    match system.worker.phase with
    | .writingBack pass (msg :: remaining) response =>
      some { system with
        storage := writeBackMessage system.storage pass msg response now
        worker := { system.worker with phase := .writingBack pass remaining response } }
    | _ => none
  | .finishPass =>
    match system.worker.phase with
    | .writingBack pass [] _ =>
      some { system with worker := system.worker.leavePass pass }
    | _ => none

/-- A run of the relayer from its start. -/
abbrev run (actions : List Action) : Option System :=
  runFrom relayer.step .init actions

end Relayer

/-! ### How a request starts -/

/-- Assumes: a property of the answers of the CORS layer, the middleware and the router, and of the
calls of handlers. A request starts with one of these. -/
theorem Relayer.admission_induction (relayer : Relayer) (membership : InMemoryMembershipStore)
    (now : DateTime) (request : Request) (property : TaskPhase → Prop)
    (hpreflight : ∀ response, property (.done (.preflight response)))
    (hrefused : ∀ response, property (.done (.unauthenticated response)))
    (hrejected : ∀ rejection, property (.done (.rejected rejection)))
    (hcalling : ∀ call, property (.calling call)) :
    property (relayer.admission membership now request) := by
  unfold Relayer.admission
  split
  · exact hpreflight _
  · split
    · exact hrefused _
    · split
      · exact hrejected _
      · exact hcalling _

/-! ### The steps that write to the storage -/

section Writing

variable {relayer : Relayer} {system : System} {task : TaskId} {request : Request}

theorem step_insert {message : Message}
    (htask : system.tasks.lookup task = some ⟨request, .inserting message⟩) :
    relayer.step system (.insert task) =
      some ({ system with storage := (system.storage.insertMessage message).2 }.setTask task request
        (Relayer.afterStorage (system.storage.insertMessage message).1 fun created ↦
          .notifying created.id)) := by
  simp only [Relayer.step, htask]

theorem step_update {id : Uuid} {content : MessageContent} (now : DateTime)
    (htask : system.tasks.lookup task = some ⟨request, .updating id content⟩) :
    relayer.step system (.write task now) =
      some ({ system with storage := (system.storage.updateMessage id content now).2 }.setTask task
        request (Relayer.afterStorage (system.storage.updateMessage id content now).1 fun _ ↦
          .respondingUpdate)) := by
  simp only [Relayer.step, htask]

theorem step_delete {id : Uuid} (now : DateTime)
    (htask : system.tasks.lookup task = some ⟨request, .deleting id⟩) :
    relayer.step system (.write task now) =
      some ({ system with storage := (system.storage.deleteMessage id now).2 }.setTask task
        request (Relayer.afterStorage (system.storage.deleteMessage id now).1 fun _ ↦
          .done (.deleted ⟨⟩))) := by
  simp only [Relayer.step, htask]

theorem step_writeBack {pass : Pass} {msg : Message} {remaining : List Message}
    {response : QuiltStoreResponse} (now : DateTime)
    (hphase : system.worker.phase = .writingBack pass (msg :: remaining) response) :
    relayer.step system (.writeBack now) = some { system with
      storage := writeBackMessage system.storage pass msg response now
      worker := { system.worker with phase := .writingBack pass remaining response } } := by
  simp only [Relayer.step, hphase]

end Writing

end MessagingRelayer
