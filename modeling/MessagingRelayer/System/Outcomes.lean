import MessagingRelayer.Handlers.Statuses
import MessagingRelayer.System.Traceless

/-!
# What an answer says

A client learns from the answer alone what its request has done. `Relayer.changes` lists the changes
a task has made to the storage: the order numbers it has taken and its calls that returned `Ok`, and
by `changesExactly` its steps change the storage by these and by nothing else. By
`settled_of_run` the phase of the task determines them (`answers_truthful`): a task that was
answered with success has made the changes its request asks for, and a task that was answered with
anything else has made none, except that a create that was refused as a duplicate has used up an
order number. The status of an answer is one that the table of the API has for the request
(`status_in_table`).
-/

set_option autoImplicit false
set_option relaxedAutoImplicit false

namespace MessagingRelayer

open Foundation

/-! ### The changes of a task -/

/-- A change of the storage: an order number of a group is taken, or a call takes effect. -/
inductive StorageChange
  | takeNumber (groupId : String) (order : Int)
  | perform (call : StorageCall)

/-- The storage after a change. -/
def StorageChange.apply (storage : InMemoryStorage) : StorageChange → InMemoryStorage
  | .takeNumber groupId order =>
    { storage with groupOrders := storage.groupOrders.insert groupId order }
  | .perform call => (storage.takeEffect call).2

/-- The change that an action of the task makes: the number it takes, or its call if it returns
`Ok`. -/
def System.change? (task : TaskId) (system : System) (action : Action) : Option StorageChange :=
  if action.task? = some task then
    match action, system.tasks.lookup task with
    | .takeOrder _, some ⟨_, .ordering message⟩ =>
      some (.takeNumber message.groupId (system.storage.nextOrder message.groupId).1)
    | _, _ => ((system.storageCall? action).filter fun call ↦
        (system.storage.takeEffect call).1.isOk).map .perform
  else none

/-- The changes a task has made to the storage, in their order. -/
def Relayer.changes (relayer : Relayer) (task : TaskId) (actions : List Action) :
    List StorageChange :=
  effects relayer.step (System.change? task) .init actions

/-- A step of the task changes the storage by the change of its action, and by nothing else. -/
def ChangesExactly (relayer : Relayer) (task : TaskId) (before : System) (action : Action) : Prop :=
  ∀ after, relayer.step before action = some after → action.task? = some task →
    after.storage = (before.change? task action).toList.foldl StorageChange.apply before.storage

/-- A step of the task leaves the messages and the nonces as they are. -/
def LeavesMessages (relayer : Relayer) (task : TaskId) (before : System) (action : Action) : Prop :=
  ∀ after, relayer.step before action = some after → action.task? = some task →
    after.storage.messages = before.storage.messages ∧ after.storage.nonces = before.storage.nonces

section Changes

variable {relayer : Relayer} {past : List Action} {before after : System} {action : Action}
  {task : TaskId} {request : Request} {call : StorageCall}

theorem changes_concat (hpast : relayer.run past = some before) (task : TaskId)
    (action : Action) : relayer.changes task (past ++ [action]) =
      relayer.changes task past ++ (before.change? task action).toList :=
  effects_concat hpast action

/-- A call that fails leaves the storage as it was. -/
theorem takeEffect_of_not_ok {storage : InMemoryStorage}
    (hfails : (storage.takeEffect call).1.isOk = false) :
    (storage.takeEffect call).2 = storage := by
  unfold InMemoryStorage.takeEffect at hfails ⊢
  cases call with
  | createMessage message =>
    rcases storage.insertMessage_cases message with ⟨err, hresult, -⟩ | ⟨-, -, hresult⟩
    · simp only [hresult]
    · simp [hresult, Except.isOk, Except.toBool] at hfails
  | updateMessage id content now =>
    rcases storage.updateMessage_cases id content now with ⟨err, hresult⟩ | ⟨stored, -, -, hresult⟩
    · simp only [hresult]
    · simp [hresult, Except.isOk, Except.toBool] at hfails
  | deleteMessage id now =>
    rcases storage.deleteMessage_cases id now with ⟨-, hresult⟩ | ⟨stored, -, hresult⟩
    · simp only [hresult]
    · simp [hresult, Except.isOk, Except.toBool] at hfails
  | updateSyncStatus id status quiltPatchId now =>
    rcases storage.updateSyncStatus_cases id status quiltPatchId now with
      ⟨-, hresult⟩ | ⟨stored, -, hresult⟩
    · simp only [hresult]
    · simp [hresult, Except.isOk, Except.toBool] at hfails

theorem change?_takeOrder {message : Message}
    (htask : before.tasks.lookup task = some ⟨request, .ordering message⟩) :
    before.change? task (.takeOrder task) =
      some (.takeNumber message.groupId (before.storage.nextOrder message.groupId).1) := by
  have hown : (Action.takeOrder task).task? = some task := rfl
  unfold System.change?
  rw [if_pos hown, htask]

/-- An action that takes no number makes the change of its call. -/
theorem change?_eq (hown : action.task? = some task) (haction : action ≠ .takeOrder task) :
    before.change? task action = ((before.storageCall? action).filter fun call ↦
      (before.storage.takeEffect call).1.isOk).map .perform := by
  unfold System.change?
  rw [if_pos hown]
  split
  · next found served message htask =>
    obtain rfl : found = task := Option.some.inj hown
    exact absurd rfl haction
  · rfl

theorem change?_eq_none_of_no_call (hown : action.task? = some task)
    (haction : action ≠ .takeOrder task) (hcall : before.storageCall? action = none) :
    before.change? task action = none := by
  rw [change?_eq hown haction, hcall]
  rfl

theorem change?_eq_none_of_error {err : StorageError} (hown : action.task? = some task)
    (haction : action ≠ .takeOrder task) (hcall : before.storageCall? action = some call)
    (hfails : (before.storage.takeEffect call).1 = .error err) :
    before.change? task action = none := by
  rw [change?_eq hown haction, hcall, Option.filter_some,
    if_neg (by rw [hfails]; exact Bool.false_ne_true), Option.map_none]

theorem change?_eq_perform {returned : Message} (hown : action.task? = some task)
    (haction : action ≠ .takeOrder task) (hcall : before.storageCall? action = some call)
    (hok : (before.storage.takeEffect call).1 = .ok returned) :
    before.change? task action = some (.perform call) := by
  rw [change?_eq hown haction, hcall, Option.filter_some, if_pos (by rw [hok]; rfl),
    Option.map_some]

theorem changesExactly (relayer : Relayer) (task : TaskId) (before : System) (action : Action) :
    ChangesExactly relayer task before action := by
  intro after hstep hown
  by_cases haction : action = .takeOrder task
  · subst haction
    obtain ⟨request, phase, hmove, -⟩ := move_of_step hstep hown
    cases hmove with
    | ordered htask =>
      rw [change?_takeOrder htask]
      simp only [Relayer.step, htask] at hstep
      rw [← Option.some.inj hstep]
      rfl
  · rw [change?_eq hown haction]
    cases hcall : before.storageCall? action with
    | none =>
      rcases storage_cases_of_no_call hstep hcall with
        hsame | ⟨moved, request, message, hmoved, -, -⟩
      · exact hsame
      · rw [hmoved] at hown haction
        obtain rfl : moved = task := Option.some.inj hown
        exact absurd rfl haction
    | some call =>
      rw [(takeEffect_of_step hstep hcall).1]
      cases hok : (before.storage.takeEffect call).1.isOk with
      | true =>
        rw [Option.filter_some, if_pos hok]
        rfl
      | false =>
        rw [Option.filter_some, if_neg (by rw [hok]; exact Bool.false_ne_true),
          takeEffect_of_not_ok hok]
        rfl

/-- Assumes: no call is among the changes of the task. Its steps leave the messages as they are. -/
theorem leavesMessages_of_changes
    (hchanges : ∀ call, StorageChange.perform call ∉ relayer.changes task past) :
    EveryStep relayer.step (LeavesMessages relayer task) .init past := by
  rintro first action rest reached rfl hfirst after hstep hown
  rw [changesExactly relayer task reached action after hstep hown]
  cases hchange : reached.change? task action with
  | none => exact ⟨rfl, rfl⟩
  | some change =>
    cases change with
    | takeNumber groupId order => exact ⟨rfl, rfl⟩
    | perform call => exact absurd (mem_effects hfirst hchange) (hchanges call)

end Changes

/-! ### What the phase of a task says -/

section Calls

variable (libs : Externals) (request : Request) (changes : List StorageChange)

/-- The only change is the order number taken for the message that was built from the request. -/
def NumberTaken (message : Message) : Prop :=
  ∃ auth req id now built order, Routed libs request auth (.createMessage auth req) ∧
    createMessagePrepare libs auth req id now = .ok built ∧ message = built.setOrder order ∧
    changes = [.takeNumber req.groupId order]

/-- The changes are the creation of the message that was built from the request, under the order
number that was taken for it. -/
def Delivered (messageId : Uuid) : Prop :=
  ∃ auth req now built order, Routed libs request auth (.createMessage auth req) ∧
    createMessagePrepare libs auth req messageId now = .ok built ∧
    changes = [.takeNumber req.groupId order, .perform (.createMessage (built.setOrder order))]

/-- The only change is the update that the request asks for. -/
def Edited : Prop :=
  ∃ auth req content now, Routed libs request auth (.updateMessage auth req) ∧
    decodeContent libs auth req.groupId req.encryptedText req.nonce req.keyVersion
      req.messageSignature req.attachments = .ok content ∧
    changes = [.perform (.updateMessage req.messageId content now)]

/-- The only change is the deletion that the request asks for. -/
def Removed : Prop :=
  ∃ auth messageId now, Routed libs request auth (.deleteMessage auth messageId) ∧
    changes = [.perform (.deleteMessage messageId now)]

/-- What a request that failed with a status has changed: a create that was refused as a duplicate
has used up an order number of its group, and nothing else has changed anything. -/
def Refused (status : Nat) : Prop :=
  if request.method = .post ∧ status = 409 then
    ∃ auth req order, Routed libs request auth (.createMessage auth req) ∧
      changes = [.takeNumber req.groupId order]
  else changes = []

/-- What the phase of a task says about its changes. -/
def Settled : TaskPhase → Prop
  | .inserting message => NumberTaken libs request changes message
  | .notifying messageId => Delivered libs request changes messageId
  | .respondingCreate messageId => Delivered libs request changes messageId
  | .done (.created response) => Delivered libs request changes response.response.data.messageId
  | .respondingUpdate => Edited libs request changes
  | .done (.updated _) => Edited libs request changes
  | .done (.deleted _) => Removed libs request changes
  | .done (.unauthenticated response) => Refused libs request changes response.status
  | .done (.rejected rejection) => Refused libs request changes rejection.status
  | .done (.failed err) => Refused libs request changes err.status
  | _ => changes = []

variable {libs request changes}

theorem refused_of_ne {status : Nat} (hnone : changes = [])
    (hstatus : request.method = .post → status ≠ 409) : Refused libs request changes status := by
  unfold Refused
  rwa [if_neg fun hduplicate ↦ hstatus hduplicate.1 hduplicate.2]

/-- A refused request has made no call. -/
theorem Refused.no_call {status : Nat} (hrefused : Refused libs request changes status)
    (call : StorageCall) : StorageChange.perform call ∉ changes := by
  unfold Refused at hrefused
  split_ifs at hrefused
  · obtain ⟨auth, req, order, -, rfl⟩ := hrefused
    simp
  · rw [hrefused]
    exact List.not_mem_nil

end Calls

section Settled

variable {relayer : Relayer} {past : List Action} {before after : System} {action : Action}
  {task : TaskId} {request : Request} {phase : TaskPhase} {changes : List StorageChange}

theorem settled_admission (hnone : changes = []) (membership : InMemoryMembershipStore)
    (now : DateTime) :
    Settled relayer.libs request changes (relayer.admission membership now request) := by
  unfold Relayer.admission
  split
  · exact hnone
  · split
    · next response herror =>
      refine refused_of_ne hnone fun _ hstatus ↦ ?_
      have hrefuses := failsWith_authMiddleware relayer.libs _ membership _ request response herror
      simp [AuthErrorResponse.Refuses, hstatus] at hrefuses
    · split
      · next rejection herror =>
        refine refused_of_ne hnone fun _ hstatus ↦ ?_
        have hrejects := failsWith_dispatch relayer.libs request _ rejection herror
        simp [Rejection.Refuses, hstatus] at hrejects
      · exact hnone

theorem settled_preparation (hnone : changes = []) (auth : AuthContext)
    (req : CreateMessageRequest) (id : Uuid) (now : DateTime) :
    Settled relayer.libs request changes (relayer.preparation auth req id now) := by
  unfold Relayer.preparation
  split
  · next err herror =>
    refine refused_of_ne hnone fun _ hstatus ↦ ?_
    have hbad := failsWith_createMessagePrepare relayer.libs auth req id now err herror
    omega
  · exact hnone

theorem settled_updateCheck (hnone : changes = []) (auth : AuthContext)
    (req : UpdateMessageRequest) (storage : InMemoryStorage) :
    Settled relayer.libs request changes (relayer.updateCheck auth req storage) := by
  unfold Relayer.updateCheck
  split
  · next err herror =>
    refine refused_of_ne hnone fun _ hstatus ↦ ?_
    have hmissing := failsWith_getMessage storage req.messageId err herror
    omega
  · next existing hget =>
    split
    · next err herror =>
      refine refused_of_ne hnone fun _ hstatus ↦ ?_
      have hchecks := failsWith_updateMessageCheck relayer.libs auth req existing err herror
      simp [hstatus] at hchecks
    · exact hnone

theorem settled_deleteCheck (libs : Externals) (hnone : changes = []) (auth : AuthContext)
    (messageId : Uuid) (storage : InMemoryStorage) :
    Settled libs request changes (Relayer.deleteCheck auth messageId storage) := by
  unfold Relayer.deleteCheck
  split
  · next err herror =>
    refine refused_of_ne hnone fun _ hstatus ↦ ?_
    have hmissing := failsWith_getMessage storage messageId err herror
    omega
  · next existing hget =>
    split
    · next err herror =>
      refine refused_of_ne hnone fun _ hstatus ↦ ?_
      have hforbidden := failsWith_checkOwnership auth existing "delete" err herror
      omega
    · exact hnone

theorem settled_readReply (libs : Externals) (hnone : changes = []) (auth : AuthContext)
    (query : GetMessagesQuery) (storage : InMemoryStorage) (listing : List Message) :
    Settled libs request changes (.done (Relayer.readReply auth query storage listing)) := by
  unfold Relayer.readReply
  split
  · next err herror =>
    refine refused_of_ne hnone fun _ hstatus ↦ ?_
    have hfails := failsWith_getMessages auth query storage listing err herror
    simp [hstatus] at hfails
  · exact hnone

/-- A task that takes a number has made no other change. -/
theorem settled_takeOrder {message : Message} (hrun : relayer.run past = some before)
    (hnone : changes = []) (htask : before.tasks.lookup task = some ⟨request, .ordering message⟩) :
    Settled relayer.libs request (changes ++ (before.change? task (.takeOrder task)).toList)
      (.inserting (message.setOrder (before.storage.nextOrder message.groupId).1)) := by
  obtain ⟨auth, req, id, now, hadmitted, -, hprepare⟩ := backed_of_run hrun _ _ htask
  obtain ⟨content, -, hbuilt⟩ := createMessagePrepare_eq_ok hprepare
  have hgroup : message.groupId = req.groupId := by rw [hbuilt, Message.new]
  rw [change?_takeOrder htask, hnone, hgroup]
  exact ⟨auth, req, id, now, message, _, hadmitted.routed, hprepare, rfl, rfl⟩

/-- A create that is refused leaves its task with the number it has taken. -/
theorem settled_insert {message : Message}
    (htaken : NumberTaken relayer.libs request changes message)
    (htask : before.tasks.lookup task = some ⟨request, .inserting message⟩) :
    Settled relayer.libs request (changes ++ (before.change? task (.insert task)).toList)
      (Relayer.afterStorage (before.storage.insertMessage message).1 fun created ↦
        .notifying created.id) := by
  obtain ⟨auth, req, id, now, built, order, hrouted, hprepare, rfl, hchanges⟩ := htaken
  have hcall : before.storageCall? (.insert task) =
      some (.createMessage (built.setOrder order)) := by
    simp only [System.storageCall?, System.creating, htask]
    rfl
  rcases before.storage.insertMessage_cases (built.setOrder order) with ⟨err, hresult, -⟩ |
    ⟨-, -, hresult⟩
  · have hnone : before.change? task (.insert task) = none :=
      change?_eq_none_of_error rfl (by simp) hcall (congrArg Prod.fst hresult)
    have hstatus : (ApiError.fromStorageError err).status = 409 :=
      failsWith_insertMessage before.storage (built.setOrder order) err
        (congrArg Prod.fst hresult)
    have hpost : request.method = .post := by
      cases hrouted with
      | createMessage hmethod => exact hmethod
    rw [hresult, hnone, Option.toList_none, List.append_nil]
    show Refused relayer.libs request changes (ApiError.fromStorageError err).status
    unfold Refused
    rw [if_pos ⟨hpost, hstatus⟩]
    exact ⟨auth, req, order, hrouted, hchanges⟩
  · rw [change?_eq_perform rfl (by simp) hcall (congrArg Prod.fst hresult), hresult, hchanges]
    obtain ⟨content, -, hbuilt⟩ := createMessagePrepare_eq_ok hprepare
    have hid : (built.setOrder order).id = id := by
      rw [hbuilt]
      rfl
    exact ⟨auth, req, now, built, order, hrouted, hid ▸ hprepare, rfl⟩

/-- An update that fails leaves its task without a change. -/
theorem settled_update {id : Uuid} {content : MessageContent} {now : DateTime}
    (hrun : relayer.run past = some before) (hnothing : changes = [])
    (htask : before.tasks.lookup task = some ⟨request, .updating id content⟩) :
    Settled relayer.libs request (changes ++ (before.change? task (.write task now)).toList)
      (Relayer.afterStorage (before.storage.updateMessage id content now).1 fun _ ↦
        .respondingUpdate) := by
  have hcall : before.storageCall? (.write task now) = some (.updateMessage id content now) := by
    simp only [System.storageCall?, htask]
  obtain ⟨auth, req, hadmitted, rfl, hcontent, -⟩ := backed_of_run hrun _ _ htask
  rcases before.storage.updateMessage_cases req.messageId content now with ⟨err, hresult⟩ |
    ⟨stored, -, -, hresult⟩
  · have hnone : before.change? task (.write task now) = none :=
      change?_eq_none_of_error rfl (by simp) hcall (congrArg Prod.fst hresult)
    rw [hresult, hnone, Option.toList_none, List.append_nil]
    refine refused_of_ne hnothing fun hpost ↦ ?_
    have hrouted : Routed relayer.libs request auth (.updateMessage auth req) := hadmitted.routed
    cases hrouted with
    | updateMessage hput => simp [hput] at hpost
  · rw [change?_eq_perform rfl (by simp) hcall (congrArg Prod.fst hresult), hresult, hnothing]
    exact ⟨auth, req, content, now, hadmitted.routed, hcontent, rfl⟩

theorem settled_delete {id : Uuid} {now : DateTime} (hrun : relayer.run past = some before)
    (hnothing : changes = [])
    (htask : before.tasks.lookup task = some ⟨request, .deleting id⟩) :
    Settled relayer.libs request (changes ++ (before.change? task (.write task now)).toList)
      (Relayer.afterStorage (before.storage.deleteMessage id now).1 fun _ ↦
        .done (.deleted ⟨⟩)) := by
  have hcall : before.storageCall? (.write task now) = some (.deleteMessage id now) := by
    simp only [System.storageCall?, htask]
  obtain ⟨auth, hadmitted, -⟩ := backed_of_run hrun _ _ htask
  rcases before.storage.deleteMessage_cases id now with ⟨-, hresult⟩ | ⟨stored, -, hresult⟩
  · have hnone : before.change? task (.write task now) = none :=
      change?_eq_none_of_error rfl (by simp) hcall (congrArg Prod.fst hresult)
    rw [hresult, hnone, Option.toList_none, List.append_nil]
    refine refused_of_ne hnothing fun hpost ↦ ?_
    have hrouted : Routed relayer.libs request auth (.deleteMessage auth id) := hadmitted.routed
    cases hrouted with
    | deleteMessage hdelete => simp [hdelete] at hpost
  · rw [change?_eq_perform rfl (by simp) hcall (congrArg Prod.fst hresult), hresult, hnothing]
    exact ⟨auth, id, now, hadmitted.routed, rfl⟩

/-- Assumes: the task is settled. It is settled in its new phase. -/
theorem settled_of_move (hrun : relayer.run past = some before)
    (hfresh : before.tasks.lookup task = none → changes = [])
    (hbefore : ∀ served, before.tasks.lookup task = some served →
      Settled relayer.libs served.request changes served.phase)
    (hmove : TaskMove relayer before action task request phase) :
    Settled relayer.libs request (changes ++ (before.change? task action).toList) phase := by
  have hquiet (hown : action ≠ .takeOrder task) (hcall : before.storageCall? action = none) :
      changes ++ (before.change? task action).toList = changes := by
    rw [change?_eq_none_of_no_call hmove.task_eq hown hcall, Option.toList_none, List.append_nil]
  cases hmove with
  | ordered htask => exact settled_takeOrder hrun (hbefore _ htask) htask
  | inserted htask => exact settled_insert (hbefore _ htask) htask
  | updated htask => exact settled_update hrun (hbefore _ htask) htask
  | deleted htask => exact settled_delete hrun (hbefore _ htask) htask
  | admitted hnone =>
    rw [hquiet (by simp) rfl]
    exact settled_admission (hfresh hnone) _ _
  | prepared htask =>
    rw [hquiet (by simp) rfl]
    exact settled_preparation (hbefore _ htask) _ _ _ _
  | checkedUpdate htask =>
    rw [hquiet (by simp) rfl]
    exact settled_updateCheck (hbefore _ htask) _ _ _
  | checkedDelete htask =>
    rw [hquiet (by simp) rfl]
    exact settled_deleteCheck _ (hbefore _ htask) _ _ _
  | answered htask hlisting =>
    rw [hquiet (by simp) rfl]
    exact settled_readReply _ (hbefore _ htask) _ _ _ _
  | notified htask =>
    rw [hquiet (by simp) rfl]
    exact hbefore _ htask
  | respondedCreate htask =>
    rw [hquiet (by simp) rfl]
    exact hbefore _ htask
  | respondedUpdate htask =>
    rw [hquiet (by simp) rfl]
    exact hbefore _ htask

/-- In every state the phase of a task tells by which changes it has changed the storage. -/
theorem settled_of_run (hrun : relayer.run past = some before) (task : TaskId) :
    (before.tasks.lookup task = none → relayer.changes task past = []) ∧
    ∀ served, before.tasks.lookup task = some served →
      Settled relayer.libs served.request (relayer.changes task past) served.phase := by
  refine history_induction (fun past reached ↦
    (reached.tasks.lookup task = none → relayer.changes task past = []) ∧
    ∀ served, reached.tasks.lookup task = some served →
      Settled relayer.libs served.request (relayer.changes task past) served.phase) ?_ ?_ hrun
  · exact ⟨fun _ ↦ rfl, fun served hlookup ↦ by simp [System.init] at hlookup⟩
  · rintro past before action after hpast ⟨hfresh, hsettled⟩ hstep
    rw [changes_concat hpast]
    by_cases hown : action.task? = some task
    · obtain ⟨request, phase, hmove, hlookup⟩ := move_of_step hstep hown
      refine ⟨fun hnone ↦ by simp [hlookup] at hnone, fun served hserved ↦ ?_⟩
      obtain rfl := Option.some.inj (hlookup.symm.trans hserved)
      exact settled_of_move hpast hfresh hsettled hmove
    · have hnone : before.change? task action = none := if_neg hown
      rw [lookup_of_step_of_ne hstep hown, hnone, Option.toList_none, List.append_nil]
      exact ⟨hfresh, hsettled⟩

end Settled

/-! ### The status of an answer -/

/-- The status code of an answer. -/
def Reply.status : Reply → Nat
  | .preflight response => response.status
  | .unauthenticated response => response.status
  | .rejected rejection => rejection.status
  | .failed err => err.status
  | .created _ => 201
  | .messages _ => 200
  | .updated _ => 200
  | .deleted _ => 200

/-- The request is one that the phase can belong to, and an answer has a status of the table. -/
def InTable (request : Request) : TaskPhase → Prop
  | .calling (.createMessage _ _) => request.method = .post ∧ request.route = .messages
  | .calling (.getMessages _ _) => request.method = .get ∧ request.route = .messages
  | .calling (.updateMessage _ _) => request.method = .put ∧ request.route = .messages
  | .calling (.deleteMessage _ _) =>
      request.method = .delete ∧ ∃ segment, request.route = .message segment
  | .ordering _ => request.method = .post ∧ request.route = .messages
  | .inserting _ => request.method = .post ∧ request.route = .messages
  | .notifying _ => request.method = .post ∧ request.route = .messages
  | .respondingCreate _ => request.method = .post ∧ request.route = .messages
  | .updating _ _ => request.method = .put ∧ request.route = .messages
  | .respondingUpdate => request.method = .put ∧ request.route = .messages
  | .deleting _ => request.method = .delete ∧ ∃ segment, request.route = .message segment
  | .done (.preflight response) => request.method = .options ∧ response.status = 200
  | .done (.created _) => request.method = .post ∧ request.route = .messages
  | .done (.messages _) => request.method = .get ∧ request.route = .messages
  | .done (.updated _) => request.method = .put ∧ request.route = .messages
  | .done (.deleted _) => request.method = .delete ∧ ∃ segment, request.route = .message segment
  | .done reply => reply.status ∈ request.method.failures request.route

section Statuses

variable {relayer : Relayer} {past : List Action} {before : System} {action : Action}
  {task : TaskId} {request : Request} {phase : TaskPhase}

/-- A refusal of the middleware is in the table of every method that needs a permission. -/
theorem AuthErrorResponse.Refuses.mem_failures {response : AuthErrorResponse}
    {permission : MessagingPermission} (hrefuses : response.Refuses)
    (hpermission : requiredPermission request.method = some permission) :
    response.status ∈ request.method.failures request.route := by
  have hstatus : response.status = 400 ∨ response.status = 401 ∨ response.status = 403 := by
    simpa [AuthErrorResponse.Refuses] using hrefuses
  cases hmethod : request.method <;> cases request.route <;>
    simp [hmethod, requiredPermission] at hpermission <;>
      rcases hstatus with hstatus | hstatus | hstatus <;> simp [hstatus, Method.failures]

theorem inTable_calling {libs : Externals} {auth : AuthContext} {permission : MessagingPermission}
    {call : HandlerCall} (hpermission : requiredPermission request.method = some permission)
    (hdispatch : dispatch libs request (some auth) = .ok call) :
    InTable request (.calling call) := by
  obtain ⟨found, -, hrouted⟩ := routed_of_dispatch hdispatch
  cases hrouted with
  | createMessage hmethod hroute => exact ⟨hmethod, hroute⟩
  | updateMessage hmethod hroute => exact ⟨hmethod, hroute⟩
  | deleteMessage hmethod hroute => exact ⟨hmethod, _, hroute⟩
  | getMessages hmethod hroute =>
    rcases hmethod with hget | hhead
    · exact ⟨hget, hroute⟩
    · simp [hhead, requiredPermission] at hpermission

theorem inTable_preflight {response : PreflightResponse}
    (hcors : corsLayer request = some response) :
    InTable request (.done (.preflight response)) := by
  unfold corsLayer at hcors
  split_ifs at hcors with hoptions
  obtain rfl := Option.some.inj hcors
  exact ⟨hoptions, rfl⟩

theorem inTable_admission (relayer : Relayer) (membership : InMemoryMembershipStore)
    (now : DateTime) (request : Request) :
    InTable request (relayer.admission membership now request) := by
  unfold Relayer.admission
  split
  · next response hcors => exact inTable_preflight hcors
  · next hcors =>
    cases hneeds : requiredPermission request.method with
    | none =>
      obtain ⟨rejection, hdispatch, hstatus⟩ :=
        failsWith_dispatch_none relayer.libs request hneeds hcors
      rw [authMiddleware_eq_ok_none_iff.mpr hneeds]
      simp only [hdispatch]
      exact hstatus
    | some permission =>
      split
      · next response herror =>
        exact (failsWith_authMiddleware relayer.libs _ membership _ request response
          herror).mem_failures hneeds
      · next context haccept =>
        have hcontext : context ≠ none := by
          rintro rfl
          exact Option.some_ne_none permission
            (hneeds.symm.trans (authMiddleware_eq_ok_none_iff.mp haccept))
        obtain ⟨auth, rfl⟩ := Option.ne_none_iff_exists'.mp hcontext
        split
        · next rejection herror =>
          exact failsWith_dispatch_some relayer.libs request auth hneeds rejection herror
        · next call hdispatch => exact inTable_calling hneeds hdispatch

/-- A failed storage call is answered with a status of the table. -/
theorem inTable_afterStorage {result : Except StorageError Message} {success : Message → TaskPhase}
    (hfails : FailsWith (fun err ↦
      (ApiError.fromStorageError err).status ∈ request.method.failures request.route) result)
    (hsuccess : ∀ message, InTable request (success message)) :
    InTable request (Relayer.afterStorage result success) := by
  cases result with
  | error err => exact hfails err rfl
  | ok message => exact hsuccess message

/-- Assumes: the task is in the table. It stays in it. -/
theorem inTable_of_move (hbefore : ∀ served, before.tasks.lookup task = some served →
      InTable served.request served.phase)
    (hmove : TaskMove relayer before action task request phase) : InTable request phase := by
  cases hmove with
  | admitted hfresh => exact inTable_admission relayer before.membership _ request
  | prepared htask =>
    obtain ⟨hmethod, hroute⟩ : request.method = .post ∧ request.route = .messages :=
      hbefore _ htask
    unfold Relayer.preparation
    split
    · next err herror =>
      have hstatus := failsWith_createMessagePrepare relayer.libs _ _ _ _ err herror
      show err.status ∈ _
      simp [hstatus, hmethod, hroute, Method.failures]
    · exact ⟨hmethod, hroute⟩
  | ordered htask => exact hbefore _ htask
  | inserted htask =>
    obtain ⟨hmethod, hroute⟩ : request.method = .post ∧ request.route = .messages :=
      hbefore _ htask
    refine inTable_afterStorage ((failsWith_insertMessage _ _).mono fun err hstatus ↦ ?_)
      fun message ↦ ⟨hmethod, hroute⟩
    simp [hstatus, hmethod, hroute, Method.failures]
  | notified htask => exact hbefore _ htask
  | respondedCreate htask => exact hbefore _ htask
  | respondedUpdate htask => exact hbefore _ htask
  | checkedUpdate htask =>
    obtain ⟨hmethod, hroute⟩ : request.method = .put ∧ request.route = .messages :=
      hbefore _ htask
    unfold Relayer.updateCheck
    split
    · next err herror =>
      have hstatus := failsWith_getMessage _ _ err herror
      show (ApiError.fromStorageError err).status ∈ _
      simp [hstatus, hmethod, hroute, Method.failures]
    · split
      · next err herror =>
        have hstatus := failsWith_updateMessageCheck relayer.libs _ _ _ err herror
        show err.status ∈ _
        simp only [hmethod, hroute, Method.failures, List.mem_cons] at hstatus ⊢
        tauto
      · exact ⟨hmethod, hroute⟩
  | checkedDelete htask =>
    obtain ⟨hmethod, segment, hroute⟩ : request.method = .delete ∧
        ∃ segment, request.route = .message segment := hbefore _ htask
    unfold Relayer.deleteCheck
    split
    · next err herror =>
      have hstatus := failsWith_getMessage _ _ err herror
      show (ApiError.fromStorageError err).status ∈ _
      simp [hstatus, hmethod, hroute, Method.failures]
    · split
      · next err herror =>
        have hstatus := failsWith_checkOwnership _ _ "delete" err herror
        show err.status ∈ _
        simp [hstatus, hmethod, hroute, Method.failures]
      · exact ⟨hmethod, segment, hroute⟩
  | updated htask =>
    obtain ⟨hmethod, hroute⟩ : request.method = .put ∧ request.route = .messages :=
      hbefore _ htask
    refine inTable_afterStorage ((failsWith_updateMessage _ _ _ _).mono fun err hstatus ↦ ?_)
      fun message ↦ ⟨hmethod, hroute⟩
    simp only [hmethod, hroute, Method.failures, List.mem_cons] at hstatus ⊢
    tauto
  | deleted htask =>
    obtain ⟨hmethod, segment, hroute⟩ : request.method = .delete ∧
        ∃ segment, request.route = .message segment := hbefore _ htask
    refine inTable_afterStorage ((failsWith_deleteMessage _ _ _).mono fun err hstatus ↦ ?_)
      fun message ↦ ⟨hmethod, segment, hroute⟩
    simp [hstatus, hmethod, hroute, Method.failures]
  | answered htask hlisting =>
    obtain ⟨hmethod, hroute⟩ : request.method = .get ∧ request.route = .messages :=
      hbefore _ htask
    unfold Relayer.readReply
    split
    · next err herror =>
      have hstatus := failsWith_getMessages _ _ _ _ err herror
      show err.status ∈ _
      simp only [hmethod, hroute, Method.failures, List.mem_cons] at hstatus ⊢
      tauto
    · exact ⟨hmethod, hroute⟩

theorem inTable_of_run (hrun : relayer.run past = some before) (served : Task)
    (htask : before.tasks.lookup task = some served) : InTable served.request served.phase := by
  refine invariant_of_run (fun reached ↦ ∀ served, reached.tasks.lookup task = some served →
    InTable served.request served.phase) ?_ ?_ hrun served htask
  · intro served hserved
    simp [System.init] at hserved
  · intro before action after hbefore hstep served hserved
    by_cases hown : action.task? = some task
    · obtain ⟨request, phase, hmove, hlookup⟩ := move_of_step hstep hown
      obtain rfl := Option.some.inj (hlookup.symm.trans hserved)
      exact inTable_of_move hbefore hmove
    · rw [lookup_of_step_of_ne hstep hown] at hserved
      exact hbefore served hserved

/-- An answer is a success of its request's method, or has a status of the table. -/
theorem success_or_failure {reply : Reply} (htable : InTable request (.done reply)) :
    some reply.status = request.method.success request.route ∨
      reply.status ∈ request.method.failures request.route := by
  cases reply with
  | preflight response =>
    obtain ⟨hmethod, hstatus⟩ : request.method = .options ∧ response.status = 200 := htable
    refine Or.inl ?_
    rw [hmethod]
    exact congrArg some hstatus
  | created response =>
    obtain ⟨hmethod, hroute⟩ : request.method = .post ∧ request.route = .messages := htable
    exact Or.inl (by rw [hmethod, hroute]; rfl)
  | messages response =>
    obtain ⟨hmethod, hroute⟩ : request.method = .get ∧ request.route = .messages := htable
    exact Or.inl (by rw [hmethod, hroute]; rfl)
  | updated response =>
    obtain ⟨hmethod, hroute⟩ : request.method = .put ∧ request.route = .messages := htable
    exact Or.inl (by rw [hmethod, hroute]; rfl)
  | deleted response =>
    obtain ⟨hmethod, segment, hroute⟩ : request.method = .delete ∧
      ∃ segment, request.route = .message segment := htable
    exact Or.inl (by rw [hmethod, hroute]; rfl)
  | unauthenticated response => exact Or.inr htable
  | rejected rejection => exact Or.inr htable
  | failed err => exact Or.inr htable

/-- In every run an answer has the success status of its request's method and route, or one of the
failures the table lists for them; and the status is 500 exactly when the request was
`HEAD /messages`. -/
theorem status_in_table {reply : Reply} (hrun : relayer.run past = some before)
    (htask : before.tasks.lookup task = some ⟨request, .done reply⟩) :
    (some reply.status = request.method.success request.route ∨
      reply.status ∈ request.method.failures request.route) ∧
    (reply.status = 500 ↔ request.method = .head ∧ request.route = .messages) := by
  have htable := success_or_failure (inTable_of_run hrun _ htask)
  refine ⟨htable, fun hstatus ↦ ?_, fun ⟨hmethod, hroute⟩ ↦ ?_⟩
  · rw [hstatus] at htable
    cases hmethod : request.method <;> cases hroute : request.route <;>
      simp [hmethod, hroute, Method.success, Method.failures] at htable ⊢
  · simpa [hmethod, hroute, Method.success, Method.failures] using htable

/-- Somebody asks for the headers of the messages. -/
def headRequest : Request where
  method := .head
  route := .messages
  query := ""
  headers := []
  body := some []

theorem status_in_table_headRequest :
    ∃ finish reply, sampleRelayer.run [.arrive 0 headRequest (sampleClock 0)] = some finish ∧
      finish.tasks.lookup 0 = some ⟨headRequest, .done reply⟩ ∧ reply.status = 500 := by
  have hrun : sampleRelayer.run [.arrive 0 headRequest (sampleClock 0)] =
      some (System.init.setTask 0 headRequest
        (.done (.rejected ⟨500, "Missing request extension"⟩))) := rfl
  obtain ⟨-, hserver⟩ := status_in_table hrun (System.lookup_setTask _ _ _ _)
  exact ⟨_, _, hrun, System.lookup_setTask _ _ _ _, hserver.mpr ⟨rfl, rfl⟩⟩

/-- What an answer with a success status says: which changes were made for the request, and that a
read and a preflight request changed nothing. -/
def Effective (libs : Externals) (request : Request) (changes : List StorageChange) : Reply → Prop
  | .created response => Delivered libs request changes response.response.data.messageId
  | .updated _ => Edited libs request changes
  | .deleted _ => Removed libs request changes
  | .messages _ => request.method = .get ∧ changes = []
  | .preflight _ => request.method = .options ∧ changes = []
  | _ => False

/-- In every run the steps of a task change the storage by the changes of the task, and by nothing
else. A request that was answered with a failure has left the messages and the nonces as they were,
and has changed nothing at all, except that a create that was answered 409 has used up one order
number of its group. A request that was answered with a success has made exactly the changes it asks
for. -/
theorem answers_truthful {reply : Reply} (hrun : relayer.run past = some before)
    (htask : before.tasks.lookup task = some ⟨request, .done reply⟩) :
    EveryStep relayer.step (ChangesExactly relayer task) .init past ∧
    (400 ≤ reply.status →
      EveryStep relayer.step (LeavesMessages relayer task) .init past ∧
      Refused relayer.libs request (relayer.changes task past) reply.status) ∧
    (reply.status < 400 →
      Effective relayer.libs request (relayer.changes task past) reply) := by
  have hsettled := (settled_of_run hrun task).2 _ htask
  have htable := inTable_of_run hrun _ htask
  have hexact : EveryStep relayer.step (ChangesExactly relayer task) .init past :=
    fun _ _ _ reached _ _ ↦ changesExactly relayer task reached _
  have hfailed (hrefused : Refused relayer.libs request (relayer.changes task past) reply.status)
      (hstatus : reply.status ∈ request.method.failures request.route) :
      (400 ≤ reply.status →
        EveryStep relayer.step (LeavesMessages relayer task) .init past ∧
        Refused relayer.libs request (relayer.changes task past) reply.status) ∧
      (reply.status < 400 →
        Effective relayer.libs request (relayer.changes task past) reply) :=
    ⟨fun _ ↦ ⟨leavesMessages_of_changes hrefused.no_call, hrefused⟩,
      fun hlow ↦ absurd (Method.le_of_mem_failures hstatus) (by omega)⟩
  refine ⟨hexact, ?_⟩
  cases reply with
  | preflight response =>
    obtain ⟨hmethod, hstatus⟩ : request.method = .options ∧ response.status = 200 := htable
    exact ⟨by simp [Reply.status, hstatus], fun _ ↦ ⟨hmethod, hsettled⟩⟩
  | created response => exact ⟨by simp [Reply.status], fun _ ↦ hsettled⟩
  | updated response => exact ⟨by simp [Reply.status], fun _ ↦ hsettled⟩
  | deleted response => exact ⟨by simp [Reply.status], fun _ ↦ hsettled⟩
  | messages response => exact ⟨by simp [Reply.status], fun _ ↦ ⟨htable.1, hsettled⟩⟩
  | unauthenticated response => exact hfailed hsettled htable
  | rejected rejection => exact hfailed hsettled htable
  | failed err => exact hfailed hsettled htable

/-- The client's post was answered with success, and its message was created under the number it
took. -/
theorem answers_truthful_samplePosting :
    Delivered sampleLibs postRequest (sampleRelayer.changes 0 samplePosting) sampleMessageId := by
  have htask : samplePosted.tasks.lookup 0 = some ⟨postRequest,
      .done (sampleRelayer.createReply sampleMessageId (sampleClock 2))⟩ :=
    System.lookup_setTask _ _ _ _
  exact (answers_truthful run_samplePosting htask).2.2 (by decide)

end Statuses

end MessagingRelayer
