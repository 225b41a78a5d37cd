import MessagingRelayer.Handlers.Clients
import MessagingRelayer.System.ReadYourWrites

/-!
# Clients that follow the protocol

No request of a client that follows the protocol is turned away, whatever the other clients and the
worker do in the meantime. A client that holds the permission when its request arrives is let
through every check, its request can always be finished by its own steps (`exists_finishing`), and
the answer is the success it asked for, unless another message has the nonce of the content at the
moment of the write, or the identifier that was drawn (`honest_clients_served`).
-/

set_option autoImplicit false
set_option relaxedAutoImplicit false

namespace MessagingRelayer

open Foundation

/-! ### Requests are finished -/

/-- The steps a task in this phase has at most before it. -/
def TaskPhase.remaining : TaskPhase → Nat
  | .calling _ => 5
  | .ordering _ => 4
  | .inserting _ => 3
  | .notifying _ => 2
  | .respondingCreate _ => 1
  | .updating _ _ => 2
  | .respondingUpdate => 1
  | .deleting _ => 1
  | .done _ => 0

section Finishing

variable {relayer : Relayer} {system : System} {task : TaskId} {request : Request}
  {phase : TaskPhase}

theorem remaining_preparation_le (auth : AuthContext) (req : CreateMessageRequest) (id : Uuid)
    (now : DateTime) : (relayer.preparation auth req id now).remaining ≤ 4 := by
  unfold Relayer.preparation
  cases createMessagePrepare relayer.libs auth req id now with
  | error err => exact Nat.zero_le 4
  | ok message => exact le_rfl

theorem remaining_updateCheck_le (auth : AuthContext) (req : UpdateMessageRequest)
    (storage : InMemoryStorage) : (relayer.updateCheck auth req storage).remaining ≤ 2 := by
  unfold Relayer.updateCheck
  cases storage.getMessage req.messageId with
  | error err => exact Nat.zero_le 2
  | ok existing =>
    cases hcheck : updateMessageCheck relayer.libs auth req existing with
    | error err =>
      simp only [hcheck]
      exact Nat.zero_le 2
    | ok content =>
      simp only [hcheck]
      exact le_rfl

theorem remaining_deleteCheck_le (auth : AuthContext) (messageId : Uuid)
    (storage : InMemoryStorage) :
    (Relayer.deleteCheck auth messageId storage).remaining ≤ 1 := by
  unfold Relayer.deleteCheck
  cases storage.getMessage messageId with
  | error err => exact Nat.zero_le 1
  | ok existing =>
    cases hcheck : deleteMessageCheck auth existing with
    | error err =>
      simp only [hcheck]
      exact Nat.zero_le 1
    | ok checked =>
      simp only [hcheck]
      exact le_rfl

theorem remaining_afterStorage_le {result : Except StorageError Message}
    {onSuccess : Message → TaskPhase} {bound : Nat}
    (hsuccess : ∀ message, (onSuccess message).remaining ≤ bound) :
    (Relayer.afterStorage result onSuccess).remaining ≤ bound := by
  cases result with
  | error err => exact Nat.zero_le bound
  | ok message => exact hsuccess message

/-- A task that has not answered yet can take a step of its own, whatever the others have done. -/
theorem exists_own_step (htask : system.tasks.lookup task = some ⟨request, phase⟩)
    (hopen : 0 < phase.remaining) : ∃ action after later, action.task? = some task ∧
      relayer.step system action = some after ∧
      after.tasks.lookup task = some ⟨request, later⟩ ∧ later.remaining < phase.remaining := by
  have hmoves {action : Action} {after : System} {later : TaskPhase}
      (hown : action.task? = some task)
      (hstep : relayer.step system action = some (after.setTask task request later))
      (hless : later.remaining < phase.remaining) : ∃ action after later,
        action.task? = some task ∧ relayer.step system action = some after ∧
        after.tasks.lookup task = some ⟨request, later⟩ ∧ later.remaining < phase.remaining :=
    ⟨action, _, later, hown, hstep, System.lookup_setTask _ _ _ _, hless⟩
  cases phase with
  | calling call =>
    cases call with
    | createMessage auth req =>
      have hstep : relayer.step system (.prepare task (.fill 16 0) 0) =
          some (system.setTask task request (relayer.preparation auth req (.fill 16 0) 0)) := by
        simp only [Relayer.step, htask]
      exact hmoves rfl hstep (Nat.lt_succ_of_le (remaining_preparation_le auth req _ 0))
    | getMessages auth query =>
      obtain ⟨listing, hlisting⟩ := HashMap.exists_iterationOrder system.storage.messages
      have hstep : relayer.step system (.read task listing) = some (system.setTask task request
          (.done (Relayer.readReply auth query system.storage listing))) := by
        simp only [Relayer.step, htask, if_pos hlisting]
      exact hmoves rfl hstep hopen
    | updateMessage auth req =>
      have hstep : relayer.step system (.fetch task) =
          some (system.setTask task request (relayer.updateCheck auth req system.storage)) := by
        simp only [Relayer.step, htask]
      exact hmoves rfl hstep ((remaining_updateCheck_le auth req system.storage).trans_lt
        (show 2 < 5 by decide))
    | deleteMessage auth messageId =>
      have hstep : relayer.step system (.fetch task) = some (system.setTask task request
          (Relayer.deleteCheck auth messageId system.storage)) := by
        simp only [Relayer.step, htask]
      exact hmoves rfl hstep ((remaining_deleteCheck_le auth messageId system.storage).trans_lt
        (show 1 < 5 by decide))
  | ordering message =>
    have hstep : relayer.step system (.takeOrder task) =
        some ({ system with
          storage := (system.storage.nextOrder message.groupId).2 }.setTask task request
            (.inserting (message.setOrder (system.storage.nextOrder message.groupId).1))) := by
      simp only [Relayer.step, htask]
    exact hmoves rfl hstep (show 3 < 4 by decide)
  | inserting message =>
    exact hmoves rfl (step_insert htask)
      (Nat.lt_succ_of_le (remaining_afterStorage_le fun created ↦ le_rfl))
  | notifying messageId =>
    have hstep : relayer.step system (.notify task) =
        some ({ system with notifications := system.notifications + 1 }.setTask task request
          (.respondingCreate messageId)) := by
      simp only [Relayer.step, htask]
    exact hmoves rfl hstep (show 1 < 2 by decide)
  | respondingCreate messageId =>
    have hstep : relayer.step system (.respond task 0) =
        some (system.setTask task request (.done (relayer.createReply messageId 0))) := by
      simp only [Relayer.step, htask]
    exact hmoves rfl hstep hopen
  | updating messageId content =>
    exact hmoves rfl (step_update 0 htask)
      (Nat.lt_succ_of_le (remaining_afterStorage_le fun updated ↦ le_rfl))
  | respondingUpdate =>
    have hstep : relayer.step system (.respond task 0) =
        some (system.setTask task request (.done (relayer.updateReply 0))) := by
      simp only [Relayer.step, htask]
    exact hmoves rfl hstep hopen
  | deleting messageId =>
    exact hmoves rfl (step_delete 0 htask)
      (Nat.lt_succ_of_le (remaining_afterStorage_le fun deleted ↦ le_rfl))
  | done reply => exact absurd hopen (Nat.lt_irrefl 0)

/-- A task that is being served can be brought to its answer by its own steps alone. -/
theorem exists_finishing (htask : system.tasks.lookup task = some ⟨request, phase⟩) :
    ∃ finishing finish reply, finishing.length ≤ phase.remaining ∧
      (∀ action ∈ finishing, Action.task? action = some task) ∧
      runFrom relayer.step system finishing = some finish ∧
      finish.tasks.lookup task = some ⟨request, .done reply⟩ := by
  induction hcount : phase.remaining using Nat.strong_induction_on generalizing system phase with
  | _ count ih =>
    by_cases hopen : 0 < phase.remaining
    · obtain ⟨action, after, later, hown, hstep, hlater, hless⟩ := exists_own_step htask hopen
      rw [hcount] at hless
      obtain ⟨finishing, finish, reply, hlength, hall, hrun, hdone⟩ := ih _ hless hlater rfl
      refine ⟨action :: finishing, finish, reply, ?_, ?_, ?_, hdone⟩
      · rw [List.length_cons]
        omega
      · intro other hother
        rcases List.mem_cons.mp hother with rfl | hrest
        · exact hown
        · exact hall other hrest
      · exact Option.bind_eq_some_iff.mpr ⟨after, hstep, hrun⟩
    · cases phase with
      | done reply =>
        refine ⟨[], system, reply, Nat.zero_le _, ?_, rfl, htask⟩
        intro action hmem
        exact absurd hmem (List.not_mem_nil)
      | _ => exact absurd (Nat.succ_pos _) hopen

end Finishing

/-! ### What a client is answered -/

/-- The step inserts the message of the task, and its identifier or its nonce is taken. -/
def InsertClashes (task : TaskId) (request : Request) (before : System) (action : Action) : Prop :=
  ∃ message id other, action = .insert task ∧
    before.tasks.lookup task = some ⟨request, .inserting message⟩ ∧
    before.storage.messages.lookup id = some other ∧
    (id = message.id ∨ other.nonce = message.nonce)

/-- The step writes the content to the message, and another message has its nonce. -/
def EditClashes (task : TaskId) (messageId : Uuid) (content : MessageContent) (before : System)
    (action : Action) : Prop :=
  ∃ now id other, action = .write task now ∧ id ≠ messageId ∧
    before.storage.messages.lookup id = some other ∧ other.nonce = content.nonce

/-- The step marks the message for deletion. -/
def Removes (task : TaskId) (messageId : Uuid) (before : System) (action : Action) : Prop :=
  ∃ now deleted, action = .write task now ∧
    (before.storage.deleteMessage messageId now).1 = .ok deleted

/-- The step reads the answer to the query from the storage. -/
def Reads (task : TaskId) (auth : AuthContext) (query : GetMessagesQuery)
    (response : GetMessagesResponse) (before : System) (action : Action) : Prop :=
  ∃ listing, action = .read task listing ∧ before.storage.messages.IterationOrder listing ∧
    getMessages auth query before.storage listing = .ok response

namespace ClientCall

/-- What the client edits, removes or reads is there: its own message, a message of the group, or
the group itself. -/
def Possible (auth : AuthContext) (storage : InMemoryStorage) : ClientCall → Prop
  | post _ _ => True
  | edit req _ => OwnedBy storage req.messageId auth
  | remove messageId => OwnedBy storage messageId auth
  | read query =>
    match query.messageId with
    | some messageId => ∃ stored, storage.messages.lookup messageId = some stored ∧
        auth.authorizedGroup = some stored.groupId
    | none => query.groupId.isSome ∧ auth.authorizedGroup = query.groupId

/-- The content is decoded as the client means it. -/
def Decodes (libs : Externals) (auth : AuthContext) : ClientCall → Prop
  | post req content => decodeContent libs auth req.groupId req.encryptedText req.nonce
      req.keyVersion req.messageSignature req.attachments = .ok content
  | edit req content => decodeContent libs auth req.groupId req.encryptedText req.nonce
      req.keyVersion req.messageSignature req.attachments = .ok content
  | remove _ => True
  | read _ => True

variable (relayer : Relayer) (arrived : System) (past : List Action) (task : TaskId)
  (request : Request) (auth : AuthContext)

/-- The answer is the success that the call asks for, which was achieved since the request arrived;
or it is 409, and there was a clash. -/
inductive Granted : ClientCall → Reply → Prop
  | created {req : CreateMessageRequest} {content : MessageContent}
      {response : ProcessedDataResponse (IntentMessage CreateMessageResponse)}
      (hwritten : Happened relayer.step arrived past
        (WritesTo response.response.data.messageId (request, content))) :
      Granted (.post req content) (.created response)
  | insertClashed {req : CreateMessageRequest} {content : MessageContent} {err : ApiError}
      (hstatus : err.status = 409)
      (hclashed : Happened relayer.step arrived past (InsertClashes task request)) :
      Granted (.post req content) (.failed err)
  | updated {req : UpdateMessageRequest} {content : MessageContent}
      {response : ProcessedDataResponse (IntentMessage EmptyResponse)}
      (hwritten : Happened relayer.step arrived past
        (WritesTo req.messageId (request, content))) :
      Granted (.edit req content) (.updated response)
  | editClashed {req : UpdateMessageRequest} {content : MessageContent} {err : ApiError}
      (hstatus : err.status = 409)
      (hclashed : Happened relayer.step arrived past (EditClashes task req.messageId content)) :
      Granted (.edit req content) (.failed err)
  | deleted {messageId : Uuid} {response : EmptyResponse}
      (hremoved : Happened relayer.step arrived past (Removes task messageId)) :
      Granted (.remove messageId) (.deleted response)
  | messages {query : GetMessagesQuery} {response : GetMessagesResponse}
      (hread : Happened relayer.step arrived past (Reads task auth query response)) :
      Granted (.read query) (.messages response)

/-- The task is on its way to such an answer. -/
inductive Serves : ClientCall → TaskPhase → Prop
  | calling {call : ClientCall} {handler : HandlerCall} (hcall : handler = call.handlerCall auth) :
      Serves call (.calling handler)
  | ordering {req : CreateMessageRequest} {content : MessageContent} {message : Message}
      (hcontent : message.content = content) : Serves (.post req content) (.ordering message)
  | inserting {req : CreateMessageRequest} {content : MessageContent} {message : Message}
      (hcontent : message.content = content) : Serves (.post req content) (.inserting message)
  | notifying {req : CreateMessageRequest} {content : MessageContent} {messageId : Uuid}
      (hwritten : Happened relayer.step arrived past (WritesTo messageId (request, content))) :
      Serves (.post req content) (.notifying messageId)
  | respondingCreate {req : CreateMessageRequest} {content : MessageContent} {messageId : Uuid}
      (hwritten : Happened relayer.step arrived past (WritesTo messageId (request, content))) :
      Serves (.post req content) (.respondingCreate messageId)
  | updating {req : UpdateMessageRequest} {content : MessageContent} :
      Serves (.edit req content) (.updating req.messageId content)
  | respondingUpdate {req : UpdateMessageRequest} {content : MessageContent}
      (hwritten : Happened relayer.step arrived past
        (WritesTo req.messageId (request, content))) :
      Serves (.edit req content) .respondingUpdate
  | deleting {messageId : Uuid} : Serves (.remove messageId) (.deleting messageId)
  | done {call : ClientCall} {reply : Reply}
      (hgranted : call.Granted relayer arrived past task request auth reply) :
      Serves call (.done reply)

end ClientCall

section Served

variable {relayer : Relayer} {arrived before after : System} {past : List Action} {action : Action}
  {task : TaskId} {request : Request} {auth : AuthContext} {call : ClientCall} {phase : TaskPhase}
  {storage later : InMemoryStorage}

/-- What is there stays there. -/
theorem ClientCall.Possible.mono (hpossible : call.Possible auth storage)
    (hkept : IdentityKept storage later) : call.Possible auth later := by
  cases call with
  | post req content => exact trivial
  | edit req content => exact OwnedBy.mono hpossible hkept
  | remove messageId => exact OwnedBy.mono hpossible hkept
  | read query =>
    obtain ⟨messageId, groupId, afterOrder, beforeOrder, limit⟩ := query
    cases messageId with
    | none => exact hpossible
    | some messageId =>
      obtain ⟨stored, hlookup, hgroup⟩ := hpossible
      obtain ⟨kept, hkept, hsame⟩ := hkept messageId stored hlookup
      refine ⟨kept, hkept, ?_⟩
      rw [hgroup, show kept.groupId = stored.groupId from congrArg Message.Identity.groupId hsame]

theorem ClientCall.Granted.append {reply : Reply}
    (hgranted : call.Granted relayer arrived past task request auth reply) (more : List Action) :
    call.Granted relayer arrived (past ++ more) task request auth reply := by
  cases hgranted with
  | created hwritten => exact .created (hwritten.append more)
  | insertClashed hstatus hclashed => exact .insertClashed hstatus (hclashed.append more)
  | updated hwritten => exact .updated (hwritten.append more)
  | editClashed hstatus hclashed => exact .editClashed hstatus (hclashed.append more)
  | deleted hremoved => exact .deleted (hremoved.append more)
  | messages hread => exact .messages (hread.append more)

/-- A task on its way stays on its way while others take steps. -/
theorem ClientCall.Serves.append
    (hserves : call.Serves relayer arrived past task request auth phase) (more : List Action) :
    call.Serves relayer arrived (past ++ more) task request auth phase := by
  cases hserves with
  | calling hcall => exact .calling hcall
  | ordering hcontent => exact .ordering hcontent
  | inserting hcontent => exact .inserting hcontent
  | notifying hwritten => exact .notifying (hwritten.append more)
  | respondingCreate hwritten => exact .respondingCreate (hwritten.append more)
  | updating => exact .updating
  | respondingUpdate hwritten => exact .respondingUpdate (hwritten.append more)
  | deleting => exact .deleting
  | done hgranted => exact .done (hgranted.append more)

/-! ### The steps of a client's task -/

/-- An insertion is refused with 409, and only when the identifier or the nonce is taken. -/
theorem insertMessage_clashes (storage : InMemoryStorage) (message : Message) :
    (storage.insertMessage message).1 = .ok message ∨
    ∃ err, (storage.insertMessage message).1 = .error err ∧
      (ApiError.fromStorageError err).status = 409 ∧
      ((storage.messages.lookup message.id).isSome ∨ message.nonce ∈ storage.nonces) := by
  unfold InMemoryStorage.insertMessage
  split_ifs with hid hnonce
  · exact Or.inr ⟨_, rfl, rfl, Or.inl hid⟩
  · exact Or.inr ⟨_, rfl, rfl, Or.inr hnonce⟩
  · exact Or.inl rfl

/-- Assumes: the message is stored. An edit is refused with 409, and only when another message has
the nonce. -/
theorem updateMessage_clashes {messageId : Uuid} {stored : Message} {content : MessageContent}
    (now : DateTime) (hindexed : storage.NonceIndexed)
    (hlookup : storage.messages.lookup messageId = some stored) :
    (∃ updated, (storage.updateMessage messageId content now).1 = .ok updated) ∨
    ∃ err id other, (storage.updateMessage messageId content now).1 = .error err ∧
      (ApiError.fromStorageError err).status = 409 ∧ id ≠ messageId ∧
      storage.messages.lookup id = some other ∧ other.nonce = content.nonce := by
  by_cases hnonce : stored.nonce = content.nonce ∨ content.nonce ∉ storage.nonces
  · exact Or.inl ⟨_, congrArg Prod.fst
      (InMemoryStorage.updateMessage_eq_ok content now hlookup hnonce)⟩
  · obtain ⟨hother, hused⟩ := not_or.mp hnonce
    obtain ⟨id, other, hfound, hsame⟩ := (hindexed.indexed content.nonce).mp (not_not.mp hused)
    refine Or.inr ⟨.duplicateNonce, id, other, ?_, rfl, ?_, hfound, hsame⟩
    · unfold InMemoryStorage.updateMessage
      rw [hlookup]
      show (if stored.nonce ≠ content.nonce ∧ content.nonce ∈ storage.nonces then _ else _ :
        InMemoryStorage.Outcome Message).1 = _
      rw [if_pos ⟨hother, not_not.mp hused⟩]
    · rintro rfl
      obtain rfl := Option.some.inj (hlookup.symm.trans hfound)
      exact hother hsame

/-- Assumes: what the client reads is there. The answer is a page or a message. -/
theorem getMessages_of_possible {query : GetMessagesQuery} (listing : List Message)
    (hpossible : (ClientCall.read query).Possible auth storage) :
    ∃ response, getMessages auth query storage listing = .ok response := by
  obtain ⟨messageId, groupId, afterOrder, beforeOrder, limit⟩ := query
  cases messageId with
  | none =>
    obtain ⟨hnamed, hgroup⟩ := hpossible
    obtain ⟨named, rfl⟩ := Option.isSome_iff_exists.mp hnamed
    unfold getMessages
    exact ⟨_, if_neg (not_not_intro hgroup)⟩
  | some messageId =>
    obtain ⟨stored, hlookup, hgroup⟩ := hpossible
    have hget := (storage.getMessage_eq_ok_iff messageId stored).mpr hlookup
    unfold getMessages
    simp only [hget]
    exact ⟨_, if_neg (not_not_intro hgroup)⟩

/-- Assumes: what the client edits is its own. The check of the update lets it through. -/
theorem updateCheck_of_owned {req : UpdateMessageRequest} {content : MessageContent}
    (howned : OwnedBy storage req.messageId auth)
    (hdecodes : (ClientCall.edit req content).Decodes relayer.libs auth) :
    relayer.updateCheck auth req storage = .updating req.messageId content := by
  obtain ⟨stored, hlookup, hgroup, hsender⟩ := howned
  have hcheck : updateMessageCheck relayer.libs auth req stored = .ok content := by
    refine bind_eq_ok_iff.mpr ⟨(), ?_, hdecodes⟩
    unfold checkOwnership
    rw [if_neg (not_not_intro hgroup), if_neg (not_not_intro hsender)]
  unfold Relayer.updateCheck
  rw [(storage.getMessage_eq_ok_iff req.messageId stored).mpr hlookup]
  simp only [hcheck]

/-- Assumes: what the client removes is its own. The check of the deletion lets it through. -/
theorem deleteCheck_of_owned {messageId : Uuid} (howned : OwnedBy storage messageId auth) :
    Relayer.deleteCheck auth messageId storage = .deleting messageId := by
  obtain ⟨stored, hlookup, hgroup, hsender⟩ := howned
  have hcheck : deleteMessageCheck auth stored = .ok () := by
    unfold deleteMessageCheck checkOwnership
    rw [if_neg (not_not_intro hgroup), if_neg (not_not_intro hsender)]
  unfold Relayer.deleteCheck
  rw [(storage.getMessage_eq_ok_iff messageId stored).mpr hlookup]
  simp only [hcheck]

/-- A step of the task keeps it on its way. -/
theorem serves_of_move {next : TaskPhase} (hpast : runFrom relayer.step arrived past = some before)
    (hindexed : before.storage.NonceIndexed) (hpossible : call.Possible auth before.storage)
    (hdecodes : call.Decodes relayer.libs auth)
    (htask : before.tasks.lookup task = some ⟨request, phase⟩)
    (hserves : call.Serves relayer arrived past task request auth phase)
    (hmove : TaskMove relayer before action task request next) :
    call.Serves relayer arrived (past ++ [action]) task request auth next := by
  have hphase {found : TaskPhase} (hfound : before.tasks.lookup task = some ⟨request, found⟩) :
      phase = found := congrArg Task.phase (Option.some.inj (htask.symm.trans hfound))
  have hnow {event : System → Action → Prop} (hevent : event before action) :
      Happened relayer.step arrived (past ++ [action]) event :=
    (happened_concat_iff hpast).mpr (Or.inr hevent)
  cases hmove with
  | admitted hfresh => simp [hfresh] at htask
  | @prepared _ _ found req id now hfound =>
    obtain rfl := hphase hfound
    cases hserves with
    | calling hcall =>
      cases call with
      | post posted content =>
        obtain ⟨rfl, rfl⟩ := HandlerCall.createMessage.inj hcall
        have hprepare : createMessagePrepare relayer.libs found req id now =
            .ok (Message.new id now req.groupId req.senderAddress content) :=
          bind_eq_ok_iff.mpr ⟨content, hdecodes, rfl⟩
        unfold Relayer.preparation
        rw [hprepare]
        exact .ordering rfl
      | _ => simp [ClientCall.handlerCall] at hcall
  | ordered hfound =>
    obtain rfl := hphase hfound
    cases hserves with
    | ordering hcontent => exact .inserting hcontent
  | @inserted _ _ message hfound =>
    obtain rfl := hphase hfound
    cases hserves with
    | inserting hcontent =>
      obtain rfl := hcontent
      rcases insertMessage_clashes before.storage message with hok | ⟨err, herr, hstatus, htaken⟩
      · rw [hok]
        exact .notifying (hnow (Or.inl ⟨task, message, message, rfl, hfound, rfl, rfl, hok⟩))
      · rw [herr]
        refine .done (.insertClashed hstatus (hnow ?_))
        rcases htaken with hid | hnonce
        · obtain ⟨other, hother⟩ := Option.isSome_iff_exists.mp hid
          exact ⟨message, message.id, other, rfl, hfound, hother, Or.inl rfl⟩
        · obtain ⟨id, other, hother, hsame⟩ := (hindexed.indexed message.nonce).mp hnonce
          exact ⟨message, id, other, rfl, hfound, hother, Or.inr hsame⟩
  | notified hfound =>
    obtain rfl := hphase hfound
    cases hserves with
    | notifying hwritten => exact .respondingCreate (hwritten.append _)
  | respondedCreate hfound =>
    obtain rfl := hphase hfound
    cases hserves with
    | respondingCreate hwritten => exact .done (.created (hwritten.append _))
  | respondedUpdate hfound =>
    obtain rfl := hphase hfound
    cases hserves with
    | respondingUpdate hwritten => exact .done (.updated (hwritten.append _))
  | checkedUpdate hfound =>
    obtain rfl := hphase hfound
    cases hserves with
    | calling hcall =>
      cases call with
      | edit edited content =>
        obtain ⟨rfl, rfl⟩ := HandlerCall.updateMessage.inj hcall
        rw [updateCheck_of_owned hpossible hdecodes]
        exact .updating
      | _ => simp [ClientCall.handlerCall] at hcall
  | checkedDelete hfound =>
    obtain rfl := hphase hfound
    cases hserves with
    | calling hcall =>
      cases call with
      | remove messageId =>
        obtain ⟨rfl, rfl⟩ := HandlerCall.deleteMessage.inj hcall
        rw [deleteCheck_of_owned hpossible]
        exact .deleting
      | _ => simp [ClientCall.handlerCall] at hcall
  | @updated _ _ messageId content now hfound =>
    obtain rfl := hphase hfound
    cases hserves with
    | updating =>
      obtain ⟨stored, hlookup, -⟩ := hpossible
      rcases updateMessage_clashes now hindexed hlookup with ⟨updated, hok⟩ |
        ⟨err, id, other, herr, hstatus, hne, hother, hsame⟩
      · rw [hok]
        exact .respondingUpdate (hnow (Or.inr ⟨task, now, updated, rfl, hfound, hok⟩))
      · rw [herr]
        exact .done (.editClashed hstatus (hnow ⟨now, id, other, rfl, hne, hother, hsame⟩))
  | @deleted _ _ messageId now hfound =>
    obtain rfl := hphase hfound
    cases hserves with
    | deleting =>
      obtain ⟨stored, hlookup, -⟩ := hpossible
      rcases before.storage.deleteMessage_cases messageId now with ⟨hnone, -⟩ | ⟨_, _, hresult⟩
      · simp [hlookup] at hnone
      · rw [hresult]
        exact .done (.deleted (hnow ⟨now, _, rfl, congrArg Prod.fst hresult⟩))
  | @answered _ _ found query listing hfound hlisting =>
    obtain rfl := hphase hfound
    cases hserves with
    | calling hcall =>
      cases call with
      | read asked =>
        obtain ⟨rfl, rfl⟩ := HandlerCall.getMessages.inj hcall
        obtain ⟨response, hread⟩ := getMessages_of_possible listing hpossible
        unfold Relayer.readReply
        rw [hread]
        exact .done (.messages (hnow ⟨listing, rfl, hlisting, hread⟩))
      | _ => simp [ClientCall.handlerCall] at hcall

variable {earlier later : List Action} {reached : System}

/-- A task that has been called as the client means it stays on its way. -/
theorem serves_of_run (harrived : relayer.run earlier = some arrived)
    (hpossible : call.Possible auth arrived.storage) (hdecodes : call.Decodes relayer.libs auth)
    (hcalled : arrived.tasks.lookup task = some ⟨request, .calling (call.handlerCall auth)⟩)
    (hlater : runFrom relayer.step arrived later = some reached) :
    ∃ phase, reached.tasks.lookup task = some ⟨request, phase⟩ ∧
      call.Serves relayer arrived later task request auth phase := by
  refine history_induction (fun past reached ↦ ∃ phase,
    reached.tasks.lookup task = some ⟨request, phase⟩ ∧
      call.Serves relayer arrived past task request auth phase) ⟨_, hcalled, .calling rfl⟩ ?_ hlater
  rintro past before action after hpast ⟨phase, htask, hserves⟩ hstep
  by_cases hown : action.task? = some task
  · obtain ⟨moved, next, hmove, hlookup⟩ := move_of_step hstep hown
    obtain ⟨kept, hkept⟩ := request_kept_of_step hstep htask
    obtain rfl : moved = request :=
      congrArg Task.request (Option.some.inj (hlookup.symm.trans hkept))
    have hindexed : before.storage.NonceIndexed :=
      nonceIndexed_of_run (runFrom_append_eq_some.mpr ⟨arrived, harrived, hpast⟩)
    exact ⟨next, hlookup, serves_of_move hpast hindexed
      (hpossible.mono (identity_kept_of_run hpast)) hdecodes htask hserves hmove⟩
  · exact ⟨phase, (lookup_of_step_of_ne hstep hown).trans htask, hserves.append [action]⟩

/-- What a client sends is decoded as it means it. -/
theorem Signer.Sends.decodes {signer : Signer} {libs : Externals} {groupId : String}
    {timestamp : Int} (hsends : signer.Sends libs groupId timestamp call request) :
    call.Decodes libs (signer.context libs groupId) := by
  cases hsends with
  | post hgroup hsender hspells hbody hsize hsigned =>
    subst hgroup
    exact hspells.decodeContent_eq
  | edit hgroup hsender hid hspells hbody hsize hsigned =>
    subst hgroup
    exact hspells.decodeContent_eq
  | remove hgroup hid hsigned => exact trivial
  | read hgroup hreadable hquery hsigned => exact trivial

theorem TaskPhase.remaining_le (phase : TaskPhase) : phase.remaining ≤ 5 := by
  cases phase <;> simp [TaskPhase.remaining]

/-- Assumes: the request of a client that follows the protocol arrives within the time window, when
the client holds the permission and what it edits, removes or reads is there. Whatever happens
then, the task can be brought to an answer by at most five steps of its own, and every answer it
gets is the success that the client asked for, or 409 after a clash of identifiers or nonces. -/
theorem honest_clients_served {signer : Signer} {groupId : String} {timestamp : Int}
    {now : DateTime} {start : System}
    (htype : relayer.libs.isJsonContentType (utf8 "application/json") = true)
    (hjson : relayer.libs.LawfulJson)
    (hsends : signer.Sends relayer.libs groupId timestamp call request)
    (htimestamp : -2 ^ 63 ≤ timestamp ∧ timestamp < 2 ^ 63)
    (hwindow : |DateTime.timestamp now - timestamp| ≤ relayer.config.requestTtlSeconds)
    (hrun : relayer.run earlier = some start)
    (hheld : start.membership.hasPermission groupId (signer.address relayer.libs)
      call.permission = true)
    (hpossible : call.Possible (signer.context relayer.libs groupId) start.storage)
    (harrive : relayer.step start (.arrive task request now) = some arrived)
    (hlater : runFrom relayer.step arrived later = some reached) :
    (∀ reply, reached.tasks.lookup task = some ⟨request, .done reply⟩ →
      call.Granted relayer arrived later task request (signer.context relayer.libs groupId)
        reply) ∧
    ∃ finishing finish reply, finishing.length ≤ 5 ∧
      (∀ action ∈ finishing, Action.task? action = some task) ∧
      runFrom relayer.step reached finishing = some finish ∧
      finish.tasks.lookup task = some ⟨request, .done reply⟩ ∧
      call.Granted relayer arrived (later ++ finishing) task request
        (signer.context relayer.libs groupId) reply := by
  have hadmission : relayer.admission start.membership now request =
      .calling (call.handlerCall (signer.context relayer.libs groupId)) :=
    admission_eq_calling (hsends.authMiddleware_eq hjson htimestamp hwindow hheld)
      (hsends.dispatch_eq htype _)
  have harrived : relayer.run (earlier ++ [.arrive task request now]) = some arrived :=
    runFrom_concat_eq_some.mpr ⟨start, hrun, harrive⟩
  have hcalled : arrived.tasks.lookup task = some
      ⟨request, .calling (call.handlerCall (signer.context relayer.libs groupId))⟩ := by
    simp only [Relayer.step] at harrive
    split at harrive
    · simp at harrive
    · rw [← Option.some.inj harrive, System.lookup_setTask, hadmission]
  have hthere := hpossible.mono (identityKept_of_step harrive)
  have hserved {more : List Action} {last : System} {reply : Reply}
      (hmore : runFrom relayer.step arrived more = some last)
      (hdone : last.tasks.lookup task = some ⟨request, .done reply⟩) :
      call.Granted relayer arrived more task request (signer.context relayer.libs groupId)
        reply := by
    obtain ⟨phase, hphase, hserves⟩ :=
      serves_of_run harrived hthere hsends.decodes hcalled hmore
    obtain rfl : phase = .done reply :=
      congrArg Task.phase (Option.some.inj (hphase.symm.trans hdone))
    cases hserves with
    | done hgranted => exact hgranted
  refine ⟨fun reply hdone ↦ hserved hlater hdone, ?_⟩
  obtain ⟨phase, hphase, -⟩ := serves_of_run harrived hthere hsends.decodes hcalled hlater
  obtain ⟨finishing, finish, reply, hlength, hown, hfinishing, hdone⟩ := exists_finishing hphase
  exact ⟨finishing, finish, reply, hlength.trans phase.remaining_le, hown, hfinishing, hdone,
    hserved (runFrom_append_eq_some.mpr ⟨reached, hlater, hfinishing⟩) hdone⟩

end Served

/-! ### A client posts -/

/-- The client's post is served. -/
theorem honest_clients_served_samplePosting : ∃ arrived, Happened sampleRelayer.step arrived
    [.prepare 0 sampleMessageId (sampleClock 1), .takeOrder 0, .insert 0, .notify 0,
      .respond 0 (sampleClock 2)] (WritesTo sampleMessageId (postRequest, sampleContent)) := by
  obtain ⟨start, hstart, hserve⟩ := runFrom_append_eq_some.mp run_samplePosting
  obtain rfl := Option.some.inj (run_sampleStart.symm.trans hstart)
  obtain ⟨arrived, harrive, hlater⟩ := Option.bind_eq_some_iff.mp hserve
  have hspells : sampleSigner.Spells sampleLibs (hexAddress sampleGroup) samplePost.encryptedText
      samplePost.nonce samplePost.keyVersion samplePost.messageSignature samplePost.attachments
      sampleContent := {
    encryptedMsg := rfl
    nonce := rfl
    nonce_length := rfl
    keyVersion_eq := rfl
    keyVersion_range := by decide
    attachments_spell := .nil
    signature := Hex.decode_encode _
    verified := (verifySignature_sampleLibs (length_signatureBytes _ _)).mpr
      (List.mem_cons_of_mem _ List.mem_cons_self)
    publicKey := rfl }
  have hsends : sampleSigner.Sends sampleLibs (hexAddress sampleGroup) sampleTimestamp
      (.post samplePost sampleContent) postRequest :=
    .post rfl address_sampleSigner.symm hspells jsonFromSlice_postBody length_postBody_le
      ((verifySignature_sampleLibs (length_signatureBytes _ _)).mpr List.mem_cons_self)
  have hheld : sampleMembership.hasPermission (hexAddress sampleGroup)
      (sampleSigner.address sampleLibs) .messagingSender = true := by
    rw [address_sampleSigner]
    exact hasPermission_sampleMembership .messagingSender
  have hdone : samplePosted.tasks.lookup 0 = some ⟨postRequest,
      .done (sampleRelayer.createReply sampleMessageId (sampleClock 2))⟩ :=
    System.lookup_setTask _ _ _ _
  have hpossible : (ClientCall.post samplePost sampleContent).Possible
      (sampleSigner.context sampleLibs (hexAddress sampleGroup)) System.init.storage := trivial
  obtain ⟨hgranted, -⟩ := honest_clients_served (beq_self_eq_true _) lawfulJson_sampleLibs hsends
    (by decide) (by decide) run_sampleStart hheld hpossible harrive hlater
  refine ⟨arrived, ?_⟩
  cases hgranted _ hdone with
  | created hwritten => exact hwritten

end MessagingRelayer
