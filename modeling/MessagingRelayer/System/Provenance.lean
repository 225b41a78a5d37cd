import MessagingRelayer.System.Accesses

/-!
# Where the writes come from

Two facts about every run. Messages stay: none disappears, and identifier, group, order, sender and
creation time are those it was stored with (`identity_kept_of_run`). And every phase of a task is
backed by the run so far (`backed_of_run`): its request was admitted earlier by the middleware and
the router, and the message or the content it is about to write was computed from that request; a
task about to change a stored message has found it to be in its group and of its sender, which is
still so, since neither ever changes.
-/

set_option autoImplicit false
set_option relaxedAutoImplicit false

namespace MessagingRelayer

open Foundation

/-! ### Messages stay -/

section Identity

variable {relayer : Relayer} {before after : System} {action : Action}

theorem identityKept_of_step (hstep : relayer.step before action = some after) :
    IdentityKept before.storage after.storage := by
  intro id message hlookup
  have heffect := messageEffect_of_step hstep id
  generalize hafter : after.storage.messages.lookup id = found at heffect
  cases heffect with
  | unchanged => exact ⟨message, hafter ▸ hlookup, rfl⟩
  | created htask hid hnone => simp [hlookup] at hnone
  | edited htask hstored =>
    obtain rfl := Option.some.inj (hlookup.symm.trans hstored)
    exact ⟨_, rfl, rfl⟩
  | deleted htask hstored =>
    obtain rfl := Option.some.inj (hlookup.symm.trans hstored)
    exact ⟨_, rfl, rfl⟩
  | archived hphase hid hpatch hstored =>
    obtain rfl := Option.some.inj (hlookup.symm.trans hstored)
    exact ⟨_, rfl, rfl⟩

/-- Along every run messages keep their identity and none disappears. -/
theorem identity_kept_of_run {start finish : System} {actions : List Action}
    (hrun : runFrom relayer.step start actions = some finish) :
    IdentityKept start.storage finish.storage :=
  invariant_of_run (fun reached ↦ IdentityKept start.storage reached.storage)
    (IdentityKept.refl _)
    (fun _ _ _ hkept hstep ↦ hkept.trans (identityKept_of_step hstep)) hrun

/-- In every state of the system the nonces are those of the stored messages, each of
one message. -/
theorem nonceIndexed_of_run {finish : System} {actions : List Action}
    (hrun : relayer.run actions = some finish) : finish.storage.NonceIndexed :=
  (reachable_of_run hrun).nonceIndexed

end Identity

/-! ### Tasks are backed by admitted requests -/

section Backing

variable (relayer : Relayer) (past : List Action)

/-- The request of the task was admitted earlier in the run, and reached a handler with these
parameters: at that moment it passed the middleware against the membership store of the time. -/
def AdmittedAs (task : TaskId) (request : Request) (auth : AuthContext) (call : HandlerCall) :
    Prop :=
  ∃ earlier later before now, past = earlier ++ .arrive task request now :: later ∧
    relayer.run earlier = some before ∧
    (∃ permission signed, Authenticated relayer.libs relayer.config.requestTtlSeconds
      before.membership (DateTime.timestamp now) request permission signed auth) ∧
    Routed relayer.libs request auth call

/-- The stored message is in the group the request is authorized for, and of its sender. -/
def OwnedBy (storage : InMemoryStorage) (id : Uuid) (auth : AuthContext) : Prop :=
  ∃ stored, storage.messages.lookup id = some stored ∧
    auth.authorizedGroup = some stored.groupId ∧ stored.senderWalletAddr = auth.senderAddress

/-- The message was built for an admitted create request. -/
def BuiltFor (task : TaskId) (request : Request) (message : Message) : Prop :=
  ∃ auth req id now, AdmittedAs relayer past task request auth (.createMessage auth req) ∧
    Action.prepare task id now ∈ past ∧
    createMessagePrepare relayer.libs auth req id now = .ok message

/-- What the run so far says about a task in a phase. -/
def Backed (storage : InMemoryStorage) (task : TaskId) (request : Request) : TaskPhase → Prop
  | .calling call => ∃ auth, AdmittedAs relayer past task request auth call
  | .ordering message => BuiltFor relayer past task request message
  | .inserting message => ∃ built order, BuiltFor relayer past task request built ∧
      message = built.setOrder order
  | .notifying _ => True
  | .respondingCreate _ => True
  | .updating messageId content => ∃ auth req,
      AdmittedAs relayer past task request auth (.updateMessage auth req) ∧
      messageId = req.messageId ∧
      decodeContent relayer.libs auth req.groupId req.encryptedText req.nonce req.keyVersion
        req.messageSignature req.attachments = .ok content ∧
      OwnedBy storage messageId auth
  | .respondingUpdate => True
  | .deleting messageId => ∃ auth,
      AdmittedAs relayer past task request auth (.deleteMessage auth messageId) ∧
      OwnedBy storage messageId auth
  | .done (.messages response) => ∃ auth query,
      AdmittedAs relayer past task request auth (.getMessages auth query) ∧
      ∀ body ∈ response.bodies, auth.authorizedGroup = some body.groupId
  | .done _ => True

variable {relayer past} {storage later : InMemoryStorage} {task : TaskId} {request : Request}
  {auth : AuthContext} {call : HandlerCall} {message : Message} {phase : TaskPhase} {id : Uuid}

theorem AdmittedAs.concat (hadmitted : AdmittedAs relayer past task request auth call)
    (action : Action) : AdmittedAs relayer (past ++ [action]) task request auth call := by
  obtain ⟨earlier, rest, before, now, rfl, hpassed⟩ := hadmitted
  exact ⟨earlier, rest ++ [action], before, now, by simp, hpassed⟩

/-- An admitted request is routed to the handler it reaches. -/
theorem AdmittedAs.routed (hadmitted : AdmittedAs relayer past task request auth call) :
    Routed relayer.libs request auth call := by
  obtain ⟨-, -, -, -, -, -, -, hrouted⟩ := hadmitted
  exact hrouted

/-- The sender an admitted request is attributed to is the one its key belongs to. -/
theorem AdmittedAs.address_ok (hadmitted : AdmittedAs relayer past task request auth call) :
    deriveSuiAddress relayer.libs auth.publicKey auth.scheme = .ok auth.senderAddress := by
  obtain ⟨_, _, _, _, _, _, ⟨permission, signed, hpassed⟩, _⟩ := hadmitted
  rw [hpassed.auth_eq]
  exact hpassed.address_ok

/-- An admitted request arrived in the run. -/
theorem AdmittedAs.arrived (hadmitted : AdmittedAs relayer past task request auth call) :
    ∃ now, Action.arrive task request now ∈ past := by
  obtain ⟨earlier, later, before, now, rfl, -⟩ := hadmitted
  exact ⟨now, List.mem_append_right _ List.mem_cons_self⟩

theorem BuiltFor.concat (hbuilt : BuiltFor relayer past task request message) (action : Action) :
    BuiltFor relayer (past ++ [action]) task request message := by
  obtain ⟨auth, req, id, now, hadmitted, hprepare, hmessage⟩ := hbuilt
  exact ⟨auth, req, id, now, hadmitted.concat action, List.mem_append_left _ hprepare, hmessage⟩

theorem OwnedBy.mono (howned : OwnedBy storage id auth) (hkept : IdentityKept storage later) :
    OwnedBy later id auth := by
  obtain ⟨stored, hlookup, hgroup, hsender⟩ := howned
  obtain ⟨kept, hfound, hsame⟩ := hkept id stored hlookup
  have hgroupSame : kept.groupId = stored.groupId := congrArg Message.Identity.groupId hsame
  have hsenderSame : kept.senderWalletAddr = stored.senderWalletAddr :=
    congrArg Message.Identity.senderWalletAddr hsame
  exact ⟨kept, hfound, hgroupSame ▸ hgroup, hsenderSame.trans hsender⟩

/-- A phase that is backed stays backed while other parts of the system take steps. -/
theorem Backed.concat (hbacked : Backed relayer past storage task request phase)
    (action : Action) (hkept : IdentityKept storage later) :
    Backed relayer (past ++ [action]) later task request phase := by
  cases phase with
  | calling call =>
    obtain ⟨auth, hadmitted⟩ := hbacked
    exact ⟨auth, hadmitted.concat action⟩
  | ordering message => exact BuiltFor.concat hbacked action
  | inserting message =>
    obtain ⟨built, order, hbuilt, hmessage⟩ := hbacked
    exact ⟨built, order, hbuilt.concat action, hmessage⟩
  | notifying messageId => trivial
  | respondingCreate messageId => trivial
  | updating messageId content =>
    obtain ⟨auth, req, hadmitted, hid, hcontent, howned⟩ := hbacked
    exact ⟨auth, req, hadmitted.concat action, hid, hcontent, howned.mono hkept⟩
  | respondingUpdate => trivial
  | deleting messageId =>
    obtain ⟨auth, hadmitted, howned⟩ := hbacked
    exact ⟨auth, hadmitted.concat action, howned.mono hkept⟩
  | done reply =>
    cases reply with
    | messages response =>
      obtain ⟨auth, query, hadmitted, hbodies⟩ := hbacked
      exact ⟨auth, query, hadmitted.concat action, hbodies⟩
    | preflight response => trivial
    | unauthenticated response => trivial
    | rejected rejection => trivial
    | failed err => trivial
    | created response => trivial
    | updated response => trivial
    | deleted response => trivial

/-! ### The phases a task moves to -/

section Moves

variable {before : System}

theorem backed_admission {now : DateTime} (hpast : relayer.run past = some before) :
    Backed relayer (past ++ [.arrive task request now]) storage task request
      (relayer.admission before.membership now request) := by
  unfold Relayer.admission
  split
  · trivial
  · cases hauth : authMiddleware relayer.libs relayer.config.requestTtlSeconds before.membership
      (DateTime.timestamp now) request with
    | error response => trivial
    | ok context =>
      cases hdispatch : dispatch relayer.libs request context with
      | error rejection =>
        simp only [hdispatch]
        trivial
      | ok call =>
        simp only [hdispatch]
        obtain ⟨auth, rfl, hrouted⟩ := routed_of_dispatch hdispatch
        exact ⟨auth, past, [], before, now, rfl, hpast, authenticated_of_authMiddleware hauth,
          hrouted⟩

/-- The parameters of a handler carry the context the request was admitted with. -/
theorem AdmittedAs.create_auth {other : AuthContext} {req : CreateMessageRequest}
    (hadmitted : AdmittedAs relayer past task request auth (.createMessage other req)) :
    auth = other := by
  obtain ⟨-, -, -, -, -, -, -, hrouted⟩ := hadmitted
  cases hrouted with
  | createMessage => rfl

theorem AdmittedAs.update_auth {other : AuthContext} {req : UpdateMessageRequest}
    (hadmitted : AdmittedAs relayer past task request auth (.updateMessage other req)) :
    auth = other := by
  obtain ⟨-, -, -, -, -, -, -, hrouted⟩ := hadmitted
  cases hrouted with
  | updateMessage => rfl

theorem AdmittedAs.delete_auth {other : AuthContext} {messageId : Uuid}
    (hadmitted : AdmittedAs relayer past task request auth (.deleteMessage other messageId)) :
    auth = other := by
  obtain ⟨-, -, -, -, -, -, -, hrouted⟩ := hadmitted
  cases hrouted with
  | deleteMessage => rfl

theorem AdmittedAs.read_auth {other : AuthContext} {query : GetMessagesQuery}
    (hadmitted : AdmittedAs relayer past task request auth (.getMessages other query)) :
    auth = other := by
  obtain ⟨-, -, -, -, -, -, -, hrouted⟩ := hadmitted
  cases hrouted with
  | getMessages => rfl

theorem backed_preparation {req : CreateMessageRequest} {now : DateTime}
    (hbacked : Backed relayer past storage task request (.calling (.createMessage auth req))) :
    Backed relayer (past ++ [.prepare task id now]) later task request
      (relayer.preparation auth req id now) := by
  obtain ⟨found, hadmitted⟩ := hbacked
  obtain rfl := hadmitted.create_auth
  unfold Relayer.preparation
  cases hprepare : createMessagePrepare relayer.libs found req id now with
  | error err => trivial
  | ok message =>
    exact ⟨found, req, id, now, hadmitted.concat _,
      List.mem_append_right _ (List.mem_singleton_self _), hprepare⟩

theorem backed_updateCheck {req : UpdateMessageRequest} {action : Action}
    (hkept : IdentityKept storage later)
    (hbacked : Backed relayer past storage task request (.calling (.updateMessage auth req))) :
    Backed relayer (past ++ [action]) later task request
      (relayer.updateCheck auth req storage) := by
  obtain ⟨found, hadmitted⟩ := hbacked
  obtain rfl := hadmitted.update_auth
  unfold Relayer.updateCheck
  cases hget : storage.getMessage req.messageId with
  | error err => trivial
  | ok existing =>
    cases hcheck : updateMessageCheck relayer.libs found req existing with
    | error err =>
      simp only [hcheck]
      trivial
    | ok content =>
      simp only [hcheck]
      obtain ⟨hgroup, hsender, hcontent⟩ := updateMessageCheck_eq_ok hcheck
      have howned : OwnedBy storage req.messageId found :=
        ⟨existing, (storage.getMessage_eq_ok_iff req.messageId existing).mp hget, hgroup, hsender⟩
      exact ⟨found, req, hadmitted.concat action, rfl, hcontent, howned.mono hkept⟩

theorem backed_deleteCheck {action : Action} (hkept : IdentityKept storage later)
    (hbacked : Backed relayer past storage task request (.calling (.deleteMessage auth id))) :
    Backed relayer (past ++ [action]) later task request
      (Relayer.deleteCheck auth id storage) := by
  obtain ⟨found, hadmitted⟩ := hbacked
  obtain rfl := hadmitted.delete_auth
  unfold Relayer.deleteCheck
  cases hget : storage.getMessage id with
  | error err => trivial
  | ok existing =>
    cases hcheck : deleteMessageCheck found existing with
    | error err =>
      simp only [hcheck]
      trivial
    | ok checked =>
      simp only [hcheck]
      obtain ⟨hgroup, hsender⟩ := checkOwnership_eq_ok hcheck
      have howned : OwnedBy storage id found :=
        ⟨existing, (storage.getMessage_eq_ok_iff id existing).mp hget, hgroup, hsender⟩
      exact ⟨found, hadmitted.concat action, howned.mono hkept⟩

theorem backed_readReply {query : GetMessagesQuery} {action : Action} {listing : List Message}
    (hlisting : storage.messages.IterationOrder listing)
    (hbacked : Backed relayer past storage task request (.calling (.getMessages auth query))) :
    Backed relayer (past ++ [action]) later task request
      (.done (Relayer.readReply auth query storage listing)) := by
  obtain ⟨found, hadmitted⟩ := hbacked
  obtain rfl := hadmitted.read_auth
  unfold Relayer.readReply
  cases hread : getMessages found query storage listing with
  | error err => trivial
  | ok response =>
    refine ⟨found, query, hadmitted.concat action, fun body hbody ↦ ?_⟩
    obtain ⟨id, message, hlookup, hgroup, rfl⟩ := mem_bodies_of_getMessages hlisting hread hbody
    exact hgroup

/-- A storage call that fails, or that the task goes on from without data, leaves it backed. -/
theorem backed_afterStorage {result : Except StorageError Message}
    {onSuccess : Message → TaskPhase}
    (hsuccess : ∀ message, Backed relayer past storage task request (onSuccess message)) :
    Backed relayer past storage task request (Relayer.afterStorage result onSuccess) := by
  unfold Relayer.afterStorage
  cases result with
  | error err => trivial
  | ok message => exact hsuccess message

/-- Assumes: the tasks are backed. A task that moves is backed in its new phase. -/
theorem backed_of_move {action : Action} (hpast : relayer.run past = some before)
    (hall : ∀ task served, before.tasks.lookup task = some served →
      Backed relayer past before.storage task served.request served.phase)
    (hmove : TaskMove relayer before action task request phase)
    (hkept : IdentityKept before.storage later) :
    Backed relayer (past ++ [action]) later task request phase := by
  cases hmove with
  | admitted hfresh => exact backed_admission hpast
  | prepared htask => exact backed_preparation (hall _ _ htask)
  | ordered htask =>
    have hbuilt : BuiltFor relayer past task request _ := hall _ _ htask
    exact ⟨_, _, hbuilt.concat _, rfl⟩
  | inserted htask => exact backed_afterStorage fun _ ↦ trivial
  | notified htask => trivial
  | respondedCreate htask => trivial
  | respondedUpdate htask => trivial
  | checkedUpdate htask => exact backed_updateCheck hkept (hall _ _ htask)
  | checkedDelete htask => exact backed_deleteCheck hkept (hall _ _ htask)
  | updated htask => exact backed_afterStorage fun _ ↦ trivial
  | deleted htask => exact backed_afterStorage fun _ ↦ trivial
  | answered htask hlisting => exact backed_readReply hlisting (hall _ _ htask)

/-- In every state of the system every task is backed by the run that led there. -/
theorem backed_of_run {finish : System} (hrun : relayer.run past = some finish) :
    ∀ task served, finish.tasks.lookup task = some served →
      Backed relayer past finish.storage task served.request served.phase := by
  refine history_induction
    (fun past reached ↦ ∀ task served, reached.tasks.lookup task = some served →
      Backed relayer past reached.storage task served.request served.phase) ?_ ?_ hrun
  · intro task served hlookup
    simp [System.init] at hlookup
  · intro past before action after hpast hall hstep task served hlookup
    have hkept := identityKept_of_step hstep
    rcases tasks_of_step hstep with hsame | ⟨moved, request, phase, hmove, htasks⟩
    · rw [hsame] at hlookup
      exact (hall task served hlookup).concat action hkept
    · rw [htasks, HashMap.lookup_insert_eq] at hlookup
      split_ifs at hlookup with htask
      · obtain rfl := Option.some.inj hlookup
        subst htask
        exact backed_of_move hpast hall hmove hkept
      · exact (hall task served hlookup).concat action hkept

end Moves

end Backing

end MessagingRelayer
