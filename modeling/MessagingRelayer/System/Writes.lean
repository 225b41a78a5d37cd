import MessagingRelayer.System.Provenance

/-!
# What requests write

An admitted create or update request carries a content (`Carries`), and a step that gives it to a
message is an accepted write of the request (`Writes`). What was written was carried
(`carries_of_writes`), a message has after the step what was written to it (`lookup_of_writes`), and
whatever is not written keeps its content (`writes_or_kept_of_step`).
-/

set_option autoImplicit false
set_option relaxedAutoImplicit false

namespace MessagingRelayer

open Foundation

/-- The admitted request carries this content, for a new message or for the message it names. -/
inductive Carries (relayer : Relayer) (past : List Action) (task : TaskId) (request : Request) :
    Option Uuid → MessageContent → Prop
  | create {auth : AuthContext} {req : CreateMessageRequest} {content : MessageContent}
      (hadmitted : AdmittedAs relayer past task request auth (.createMessage auth req))
      (hcontent : decodeContent relayer.libs auth req.groupId req.encryptedText req.nonce
        req.keyVersion req.messageSignature req.attachments = .ok content) :
      Carries relayer past task request none content
  | update {auth : AuthContext} {req : UpdateMessageRequest} {content : MessageContent}
      (hadmitted : AdmittedAs relayer past task request auth (.updateMessage auth req))
      (hcontent : decodeContent relayer.libs auth req.groupId req.encryptedText req.nonce
        req.keyVersion req.messageSignature req.attachments = .ok content) :
      Carries relayer past task request (some req.messageId) content

/-- The step is the storage write of a create or update request that is accepted: it gives the
content to the message. -/
def Writes (request : Request) (id : Uuid) (content : MessageContent) (before : System)
    (action : Action) : Prop :=
  (∃ task message created, action = .insert task ∧
    before.tasks.lookup task = some ⟨request, .inserting message⟩ ∧ message.id = id ∧
    message.content = content ∧ (before.storage.insertMessage message).1 = .ok created) ∨
  ∃ task now updated, action = .write task now ∧
    before.tasks.lookup task = some ⟨request, .updating id content⟩ ∧
    (before.storage.updateMessage id content now).1 = .ok updated

section Writes

variable {relayer : Relayer} {past : List Action} {action : Action} {before after : System}
  {task : TaskId} {request : Request} {id : Uuid} {content : MessageContent} {message : Message}

/-- A task about to insert a message carries its content. -/
theorem carries_of_inserting (hrun : relayer.run past = some before)
    (htask : before.tasks.lookup task = some ⟨request, .inserting message⟩) :
    Carries relayer past task request none message.content := by
  obtain ⟨built, order, ⟨auth, req, id, now, hadmitted, -, hprepare⟩, rfl⟩ :=
    backed_of_run hrun _ _ htask
  obtain ⟨content, hcontent, rfl⟩ := createMessagePrepare_eq_ok hprepare
  exact .create hadmitted hcontent

/-- A task about to update a message carries the content. -/
theorem carries_of_updating (hrun : relayer.run past = some before)
    (htask : before.tasks.lookup task = some ⟨request, .updating id content⟩) :
    Carries relayer past task request (some id) content := by
  obtain ⟨auth, req, hadmitted, rfl, hcontent, -⟩ := backed_of_run hrun _ _ htask
  exact .update hadmitted hcontent

/-- What an accepted write gave to a message its request carried. -/
theorem carries_of_writes (hrun : relayer.run past = some before)
    (hwrites : Writes request id content before action) :
    ∃ task, Carries relayer past task request none content ∨
      Carries relayer past task request (some id) content := by
  rcases hwrites with ⟨task, message, created, -, htask, -, rfl, -⟩ |
    ⟨task, now, updated, -, htask, -⟩
  · exact ⟨task, Or.inl (carries_of_inserting hrun htask)⟩
  · exact ⟨task, Or.inr (carries_of_updating hrun htask)⟩

/-- The request of an accepted write arrived in the run. -/
theorem arrived_of_writes (hrun : relayer.run past = some before)
    (hwrites : Writes request id content before action) :
    ∃ task now, Action.arrive task request now ∈ past := by
  obtain ⟨task, hnew | hnamed⟩ := carries_of_writes hrun hwrites
  · cases hnew with
    | create hadmitted => exact ⟨task, hadmitted.arrived⟩
  · cases hnamed with
    | update hadmitted => exact ⟨task, hadmitted.arrived⟩

/-- After an accepted write the message has the content. It is the message that was to be inserted,
or the stored message with its identity. -/
theorem lookup_of_writes (hwrites : Writes request id content before action)
    (hstep : relayer.step before action = some after) :
    ∃ task message, after.storage.messages.lookup id = some message ∧ message.content = content ∧
      (before.tasks.lookup task = some ⟨request, .inserting message⟩ ∨
        ∃ stored, before.tasks.lookup task = some ⟨request, .updating id content⟩ ∧
          before.storage.messages.lookup id = some stored ∧
            message.identity = stored.identity) := by
  rcases hwrites with ⟨task, message, created, rfl, htask, rfl, rfl, hok⟩ |
    ⟨task, now, updated, rfl, htask, hok⟩
  · rw [step_insert htask] at hstep
    refine ⟨task, message, ?_, rfl, Or.inl htask⟩
    rcases before.storage.insertMessage_cases message with ⟨err, hresult, -⟩ | ⟨-, -, hresult⟩
    · simp [hresult] at hok
    · rw [← Option.some.inj hstep, System.storage_setTask, hresult, HashMap.lookup_insert_eq,
        if_pos rfl]
  · rw [step_update now htask] at hstep
    rcases before.storage.updateMessage_cases id content now with ⟨err, hresult⟩ |
      ⟨stored, hlookup, -, hresult⟩
    · simp [hresult] at hok
    · refine ⟨task, stored.updateContent content now, ?_, rfl, Or.inr ⟨stored, htask, hlookup, rfl⟩⟩
      rw [← Option.some.inj hstep, System.storage_setTask, hresult, HashMap.lookup_insert_eq,
        if_pos rfl]

/-- A message that is stored after a step was written in the step, or it was stored before with its
content and its identity. -/
theorem writes_or_kept_of_step (hstep : relayer.step before action = some after)
    (hlookup : after.storage.messages.lookup id = some message) :
    (∃ request, Writes request id message.content before action) ∨
      ∃ stored, before.storage.messages.lookup id = some stored ∧
        stored.content = message.content ∧ stored.identity = message.identity := by
  have heffect := messageEffect_of_step hstep id
  rw [hlookup] at heffect
  generalize hfound : some message = found at heffect
  cases heffect with
  | unchanged => exact Or.inr ⟨message, hfound.symm, rfl, rfl⟩
  | @created task request inserted htask hid hnone hnonce =>
    obtain rfl := Option.some.inj hfound
    subst hid
    refine Or.inl ⟨request, Or.inl ⟨task, message, message, rfl, htask, rfl, rfl, ?_⟩⟩
    rcases before.storage.insertMessage_cases message with ⟨err, -, htaken | hused⟩ | ⟨-, -, hok⟩
    · simp [hnone] at htaken
    · exact absurd hused hnonce
    · rw [hok]
  | @edited task request content now stored htask hstored hnonce =>
    obtain rfl := Option.some.inj hfound
    refine Or.inl ⟨request, Or.inr ⟨task, now, stored.updateContent content now, rfl, htask, ?_⟩⟩
    exact congrArg Prod.fst (InMemoryStorage.updateMessage_eq_ok content now hstored hnonce)
  | deleted htask hstored =>
    obtain rfl := Option.some.inj hfound
    exact Or.inr ⟨_, hstored, rfl, rfl⟩
  | archived hphase hid hpatch hstored =>
    obtain rfl := Option.some.inj hfound
    exact Or.inr ⟨_, hstored, rfl, rfl⟩

end Writes

end MessagingRelayer
