import MessagingRelayer.System.Serving
import MessagingRelayer.System.Writes

/-!
# What is stored

The worker works from copies it took before an upload, while requests go on to edit and delete.
Still no step puts an old content back or mixes two: the content of a message is that of the last
accepted write to it (`StoredFaithfully.content`), what identifies it is as it was when it was
inserted (`StoredFaithfully.identity`), and a step changes the one message that its storage
operation is about and takes none away (`StoredFaithfully.frame`).
-/

set_option autoImplicit false
set_option relaxedAutoImplicit false

namespace MessagingRelayer

open Foundation

/-- The message that the storage operation of an action is about. -/
def Action.target (system : System) : Action → Option Uuid
  | .insert task =>
    match system.tasks.lookup task with
    | some ⟨_, .inserting message⟩ => some message.id
    | _ => none
  | .write task _ =>
    match system.tasks.lookup task with
    | some ⟨_, .updating messageId _⟩ => some messageId
    | some ⟨_, .deleting messageId⟩ => some messageId
    | _ => none
  | .writeBack _ =>
    match system.worker.phase with
    | .writingBack _ (msg :: _) _ => some msg.id
    | _ => none
  | _ => none

/-- The event of an accepted write to a message, with the request and the content it gives. -/
def WritesTo (id : Uuid) (written : Request × MessageContent) (before : System) (action : Action) :
    Prop :=
  Writes written.1 id written.2 before action

/-- The content of every message is that of the last accepted write to it, by an admitted request
that carried it; its identity is the one it was inserted with; and a step changes no message but
its target, and takes none away. -/
structure StoredFaithfully (relayer : Relayer) (actions : List Action) (reached : System) :
    Prop where
  content : ∀ id message, reached.storage.messages.lookup id = some message → ∃ request task,
    LastHappened relayer.step .init actions (WritesTo id) (request, message.content) ∧
      (Carries relayer actions task request none message.content ∨
        Carries relayer actions task request (some id) message.content)
  identity : ∀ id message, reached.storage.messages.lookup id = some message →
    ∃ past task rest before request created, actions = past ++ .insert task :: rest ∧
      relayer.run past = some before ∧
      before.tasks.lookup task = some ⟨request, .inserting created⟩ ∧ created.id = id ∧
      before.storage.messages.lookup id = none ∧ created.identity = message.identity
  frame : ∀ action after, relayer.step reached action = some after →
    (∀ other, action.target reached ≠ some other →
      after.storage.messages.lookup other = reached.storage.messages.lookup other) ∧
    IdentityKept reached.storage after.storage

section StoredContent

variable {relayer : Relayer} {past actions : List Action} {action : Action}
  {before after reached : System} {task : TaskId} {request : Request} {id : Uuid}
  {named : Option Uuid} {content : MessageContent} {message : Message}

theorem Carries.concat (hcarries : Carries relayer past task request named content)
    (action : Action) : Carries relayer (past ++ [action]) task request named content := by
  cases hcarries with
  | create hadmitted hcontent => exact .create (hadmitted.concat action) hcontent
  | update hadmitted hcontent => exact .update (hadmitted.concat action) hcontent

theorem Carries.append (hcarries : Carries relayer past task request named content)
    (rest : List Action) : Carries relayer (past ++ rest) task request named content := by
  induction rest generalizing past with
  | nil =>
    rw [List.append_nil]
    exact hcarries
  | cons action rest ih =>
    rw [List.append_cons]
    exact ih (hcarries.concat action)

/-- A message that is not the target of a step is as it was. -/
theorem lookup_of_not_target (hstep : relayer.step before action = some after)
    (htarget : action.target before ≠ some id) :
    after.storage.messages.lookup id = before.storage.messages.lookup id := by
  have heffect := messageEffect_of_step hstep id
  generalize after.storage.messages.lookup id = found at heffect
  cases heffect with
  | unchanged => rfl
  | created htask hid hnone =>
    refine absurd ?_ htarget
    simp only [Action.target, htask, hid]
  | edited htask hstored =>
    refine absurd ?_ htarget
    simp only [Action.target, htask]
  | deleted htask hstored =>
    refine absurd ?_ htarget
    simp only [Action.target, htask]
  | archived hphase hid hpatch hstored =>
    refine absurd ?_ htarget
    simp only [Action.target, hphase, hid]

/-- A message that is stored after a step was stored before with its identity, or the step inserts
it. -/
theorem inserted_or_kept_of_step (hstep : relayer.step before action = some after)
    (hlookup : after.storage.messages.lookup id = some message) :
    (∃ stored, before.storage.messages.lookup id = some stored ∧
      stored.identity = message.identity) ∨
    ∃ task request, action = .insert task ∧
      before.tasks.lookup task = some ⟨request, .inserting message⟩ ∧ message.id = id ∧
      before.storage.messages.lookup id = none := by
  have heffect := messageEffect_of_step hstep id
  rw [hlookup] at heffect
  generalize hfound : some message = found at heffect
  cases heffect with
  | unchanged => exact Or.inl ⟨message, hfound.symm, rfl⟩
  | @created task request inserted htask hid hnone =>
    obtain rfl := Option.some.inj hfound
    exact Or.inr ⟨task, request, rfl, htask, hid, hnone⟩
  | edited htask hstored =>
    obtain rfl := Option.some.inj hfound
    exact Or.inl ⟨_, hstored, rfl⟩
  | deleted htask hstored =>
    obtain rfl := Option.some.inj hfound
    exact Or.inl ⟨_, hstored, rfl⟩
  | archived hphase hid hpatch hstored =>
    obtain rfl := Option.some.inj hfound
    exact Or.inl ⟨_, hstored, rfl⟩

/-- The content of a stored message is that of the last accepted write to it. -/
theorem lastWritten_of_run (hrun : relayer.run actions = some reached)
    (hlookup : reached.storage.messages.lookup id = some message) : ∃ request task,
      LastHappened relayer.step .init actions (WritesTo id) (request, message.content) ∧
        (Carries relayer actions task request none message.content ∨
          Carries relayer actions task request (some id) message.content) := by
  refine history_induction (fun actions reached ↦ ∀ message,
    reached.storage.messages.lookup id = some message → ∃ request task,
      LastHappened relayer.step .init actions (WritesTo id) (request, message.content) ∧
        (Carries relayer actions task request none message.content ∨
          Carries relayer actions task request (some id) message.content)) ?_ ?_ hrun message
            hlookup
  · intro message hlookup
    simp [System.init, InMemoryStorage.new] at hlookup
  · intro past before action after hpast hearlier hstep message hlookup
    by_cases hwritten : ∃ written, WritesTo id written before action
    · obtain ⟨⟨request, content⟩, hwrites⟩ := hwritten
      obtain ⟨_, found, hfound, hcontent, _⟩ := lookup_of_writes hwrites hstep
      obtain rfl : message = found := Option.some.inj (hlookup.symm.trans hfound)
      obtain rfl : message.content = content := hcontent
      obtain ⟨task, hcarries⟩ := carries_of_writes hpast hwrites
      exact ⟨request, task, .of_last hpast hstep hwrites,
        hcarries.imp (Carries.concat · action) (Carries.concat · action)⟩
    · have hother : ∀ written, ¬ WritesTo id written before action := not_exists.mp hwritten
      rcases writes_or_kept_of_step hstep hlookup with ⟨request, hwrites⟩ |
        ⟨stored, hstored, hcontent, -⟩
      · exact absurd hwrites (hother (request, message.content))
      · obtain ⟨request, task, hlast, hcarries⟩ := hearlier stored hstored
        rw [hcontent] at hlast hcarries
        exact ⟨request, task, hlast.concat hpast hother,
          hcarries.imp (Carries.concat · action) (Carries.concat · action)⟩

/-- A stored message has the identity it was inserted with. -/
theorem inserted_of_run (hrun : relayer.run actions = some reached)
    (hlookup : reached.storage.messages.lookup id = some message) :
    ∃ past task rest before request created, actions = past ++ .insert task :: rest ∧
      relayer.run past = some before ∧
      before.tasks.lookup task = some ⟨request, .inserting created⟩ ∧ created.id = id ∧
      before.storage.messages.lookup id = none ∧ created.identity = message.identity := by
  refine history_induction (fun actions reached ↦ ∀ message,
    reached.storage.messages.lookup id = some message →
      ∃ past task rest before request created, actions = past ++ .insert task :: rest ∧
        relayer.run past = some before ∧
        before.tasks.lookup task = some ⟨request, .inserting created⟩ ∧ created.id = id ∧
        before.storage.messages.lookup id = none ∧ created.identity = message.identity) ?_ ?_ hrun
    message hlookup
  · intro message hlookup
    simp [System.init, InMemoryStorage.new] at hlookup
  · intro past before action after hpast hearlier hstep message hlookup
    rcases inserted_or_kept_of_step hstep hlookup with ⟨stored, hstored, hidentity⟩ |
      ⟨task, request, rfl, htask, hid, hnone⟩
    · obtain ⟨first, task, rest, middle, request, created, rfl, hfirst, htask, hid, hnone, hsame⟩ :=
        hearlier stored hstored
      exact ⟨first, task, rest ++ [action], middle, request, created, by simp, hfirst, htask, hid,
        hnone, hsame.trans hidentity⟩
    · exact ⟨past, task, [], before, request, message, rfl, hpast, htask, hid, hnone, rfl⟩

/-- In every state of every run the stored messages are faithful to the accepted writes. -/
theorem storedFaithfully (hrun : relayer.run actions = some reached) :
    StoredFaithfully relayer actions reached where
  content _ _ hlookup := lastWritten_of_run hrun hlookup
  identity _ _ hlookup := inserted_of_run hrun hlookup
  frame _ _ hstep :=
    ⟨fun _ htarget ↦ lookup_of_not_target hstep htarget, identityKept_of_step hstep⟩

/-- A client posts a message and edits it. -/
theorem storedFaithfully_sampleEditing :
    StoredFaithfully sampleRelayer sampleEditing sampleEdited :=
  storedFaithfully run_sampleEditing

end StoredContent

end MessagingRelayer
