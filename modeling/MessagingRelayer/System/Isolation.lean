import MessagingRelayer.Foundation.Purge
import MessagingRelayer.Handlers.Paging
import MessagingRelayer.Handlers.Statuses
import MessagingRelayer.Storage.Restriction
import MessagingRelayer.System.StoredContent
import MessagingRelayer.System.Traceless

/-!
# Groups are isolated

What the requests of one group are answered, and what is stored for it, does not depend on the other
groups or on the archiving: the requests of the group alone, with the events of the chain and
nothing else, make a run in which every one of them ends as in the whole run and the same messages
are stored with the same order numbers (`groups_isolated`). There are two exceptions. Nonces and
identifiers are common to all groups, so the run must be one in which no write of the group meets
one that another group has. And asking for a message of another group is answered 403 where it is
there, and 404 where it is not.
-/

set_option autoImplicit false
set_option relaxedAutoImplicit false

namespace MessagingRelayer

open Foundation

/-! ### Answers apart from archiving -/

/-- The response without what archiving a message or marking it leaves on it. -/
def MessageResponse.text (response : MessageResponse) : MessageResponse :=
  { response with
    updatedAt := response.createdAt
    isEdited := false
    isDeleted := false
    syncStatus := SyncStatus.syncPending.toString
    quiltPatchId := none }

def GetMessagesResponse.text : GetMessagesResponse → GetMessagesResponse
  | .single response => .single response.text
  | .list responses hasNext => .list (responses.map MessageResponse.text) hasNext

/-- The client is answered the same, apart from what archiving leaves on a message and from whether
a message that it may not see is there. -/
inductive Reply.Alike : Reply → Reply → Prop
  | same (reply : Reply) : Alike reply reply
  | messages {response other : GetMessagesResponse} (htext : response.text = other.text) :
      Alike (.messages response) (.messages other)
  | refused {err other : ApiError} (hforbidden : err.status = 403) (hmissing : other.status = 404) :
      Alike (.failed err) (.failed other)

/-- The task does the same. -/
inductive TaskPhase.Alike : TaskPhase → TaskPhase → Prop
  | same (phase : TaskPhase) : Alike phase phase
  | done {reply other : Reply} (halike : reply.Alike other) : Alike (.done reply) (.done other)

theorem text_fromMessage {first second : Message} (hsame : first.SameText second) :
    (MessageResponse.fromMessage first).text = (MessageResponse.fromMessage second).text := by
  obtain ⟨firstId, firstGroup, firstOrder, firstSender, firstMsg, firstNonce, firstVersion,
    firstCreated, firstUpdated, firstStatus, firstPatch, firstAttachments, firstSignature,
    firstKey⟩ := first
  obtain ⟨hidentity, hcontent⟩ := hsame
  injection hidentity with hid hgroup horder hsender hcreated
  injection hcontent with hmsg hnonce hversion hattachments hsignature hkey
  simp only at hid hgroup horder hsender hcreated hmsg hnonce hversion hattachments hsignature hkey
  subst hid hgroup horder hsender hcreated hmsg hnonce hversion hattachments hsignature hkey
  rfl

section Reads

variable {groupId : String} {whole part : InMemoryStorage} {auth : AuthContext}

theorem authorizedGroup_ne {other : String} (hgroup : auth.authorizedGroup = some groupId)
    (hother : other ≠ groupId) : auth.authorizedGroup ≠ some other := by
  rw [hgroup]
  exact fun heq ↦ hother (Option.some.inj heq).symm

/-- A caller of the group is answered alike from the whole storage and from that of the group. -/
theorem readReply_alike (hrestricts : whole.RestrictsTo groupId part)
    (hindexed : whole.NonceIndexed) (hown : part.NonceIndexed)
    (hgroup : auth.authorizedGroup = some groupId) (query : GetMessagesQuery)
    {listing : List Message} (hlisting : whole.messages.IterationOrder listing) :
    ∃ own, part.messages.IterationOrder own ∧ (Relayer.readReply auth query whole listing).Alike
      (Relayer.readReply auth query part own) := by
  obtain ⟨counterpart, hsame, hwalk⟩ :=
    InMemoryStorage.exists_listing hrestricts hindexed hown hlisting
  refine ⟨_, hwalk, ?_⟩
  obtain ⟨messageId, asked, afterOrder, beforeOrder, limit⟩ := query
  unfold Relayer.readReply
  cases messageId with
  | some messageId =>
    unfold getMessages InMemoryStorage.getMessage
    rcases hrestricts.lookup_cases messageId with ⟨hwhole, hpart⟩ |
      ⟨message, own, hwhole, hpart, hmine, htext⟩ | ⟨message, hwhole, hpart, hforeign⟩
    · simp only [hwhole, hpart]
      exact .same _
    · have hallowed : ¬ auth.authorizedGroup ≠ some message.groupId := by
        rw [hgroup, hmine]
        exact not_not_intro rfl
      simp only [hwhole, hpart]
      rw [← htext.groupId, if_neg hallowed, if_neg hallowed]
      exact .messages (congrArg GetMessagesResponse.single (text_fromMessage htext))
    · simp only [hwhole, hpart]
      rw [if_pos (authorizedGroup_ne hgroup hforeign)]
      exact .refused rfl rfl
  | none =>
    cases asked with
    | none => exact .same _
    | some asked =>
      by_cases hmine : asked = groupId
      · subst hmine
        rw [getMessages_list hgroup, getMessages_list hgroup,
          InMemoryStorage.getMessagesByGroup_map hsame, List.length_map]
        refine .messages ?_
        show GetMessagesResponse.list _ _ = GetMessagesResponse.list _ _
        congr 1
        rw [← List.map_take, List.map_map, List.map_map, List.map_map]
        refine List.map_congr_left fun message hmem ↦ ?_
        obtain ⟨hlisted, hmember, -⟩ :=
          InMemoryStorage.mem_getMessagesByGroup (List.mem_of_mem_take hmem)
        exact text_fromMessage (hsame message hlisted hmember)
      · unfold getMessages
        simp only [if_pos (authorizedGroup_ne hgroup hmine)]
        exact .same _

theorem updateMessageCheck_sameText (libs : Externals) (req : UpdateMessageRequest)
    {message own : Message} (hsame : message.SameText own) :
    updateMessageCheck libs auth req own = updateMessageCheck libs auth req message := by
  unfold updateMessageCheck checkOwnership
  rw [hsame.groupId, hsame.senderWalletAddr]

theorem deleteMessageCheck_sameText {message own : Message} (hsame : message.SameText own) :
    deleteMessageCheck auth own = deleteMessageCheck auth message := by
  unfold deleteMessageCheck checkOwnership
  rw [hsame.groupId, hsame.senderWalletAddr]

/-- The check of an update comes to the same in the storage of the group. -/
theorem updateCheck_alike {relayer : Relayer} (hrestricts : whole.RestrictsTo groupId part)
    (hgroup : auth.authorizedGroup = some groupId) (req : UpdateMessageRequest) :
    (relayer.updateCheck auth req whole).Alike (relayer.updateCheck auth req part) := by
  unfold Relayer.updateCheck InMemoryStorage.getMessage
  rcases hrestricts.lookup_cases req.messageId with ⟨hwhole, hpart⟩ |
    ⟨message, own, hwhole, hpart, -, htext⟩ | ⟨message, hwhole, hpart, hforeign⟩
  · rw [hwhole, hpart]
    exact .same _
  · rw [hwhole, hpart]
    simp only [updateMessageCheck_sameText relayer.libs req htext]
    exact .same _
  · have hcheck : updateMessageCheck relayer.libs auth req message =
        .error (.forbidden "Message does not belong to the authorized group") := by
      unfold updateMessageCheck checkOwnership
      rw [if_pos (authorizedGroup_ne hgroup hforeign)]
      rfl
    rw [hwhole, hpart]
    simp only [hcheck]
    exact .done (.refused rfl rfl)

/-- The check of a deletion comes to the same in the storage of the group. -/
theorem deleteCheck_alike (hrestricts : whole.RestrictsTo groupId part)
    (hgroup : auth.authorizedGroup = some groupId) (messageId : Uuid) :
    (Relayer.deleteCheck auth messageId whole).Alike
      (Relayer.deleteCheck auth messageId part) := by
  unfold Relayer.deleteCheck InMemoryStorage.getMessage
  rcases hrestricts.lookup_cases messageId with ⟨hwhole, hpart⟩ |
    ⟨message, own, hwhole, hpart, -, htext⟩ | ⟨message, hwhole, hpart, hforeign⟩
  · rw [hwhole, hpart]
    exact .same _
  · rw [hwhole, hpart]
    simp only [deleteMessageCheck_sameText htext]
    exact .same _
  · have hcheck : deleteMessageCheck auth message =
        .error (.forbidden "Message does not belong to the authorized group") := by
      unfold deleteMessageCheck checkOwnership
      rw [if_pos (authorizedGroup_ne hgroup hforeign)]
    rw [hwhole, hpart]
    simp only [hcheck]
    exact .done (.refused rfl rfl)

end Reads

/-! ### The group of a request -/

/-- The group that a request says it is for, where the middleware can read it. -/
def Request.group? (libs : Externals) (request : Request) : Option String :=
  match extractSigned libs request with
  | .error _ => none
  | .ok signed => some signed.groupId

theorem Request.group?_eq_of_ok {libs : Externals} {request : Request} {signed : Signed}
    (hsigned : extractSigned libs request = .ok signed) :
    request.group? libs = some signed.groupId := by
  rw [Request.group?, hsigned]

section Groups

variable {relayer : Relayer} {past : List Action} {before : System} {task : TaskId}
  {request : Request} {auth : AuthContext} {message : Message} {id : Uuid}
  {content : MessageContent}

/-- A request is authorized for the group that it says. -/
theorem AdmittedAs.authorizedGroup_eq {call : HandlerCall}
    (hadmitted : AdmittedAs relayer past task request auth call) :
    auth.authorizedGroup = request.group? relayer.libs := by
  obtain ⟨_, _, _, _, _, _, ⟨permission, signed, hauth⟩, -⟩ := hadmitted
  rw [Request.group?_eq_of_ok hauth.extract_eq, hauth.auth_eq]

/-- Assumes: a lawful JSON library. A message is built for the group of its request. -/
theorem BuiltFor.groupId_eq (hjson : relayer.libs.LawfulJson)
    (hbuilt : BuiltFor relayer past task request message) :
    request.group? relayer.libs = some message.groupId := by
  obtain ⟨auth, req, id, now, hadmitted, -, hprepare⟩ := hbuilt
  obtain ⟨content, -, rfl⟩ := createMessagePrepare_eq_ok hprepare
  rw [← hadmitted.authorizedGroup_eq]
  obtain ⟨_, _, _, _, _, _, ⟨permission, signed, hauth⟩, hrouted⟩ := hadmitted
  exact (hauth.create_claims hjson hrouted).1

theorem group_of_inserting (hjson : relayer.libs.LawfulJson) (hrun : relayer.run past = some before)
    (htask : before.tasks.lookup task = some ⟨request, .inserting message⟩) :
    request.group? relayer.libs = some message.groupId := by
  obtain ⟨built, order, hbuilt, rfl⟩ := backed_of_run hrun _ _ htask
  exact (hbuilt.groupId_eq hjson : _ = some built.groupId)

/-- A message that is about to be edited is of the group of the request. -/
theorem group_of_updating (hrun : relayer.run past = some before)
    (htask : before.tasks.lookup task = some ⟨request, .updating id content⟩) :
    ∃ stored, before.storage.messages.lookup id = some stored ∧
      request.group? relayer.libs = some stored.groupId := by
  obtain ⟨auth, req, hadmitted, -, -, stored, hlookup, hgroup, -⟩ := backed_of_run hrun _ _ htask
  exact ⟨stored, hlookup, hadmitted.authorizedGroup_eq.symm.trans hgroup⟩

/-- A message that is about to be removed is of the group of the request. -/
theorem group_of_deleting (hrun : relayer.run past = some before)
    (htask : before.tasks.lookup task = some ⟨request, .deleting id⟩) :
    ∃ stored, before.storage.messages.lookup id = some stored ∧
      request.group? relayer.libs = some stored.groupId := by
  obtain ⟨auth, hadmitted, stored, hlookup, hgroup, -⟩ := backed_of_run hrun _ _ htask
  exact ⟨stored, hlookup, hadmitted.authorizedGroup_eq.symm.trans hgroup⟩

end Groups

/-! ### The system of one group -/

/-- The second system is the first one with the requests and the storage of the group only. -/
structure System.RestrictsTo (mine : TaskId → Bool) (groupId : String) (whole part : System) :
    Prop where
  storage : whole.storage.RestrictsTo groupId part.storage
  membership : part.membership = whole.membership
  absent : ∀ task, mine task = true → whole.tasks.lookup task = none →
    part.tasks.lookup task = none
  served : ∀ task request phase, mine task = true →
    whole.tasks.lookup task = some ⟨request, phase⟩ →
      ∃ own, part.tasks.lookup task = some ⟨request, own⟩ ∧ phase.Alike own

/-- The action is a step of a request of the group, or an event of the chain. -/
def Action.concerns (mine : TaskId → Bool) (action : Action) : Bool :=
  match action.task? with
  | some task => mine task
  | none =>
    match action with
    | .suiEvent _ => true
    | _ => false

/-- The actions are the same, apart from the order in which a walk meets the messages. -/
inductive Action.Alike : Action → Action → Prop
  | same (action : Action) : Alike action action
  | read (task : TaskId) (listing own : List Message) :
      Alike (.read task listing) (.read task own)

/-- Where the step writes a nonce or an identifier for the group, no message of another group has
it. -/
def Unclashed (mine : TaskId → Bool) (groupId : String) (before : System) : Action → Prop
  | .insert task => mine task = true → ∀ request message,
      before.tasks.lookup task = some ⟨request, .inserting message⟩ →
        before.storage.IdUnclashed groupId message.id ∧
        before.storage.NonceUnclashed groupId message.nonce
  | .write task _ => mine task = true → ∀ request messageId content,
      before.tasks.lookup task = some ⟨request, .updating messageId content⟩ →
        before.storage.NonceUnclashed groupId content.nonce
  | _ => True

section Restriction

variable {relayer : Relayer} {mine : TaskId → Bool} {groupId : String}
  {whole part after : System} {past : List Action} {action : Action} {task : TaskId}
  {request : Request} {phase own : TaskPhase} {storage ownStorage : InMemoryStorage}

theorem System.RestrictsTo.withStorage (hrestricts : whole.RestrictsTo mine groupId part)
    (hstorage : storage.RestrictsTo groupId ownStorage) :
    ({ whole with storage := storage } : System).RestrictsTo mine groupId
      { part with storage := ownStorage } :=
  ⟨hstorage, hrestricts.membership, hrestricts.absent, hrestricts.served⟩

theorem System.RestrictsTo.withNotifications (hrestricts : whole.RestrictsTo mine groupId part)
    (notifications ownNotifications : Nat) :
    ({ whole with notifications := notifications } : System).RestrictsTo mine groupId
      { part with notifications := ownNotifications } :=
  ⟨hrestricts.storage, hrestricts.membership, hrestricts.absent, hrestricts.served⟩

theorem System.RestrictsTo.setTask (hrestricts : whole.RestrictsTo mine groupId part)
    (task : TaskId) (request : Request) (halike : phase.Alike own) :
    (whole.setTask task request phase).RestrictsTo mine groupId
      (part.setTask task request own) where
  storage := hrestricts.storage
  membership := hrestricts.membership
  absent other hmine hlookup := by
    by_cases hother : other = task
    · subst hother
      simp at hlookup
    · rw [System.lookup_setTask_of_ne _ _ _ _ hother] at hlookup ⊢
      exact hrestricts.absent other hmine hlookup
  served other found reached hmine hlookup := by
    by_cases hother : other = task
    · subst hother
      rw [System.lookup_setTask] at hlookup ⊢
      obtain ⟨rfl, rfl⟩ := Task.mk.inj (Option.some.inj hlookup)
      exact ⟨own, rfl, halike⟩
    · rw [System.lookup_setTask_of_ne _ _ _ _ hother] at hlookup ⊢
      exact hrestricts.served other found reached hmine hlookup

/-- A task of the group that has not answered yet is in one phase in both systems. -/
theorem System.RestrictsTo.lookup_eq (hrestricts : whole.RestrictsTo mine groupId part)
    (hmine : mine task = true) (hlookup : whole.tasks.lookup task = some ⟨request, phase⟩)
    (hopen : ∀ reply, phase ≠ .done reply) :
    part.tasks.lookup task = some ⟨request, phase⟩ := by
  obtain ⟨own, hown, halike⟩ := hrestricts.served task request phase hmine hlookup
  cases halike with
  | same => exact hown
  | @done reply other halike => exact absurd rfl (hopen reply)

/-- A storage call that both storages answer alike takes the task to one phase. -/
theorem afterStorage_of_map {result other : Except StorageError Message} {success : TaskPhase}
    (hsame : other.map (fun _ ↦ ()) = result.map (fun _ ↦ ())) :
    Relayer.afterStorage other (fun _ ↦ success) =
      Relayer.afterStorage result (fun _ ↦ success) := by
  cases result with
  | error err =>
    cases other with
    | error found => rw [Except.error.inj hsame]
    | ok message => simp [Except.map] at hsame
  | ok message =>
    cases other with
    | error err => simp [Except.map] at hsame
    | ok found => rfl

/-! ### Steps of others -/

/-- Assumes: a step that is not one of a request of the group. The storage of the group is the
same. -/
theorem restrictsTo_of_effect (hjson : relayer.libs.LawfulJson)
    (hpast : relayer.run past = some whole)
    (hforeign : ∀ task request phase, action.task? = some task →
      whole.tasks.lookup task = some ⟨request, phase⟩ →
        request.group? relayer.libs ≠ some groupId)
    (hstorage : StorageEffect whole action storage)
    (hrestricts : whole.storage.RestrictsTo groupId ownStorage) :
    storage.RestrictsTo groupId ownStorage := by
  refine hrestricts.of_keepsGroup ?_ fun id ↦ ?_
  · cases hstorage with
    | @ordered task request message htask =>
      have hgroup : groupId ≠ message.groupId := by
        rintro rfl
        have hbuilt : BuiltFor relayer past task request message := backed_of_run hpast _ _ htask
        exact hforeign task request _ rfl htask (hbuilt.groupId_eq hjson)
      exact Finmap.lookup_insert_of_ne _ hgroup
    | _ => rfl
  · have heffect := hstorage.messageEffect id
    generalize storage.messages.lookup id = found at heffect
    cases heffect with
    | unchanged => exact Or.inl rfl
    | @created task request message htask hid hlookup hnonce =>
      refine Or.inr (Or.inr ⟨fun other hother ↦ ?_, fun other hother ↦ ?_⟩)
      · simp [hlookup] at hother
      · obtain rfl := Option.some.inj hother
        rintro rfl
        exact hforeign task request _ rfl htask (group_of_inserting hjson hpast htask)
    | @edited task request content now stored htask hlookup hnonce =>
      obtain ⟨found, hfound, hgroup⟩ := group_of_updating hpast htask
      obtain rfl := Option.some.inj (hlookup.symm.trans hfound)
      have hother : stored.groupId ≠ groupId := by
        rintro rfl
        exact hforeign task request _ rfl htask hgroup
      refine Or.inr (Or.inr ⟨fun other hsame ↦ ?_, fun other hsame ↦ ?_⟩)
      · rwa [← Option.some.inj (hlookup.symm.trans hsame)]
      · rwa [← Option.some.inj hsame]
    | @deleted task request now stored htask hlookup =>
      obtain ⟨found, hfound, hgroup⟩ := group_of_deleting hpast htask
      obtain rfl := Option.some.inj (hlookup.symm.trans hfound)
      have hother : stored.groupId ≠ groupId := by
        rintro rfl
        exact hforeign task request _ rfl htask hgroup
      refine Or.inr (Or.inr ⟨fun other hsame ↦ ?_, fun other hsame ↦ ?_⟩)
      · rwa [← Option.some.inj (hlookup.symm.trans hsame)]
      · rwa [← Option.some.inj hsame]
    | archived hphase hid hpatch hlookup =>
      exact Or.inr (Or.inl ⟨_, _, hlookup, rfl, ⟨rfl, rfl⟩⟩)

/-- Assumes: `mine` tells the requests of the group. A step of the worker or of another request
leaves the system of the group as it is. -/
theorem restrictsTo_of_hidden (hjson : relayer.libs.LawfulJson)
    (hpast : relayer.run past = some whole)
    (hmine : ∀ task served, whole.tasks.lookup task = some served →
      (mine task = true ↔ served.request.group? relayer.libs = some groupId))
    (hrestricts : whole.RestrictsTo mine groupId part) (haction : action.concerns mine = false)
    (hstep : relayer.step whole action = some after) : after.RestrictsTo mine groupId part := by
  have hnot {task : TaskId} (hown : action.task? = some task) : mine task = false := by
    unfold Action.concerns at haction
    rw [hown] at haction
    exact haction
  have hforeign : ∀ task request phase, action.task? = some task →
      whole.tasks.lookup task = some ⟨request, phase⟩ →
        request.group? relayer.libs ≠ some groupId := by
    intro task request phase hown hlookup hgroup
    have htrue := (hmine task _ hlookup).mpr hgroup
    rw [hnot hown] at htrue
    exact Bool.false_ne_true htrue
  have hsame {task : TaskId} (htask : mine task = true) :
      after.tasks.lookup task = whole.tasks.lookup task := by
    refine lookup_of_step_of_ne hstep fun hown ↦ ?_
    rw [hnot hown] at htask
    exact Bool.false_ne_true htask
  have hbecomes : after.storage.RestrictsTo groupId part.storage ∧
      part.membership = after.membership := by
    cases transition_of_step hstep with
    | task hmove hstorage hqueue =>
      exact ⟨restrictsTo_of_effect hjson hpast hforeign hstorage hrestricts.storage,
        hrestricts.membership⟩
    | worker hmove hstorage hqueue =>
      exact ⟨restrictsTo_of_effect hjson hpast hforeign hstorage hrestricts.storage,
        hrestricts.membership⟩
    | event event => simp [Action.concerns, Action.task?] at haction
  refine ⟨hbecomes.1, hbecomes.2, fun task htask hnone ↦ ?_, ?_⟩
  · exact hrestricts.absent task htask ((hsame htask).symm.trans hnone)
  · intro task request phase htask hfound
    exact hrestricts.served task request phase htask ((hsame htask).symm.trans hfound)

/-! ### Steps of the group -/

/-- Assumes: `mine` tells the requests of the group, and no write of the group clashes with another
group. A step of a request of the group, or an event of the chain, is possible in the system of the
group too. -/
theorem restrictsTo_of_visible (hjson : relayer.libs.LawfulJson)
    (hpast : relayer.run past = some whole) (hpart : part.storage.NonceIndexed)
    (hmine : ∀ task served, whole.tasks.lookup task = some served →
      (mine task = true ↔ served.request.group? relayer.libs = some groupId))
    (hrestricts : whole.RestrictsTo mine groupId part)
    (hunclashed : Unclashed mine groupId whole action) (haction : action.concerns mine = true)
    (hstep : relayer.step whole action = some after) :
    ∃ own later, action.Alike own ∧ relayer.step part own = some later ∧
      after.RestrictsTo mine groupId later := by
  have hindexed := nonceIndexed_of_run hpast
  have hgroup {task : TaskId} {request : Request} {phase : TaskPhase} (htask : mine task = true)
      (hlookup : whole.tasks.lookup task = some ⟨request, phase⟩) :
      request.group? relayer.libs = some groupId := (hmine task _ hlookup).mp htask
  cases action with
  | arrive task request now =>
    have htask : mine task = true := haction
    simp only [Relayer.step] at hstep
    split at hstep
    · simp at hstep
    case h_2 hfresh =>
      obtain rfl := Option.some.inj hstep
      refine ⟨_, part.setTask task request (relayer.admission part.membership now request),
        .same _, ?_, ?_⟩
      · simp only [Relayer.step, hrestricts.absent task htask hfresh]
      · rw [hrestricts.membership]
        exact hrestricts.setTask task request (.same _)
  | prepare task id now =>
    have htask : mine task = true := haction
    simp only [Relayer.step] at hstep
    split at hstep
    case h_1 request auth req hlookup =>
      obtain rfl := Option.some.inj hstep
      have hown := hrestricts.lookup_eq htask hlookup (by simp)
      refine ⟨_, part.setTask task request (relayer.preparation auth req id now), .same _, ?_,
        hrestricts.setTask task request (.same _)⟩
      simp only [Relayer.step, hown]
    · simp at hstep
  | takeOrder task =>
    have htask : mine task = true := haction
    simp only [Relayer.step] at hstep
    split at hstep
    case h_1 request message hlookup =>
      obtain rfl := Option.some.inj hstep
      have hown := hrestricts.lookup_eq htask hlookup (by simp)
      have hbuilt : BuiltFor relayer past task request message := backed_of_run hpast _ _ hlookup
      obtain rfl : message.groupId = groupId :=
        Option.some.inj ((hbuilt.groupId_eq hjson).symm.trans (hgroup htask hlookup))
      obtain ⟨horder, hstorage⟩ := InMemoryStorage.restrictsTo_nextOrder hrestricts.storage
      refine ⟨_, { part with storage := (part.storage.nextOrder message.groupId).2 }.setTask task
        request (.inserting (message.setOrder (part.storage.nextOrder message.groupId).1)),
        .same _, ?_, ?_⟩
      · simp only [Relayer.step, hown]
      · rw [horder]
        exact (hrestricts.withStorage hstorage).setTask task request (.same _)
    · simp at hstep
  | insert task =>
    have htask : mine task = true := haction
    simp only [Relayer.step] at hstep
    split at hstep
    case h_1 request message hlookup =>
      obtain rfl := Option.some.inj hstep
      have hown := hrestricts.lookup_eq htask hlookup (by simp)
      obtain rfl : message.groupId = groupId := Option.some.inj
        ((group_of_inserting hjson hpast hlookup).symm.trans (hgroup htask hlookup))
      obtain ⟨hid, hnonce⟩ := hunclashed htask request message hlookup
      obtain ⟨hresult, hstorage⟩ := InMemoryStorage.restrictsTo_insertMessage hrestricts.storage
        hindexed hpart rfl hid hnonce
      refine ⟨_, _, .same _, step_insert hown, ?_⟩
      rw [hresult]
      exact (hrestricts.withStorage hstorage).setTask task request (.same _)
    · simp at hstep
  | notify task =>
    have htask : mine task = true := haction
    simp only [Relayer.step] at hstep
    split at hstep
    case h_1 request messageId hlookup =>
      obtain rfl := Option.some.inj hstep
      have hown := hrestricts.lookup_eq htask hlookup (by simp)
      refine ⟨_, { part with notifications := part.notifications + 1 }.setTask task request
        (.respondingCreate messageId), .same _, ?_,
        (hrestricts.withNotifications _ _).setTask task request (.same _)⟩
      simp only [Relayer.step, hown]
    · simp at hstep
  | respond task now =>
    have htask : mine task = true := haction
    simp only [Relayer.step] at hstep
    split at hstep
    case h_1 request messageId hlookup =>
      obtain rfl := Option.some.inj hstep
      have hown := hrestricts.lookup_eq htask hlookup (by simp)
      refine ⟨_, part.setTask task request (.done (relayer.createReply messageId now)), .same _, ?_,
        hrestricts.setTask task request (.same _)⟩
      simp only [Relayer.step, hown]
    case h_2 request hlookup =>
      obtain rfl := Option.some.inj hstep
      have hown := hrestricts.lookup_eq htask hlookup (by simp)
      refine ⟨_, part.setTask task request (.done (relayer.updateReply now)), .same _, ?_,
        hrestricts.setTask task request (.same _)⟩
      simp only [Relayer.step, hown]
    · simp at hstep
  | fetch task =>
    have htask : mine task = true := haction
    simp only [Relayer.step] at hstep
    split at hstep
    case h_1 request auth req hlookup =>
      obtain rfl := Option.some.inj hstep
      have hown := hrestricts.lookup_eq htask hlookup (by simp)
      obtain ⟨found, hadmitted⟩ := backed_of_run hpast _ _ hlookup
      obtain rfl := hadmitted.update_auth
      refine ⟨_, part.setTask task request (relayer.updateCheck found req part.storage), .same _,
        ?_, hrestricts.setTask task request (updateCheck_alike hrestricts.storage
          (hadmitted.authorizedGroup_eq.trans (hgroup htask hlookup)) req)⟩
      simp only [Relayer.step, hown]
    case h_2 request auth messageId hlookup =>
      obtain rfl := Option.some.inj hstep
      have hown := hrestricts.lookup_eq htask hlookup (by simp)
      obtain ⟨found, hadmitted⟩ := backed_of_run hpast _ _ hlookup
      obtain rfl := hadmitted.delete_auth
      refine ⟨_, part.setTask task request (Relayer.deleteCheck found messageId part.storage),
        .same _, ?_, hrestricts.setTask task request (deleteCheck_alike hrestricts.storage
          (hadmitted.authorizedGroup_eq.trans (hgroup htask hlookup)) messageId)⟩
      simp only [Relayer.step, hown]
    · simp at hstep
  | write task now =>
    have htask : mine task = true := haction
    simp only [Relayer.step] at hstep
    split at hstep
    case h_1 request messageId content hlookup =>
      obtain rfl := Option.some.inj hstep
      have hown := hrestricts.lookup_eq htask hlookup (by simp)
      obtain ⟨stored, hstored, hmember⟩ := group_of_updating hpast hlookup
      obtain rfl : stored.groupId = groupId :=
        Option.some.inj (hmember.symm.trans (hgroup htask hlookup))
      obtain ⟨hresult, hstorage⟩ := InMemoryStorage.restrictsTo_updateMessage hrestricts.storage
        hindexed hpart now hstored rfl (hunclashed htask request messageId content hlookup)
      refine ⟨_, _, .same _, step_update now hown, ?_⟩
      rw [afterStorage_of_map hresult]
      exact (hrestricts.withStorage hstorage).setTask task request (.same _)
    case h_2 request messageId hlookup =>
      obtain rfl := Option.some.inj hstep
      have hown := hrestricts.lookup_eq htask hlookup (by simp)
      obtain ⟨stored, hstored, hmember⟩ := group_of_deleting hpast hlookup
      obtain rfl : stored.groupId = groupId :=
        Option.some.inj (hmember.symm.trans (hgroup htask hlookup))
      obtain ⟨hresult, hstorage⟩ :=
        InMemoryStorage.restrictsTo_deleteMessage hrestricts.storage now hstored rfl
      refine ⟨_, _, .same _, step_delete now hown, ?_⟩
      rw [afterStorage_of_map hresult]
      exact (hrestricts.withStorage hstorage).setTask task request (.same _)
    · simp at hstep
  | read task listing =>
    have htask : mine task = true := haction
    simp only [Relayer.step] at hstep
    split at hstep
    case h_1 request auth query hlookup =>
      split_ifs at hstep with hlisting
      obtain rfl := Option.some.inj hstep
      have hown := hrestricts.lookup_eq htask hlookup (by simp)
      obtain ⟨found, hadmitted⟩ := backed_of_run hpast _ _ hlookup
      obtain rfl := hadmitted.read_auth
      obtain ⟨walk, hwalk, halike⟩ := readReply_alike hrestricts.storage hindexed hpart
        (hadmitted.authorizedGroup_eq.trans (hgroup htask hlookup)) query hlisting
      refine ⟨.read task walk, part.setTask task request
        (.done (Relayer.readReply found query part.storage walk)), .read task listing walk, ?_,
        hrestricts.setTask task request (.done halike)⟩
      simp only [Relayer.step, hown, if_pos hwalk]
    · simp at hstep
  | suiEvent event =>
    obtain rfl := Option.some.inj hstep
    refine ⟨.suiEvent event, _, .same _, rfl, hrestricts.storage, ?_, hrestricts.absent,
      hrestricts.served⟩
    show MembershipSyncService.processEvent _ _ part.membership event = _
    rw [hrestricts.membership]
  | _ => simp [Action.concerns, Action.task?] at haction

/-- Assumes: `mine` tells the requests of the group, and no write of the group meets a nonce or an
identifier that another group has. The steps of these requests and the events of the chain, and
nothing else, make a run. It ends with the same messages of the group, apart from what archiving
leaves on them, and with every request of the group in the same phase, or answered alike. -/
theorem groups_isolated {actions : List Action} {reached : System}
    (hjson : relayer.libs.LawfulJson)
    (hmine : ∀ task request now, Action.arrive task request now ∈ actions →
      (mine task = true ↔ request.group? relayer.libs = some groupId))
    (hunclashed : EveryStep relayer.step (Unclashed mine groupId) .init actions)
    (hrun : relayer.run actions = some reached) :
    ∃ own part, List.Forall₂ Action.Alike (actions.filter (Action.concerns mine)) own ∧
      relayer.run own = some part ∧ reached.RestrictsTo mine groupId part := by
  have hstart : System.init.RestrictsTo mine groupId .init :=
    ⟨InMemoryStorage.restrictsTo_new, rfl, fun _ _ hlookup ↦ hlookup,
      fun task request phase _ hlookup ↦ by simp [System.init] at hlookup⟩
  -- The tasks of a state are told apart because their requests are among those of the run.
  have htold : EveryStep relayer.step (fun before _ ↦ ∀ task served,
      before.tasks.lookup task = some served →
        (mine task = true ↔ served.request.group? relayer.libs = some groupId)) .init actions := by
    intro past action rest before hsplit hpast task served hlookup
    obtain ⟨now, hmem⟩ := arrived_of_run hpast hlookup
    refine hmine task served.request now ?_
    rw [hsplit]
    exact List.mem_append_left _ hmem
  have hevery : EveryStep relayer.step (fun before action ↦
      (∀ task served, before.tasks.lookup task = some served →
        (mine task = true ↔ served.request.group? relayer.libs = some groupId)) ∧
      Unclashed mine groupId before action) .init actions :=
    fun past action rest before hsplit hpast ↦
      ⟨htold past action rest before hsplit hpast, hunclashed past action rest before hsplit hpast⟩
  refine run_of_unwinding (Action.concerns mine) Action.Alike
    (fun whole part ↦ whole.RestrictsTo mine groupId part) hstart ?_ ?_ hevery hrun
  · intro past before action after part hpast hrestricts hcond haction hstep
    exact restrictsTo_of_hidden hjson hpast hcond.1 hrestricts haction hstep
  · intro past before action after past' part hpast hpart hrestricts hcond haction hstep
    exact restrictsTo_of_visible hjson hpast (nonceIndexed_of_run hpart) hcond.1 hrestricts hcond.2
      haction hstep

end Restriction

/-! ### One client's group -/

section Sample

/-- The request of the client's post. -/
def isFirst (task : TaskId) : Bool :=
  task == 0

/-- The action inserts or changes a message. -/
def Action.mayWrite : Action → Bool
  | .insert _ => true
  | .write _ _ => true
  | _ => false

theorem group?_postRequest :
    postRequest.group? sampleLibs = some (hexAddress sampleGroup) := by
  have hfields : BodyAuthFields.fromJson (samplePost.toJson sampleTimestamp) =
      .ok ⟨hexAddress sampleGroup, hexAddress sampleAddress, sampleTimestamp⟩ :=
    samplePost.bodyAuth_toJson (by decide)
  unfold postRequest
  rw [Request.group?_eq_of_ok (sampleSigner.extractSigned_bodyRequest
    (ne_nil_of_head? head?_postBody) jsonFromSlice_postBody hfields)]

/-- Before its one insertion the run has stored nothing. -/
theorem lookup_eq_none_of_mayWrite {past rest : List Action} {action : Action} {before : System}
    (hsplit : samplePosting ++ sampleSnapshot ++ sampleUpload = past ++ action :: rest)
    (hwrites : action.mayWrite = true) (hpast : sampleRelayer.run past = some before) (id : Uuid) :
    before.storage.messages.lookup id = none := by
  have hcount : (past ++ action :: rest).countP Action.mayWrite = 1 := by
    rw [← hsplit]
    rfl
  rw [List.countP_append, List.countP_cons_of_pos hwrites] at hcount
  have hnone : past.countP Action.mayWrite = 0 := by omega
  rw [Option.eq_none_iff_forall_ne_some]
  intro message hlookup
  obtain ⟨first, task, later, -, -, -, rfl, -⟩ := inserted_of_run hpast hlookup
  exact List.countP_eq_zero.mp hnone (.insert task)
    (List.mem_append_right _ List.mem_cons_self) rfl

/-- Without the worker the client's post is stored just as well. -/
theorem groups_isolated_sampleUpload : ∃ own part message, own.length = 8 ∧
    sampleRelayer.run own = some part ∧
    part.storage.messages.lookup sampleMessageId = some message ∧
    sampleMessage.SameText message := by
  have hmine : ∀ task request now,
      Action.arrive task request now ∈ samplePosting ++ sampleSnapshot ++ sampleUpload →
        (isFirst task = true ↔
          request.group? sampleRelayer.libs = some (hexAddress sampleGroup)) := by
    intro task request now hmem
    simp only [samplePosting, sampleStart, serveCreate, sampleSnapshot, sampleUpload,
      List.mem_append, List.mem_cons, Action.arrive.injEq, reduceCtorEq, List.not_mem_nil,
      or_false, false_or] at hmem
    obtain ⟨rfl, rfl, -⟩ := hmem
    exact iff_of_true rfl group?_postRequest
  have hunclashed : EveryStep sampleRelayer.step (Unclashed isFirst (hexAddress sampleGroup)) .init
      (samplePosting ++ sampleSnapshot ++ sampleUpload) := by
    intro past action rest before hsplit hpast
    cases action with
    | insert task =>
      have hempty := lookup_eq_none_of_mayWrite hsplit rfl hpast
      refine fun _ request message _ ↦ ⟨fun other hother ↦ ?_, fun id other hother ↦ ?_⟩
      · simp [hempty] at hother
      · simp [hempty] at hother
    | write task now =>
      have hempty := lookup_eq_none_of_mayWrite hsplit rfl hpast
      intro _ request messageId content _ id other hother
      simp [hempty] at hother
    | _ => exact trivial
  obtain ⟨own, part, halike, hpart, hrestricts⟩ :=
    groups_isolated lawfulJson_sampleLibs hmine hunclashed run_sampleUpload
  obtain ⟨message, hmessage, hsame⟩ :=
    hrestricts.storage.kept sampleMessageId sampleMessage lookup_samplePostedStorage rfl
  exact ⟨own, part, message, halike.length_eq.symm, hpart, hmessage, hsame⟩

end Sample

end MessagingRelayer
