import MessagingRelayer.System.Serving
import MessagingRelayer.System.Writes

/-!
# Replays

A captured request can be submitted again while its timestamp is inside the window, and what it
then does depends on the set of nonces alone. A replay carries the content of the original
(`Carries.unique`), so a second post is refused exactly while the nonce of the content is in use,
and a second edit does nothing exactly while its message has the content or another message has the
nonce (`replay_effect_iff`). An edit takes the old nonce of its message out of use, and that is
when the request that wrote it can be replayed.
-/

set_option autoImplicit false
set_option relaxedAutoImplicit false

namespace MessagingRelayer

open Foundation

/-! ### What a request carries -/

/-- The request submits again what the original submitted: the same method, body, signature and
key. -/
structure ReplayOf (original request : Request) : Prop where
  method_eq : request.method = original.method
  body_eq : request.body = original.body
  signature_eq : request.headers.lookup "x-signature" = original.headers.lookup "x-signature"
  key_eq : request.headers.lookup "x-public-key" = original.headers.lookup "x-public-key"

section Carries

variable {relayer : Relayer} {past later : List Action} {task again : TaskId}
  {original request : Request} {auth other : AuthContext} {call repeated : HandlerCall}

/-- The key of an admitted request is the one in its header. -/
theorem AdmittedAs.presentedKey_eq (hadmitted : AdmittedAs relayer past task request auth call) :
    ∃ publicKeyHex, getHeader request.headers "x-public-key" = some publicKeyHex ∧
      presentedKey publicKeyHex = .ok (auth.scheme, auth.publicKey) := by
  obtain ⟨_, _, _, _, _, _, ⟨permission, signed, hpassed⟩, _⟩ := hadmitted
  obtain ⟨-, publicKeyHex, -, -, hheader, hkey, -⟩ := extractSigned_eq_ok hpassed.extract_eq
  rw [hpassed.auth_eq]
  exact ⟨publicKeyHex, hheader, hkey⟩

/-- A replay presents the key of the original. -/
theorem AdmittedAs.key_eq_of_replay (hadmitted : AdmittedAs relayer past task original auth call)
    (hrepeated : AdmittedAs relayer later again request other repeated)
    (hreplay : ReplayOf original request) :
    auth.scheme = other.scheme ∧ auth.publicKey = other.publicKey := by
  obtain ⟨first, hfirst, hkey⟩ := hadmitted.presentedKey_eq
  obtain ⟨second, hsecond, hsame⟩ := hrepeated.presentedKey_eq
  have hheader : getHeader request.headers "x-public-key" =
      getHeader original.headers "x-public-key" := by
    unfold getHeader
    rw [hreplay.key_eq]
  rw [hheader, hfirst] at hsecond
  obtain rfl := Option.some.inj hsecond
  exact Prod.mk.inj (Except.ok.inj (hkey.symm.trans hsame))

/-- What is decoded depends on the key of the context alone. -/
theorem decodeContent_congr {libs : Externals} (hscheme : auth.scheme = other.scheme)
    (hkey : auth.publicKey = other.publicKey)
    (groupId encryptedText nonceText messageSignature : String) (keyVersion : Int)
    (attachmentRequests : List AttachmentRequest) :
    decodeContent libs auth groupId encryptedText nonceText keyVersion messageSignature
        attachmentRequests =
      decodeContent libs other groupId encryptedText nonceText keyVersion messageSignature
        attachmentRequests := by
  unfold decodeContent verifyMessageSignature AuthContext.publicKeyWithFlag
  rw [hscheme, hkey]

/-- A replay carries what the original carried. -/
theorem Carries.unique {target aim : Option Uuid} {content copied : MessageContent}
    (hcarries : Carries relayer past task original target content)
    (hcopies : Carries relayer later again request aim copied)
    (hreplay : ReplayOf original request) : target = aim ∧ content = copied := by
  cases hcarries with
  | create hadmitted hcontent =>
    cases hcopies with
    | create hrepeated hcopied =>
      have hsame := hadmitted.routed.createMessage_of_body hrepeated.routed hreplay.method_eq.symm
        hreplay.body_eq.symm
      obtain ⟨-, rfl⟩ := HandlerCall.createMessage.inj hsame
      obtain ⟨hscheme, hkey⟩ := hadmitted.key_eq_of_replay hrepeated hreplay
      rw [decodeContent_congr hscheme hkey] at hcontent
      exact ⟨rfl, Except.ok.inj (hcontent.symm.trans hcopied)⟩
    | update hrepeated hcopied =>
      have hsame := hadmitted.routed.createMessage_of_body hrepeated.routed hreplay.method_eq.symm
        hreplay.body_eq.symm
      simp at hsame
  | update hadmitted hcontent =>
    cases hcopies with
    | create hrepeated hcopied =>
      have hsame := hadmitted.routed.updateMessage_of_body hrepeated.routed hreplay.method_eq.symm
        hreplay.body_eq.symm
      simp at hsame
    | update hrepeated hcopied =>
      have hsame := hadmitted.routed.updateMessage_of_body hrepeated.routed hreplay.method_eq.symm
        hreplay.body_eq.symm
      obtain ⟨-, rfl⟩ := HandlerCall.updateMessage.inj hsame
      obtain ⟨hscheme, hkey⟩ := hadmitted.key_eq_of_replay hrepeated hreplay
      rw [decodeContent_congr hscheme hkey] at hcontent
      exact ⟨rfl, Except.ok.inj (hcontent.symm.trans hcopied)⟩

end Carries

/-! ### The effect of a replay -/

/-- The same messages are stored, with the same contents. -/
def SameContents (storage later : InMemoryStorage) : Prop :=
  ∀ id, (later.messages.lookup id).map Message.content =
    (storage.messages.lookup id).map Message.content

/-- The task that takes a step. -/
def Action.task? : Action → Option TaskId
  | arrive task _ _ => some task
  | prepare task _ _ => some task
  | takeOrder task => some task
  | insert task => some task
  | notify task => some task
  | respond task _ => some task
  | fetch task => some task
  | write task _ => some task
  | read task _ => some task
  | _ => none

/-- The step of a task whose request carries what was written to a message is not the one that
writes it again. An insertion does not: the nonce is in use, or the identifier drawn is. A write
does not: the message has the content, or another message has its nonce. -/
def Spent (before : System) (request : Request) (id : Uuid) (content : MessageContent) :
    Action → Prop
  | .insert task => content.nonce ∈ before.storage.nonces ∨ ∃ message,
      before.tasks.lookup task = some ⟨request, .inserting message⟩ ∧
        before.storage.messages.lookup message.id ≠ none
  | .write _ _ => ∃ stored, before.storage.messages.lookup id = some stored ∧
      (stored.content = content ∨
        stored.nonce ≠ content.nonce ∧ content.nonce ∈ before.storage.nonces)
  | _ => True

section Effect

variable {relayer : Relayer} {past : List Action} {action : Action} {before after : System}
  {task : TaskId} {original request : Request} {id : Uuid} {content : MessageContent}
  {message : Message} {phase : TaskPhase}

theorem SameContents.of_eq {storage later : InMemoryStorage}
    (hsame : later.messages = storage.messages) : SameContents storage later := by
  intro id
  rw [hsame]

/-- An insertion leaves the contents as they are exactly when it is refused. -/
theorem sameContents_insertMessage (storage : InMemoryStorage) (message : Message) :
    SameContents storage (storage.insertMessage message).2 ↔
      message.nonce ∈ storage.nonces ∨ storage.messages.lookup message.id ≠ none := by
  rcases storage.insertMessage_cases message with ⟨err, hresult, hrefused⟩ | ⟨hid, hnonce, hresult⟩
  · rw [hresult]
    refine ⟨fun _ ↦ ?_, fun _ ↦ SameContents.of_eq rfl⟩
    rcases hrefused with htaken | hused
    · exact Or.inr (Option.isSome_iff_ne_none.mp htaken)
    · exact Or.inl hused
  · rw [hresult]
    constructor
    · intro hsame
      have hfound := hsame message.id
      rw [hid, HashMap.lookup_insert_eq, if_pos rfl] at hfound
      simp at hfound
    · rintro (hused | htaken)
      · exact absurd hused hnonce
      · exact absurd hid htaken

/-- Assumes: the message is stored. An update leaves the contents as they are exactly when the
message has the content already or the nonce is another message's. -/
theorem sameContents_updateMessage {storage : InMemoryStorage} {stored : Message}
    (hlookup : storage.messages.lookup id = some stored) (content : MessageContent)
    (now : DateTime) :
    SameContents storage (storage.updateMessage id content now).2 ↔
      stored.content = content ∨ stored.nonce ≠ content.nonce ∧ content.nonce ∈ storage.nonces := by
  by_cases hrefused : stored.nonce ≠ content.nonce ∧ content.nonce ∈ storage.nonces
  · have hresult : (storage.updateMessage id content now).2 = storage := by
      simp only [InMemoryStorage.updateMessage, hlookup]
      rw [if_pos hrefused]
    rw [hresult]
    exact ⟨fun _ ↦ Or.inr hrefused, fun _ ↦ SameContents.of_eq rfl⟩
  · have hnonce : stored.nonce = content.nonce ∨ content.nonce ∉ storage.nonces := by
      rw [not_and_or, not_not] at hrefused
      exact hrefused
    have hresult : (storage.updateMessage id content now).2.messages =
        storage.messages.insert id (stored.updateContent content now) := by
      rw [InMemoryStorage.updateMessage_eq_ok content now hlookup hnonce]
    constructor
    · intro hsame
      have hfound := hsame id
      rw [hresult, HashMap.lookup_insert_eq, if_pos rfl, hlookup] at hfound
      exact Or.inl (Option.some.inj hfound).symm
    · rintro (hcontent | hused)
      · intro other
        rw [hresult, HashMap.lookup_insert_eq]
        by_cases hother : other = id
        · rw [if_pos hother, hother, hlookup]
          exact congrArg some hcontent.symm
        · rw [if_neg hother]
      · exact absurd hused hrefused

/-- Every step but an insertion and a write leaves the contents as they are. -/
theorem sameContents_of_step (hstep : relayer.step before action = some after)
    (hinsert : ∀ task, action ≠ .insert task) (hwrite : ∀ task now, action ≠ .write task now) :
    SameContents before.storage after.storage := by
  intro id
  have heffect := messageEffect_of_step hstep id
  generalize after.storage.messages.lookup id = found at heffect
  cases heffect with
  | unchanged => rfl
  | created htask => exact absurd rfl (hinsert _)
  | edited htask => exact absurd rfl (hwrite _ _)
  | deleted htask => exact absurd rfl (hwrite _ _)
  | archived hphase hid hpatch hstored =>
    rw [hstored]
    rfl

/-- A replay of a create or update request is no delete request. -/
theorem not_deleting_of_replay {target : Option Uuid} {first : List Action} {served : TaskId}
    (hcarries : Carries relayer first served original target content)
    (hreplay : ReplayOf original request) (hrun : relayer.run past = some before) {aim : Uuid} :
    before.tasks.lookup task ≠ some ⟨request, .deleting aim⟩ := by
  intro htask
  obtain ⟨auth, hadmitted, -⟩ := backed_of_run hrun _ _ htask
  cases hadmitted.routed with
  | deleteMessage hdelete =>
    rw [hreplay.method_eq] at hdelete
    cases hcarries with
    | create horiginal hcontent =>
      cases horiginal.routed with
      | createMessage hpost => simp [hdelete] at hpost
    | update horiginal hcontent =>
      cases horiginal.routed with
      | updateMessage hput => simp [hdelete] at hput

/-- A message with the content spends the request that carries it. -/
theorem spent_of_content (hindexed : before.storage.NonceIndexed) {stored : Message}
    (hlookup : before.storage.messages.lookup id = some stored)
    (hcontent : stored.content = content) :
    Spent before request id content action := by
  cases action with
  | insert task =>
    exact Or.inl ((hindexed.indexed _).mpr
      ⟨id, stored, hlookup, congrArg MessageContent.nonce hcontent⟩)
  | write task now => exact ⟨stored, hlookup, Or.inl hcontent⟩
  | _ => trivial

/-- A content was written to a message by an accepted create or update request, and the request is
submitted again. Every step of the replay leaves all messages with their contents exactly when it is
spent; and it is, as long as the message has the content. -/
theorem replay_effect_iff (hrun : relayer.run past = some before)
    (hwritten : Happened relayer.step .init past (Writes original id content))
    (hreplay : ReplayOf original request)
    (htask : before.tasks.lookup task = some ⟨request, phase⟩) (haction : action.task? = some task)
    (hstep : relayer.step before action = some after) :
    (SameContents before.storage after.storage ↔ Spent before request id content action) ∧
      ((∃ stored, before.storage.messages.lookup id = some stored ∧ stored.content = content) →
        SameContents before.storage after.storage) := by
  obtain ⟨first, earlier, rest, reached, -, hfirst, hwrites⟩ := hwritten
  obtain ⟨served, hcarries⟩ := carries_of_writes hfirst hwrites
  have hiff : SameContents before.storage after.storage ↔
      Spent before request id content action := by
    have hquiet : (∀ task, action ≠ .insert task) → (∀ task now, action ≠ .write task now) →
        SameContents before.storage after.storage := sameContents_of_step hstep
    cases action with
    | insert inserting =>
      obtain rfl : inserting = task := by simpa [Action.task?] using haction
      simp only [Relayer.step, htask] at hstep
      split at hstep
      case h_1 again message hphase =>
        obtain ⟨rfl, rfl⟩ : request = again ∧ phase = .inserting message := by simpa using hphase
        have hafter : after.storage = (before.storage.insertMessage message).2 := by
          rw [← Option.some.inj hstep]
          rfl
        have hcontent : content = message.content := by
          have hcopies := carries_of_inserting hrun htask
          rcases hcarries with hnew | hnamed
          · exact (hnew.unique hcopies hreplay).2
          · exact (hnamed.unique hcopies hreplay).2
        rw [hafter, sameContents_insertMessage, hcontent]
        refine or_congr_right ⟨fun htaken ↦ ⟨message, htask, htaken⟩, ?_⟩
        rintro ⟨found, hfound, htaken⟩
        obtain rfl : message = found := by simpa [htask] using hfound
        exact htaken
      · simp at hstep
    | write writing now =>
      obtain rfl : writing = task := by simpa [Action.task?] using haction
      simp only [Relayer.step, htask] at hstep
      split at hstep
      case h_1 again aim copied hphase =>
        obtain ⟨rfl, rfl⟩ : request = again ∧ phase = .updating aim copied := by simpa using hphase
        have hafter : after.storage = (before.storage.updateMessage aim copied now).2 := by
          rw [← Option.some.inj hstep]
          rfl
        obtain ⟨-, -, -, -, -, stored, hstored, -⟩ := backed_of_run hrun _ _ htask
        have hcopies := carries_of_updating hrun htask
        obtain ⟨rfl, rfl⟩ : id = aim ∧ content = copied := by
          rcases hcarries with hnew | hnamed
          · exact absurd (hnew.unique hcopies hreplay).1 (by simp)
          · obtain ⟨haim, hcontent⟩ := hnamed.unique hcopies hreplay
            exact ⟨Option.some.inj haim, hcontent⟩
        rw [hafter, sameContents_updateMessage hstored]
        refine ⟨fun hspent ↦ ⟨stored, hstored, hspent⟩, ?_⟩
        rintro ⟨found, hfound, hspent⟩
        obtain rfl := Option.some.inj (hstored.symm.trans hfound)
        exact hspent
      case h_2 again aim hphase =>
        rw [hphase] at htask
        obtain ⟨rfl, -⟩ : request = again ∧ phase = .deleting aim := by simpa using hphase
        rcases hcarries with hnew | hnamed
        · exact absurd htask (not_deleting_of_replay hnew hreplay hrun)
        · exact absurd htask (not_deleting_of_replay hnamed hreplay hrun)
      · simp at hstep
    | _ => exact ⟨fun _ ↦ trivial, fun _ ↦ hquiet (by simp) (by simp)⟩
  refine ⟨hiff, ?_⟩
  rintro ⟨stored, hlookup, hcontent⟩
  exact hiff.mpr (spent_of_content (nonceIndexed_of_run hrun) hlookup hcontent)

end Effect

/-! ### A post, an edit, and the post again -/

/-- Assumes: an accepted create request, whose message the storage takes. Served without
interruption it writes its content to the message. -/
theorem happened_serveCreate {relayer : Relayer} {past : List Action} {system : System}
    {task : TaskId} {request : Request} {auth : AuthContext} {admitted built responded : DateTime}
    {req : CreateMessageRequest} {id : Uuid} {message created : Message}
    (hpast : relayer.run past = some system) (hfresh : system.tasks.lookup task = none)
    (hadmission : relayer.admission system.membership admitted request =
      .calling (.createMessage auth req))
    (hprepare : createMessagePrepare relayer.libs auth req id built = .ok message)
    (hstored : (system.storage.createMessage message).1 = .ok created) :
    Happened relayer.step .init (past ++ serveCreate task request id admitted built responded)
      (Writes request message.id message.content) := by
  have hordered : relayer.run (past ++ [Action.arrive task request admitted, .prepare task id built,
      .takeOrder task]) = some ({ system with
        storage := (system.storage.nextOrder message.groupId).2 }.setTask task request
          (.inserting (message.setOrder (system.storage.nextOrder message.groupId).1))) :=
    runFrom_append_eq_some.mpr ⟨_, hpast, runFrom_orderCreate hfresh hadmission hprepare⟩
  refine ⟨past ++ [Action.arrive task request admitted, .prepare task id built, .takeOrder task],
    .insert task, [.notify task, .respond task responded], _, ?_, hordered, Or.inl ?_⟩
  · simp [serveCreate]
  · exact ⟨task, _, created, rfl, System.lookup_setTask _ _ _ _, rfl, rfl, hstored⟩

theorem happened_samplePosting : Happened sampleRelayer.step .init samplePosting
    (Writes postRequest sampleMessageId sampleContent) := by
  have hstored : (InMemoryStorage.new.createMessage (postedMessage sampleMessageId 1)).1 =
      .ok sampleMessage := rfl
  exact happened_serveCreate run_sampleStart (tasks_sampleStart 0)
    (admission_postRequest (by decide)) (createMessagePrepare_samplePost sampleMessageId 1) hstored

/-- The client's post is submitted again, up to its insertion. -/
def resubmission : List Action :=
  [.arrive 2 postRequest (sampleClock 6), .prepare 2 otherMessageId (sampleClock 7), .takeOrder 2]

/-- The second message with its order number. -/
def repostedMessage : Message :=
  (postedMessage otherMessageId 7).setOrder 2

theorem replayOf_refl (request : Request) : ReplayOf request request :=
  ⟨rfl, rfl, rfl, rfl⟩

/-- The post can be submitted again after whatever happened to the storage, as long as the client
has its permission and its group has one order number. -/
theorem runFrom_resubmission {system : System} (hmembership : system.membership = sampleMembership)
    (hfresh : system.tasks.lookup 2 = none)
    (horders : system.storage.groupOrders = samplePostedStorage.groupOrders) :
    runFrom sampleRelayer.step system resubmission =
      some ({ system with
        storage := (system.storage.nextOrder (hexAddress sampleGroup)).2 }.setTask 2 postRequest
          (.inserting repostedMessage)) := by
  have hadmission : sampleRelayer.admission system.membership (sampleClock 6) postRequest =
      .calling (.createMessage sampleAuth samplePost) := by
    rw [hmembership]
    exact admission_postRequest (by decide)
  have horder : (system.storage.nextOrder (hexAddress sampleGroup)).1 = 2 := by
    have hlast : samplePostedStorage.groupOrders.lookup (hexAddress sampleGroup) = some 1 :=
      Finmap.lookup_insert _
    simp only [InMemoryStorage.nextOrder, horders, hlast]
    rfl
  have hrun := runFrom_orderCreate hfresh hadmission
    (createMessagePrepare_samplePost otherMessageId 7)
  have hgroup : (postedMessage otherMessageId 7).groupId = hexAddress sampleGroup := rfl
  rw [hgroup, horder] at hrun
  exact hrun

/-- The post is submitted again when the message has its content still: it is refused. -/
theorem sameContents_resubmission :
    ∃ before after, sampleRelayer.run (samplePosting ++ resubmission) = some before ∧
      sampleRelayer.step before (.insert 2) = some after ∧
        SameContents before.storage after.storage := by
  have hrun : sampleRelayer.run (samplePosting ++ resubmission) = some ({ samplePosted with
      storage := (samplePostedStorage.nextOrder (hexAddress sampleGroup)).2 }.setTask 2 postRequest
        (.inserting repostedMessage)) :=
    runFrom_append_eq_some.mpr ⟨_, run_samplePosting,
      runFrom_resubmission rfl (tasks_samplePosted (by decide)) rfl⟩
  have htask := System.lookup_setTask ({ samplePosted with
    storage := (samplePostedStorage.nextOrder (hexAddress sampleGroup)).2 }) 2 postRequest
      (.inserting repostedMessage)
  have hstep : sampleRelayer.step _ (.insert 2) = _ := step_insert htask
  refine ⟨_, _, hrun, hstep, ?_⟩
  exact (replay_effect_iff hrun (happened_samplePosting.append _) (replayOf_refl postRequest)
    htask rfl hstep).2 ⟨sampleMessage, lookup_samplePostedStorage, rfl⟩

/-- A client posts a message and edits it, and its post is submitted again: a second message with
the first content is stored. -/
theorem not_sameContents_of_edit :
    ¬ ∀ (relayer : Relayer) past before after action task original request phase id content,
      relayer.run past = some before →
      Happened relayer.step .init past (Writes original id content) → ReplayOf original request →
      before.tasks.lookup task = some ⟨request, phase⟩ → action.task? = some task →
      relayer.step before action = some after → SameContents before.storage after.storage := by
  intro hharmless
  have hfresh : sampleEdited.tasks.lookup 2 = none := by
    unfold sampleEdited
    rw [System.lookup_setTask_of_ne _ _ _ _ (by decide)]
    exact tasks_samplePosted (by decide)
  have hrun : sampleRelayer.run (sampleEditing ++ resubmission) = _ :=
    runFrom_append_eq_some.mpr ⟨_, run_sampleEditing, runFrom_resubmission rfl hfresh rfl⟩
  have hposted : Happened sampleRelayer.step .init (sampleEditing ++ resubmission)
      (Writes postRequest sampleMessageId sampleContent) :=
    (happened_samplePosting.append _).append _
  have hsame := hharmless sampleRelayer _ _ _ (.insert 2) 2 postRequest postRequest _ _ _ hrun
    hposted (replayOf_refl postRequest) (System.lookup_setTask _ _ _ _) rfl
    (step_insert (System.lookup_setTask _ _ _ _))
  have hstored : ¬ SameContents ((sampleEditedStorage 4).nextOrder (hexAddress sampleGroup)).2
      (((sampleEditedStorage 4).nextOrder (hexAddress sampleGroup)).2.insertMessage
        repostedMessage).2 := by
    rw [sameContents_insertMessage]
    rintro (hused | htaken)
    · exact absurd hused (by decide)
    · exact htaken (Finmap.lookup_insert_of_ne _ (by decide))
  exact hstored hsame

end MessagingRelayer
