import MessagingRelayer.System.ArchiveProvenance
import MessagingRelayer.System.Linearization
import MessagingRelayer.System.SenderVerification
import MessagingRelayer.System.Traceless

/-!
# Well-formed messages

The checks of the handlers are the only ones there are, since nothing is checked again when a
message is served or archived. They suffice: every message that is stored, and every copy of one in
the archive, has nonces of twelve bytes, a key version of 64 bits, a signature of 64 bytes, a public
key of the length of its scheme that is the sender's, and a positive order number no greater than
the number of steps so far (`wellFormed_of_run`, `wellFormed_of_archive`).
-/

set_option autoImplicit false
set_option relaxedAutoImplicit false

namespace MessagingRelayer

open Foundation

/-- An attachment with nonces for AES-GCM. -/
structure Attachment.WellFormed (attachment : Attachment) : Prop where
  nonce : attachment.nonce.length = 12
  metadataNonce : attachment.metadataNonce.length = 12

/-- A message of the sizes and ranges that its fields promise, with the key of its sender. -/
structure Message.WellFormed (libs : Externals) (message : Message) : Prop where
  nonce : message.nonce.length = 12
  keyVersion : -2 ^ 63 ≤ message.keyVersion ∧ message.keyVersion < 2 ^ 63
  attachments : ∀ attachment ∈ message.attachments, attachment.WellFormed
  signature : message.signature.length = 64
  publicKey : ∃ scheme : SignatureScheme, ∃ key : List UInt8,
    message.publicKey = scheme.flag :: key ∧ key.length = scheme.publicKeyLength
  senderWalletAddr : message.senderWalletAddr = hexAddress (libs.blake2b256 message.publicKey)
  order : ∃ order, message.order = some order ∧ 1 ≤ order

/-- The order number is in the range of an `i64`. -/
def Message.OrderFits (message : Message) : Prop :=
  ∀ order ∈ message.order, order < 2 ^ 63

/-! ### What the handlers check -/

section Checks

variable {libs : Externals} {auth : AuthContext}

/-- The key version of a create request is an `i64`. -/
theorem Routed.createMessage_keyVersion {request : Request} {req : CreateMessageRequest}
    (hrouted : Routed libs request auth (.createMessage auth req)) :
    -2 ^ 63 ≤ req.keyVersion ∧ req.keyVersion < 2 ^ 63 := by
  cases hrouted with
  | createMessage hmethod hroute hjson hreq =>
    obtain ⟨fields, -, hrest⟩ := bind_eq_ok_iff.mp hreq
    obtain ⟨groupId, -, hrest⟩ := bind_eq_ok_iff.mp hrest
    obtain ⟨encryptedText, -, hrest⟩ := bind_eq_ok_iff.mp hrest
    obtain ⟨nonce, -, hrest⟩ := bind_eq_ok_iff.mp hrest
    obtain ⟨keyVersion, hversion, hrest⟩ := bind_eq_ok_iff.mp hrest
    obtain ⟨senderAddress, -, hrest⟩ := bind_eq_ok_iff.mp hrest
    obtain ⟨messageSignature, -, hrest⟩ := bind_eq_ok_iff.mp hrest
    obtain ⟨attachments, -, hrest⟩ := bind_eq_ok_iff.mp hrest
    obtain rfl := Except.ok.inj hrest
    obtain ⟨json, -, hread⟩ := Json.required_eq_ok hversion
    exact Json.asI64_eq_ok hread

/-- The key version of an update request is an `i64`. -/
theorem Routed.updateMessage_keyVersion {request : Request} {req : UpdateMessageRequest}
    (hrouted : Routed libs request auth (.updateMessage auth req)) :
    -2 ^ 63 ≤ req.keyVersion ∧ req.keyVersion < 2 ^ 63 := by
  cases hrouted with
  | updateMessage hmethod hroute hjson hreq =>
    obtain ⟨fields, -, hrest⟩ := bind_eq_ok_iff.mp hreq
    obtain ⟨messageId, -, hrest⟩ := bind_eq_ok_iff.mp hrest
    obtain ⟨groupId, -, hrest⟩ := bind_eq_ok_iff.mp hrest
    obtain ⟨senderAddress, -, hrest⟩ := bind_eq_ok_iff.mp hrest
    obtain ⟨encryptedText, -, hrest⟩ := bind_eq_ok_iff.mp hrest
    obtain ⟨nonce, -, hrest⟩ := bind_eq_ok_iff.mp hrest
    obtain ⟨keyVersion, hversion, hrest⟩ := bind_eq_ok_iff.mp hrest
    obtain ⟨messageSignature, -, hrest⟩ := bind_eq_ok_iff.mp hrest
    obtain ⟨attachments, -, hrest⟩ := bind_eq_ok_iff.mp hrest
    obtain rfl := Except.ok.inj hrest
    obtain ⟨json, -, hread⟩ := Json.required_eq_ok hversion
    exact Json.asI64_eq_ok hread

theorem tryIntoAttachment_eq_ok {request : AttachmentRequest} {attachment : Attachment}
    (hinto : request.tryIntoAttachment = .ok attachment) : attachment.WellFormed := by
  have hlength {shown text : String} {bytes : List UInt8}
      (hdecode : AttachmentRequest.decodeNonce shown text = .ok bytes) : bytes.length = 12 := by
    obtain ⟨decoded, -, hrest⟩ := bind_eq_ok_iff.mp hdecode
    split_ifs at hrest with hwrong
    obtain rfl := Except.ok.inj hrest
    exact not_not.mp hwrong
  obtain ⟨nonce, hnonce, hrest⟩ := bind_eq_ok_iff.mp hinto
  obtain ⟨encryptedMetadata, -, hrest⟩ := bind_eq_ok_iff.mp hrest
  obtain ⟨metadataNonce, hmetadata, hrest⟩ := bind_eq_ok_iff.mp hrest
  obtain rfl := Except.ok.inj hrest
  exact ⟨hlength hnonce, hlength hmetadata⟩

theorem decodeAttachments_eq_ok {requests : List AttachmentRequest}
    {attachments : List Attachment} (hdecode : decodeAttachments requests = .ok attachments) :
    ∀ attachment ∈ attachments, attachment.WellFormed := by
  induction requests generalizing attachments with
  | nil =>
    obtain rfl := Except.ok.inj hdecode
    simp
  | cons request rest ih =>
    unfold decodeAttachments at hdecode
    rw [List.mapM_cons] at hdecode
    obtain ⟨first, hfirst, hothers⟩ := bind_eq_ok_iff.mp hdecode
    obtain ⟨others, hrest, hall⟩ := bind_eq_ok_iff.mp hothers
    obtain rfl := Except.ok.inj hall
    intro attachment hmem
    rcases List.mem_cons.mp hmem with rfl | hother
    · cases hinto : request.tryIntoAttachment with
      | error err => simp [hinto] at hfirst
      | ok found =>
        simp only [hinto] at hfirst
        obtain rfl := Except.ok.inj hfirst
        exact tryIntoAttachment_eq_ok hinto
    · exact ih hrest attachment hother

/-- What a handler stores of a request has nonces of twelve bytes. -/
theorem nonces_of_decodeContent {groupId encryptedText nonceText messageSignature : String}
    {keyVersion : Int} {attachmentRequests : List AttachmentRequest} {content : MessageContent}
    (hdecode : decodeContent libs auth groupId encryptedText nonceText keyVersion messageSignature
      attachmentRequests = .ok content) :
    content.nonce.length = 12 ∧ content.keyVersion = keyVersion ∧
      ∀ attachment ∈ content.attachments, attachment.WellFormed := by
  obtain ⟨encryptedMsg, -, hrest⟩ := bind_eq_ok_iff.mp hdecode
  obtain ⟨nonce, hnonce, hrest⟩ := bind_eq_ok_iff.mp hrest
  obtain ⟨signature, -, hrest⟩ := bind_eq_ok_iff.mp hrest
  obtain ⟨attachments, hattachments, hrest⟩ := bind_eq_ok_iff.mp hrest
  obtain rfl := Except.ok.inj hrest
  exact ⟨(decodeNonce_eq_ok hnonce).2, rfl, decodeAttachments_eq_ok hattachments⟩

end Checks

/-! ### What is stored and archived -/

section Runs

variable {relayer : Relayer} {past : List Action} {action : Action} {before after : System}
  {task : TaskId} {request : Request} {named : Option Uuid} {content : MessageContent}
  {id : Uuid} {message : Message}

/-- The content that a request carries has nonces of twelve bytes and a key version of 64 bits. -/
theorem sized_of_carries (hcarries : Carries relayer past task request named content) :
    content.nonce.length = 12 ∧ (-2 ^ 63 ≤ content.keyVersion ∧ content.keyVersion < 2 ^ 63) ∧
      ∀ attachment ∈ content.attachments, attachment.WellFormed := by
  cases hcarries with
  | create hadmitted hcontent =>
    obtain ⟨hnonce, hversion, hattachments⟩ := nonces_of_decodeContent hcontent
    exact ⟨hnonce, hversion ▸ hadmitted.routed.createMessage_keyVersion, hattachments⟩
  | update hadmitted hcontent =>
    obtain ⟨hnonce, hversion, hattachments⟩ := nonces_of_decodeContent hcontent
    exact ⟨hnonce, hversion ▸ hadmitted.routed.updateMessage_keyVersion, hattachments⟩

/-- A stored message has an order number between one and the number of steps so far. -/
theorem order_of_run (hrun : relayer.run past = some before)
    (hlookup : before.storage.messages.lookup id = some message) :
    ∃ order, message.order = some order ∧ 1 ≤ order ∧ order ≤ past.length := by
  obtain ⟨accesses, shared, hshared, hsim⟩ := simulated_of_run hrun
  have hholds : shared.holds (.inl id) = some message := by
    rw [SharedStorage.holds, hsim.storage]
    exact hlookup
  obtain ⟨order, horder, hpositive⟩ := numbered_of_accesses hshared (.inl id) message hholds
  have hle := (ordersIssued_of_accesses hshared).le_last (.inl id) message hholds
  have hbound := lastOrder_le_of_run hrun message.groupId
  rw [horder, Option.getD_some, hsim.storage] at hle
  exact ⟨order, horder, hpositive, hle.trans hbound⟩

/-- In every state of every run every stored message is well formed, and its order number is no
greater than the number of steps so far. -/
theorem wellFormed_of_run (hjson : relayer.libs.LawfulJson)
    (hrun : relayer.run past = some before)
    (hlookup : before.storage.messages.lookup id = some message) :
    message.WellFormed relayer.libs ∧ ∀ order ∈ message.order, order ≤ past.length := by
  obtain ⟨auth, encryptedText, nonceText, hsigned⟩ := signedText_of_run hjson hrun hlookup
  obtain ⟨writer, task, -, hcarries⟩ := lastWritten_of_run hrun hlookup
  obtain ⟨hnonce, hversion, hattachments⟩ := hcarries.elim sized_of_carries sized_of_carries
  obtain ⟨order, horder, hpositive, hbound⟩ := order_of_run hrun hlookup
  obtain ⟨hsignature, hkey, -⟩ := verifySignature_eq_ok_iff.mp hsigned.signature_ok
  obtain ⟨-, haddress⟩ := deriveSuiAddress_eq_ok_iff.mp hsigned.address_ok
  refine ⟨{
    nonce := hnonce
    keyVersion := hversion
    attachments := hattachments
    signature := hsignature
    publicKey := ⟨auth.scheme, auth.publicKey, hsigned.publicKey_eq, hkey⟩
    senderWalletAddr := ?_
    order := ⟨order, horder, hpositive⟩ }, ?_⟩
  · rw [hsigned.publicKey_eq]
    exact haddress
  · intro found hfound
    rw [horder] at hfound
    exact Option.some.inj hfound ▸ hbound

/-- In every state of every run every copy in the archive is well formed. -/
theorem wellFormed_of_archive (hjson : relayer.libs.LawfulJson)
    (hrun : relayer.run past = some before) {patch : Patch} (hmem : patch ∈ before.archive) :
    patch.message.WellFormed relayer.libs ∧
      ∀ order ∈ patch.message.order, order ≤ past.length := by
  obtain ⟨pass, msg, rfl, first, action, rest, reached, rfl, hfirst, -, -, hlookup, -⟩ :=
    patch_of_run hrun hmem
  obtain ⟨hmessage, hbound⟩ := wellFormed_of_run hjson hfirst hlookup
  refine ⟨⟨hmessage.nonce, hmessage.keyVersion, hmessage.attachments, hmessage.signature,
    hmessage.publicKey, hmessage.senderWalletAddr, hmessage.order⟩, fun order horder ↦ ?_⟩
  have hearlier := hbound order horder
  rw [List.length_append]
  push_cast
  omega

/-! ### What is shown -/

/-- The messages that a task has answered. -/
def TaskPhase.shown : TaskPhase → List MessageResponse
  | .done (.messages response) => response.bodies
  | _ => []

theorem shown_afterStorage {result : Except StorageError Message} {success : Message → TaskPhase}
    (hsuccess : ∀ message, (success message).shown = []) :
    (Relayer.afterStorage result success).shown = [] := by
  cases result with
  | error err => rfl
  | ok message => exact hsuccess message

/-- A task that moves shows messages that are stored. -/
theorem shown_of_move {phase : TaskPhase} {body : MessageResponse}
    (hmove : TaskMove relayer before action task request phase) (hbody : body ∈ phase.shown) :
    ∃ id message, before.storage.messages.lookup id = some message ∧
      body = .fromMessage message := by
  have hnothing (hshown : phase.shown = []) : body ∉ phase.shown := by
    rw [hshown]
    exact List.not_mem_nil
  cases hmove with
  | admitted hfresh =>
    exact absurd hbody (hnothing (relayer.admission_induction _ _ _ (fun phase ↦ phase.shown = [])
      (fun _ ↦ rfl) (fun _ ↦ rfl) (fun _ ↦ rfl) fun _ ↦ rfl))
  | prepared htask =>
    refine absurd hbody (hnothing ?_)
    unfold Relayer.preparation
    split <;> rfl
  | ordered htask => exact absurd hbody (hnothing rfl)
  | inserted htask => exact absurd hbody (hnothing (shown_afterStorage fun _ ↦ rfl))
  | notified htask => exact absurd hbody (hnothing rfl)
  | respondedCreate htask => exact absurd hbody (hnothing rfl)
  | respondedUpdate htask => exact absurd hbody (hnothing rfl)
  | checkedUpdate htask =>
    refine absurd hbody (hnothing ?_)
    unfold Relayer.updateCheck
    split
    · rfl
    · split <;> rfl
  | checkedDelete htask =>
    refine absurd hbody (hnothing ?_)
    unfold Relayer.deleteCheck
    split
    · rfl
    · split <;> rfl
  | updated htask => exact absurd hbody (hnothing (shown_afterStorage fun _ ↦ rfl))
  | deleted htask => exact absurd hbody (hnothing (shown_afterStorage fun _ ↦ rfl))
  | @answered task request auth query listing htask hlisting =>
    unfold Relayer.readReply at hbody
    split at hbody
    · exact absurd hbody List.not_mem_nil
    · next response hread =>
      obtain ⟨id, message, hlookup, -, hsame⟩ := mem_bodies_of_getMessages hlisting hread hbody
      exact ⟨id, message, hlookup, hsame⟩

/-- What an answer shows was stored at some moment. -/
theorem shown_of_run {served : Task} {body : MessageResponse}
    (hrun : relayer.run past = some before) (htask : before.tasks.lookup task = some served)
    (hbody : body ∈ served.phase.shown) :
    ∃ first rest reached id message, past = first ++ rest ∧ relayer.run first = some reached ∧
      reached.storage.messages.lookup id = some message ∧ body = .fromMessage message := by
  refine history_induction (fun past reached ↦ ∀ served, reached.tasks.lookup task = some served →
    body ∈ served.phase.shown → ∃ first rest reached id message, past = first ++ rest ∧
      relayer.run first = some reached ∧ reached.storage.messages.lookup id = some message ∧
        body = .fromMessage message) ?_ ?_ hrun served htask hbody
  · intro served hserved
    simp [System.init] at hserved
  · intro past before action after hpast hearlier hstep served hserved hbody
    by_cases hown : action.task? = some task
    · obtain ⟨request, phase, hmove, hlookup⟩ := move_of_step hstep hown
      obtain rfl := Option.some.inj (hlookup.symm.trans hserved)
      obtain ⟨id, message, hstored, hsame⟩ := shown_of_move hmove hbody
      exact ⟨past, [action], before, id, message, rfl, hpast, hstored, hsame⟩
    · rw [lookup_of_step_of_ne hstep hown] at hserved
      obtain ⟨first, rest, reached, id, message, rfl, hfirst, hstored, hsame⟩ :=
        hearlier served hserved hbody
      exact ⟨first, rest ++ [action], reached, id, message, by simp, hfirst, hstored, hsame⟩

/-- In every run, every message that is stored, archived or shown in an answer is well formed.
Within `2 ^ 63` steps no order counter overflows, and the order numbers of these messages are in the
range of an `i64`. -/
theorem messages_wellFormed (hjson : relayer.libs.LawfulJson)
    (hrun : relayer.run past = some before) :
    (∀ id message, before.storage.messages.lookup id = some message →
      message.WellFormed relayer.libs) ∧
    (∀ patch ∈ before.archive, patch.message.WellFormed relayer.libs) ∧
    (∀ task served body, before.tasks.lookup task = some served → body ∈ served.phase.shown →
      ∃ message : Message, message.WellFormed relayer.libs ∧ body = .fromMessage message) ∧
    (past.length < 2 ^ 63 → before.storage.CountersFit ∧
      (∀ id message, before.storage.messages.lookup id = some message → message.OrderFits) ∧
      (∀ patch ∈ before.archive, patch.message.OrderFits) ∧
      ∀ task served body, before.tasks.lookup task = some served → body ∈ served.phase.shown →
        body.order < 2 ^ 63) := by
  refine ⟨fun id message hlookup ↦ (wellFormed_of_run hjson hrun hlookup).1,
    fun patch hmem ↦ (wellFormed_of_archive hjson hrun hmem).1, ?_, fun hsteps ↦
    ⟨countersFit_of_run hrun hsteps, ?_, ?_, ?_⟩⟩
  · intro task served body htask hbody
    obtain ⟨first, rest, reached, id, message, rfl, hfirst, hlookup, rfl⟩ :=
      shown_of_run hrun htask hbody
    exact ⟨message, (wellFormed_of_run hjson hfirst hlookup).1, rfl⟩
  · intro id message hlookup order horder
    have hbound := (wellFormed_of_run hjson hrun hlookup).2 order horder
    omega
  · intro patch hmem order horder
    have hbound := (wellFormed_of_archive hjson hrun hmem).2 order horder
    omega
  · intro task served body htask hbody
    obtain ⟨first, rest, reached, id, message, rfl, hfirst, hlookup, rfl⟩ :=
      shown_of_run hrun htask hbody
    obtain ⟨order, horder, -, hbound⟩ := order_of_run hfirst hlookup
    rw [List.length_append] at hsteps
    show message.order.getD 0 < 2 ^ 63
    rw [horder, Option.getD_some]
    omega

/-- The one copy in the archive after the upload is well formed. -/
theorem messages_wellFormed_sampleUpload :
    ∃ copy ∈ sampleUploaded.archive, copy.message.WellFormed sampleLibs := by
  obtain ⟨-, hcopies, -⟩ := messages_wellFormed lawfulJson_sampleLibs run_sampleUpload
  exact ⟨_, List.mem_singleton_self _, hcopies _ (List.mem_singleton_self _)⟩

end Runs

end MessagingRelayer
