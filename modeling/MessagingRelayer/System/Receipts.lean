import MessagingRelayer.System.Operations

/-!
# Receipts

The signed response to a create or an update is a receipt: its holder can show that the enclave
handled the request. A receipt is for exactly one operation, and its bytes give the kind of the
operation, the millisecond of the answer and, for a delivery, the message. For an update they do not
give the message. So receipts are unambiguous in a run exactly when no two updates of different
messages are answered in the same millisecond (`receiptsUnambiguous_iff`).
-/

set_option autoImplicit false
set_option relaxedAutoImplicit false

namespace MessagingRelayer

open Foundation

/-! ### Receipts -/

/-- The bytes of the intent message in a reply, and its signature. -/
def Reply.signed : Reply → Option (List UInt8 × String)
  | .created response =>
    some (response.response.toBytes CreateMessageResponse.toBytes, response.signature)
  | .updated response => some (response.response.toBytes EmptyResponse.toBytes, response.signature)
  | _ => none

/-- The task was answered with a receipt that has the signature for the bytes. -/
def Receipt (reached : System) (task : TaskId) (bytes : List UInt8) (signature : String) : Prop :=
  ∃ request reply, reached.tasks.lookup task = some ⟨request, .done reply⟩ ∧
    reply.signed = some (bytes, signature)

section Properties

variable (relayer : Relayer) (past : List Action) (reached : System)

/-- A receipt over the bytes was given for the operation. -/
def Acknowledges (bytes : List UInt8) (operation : Operation) : Prop :=
  ∃ task signature, Receipt reached task bytes signature ∧
    Happened relayer.step .init past (Performs task operation)

/-- Receipts over the same bytes are for the same kind of operation on the same message. -/
def ReceiptsUnambiguous : Prop :=
  ∀ bytes first second, Acknowledges relayer past reached bytes first →
    Acknowledges relayer past reached bytes second → first = second

/-- No two updates of different messages are answered in the same millisecond. -/
def UpdatesSeparated : Prop :=
  ∀ task other id copied now later,
    Happened relayer.step .init past (Performs task (.update id)) →
    Happened relayer.step .init past (AnswersUpdate task now) →
    Happened relayer.step .init past (Performs other (.update copied)) →
    Happened relayer.step .init past (AnswersUpdate other later) →
    DateTime.timestampMillis now = DateTime.timestampMillis later → id = copied

end Properties

/-! ### The bytes of the replies -/

section Bytes

variable (relayer : Relayer) {id copied : Uuid} {now later : DateTime}

/-- The receipt for a delivery is signed over the millisecond and the message. -/
def deliveryBytes (id : Uuid) (now : DateTime) : List UInt8 :=
  (⟨.messageDelivery, DateTime.timestampMillis now, ⟨id⟩⟩ :
    IntentMessage CreateMessageResponse).toBytes CreateMessageResponse.toBytes

/-- The receipt for an update is signed over the millisecond alone. -/
def updateBytes (now : DateTime) : List UInt8 :=
  (⟨.messageDelivery, DateTime.timestampMillis now, ⟨⟩⟩ :
    IntentMessage EmptyResponse).toBytes EmptyResponse.toBytes

theorem signed_createReply (id : Uuid) (now : DateTime) :
    (relayer.createReply id now).signed =
      some (deliveryBytes id now, Hex.encode (relayer.keyPair.sign (deliveryBytes id now))) :=
  rfl

theorem signed_updateReply (now : DateTime) :
    (relayer.updateReply now).signed =
      some (updateBytes now, Hex.encode (relayer.keyPair.sign (updateBytes now))) :=
  rfl

theorem deliveryBytes_inj (heq : deliveryBytes id now = deliveryBytes copied later) :
    id = copied := by
  obtain ⟨-, -, hdata⟩ :=
    IntentMessage.toBytes_inj (timestampMillis_lt now) (timestampMillis_lt later) heq
  exact Subtype.ext (List.cons.inj hdata).2

theorem deliveryBytes_ne_updateBytes : deliveryBytes id now ≠ updateBytes later := by
  intro heq
  obtain ⟨-, -, hdata⟩ :=
    IntentMessage.toBytes_inj (timestampMillis_lt now) (timestampMillis_lt later) heq
  exact List.cons_ne_nil _ _ hdata

theorem updateBytes_eq_iff : updateBytes now = updateBytes later ↔
    DateTime.timestampMillis now = DateTime.timestampMillis later := by
  constructor
  · intro heq
    exact (IntentMessage.toBytes_inj (timestampMillis_lt now) (timestampMillis_lt later) heq).2.1
  · intro hsame
    unfold updateBytes
    rw [hsame]

end Bytes

/-! ### Unambiguous receipts -/

section Receipts

variable {relayer : Relayer} {past : List Action} {reached : System} {task : TaskId}

/-- A receipt is signed by the enclave for exactly one operation. For a delivery the bytes are those
of its message at some time, and for an update those of the time it was answered. -/
theorem operation_of_receipt {bytes : List UInt8} {signature : String}
    (hrun : relayer.run past = some reached) (hreceipt : Receipt reached task bytes signature) :
    signature = Hex.encode (relayer.keyPair.sign bytes) ∧
    ∃ operation, Performed relayer past task (some operation) ∧
      ((∃ id now, operation = .delivery id ∧ bytes = deliveryBytes id now) ∨
        ∃ id now, operation = .update id ∧ bytes = updateBytes now ∧
          Happened relayer.step .init past (AnswersUpdate task now)) := by
  obtain ⟨request, reply, htask, hsigned⟩ := hreceipt
  have haccounted := accounted_of_run hrun task
  rw [htask] at haccounted
  cases reply with
  | created response =>
    obtain ⟨id, now, hreply, hperformed⟩ := haccounted
    rw [hreply, signed_createReply] at hsigned
    obtain ⟨rfl, rfl⟩ := Prod.mk.inj (Option.some.inj hsigned)
    exact ⟨rfl, _, hperformed, Or.inl ⟨id, now, rfl, rfl⟩⟩
  | updated response =>
    obtain ⟨id, now, hreply, hperformed, hanswered⟩ := haccounted
    rw [hreply, signed_updateReply] at hsigned
    obtain ⟨rfl, rfl⟩ := Prod.mk.inj (Option.some.inj hsigned)
    exact ⟨rfl, _, hperformed, Or.inr ⟨id, now, rfl, rfl, hanswered⟩⟩
  | _ => simp [Reply.signed] at hsigned

/-- An update that was answered has a receipt over the millisecond of the answer. -/
theorem acknowledges_of_happened {id : Uuid} {now : DateTime}
    (hrun : relayer.run past = some reached)
    (hupdate : Happened relayer.step .init past (Performs task (.update id)))
    (hanswered : Happened relayer.step .init past (AnswersUpdate task now)) :
    Acknowledges relayer past reached (updateBytes now) (.update id) := by
  obtain ⟨request, htask⟩ := answered_of_happened hrun hanswered
  exact ⟨task, _, ⟨request, _, htask, signed_updateReply relayer now⟩, hupdate⟩

/-- Every receipt is signed by the enclave for exactly one operation. Receipts are unambiguous in a
run exactly when no two updates of different messages are answered in the same millisecond. -/
theorem receiptsUnambiguous_iff (hrun : relayer.run past = some reached) :
    (∀ task bytes signature, Receipt reached task bytes signature →
      signature = Hex.encode (relayer.keyPair.sign bytes) ∧
        ∃! operation, Happened relayer.step .init past (Performs task operation)) ∧
    (ReceiptsUnambiguous relayer past reached ↔ UpdatesSeparated relayer past) := by
  refine ⟨?_, ?_, ?_⟩
  · intro task bytes signature hreceipt
    obtain ⟨hsignature, operation, hperformed, -⟩ := operation_of_receipt hrun hreceipt
    exact ⟨hsignature, operation, (hperformed operation).mpr rfl,
      fun other hother ↦ (Option.some.inj ((hperformed other).mp hother)).symm⟩
  · intro hunambiguous task other id copied now later hupdate hanswered hcopy hlater hsame
    have hfirst := acknowledges_of_happened hrun hupdate hanswered
    have hsecond := acknowledges_of_happened hrun hcopy hlater
    rw [← updateBytes_eq_iff.mpr hsame] at hsecond
    exact Operation.update.inj (hunambiguous _ _ _ hfirst hsecond)
  · rintro hseparated bytes first second ⟨task, signature, hfirst, hperforms⟩
      ⟨other, copied, hsecond, hcopies⟩
    obtain ⟨-, found, hperformed, hbytes⟩ := operation_of_receipt hrun hfirst
    obtain ⟨-, found', hperformed', hbytes'⟩ := operation_of_receipt hrun hsecond
    obtain rfl := Option.some.inj ((hperformed first).mp hperforms)
    obtain rfl := Option.some.inj ((hperformed' second).mp hcopies)
    rcases hbytes with ⟨id, now, rfl, rfl⟩ | ⟨id, now, rfl, rfl, hanswered⟩
    · rcases hbytes' with ⟨copied, later, rfl, hsame⟩ | ⟨copied, later, rfl, hsame, -⟩
      · rw [deliveryBytes_inj hsame]
      · exact absurd hsame deliveryBytes_ne_updateBytes
    · rcases hbytes' with ⟨copied, later, rfl, hsame⟩ | ⟨copied, later, rfl, hsame, hlater⟩
      · exact absurd hsame.symm deliveryBytes_ne_updateBytes
      · rw [hseparated task other id copied now later hperforms hanswered hcopies hlater
          (updateBytes_eq_iff.mp hsame)]

theorem receiptsUnambiguous_iff_sampleEditing :
    (∀ task bytes signature, Receipt sampleEdited task bytes signature →
      signature = Hex.encode (sampleRelayer.keyPair.sign bytes) ∧
        ∃! operation, Happened sampleRelayer.step .init sampleEditing (Performs task operation)) ∧
    (ReceiptsUnambiguous sampleRelayer sampleEditing sampleEdited ↔
      UpdatesSeparated sampleRelayer sampleEditing) :=
  receiptsUnambiguous_iff run_sampleEditing

/-- Assumes: an accepted update request for a message of the sender in the group, which the storage
takes. Served without interruption it updates the message and is answered. -/
theorem happened_serveUpdate {system : System} {request : Request} {auth : AuthContext}
    {admitted written responded : DateTime} {req : UpdateMessageRequest}
    {existing updated : Message} {content : MessageContent} (hpast : relayer.run past = some system)
    (hfresh : system.tasks.lookup task = none)
    (hadmission : relayer.admission system.membership admitted request =
      .calling (.updateMessage auth req))
    (hexisting : system.storage.messages.lookup req.messageId = some existing)
    (hcheck : updateMessageCheck relayer.libs auth req existing = .ok content)
    (hstored : (system.storage.updateMessage req.messageId content written).1 = .ok updated) :
    Happened relayer.step .init (past ++ serveUpdate task request admitted written responded)
      (Performs task (.update req.messageId)) ∧
    Happened relayer.step .init (past ++ serveUpdate task request admitted written responded)
      (AnswersUpdate task responded) := by
  have hchecked : relayer.run (past ++ [Action.arrive task request admitted, .fetch task]) =
      some (system.setTask task request (.updating req.messageId content)) :=
    runFrom_append_eq_some.mpr ⟨_, hpast, runFrom_checkUpdate hfresh hadmission hexisting hcheck⟩
  have hwritten : relayer.run ((past ++ [Action.arrive task request admitted, .fetch task]) ++
      [Action.write task written]) = some ({ system with
        storage := (system.storage.updateMessage req.messageId content written).2 }.setTask task
          request .respondingUpdate) := by
    refine runFrom_concat_eq_some.mpr ⟨_, hchecked, ?_⟩
    rw [step_update written (System.lookup_setTask _ _ _ _)]
    simp only [System.storage_setTask, hstored, Relayer.afterStorage, System.setTask_with_storage]
  refine ⟨⟨_, .write task written, [.respond task responded], _, ?_, hchecked, ?_⟩,
    ⟨_, .respond task responded, [], _, ?_, hwritten, ?_⟩⟩
  · simp [serveUpdate]
  · exact ⟨request, content, written, updated, rfl, System.lookup_setTask _ _ _ _, hstored⟩
  · simp [serveUpdate]
  · exact ⟨request, rfl, System.lookup_setTask _ _ _ _⟩

end Receipts

/-! ### Two edits in one millisecond -/

section Sample

/-- The message that is posted second is edited, and gets the content it has once more. -/
def otherPut : UpdateMessageRequest where
  messageId := otherMessageId
  groupId := samplePost.groupId
  senderAddress := samplePost.senderAddress
  encryptedText := samplePost.encryptedText
  nonce := samplePost.nonce
  keyVersion := samplePost.keyVersion
  messageSignature := samplePost.messageSignature
  attachments := []

/-- The body of the second edit. -/
def otherPutBody : List UInt8 :=
  utf8 ("\x7b\"message_id\":\"" ++ Uuid.toString otherMessageId ++ "\"," ++
    contentText otherPut.groupId otherPut.senderAddress otherPut.encryptedText otherPut.nonce
      otherPut.messageSignature sampleTimestamp otherPut.keyVersion)

/-- The client's signature for the body of the second edit. -/
def otherPutSignature : List UInt8 :=
  signatureBytes 0xd4317b0f7fe0359d6cd31aa41a0804fecad0c6263451aea0b9fefc17888447ad
    0x6f66ea49388d7be86b795d04a7df6238695db1dee986b115176af6dc87f71f03

/-- What the client has signed, with the second edit. -/
def receiptSigned : List (List UInt8 × List UInt8) :=
  (otherPutBody, otherPutSignature) :: sampleSigned

/-- The bodies the client has written, with the second edit. -/
def receiptDocuments : List (List UInt8 × Json) :=
  [(postBody, samplePost.toJson sampleTimestamp), (putBody, samplePut.toJson sampleTimestamp),
    (otherPutBody, otherPut.toJson sampleTimestamp)]

/-- The libraries on what the client and the chain send, with the second edit. -/
def receiptLibs : Externals :=
  Externals.ofTables
    (receiptSigned.map fun entry ↦
      (entry.1, serializedSignature .ed25519 entry.2 sampleSigner.key))
    [(sampleSigner.publicKeyWithFlag, sampleAddress)] receiptDocuments []
    [(Uuid.toString sampleMessageId, sampleMessageId),
      (Uuid.toString otherMessageId, otherMessageId)]
    [(sampleMemberBytes, sampleGroup, sampleAddress)]
    [(samplePermissionsBytes, sampleGroup, sampleAddress, samplePermissionNames)]

/-- The relayer of the client's group with these libraries. -/
def receiptRelayer : Relayer :=
  { sampleRelayer with libs := receiptLibs }

def otherPutRequest : Request :=
  sampleSigner.bodyRequest .put otherPutSignature otherPutBody

theorem length_otherPutBody_le : otherPutBody.length ≤ defaultBodyLimit := by
  refine length_utf8_contentText_le (length_signatureBytes _ _) ?_
  rw [length_putOpening]
  decide

theorem head?_otherPutBody : otherPutBody.head? = some 0x7b := by
  unfold otherPutBody
  rw [utf8_append, utf8_append, utf8_append, List.head?_append, List.head?_append,
    List.head?_append]
  rfl

/-- The body of the second edit differs from the others in its first field or its identifier. -/
theorem otherPutBody_ne : otherPutBody ≠ postBody ∧ otherPutBody ≠ putBody := by
  have hother : otherPutBody[2]? = some 0x6d ∧ otherPutBody[16]? = some 0x64 := by
    unfold otherPutBody
    simp only [utf8_append, List.append_assoc]
    exact ⟨rfl, rfl⟩
  have hpost : postBody[2]? = some 0x67 := by
    unfold postBody contentText
    simp only [utf8_append, List.append_assoc]
    rfl
  have hput : putBody[16]? = some 0x63 := by
    unfold putBody
    simp only [utf8_append, List.append_assoc]
    rfl
  constructor
  · intro hsame
    rw [hsame, hpost] at hother
    exact absurd hother.1 (by decide)
  · intro hsame
    rw [hsame, hput] at hother
    exact absurd hother.2 (by decide)

theorem jsonFromSlice_receiptLibs {body : List UInt8} {json : Json}
    (hlookup : receiptDocuments.lookup body = some json) :
    receiptLibs.jsonFromSlice body = .ok json := by
  unfold receiptLibs
  exact jsonFromSlice_ofTables hlookup

theorem lookup_receiptDocuments_put :
    receiptDocuments.lookup putBody = some (samplePut.toJson sampleTimestamp) := by
  unfold receiptDocuments
  rw [List.lookup_cons, beq_false_of_ne putBody_ne_postBody, List.lookup_cons_self]

theorem lookup_receiptDocuments_otherPut :
    receiptDocuments.lookup otherPutBody = some (otherPut.toJson sampleTimestamp) := by
  unfold receiptDocuments
  rw [List.lookup_cons, beq_false_of_ne otherPutBody_ne.1, List.lookup_cons,
    beq_false_of_ne otherPutBody_ne.2, List.lookup_cons_self]

theorem uuidParseStr_receiptLibs :
    receiptLibs.uuidParseStr (Uuid.toString sampleMessageId) = .ok sampleMessageId ∧
      receiptLibs.uuidParseStr (Uuid.toString otherMessageId) = .ok otherMessageId := by
  have hother : [(Uuid.toString sampleMessageId, sampleMessageId),
      (Uuid.toString otherMessageId, otherMessageId)].lookup (Uuid.toString otherMessageId) =
        some otherMessageId := by
    decide +kernel
  unfold receiptLibs
  exact ⟨uuidParseStr_ofTables List.lookup_cons_self, uuidParseStr_ofTables hother⟩

theorem address_receiptLibs : sampleSigner.address receiptLibs = hexAddress sampleAddress := by
  unfold Signer.address receiptLibs
  rw [blake2b256_ofTables List.lookup_cons_self]

theorem verifySignature_receiptLibs {message : List UInt8} {first second : Nat}
    (hmem : (message, signatureBytes first second) ∈ receiptSigned) :
    verifySignature receiptLibs message (signatureBytes first second) sampleSigner.key
      sampleSigner.scheme = .ok () := by
  unfold receiptLibs
  exact (verifySignature_clientTable (length_signatureBytes _ _)).mpr hmem

theorem admission_receiptRelayer {arrived : Nat} (harrived : arrived < 1000000000) :
    receiptRelayer.admission sampleMembership (sampleClock arrived) postRequest =
        .calling (.createMessage sampleAuth samplePost) ∧
      receiptRelayer.admission sampleMembership (sampleClock arrived) putRequest =
        .calling (.updateMessage sampleAuth samplePut) ∧
      receiptRelayer.admission sampleMembership (sampleClock arrived) otherPutRequest =
        .calling (.updateMessage sampleAuth otherPut) := by
  have hput : (putBody, putSignature) ∈ receiptSigned.drop 3 := List.mem_cons_self
  refine ⟨?_, ?_, ?_⟩
  · exact admission_clientPost receiptLibs rfl rfl address_receiptLibs (beq_self_eq_true _)
      (ne_nil_of_head? head?_postBody) length_postBody_le
      (jsonFromSlice_receiptLibs List.lookup_cons_self) rfl rfl rfl
      (verifySignature_receiptLibs (List.mem_cons_of_mem _ List.mem_cons_self)) harrived
  · exact admission_clientPut receiptLibs rfl rfl address_receiptLibs (beq_self_eq_true _)
      uuidParseStr_receiptLibs.1 (ne_nil_of_head? head?_putBody) length_putBody_le
      (jsonFromSlice_receiptLibs lookup_receiptDocuments_put) rfl rfl rfl
      (verifySignature_receiptLibs (List.mem_of_mem_drop hput)) harrived
  · exact admission_clientPut receiptLibs rfl rfl address_receiptLibs (beq_self_eq_true _)
      uuidParseStr_receiptLibs.2 (ne_nil_of_head? head?_otherPutBody) length_otherPutBody_le
      (jsonFromSlice_receiptLibs lookup_receiptDocuments_otherPut) rfl rfl rfl
      (verifySignature_receiptLibs List.mem_cons_self) harrived

/-- The two messages get the same content, the second one twice. -/
theorem decodeContent_receiptLibs :
    decodeContent receiptLibs sampleAuth samplePost.groupId samplePost.encryptedText
        samplePost.nonce samplePost.keyVersion samplePost.messageSignature [] =
      .ok sampleContent ∧
    decodeContent receiptLibs sampleAuth samplePut.groupId samplePut.encryptedText
        samplePut.nonce samplePut.keyVersion samplePut.messageSignature [] =
      .ok editedContent := by
  have hposted : (utf8 (canonicalMessage samplePost.groupId samplePost.encryptedText
      samplePost.nonce 0), postMessageSignature) ∈ receiptSigned.drop 2 := List.mem_cons_self
  have hedited : (utf8 (canonicalMessage samplePut.groupId samplePut.encryptedText
      samplePut.nonce 0), putMessageSignature) ∈ receiptSigned.drop 4 := List.mem_cons_self
  exact ⟨decodeContent_of_verified rfl rfl rfl
      (verifySignature_receiptLibs (List.mem_of_mem_drop hposted)),
    decodeContent_of_verified rfl rfl rfl
      (verifySignature_receiptLibs (List.mem_of_mem_drop hedited))⟩

theorem run_receiptStart :
    receiptRelayer.run sampleStart = some { System.init with membership := sampleMembership } := by
  have hmember : receiptLibs.memberEventFromBcs = sampleLibs.memberEventFromBcs := by
    funext bytes
    unfold receiptLibs sampleLibs
    rw [memberEventFromBcs_ofTables, memberEventFromBcs_ofTables]
  have hpermissions : receiptLibs.permissionsEventFromBcs = sampleLibs.permissionsEventFromBcs := by
    funext bytes
    unfold receiptLibs sampleLibs
    rw [permissionsEventFromBcs_ofTables, permissionsEventFromBcs_ofTables]
  have hparse := parseSuiEvent_congr hmember hpermissions
  unfold sampleStart
  rw [Relayer.run, runFrom_cons,
    step_suiEvent receiptRelayer ((hparse _ _).trans parseSuiEvent_sampleMember), Option.bind_some,
    runFrom_cons,
    step_suiEvent receiptRelayer ((hparse _ _).trans parseSuiEvent_samplePermissions),
    Option.bind_some]
  rfl

/-- The system when the client's post has been answered. -/
def receiptPosted : System :=
  { System.init with
    membership := sampleMembership
    storage := samplePostedStorage
    notifications := 1 }.setTask 0 postRequest
      (.done (receiptRelayer.createReply sampleMessageId (sampleClock 2)))

theorem createMessagePrepare_receiptLibs (id : Uuid) (built : Nat) :
    createMessagePrepare receiptLibs sampleAuth samplePost id (sampleClock built) =
      .ok (postedMessage id built) :=
  bind_eq_ok_iff.mpr ⟨sampleContent, decodeContent_receiptLibs.1, rfl⟩

theorem run_receiptPosted : receiptRelayer.run samplePosting = some receiptPosted :=
  runFrom_append_eq_some.mpr ⟨_, run_receiptStart,
    runFrom_serveCreate (tasks_sampleStart 0) (admission_receiptRelayer (by decide)).1
      (createMessagePrepare_receiptLibs sampleMessageId 1) createMessage_samplePosting⟩

theorem tasks_receiptPosted {task : TaskId} (htask : task ≠ 0) :
    receiptPosted.tasks.lookup task = none :=
  (System.lookup_setTask_of_ne _ _ _ _ htask).trans (tasks_sampleStart task)

/-- The system when the client's edit has been answered. -/
def receiptEdited : System :=
  { receiptPosted with storage := sampleEditedStorage 4 }.setTask 1 putRequest
    (.done (receiptRelayer.updateReply (sampleClock 5)))

/-- The storage when the post has been submitted again. -/
def repostedStorage : InMemoryStorage where
  messages := (sampleEditedStorage 4).messages.insert otherMessageId repostedMessage
  groupOrders := (sampleEditedStorage 4).groupOrders.insert (hexAddress sampleGroup) 2
  nonces := insert sampleContent.nonce (sampleEditedStorage 4).nonces

theorem createMessage_reposted :
    (sampleEditedStorage 4).createMessage (postedMessage otherMessageId 7) =
      (.ok repostedMessage, repostedStorage) := by
  have hnew : (sampleEditedStorage 4).messages.lookup otherMessageId = none :=
    (Finmap.lookup_insert_of_ne _ (by decide)).trans (Finmap.lookup_insert_of_ne _ (by decide))
  have hunused : sampleContent.nonce ∉ (sampleEditedStorage 4).nonces := by
    decide
  have hlast : (sampleEditedStorage 4).groupOrders.lookup
      (postedMessage otherMessageId 7).groupId = some 1 :=
    Finmap.lookup_insert _
  rw [InMemoryStorage.createMessage_eq_ok hnew hunused]
  unfold InMemoryStorage.nextOrder InMemoryStorage.lastOrder
  rw [hlast]
  rfl

theorem updateMessageCheck_samplePut :
    updateMessageCheck receiptLibs sampleAuth samplePut sampleMessage = .ok editedContent :=
  bind_eq_ok_iff.mpr
    ⟨(), checkOwnership_sampleAuth ⟨rfl, rfl⟩ "edit", decodeContent_receiptLibs.2⟩

theorem run_receiptEdited : receiptRelayer.run sampleEditing = some receiptEdited :=
  runFrom_append_eq_some.mpr ⟨_, run_receiptPosted,
    runFrom_serveUpdate (tasks_receiptPosted (by decide)) (admission_receiptRelayer (by decide)).2.1
      lookup_samplePostedStorage updateMessageCheck_samplePut
      (updateMessage_samplePostedStorage 4)⟩

/-- The client posts a message and edits it, and posts the first content again as a second message:
the nonce was freed by the edit. -/
def receiptReposting : List Action :=
  sampleEditing ++ serveCreate 2 postRequest otherMessageId (sampleClock 6) (sampleClock 7)
    (sampleClock 8)

/-- The system when the second post has been answered. -/
def receiptReposted : System :=
  { receiptEdited with
    storage := repostedStorage
    notifications := 2 }.setTask 2 postRequest
      (.done (receiptRelayer.createReply otherMessageId (sampleClock 8)))

theorem tasks_receiptEdited {task : TaskId} (htask : task ≠ 0) (hother : task ≠ 1) :
    receiptEdited.tasks.lookup task = none :=
  (System.lookup_setTask_of_ne _ _ _ _ hother).trans (tasks_receiptPosted htask)

theorem run_receiptReposted : receiptRelayer.run receiptReposting = some receiptReposted :=
  runFrom_append_eq_some.mpr ⟨_, run_receiptEdited,
    runFrom_serveCreate (tasks_receiptEdited (by decide) (by decide))
      (admission_receiptRelayer (by decide)).1 (createMessagePrepare_receiptLibs otherMessageId 7)
      createMessage_reposted⟩

/-- The second message is edited, a few nanoseconds after the first. -/
def receiptRun : List Action :=
  receiptReposting ++ serveUpdate 3 otherPutRequest (sampleClock 9) (sampleClock 10)
    (sampleClock 11)

/-- The two edits are answered in one millisecond, with receipts over the same bytes. -/
theorem not_receiptsUnambiguous_editedTogether :
    ¬ ∀ (relayer : Relayer) past reached, relayer.run past = some reached →
      ReceiptsUnambiguous relayer past reached := by
  intro hunambiguous
  have hfresh : receiptReposted.tasks.lookup 3 = none :=
    (System.lookup_setTask_of_ne _ _ _ _ (by decide)).trans
      (tasks_receiptEdited (by decide) (by decide))
  have hstored : repostedStorage.messages.lookup otherMessageId = some repostedMessage :=
    Finmap.lookup_insert _
  have hcheck : updateMessageCheck receiptLibs sampleAuth otherPut repostedMessage =
      .ok sampleContent :=
    bind_eq_ok_iff.mpr
      ⟨(), checkOwnership_sampleAuth ⟨rfl, rfl⟩ "edit", decodeContent_receiptLibs.1⟩
  have hwritten := repostedStorage.updateMessage_eq_ok sampleContent (sampleClock 10) hstored
    (Or.inl rfl)
  have hadmission : receiptRelayer.admission receiptReposted.membership (sampleClock 9)
      otherPutRequest = .calling (.updateMessage sampleAuth otherPut) :=
    (admission_receiptRelayer (by decide)).2.2
  have hrun : receiptRelayer.run receiptRun = _ :=
    runFrom_append_eq_some.mpr ⟨_, run_receiptReposted,
      runFrom_serveUpdate hfresh hadmission hstored hcheck hwritten⟩
  obtain ⟨hfirst, hanswered⟩ :
      Happened receiptRelayer.step .init sampleEditing (Performs 1 (.update sampleMessageId)) ∧
        Happened receiptRelayer.step .init sampleEditing (AnswersUpdate 1 (sampleClock 5)) :=
    happened_serveUpdate run_receiptPosted (tasks_receiptPosted (by decide))
      (admission_receiptRelayer (by decide)).2.1 lookup_samplePostedStorage
      updateMessageCheck_samplePut (congrArg Prod.fst (updateMessage_samplePostedStorage 4))
  obtain ⟨hsecond, hlater⟩ := happened_serveUpdate run_receiptReposted hfresh hadmission hstored
    hcheck (congrArg Prod.fst hwritten)
  have hedit := acknowledges_of_happened hrun ((hfirst.append _).append _)
    ((hanswered.append _).append _)
  have hother := acknowledges_of_happened hrun hsecond hlater
  have hsame : updateBytes (sampleClock 5) = updateBytes (sampleClock 11) :=
    updateBytes_eq_iff.mpr rfl
  rw [← hsame] at hother
  have hid := hunambiguous receiptRelayer receiptRun _ hrun _ _ _ hedit hother
  exact absurd (Operation.update.inj hid) (by decide)

end Sample

end MessagingRelayer
