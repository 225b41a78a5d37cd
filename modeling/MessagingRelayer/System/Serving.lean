import MessagingRelayer.Handlers.Acceptance
import MessagingRelayer.Services.Subscription
import MessagingRelayer.System.Step

/-!
# Requests served without interruption

What the steps of one task come to when nothing happens between them. A create request that is
accepted is the storage operation `create_message` and a notification (`runFrom_serveCreate`), an
update and a delete are the storage operation of that name (`runFrom_serveUpdate`,
`runFrom_serveDelete`).
-/

set_option autoImplicit false
set_option relaxedAutoImplicit false

namespace MessagingRelayer

open Foundation

/-! ### The steps of one task -/

/-- The steps of a create request. -/
def serveCreate (task : TaskId) (request : Request) (id : Uuid)
    (admitted built responded : DateTime) : List Action :=
  [.arrive task request admitted, .prepare task id built, .takeOrder task, .insert task,
    .notify task, .respond task responded]

/-- The steps of an update request. -/
def serveUpdate (task : TaskId) (request : Request) (admitted written responded : DateTime) :
    List Action :=
  [.arrive task request admitted, .fetch task, .write task written, .respond task responded]

/-- The steps of a delete request. -/
def serveDelete (task : TaskId) (request : Request) (admitted written : DateTime) : List Action :=
  [.arrive task request admitted, .fetch task, .write task written]

section Serving

variable {relayer : Relayer} {system : System} {task : TaskId} {request : Request}
  {auth : AuthContext} {admitted written responded : DateTime} {storage : InMemoryStorage}

theorem admission_eq_calling {membership : InMemoryMembershipStore} {call : HandlerCall}
    (haccept : authMiddleware relayer.libs relayer.config.requestTtlSeconds membership
      (DateTime.timestamp admitted) request = .ok (some auth))
    (hdispatch : dispatch relayer.libs request (some auth) = .ok call) :
    relayer.admission membership admitted request = .calling call := by
  unfold Relayer.admission
  rw [corsLayer_eq_none hdispatch, haccept]
  simp only [hdispatch]

theorem step_arrive {phase : TaskPhase} (hfresh : system.tasks.lookup task = none)
    (hadmission : relayer.admission system.membership admitted request = phase) :
    relayer.step system (.arrive task request admitted) =
      some (system.setTask task request phase) := by
  simp only [Relayer.step, hfresh, hadmission]

variable (relayer) in
theorem step_suiEvent {event : SuiEvent} {parsed : GroupsEvent}
    (hparse : parseSuiEvent relayer.libs event relayer.config.groupsPackageId = some parsed) :
    relayer.step system (.suiEvent event) =
      some { system with membership := system.membership.applyEvent parsed } := by
  simp only [Relayer.step, MembershipSyncService.processEvent, hparse]

/-- Assumes: the worker is about to take a snapshot, and finds messages. It goes on to
upload them. -/
theorem step_snapshot {pass : Pass} {listing messages : List Message}
    (hphase : system.worker.phase = .snapshot pass)
    (hlisting : system.storage.messages.IterationOrder listing)
    (hmessages : InMemoryStorage.getMessagesBySyncStatus listing pass.fromStatus
      (walrusBatchSize relayer.config.walrusSyncBatchSize) = messages) (hfound : messages ≠ []) :
    relayer.step system (.snapshot listing) = some { system with
      worker := { system.worker with phase := .uploading pass messages } } := by
  simp only [Relayer.step, hphase, if_pos hlisting, hmessages, SyncWorker.takeSnapshot,
    if_neg hfound]

/-- Assumes: an accepted create request. After its first steps the task has its order number and is
about to insert the message. -/
theorem runFrom_orderCreate {req : CreateMessageRequest} {id : Uuid} {built : DateTime}
    {message : Message} (hfresh : system.tasks.lookup task = none)
    (hadmission : relayer.admission system.membership admitted request =
      .calling (.createMessage auth req))
    (hprepare : createMessagePrepare relayer.libs auth req id built = .ok message) :
    runFrom relayer.step system
      [.arrive task request admitted, .prepare task id built, .takeOrder task] =
      some ({ system with storage := (system.storage.nextOrder message.groupId).2 }.setTask task
        request (.inserting (message.setOrder (system.storage.nextOrder message.groupId).1))) := by
  have hprepared : relayer.preparation auth req id built = .ordering message := by
    unfold Relayer.preparation
    rw [hprepare]
  rw [runFrom_cons, step_arrive hfresh hadmission, Option.bind_some]
  simp only [runFrom_cons, runFrom_nil, Relayer.step, System.lookup_setTask, hprepared,
    Option.bind_some, System.setTask_setTask, System.storage_setTask]
  rw [System.setTask_with_storage]

/-- Assumes: an accepted create request, whose message the storage takes. Served without
interruption it stores the message and notifies the worker. -/
theorem runFrom_serveCreate {req : CreateMessageRequest} {id : Uuid} {built : DateTime}
    {message created : Message} (hfresh : system.tasks.lookup task = none)
    (hadmission : relayer.admission system.membership admitted request =
      .calling (.createMessage auth req))
    (hprepare : createMessagePrepare relayer.libs auth req id built = .ok message)
    (hstored : system.storage.createMessage message = (.ok created, storage)) :
    runFrom relayer.step system (serveCreate task request id admitted built responded) =
      some ({ system with
        storage := storage
        notifications := system.notifications + 1 }.setTask task request
          (.done (relayer.createReply created.id responded))) := by
  have hinserted : (system.storage.nextOrder message.groupId).2.insertMessage
      (message.setOrder (system.storage.nextOrder message.groupId).1) = (.ok created, storage) :=
    hstored
  refine runFrom_append_eq_some.mpr ⟨_, runFrom_orderCreate hfresh hadmission hprepare, ?_⟩
  simp only [runFrom_cons, runFrom_nil, Relayer.step, System.lookup_setTask, Option.bind_some,
    System.storage_setTask, hinserted, Relayer.afterStorage, System.notifications_setTask]
  simp [System.setTask]

/-- Assumes: an accepted update request for a message of the sender in the group. After its checks
the task is about to update the message. -/
theorem runFrom_checkUpdate {req : UpdateMessageRequest} {existing : Message}
    {content : MessageContent} (hfresh : system.tasks.lookup task = none)
    (hadmission : relayer.admission system.membership admitted request =
      .calling (.updateMessage auth req))
    (hexisting : system.storage.messages.lookup req.messageId = some existing)
    (hcheck : updateMessageCheck relayer.libs auth req existing = .ok content) :
    runFrom relayer.step system [.arrive task request admitted, .fetch task] =
      some (system.setTask task request (.updating req.messageId content)) := by
  have hchecked : relayer.updateCheck auth req system.storage =
      .updating req.messageId content := by
    unfold Relayer.updateCheck
    rw [(system.storage.getMessage_eq_ok_iff req.messageId existing).mpr hexisting]
    simp only [hcheck]
  rw [runFrom_cons, step_arrive hfresh hadmission, Option.bind_some]
  simp only [runFrom_cons, runFrom_nil, Relayer.step, System.lookup_setTask, hchecked,
    Option.bind_some, System.setTask_setTask, System.storage_setTask]

/-- Assumes: an accepted update request for a message of the sender in the group, which the storage
takes. Served without interruption it updates the message. -/
theorem runFrom_serveUpdate {req : UpdateMessageRequest} {existing updated : Message}
    {content : MessageContent} (hfresh : system.tasks.lookup task = none)
    (hadmission : relayer.admission system.membership admitted request =
      .calling (.updateMessage auth req))
    (hexisting : system.storage.messages.lookup req.messageId = some existing)
    (hcheck : updateMessageCheck relayer.libs auth req existing = .ok content)
    (hstored : system.storage.updateMessage req.messageId content written =
      (.ok updated, storage)) :
    runFrom relayer.step system (serveUpdate task request admitted written responded) =
      some ({ system with storage := storage }.setTask task request
        (.done (relayer.updateReply responded))) := by
  refine runFrom_append_eq_some.mpr
    ⟨_, runFrom_checkUpdate hfresh hadmission hexisting hcheck, ?_⟩
  simp only [runFrom_cons, runFrom_nil, Relayer.step, System.lookup_setTask, Option.bind_some,
    System.storage_setTask, hstored, Relayer.afterStorage]
  simp [System.setTask]

/-- Assumes: an accepted delete request for a message of the sender in the group. After its checks
the task is about to delete the message. -/
theorem runFrom_checkDelete {messageId : Uuid} {existing : Message}
    (hfresh : system.tasks.lookup task = none)
    (hadmission : relayer.admission system.membership admitted request =
      .calling (.deleteMessage auth messageId))
    (hexisting : system.storage.messages.lookup messageId = some existing)
    (hcheck : deleteMessageCheck auth existing = .ok ()) :
    runFrom relayer.step system [.arrive task request admitted, .fetch task] =
      some (system.setTask task request (.deleting messageId)) := by
  have hchecked : Relayer.deleteCheck auth messageId system.storage = .deleting messageId := by
    unfold Relayer.deleteCheck
    rw [(system.storage.getMessage_eq_ok_iff messageId existing).mpr hexisting]
    simp only [hcheck]
  rw [runFrom_cons, step_arrive hfresh hadmission, Option.bind_some]
  simp only [runFrom_cons, runFrom_nil, Relayer.step, System.lookup_setTask, hchecked,
    Option.bind_some, System.setTask_setTask, System.storage_setTask]

/-- Assumes: an accepted delete request for a message of the sender in the group. Served without
interruption it marks the message for deletion. -/
theorem runFrom_serveDelete {messageId : Uuid} {existing : Message}
    (hfresh : system.tasks.lookup task = none)
    (hadmission : relayer.admission system.membership admitted request =
      .calling (.deleteMessage auth messageId))
    (hexisting : system.storage.messages.lookup messageId = some existing)
    (hcheck : deleteMessageCheck auth existing = .ok ()) :
    runFrom relayer.step system (serveDelete task request admitted written) =
      some ({ system with storage := { system.storage with
        messages := system.storage.messages.insert messageId (existing.markForDeletion written) }
          }.setTask task request (.done (.deleted ⟨⟩))) := by
  have hstored : system.storage.deleteMessage messageId written =
      (.ok (existing.markForDeletion written), { system.storage with
        messages :=
          system.storage.messages.insert messageId (existing.markForDeletion written) }) := by
    simp only [InMemoryStorage.deleteMessage, hexisting]
  refine runFrom_append_eq_some.mpr
    ⟨_, runFrom_checkDelete hfresh hadmission hexisting hcheck, ?_⟩
  simp only [runFrom_cons, runFrom_nil, Relayer.step, System.lookup_setTask, Option.bind_some,
    System.storage_setTask, hstored, Relayer.afterStorage]
  simp [System.setTask]

end Serving

/-! ### A relayer with one client -/

section Sample

/-- A client with an Ed25519 key. -/
def sampleSigner : Signer where
  scheme := .ed25519
  key := (FixedBytes.bigEndian 32
    0xea4a6c63e29c520abef5507b132ec5f9954776aebebe7b92421eea691446d22c).val
  key_length := (FixedBytes.bigEndian 32 _).property

/-- The hash of the client's key. -/
def sampleAddress : FixedBytes 32 :=
  .bigEndian 32 0xa0ccc8bcc83f6c628340134f8546a21e0618fd1aaa02432bba454c4a2c2233da

/-- A signature by its two halves. -/
def signatureBytes (first second : Nat) : List UInt8 :=
  (FixedBytes.bigEndian 32 first).val ++ (FixedBytes.bigEndian 32 second).val

theorem length_signatureBytes (first second : Nat) : (signatureBytes first second).length = 64 := by
  unfold signatureBytes
  rw [List.length_append, (FixedBytes.bigEndian 32 first).property,
    (FixedBytes.bigEndian 32 second).property]

/-- The time of the client's requests, in seconds. -/
def sampleTimestamp : Int :=
  1700000000

/-- Readings of the relayer's clock, a nanosecond apart. -/
def sampleClock (reading : Nat) : DateTime :=
  1700000000 * 1000000000 + reading

/-- The identifier the relayer draws for the client's message. -/
def sampleMessageId : Uuid :=
  .fill 16 0x0c

/-- An identifier the relayer draws later. -/
def otherMessageId : Uuid :=
  .fill 16 0x0d

/-- The client's signature for the message it posts. -/
def postMessageSignature : List UInt8 :=
  signatureBytes 0x9127489f5628ea4eb684be9ffa1fc4a3391cf69614ffc5a54831fc90334d5efd
    0x1ea03475c565cece0fa49982d11b28188fc0836cd3ac75d6a9e4aa64141fda03

/-- A message is posted. -/
def samplePost : CreateMessageRequest where
  groupId := hexAddress sampleGroup
  encryptedText := "c0ffee"
  nonce := "1a1a1a1a1a1a1a1a1a1a1a1a"
  keyVersion := 0
  senderAddress := hexAddress sampleAddress
  messageSignature := Hex.encode postMessageSignature
  attachments := []

/-- The client's signature for the edit of its message, which it spells in upper case. -/
def putMessageSignature : List UInt8 :=
  signatureBytes 0x1cfc3a5c0224c626d473775bd163a2763f4201f3997db28e371b9720e769338d
    0xfccb8b31a730942e080213f1758360bb705720a7e0925566fd5680ce87a30d09

/-- The message is edited. -/
def samplePut : UpdateMessageRequest where
  messageId := sampleMessageId
  groupId := hexAddress sampleGroup
  senderAddress := hexAddress sampleAddress
  encryptedText := "F00D"
  nonce := "2B2B2B2B2B2B2B2B2B2B2B2B"
  keyVersion := 0
  messageSignature := Hex.encode putMessageSignature
  attachments := []

/-- What the bodies of the two requests have in common, as JSON text. -/
def contentText (groupId senderAddress encryptedText nonce messageSignature : String)
    (timestamp keyVersion : Int) : String :=
  "\"group_id\":\"" ++ groupId ++ "\",\"sender_address\":\"" ++ senderAddress ++
    "\",\"timestamp\":" ++ toString timestamp ++ ",\"encrypted_text\":\"" ++ encryptedText ++
    "\",\"nonce\":\"" ++ nonce ++ "\",\"key_version\":" ++ toString keyVersion ++
    ",\"message_signature\":\"" ++ messageSignature ++ "\",\"attachments\":[]\x7d"

/-- The body of the post. -/
def postBody : List UInt8 :=
  utf8 ("\x7b" ++ contentText samplePost.groupId samplePost.senderAddress samplePost.encryptedText
    samplePost.nonce samplePost.messageSignature sampleTimestamp samplePost.keyVersion)

/-- The body of the edit. -/
def putBody : List UInt8 :=
  utf8 ("\x7b\"message_id\":\"" ++ Uuid.toString sampleMessageId ++ "\"," ++
    contentText samplePut.groupId samplePut.senderAddress samplePut.encryptedText samplePut.nonce
      samplePut.messageSignature sampleTimestamp samplePut.keyVersion)

/-- The client's signature for the body of its post. -/
def postSignature : List UInt8 :=
  signatureBytes 0xb1922e3ec695301eab693b52cb264fe8cb6139505c6798bf6167a7a77a91ac37
    0x39a4a2e46e5eae8d03b789ac05ccb17acee60b8f4e576305ab7284fdaca3300d

/-- The client's signature for the body of its edit. -/
def putSignature : List UInt8 :=
  signatureBytes 0xd84b4d1b5069b107145cefd0f02d9ea3dda18e24b83161686c76d64d3605fd85
    0x6aefaeafb6b76d1e3126d578c126dd306732c689347b53383ca663817035e605

/-- The client's signature for a request without a body. -/
def canonicalSignature : List UInt8 :=
  signatureBytes 0xa5a1ab8fdba8c29dcaf25236d63254020b1dbe69f51eaca7ffbc75acb4e62bd8
    0x49e4b0335d8a9231793ae0dfd614c541fe968269450038d8b55512ba7300690f

/-- The BCS bytes of the event that adds the client to the group. -/
def sampleMemberBytes : List UInt8 :=
  sampleGroup.val ++ sampleAddress.val

/-- The type names of the messaging permissions. -/
def samplePermissionNames : List String :=
  ["5a::messaging::MessagingSender", "5a::messaging::MessagingReader",
    "5a::messaging::MessagingEditor", "5a::messaging::MessagingDeleter"]

/-- The BCS bytes of the event that grants the client all of them. -/
def samplePermissionsBytes : List UInt8 :=
  sampleMemberBytes ++ 4 :: samplePermissionNames.flatMap fun name ↦
    UInt8.ofNat (utf8 name).length :: utf8 name

/-- The query string of a read of the client's message. -/
def sampleQuery : String :=
  "message_id=" ++ Uuid.toString sampleMessageId

/-- What the client has signed, and the signatures. -/
def sampleSigned : List (List UInt8 × List UInt8) :=
  [(postBody, postSignature),
    (utf8 (canonicalMessage samplePost.groupId samplePost.encryptedText samplePost.nonce 0),
      postMessageSignature),
    (putBody, putSignature),
    (utf8 (canonicalMessage samplePut.groupId samplePut.encryptedText samplePut.nonce 0),
      putMessageSignature),
    (utf8 (canonicalRequest sampleTimestamp (hexAddress sampleAddress) (hexAddress sampleGroup)),
      canonicalSignature)]

/-- The libraries on what the client and the chain send. -/
def sampleLibs : Externals :=
  Externals.ofTables
    (sampleSigned.map fun entry ↦
      (entry.1, serializedSignature .ed25519 entry.2 sampleSigner.key))
    [(sampleSigner.publicKeyWithFlag, sampleAddress)]
    [(postBody, samplePost.toJson sampleTimestamp), (putBody, samplePut.toJson sampleTimestamp)]
    [(sampleQuery, [("message_id", Uuid.toString sampleMessageId)])]
    [(Uuid.toString sampleMessageId, sampleMessageId)]
    [(sampleMemberBytes, sampleGroup, sampleAddress)]
    [(samplePermissionsBytes, sampleGroup, sampleAddress, samplePermissionNames)]

/-- The keypair of the enclave on the responses it signs. -/
def sampleKeyPair : EnclaveKeyPair where
  sign payload := ([
    ((⟨.messageDelivery, 1700000000000, ⟨sampleMessageId⟩⟩ :
        IntentMessage CreateMessageResponse).toBytes CreateMessageResponse.toBytes,
      signatureBytes 0x8192da5c98859eecbea5059e311a9e4ba6a31db3ac974a9182be889a587cea08
        0x3353da1d8d35f3b7c30958e6a7dc9b01a533384fdc2232b7af9866608a85d809),
    ((⟨.messageDelivery, 1700000000000, ⟨otherMessageId⟩⟩ :
        IntentMessage CreateMessageResponse).toBytes CreateMessageResponse.toBytes,
      signatureBytes 0xe32177df230c2b7201b0636ebc65b984c7f11dad257bde9abb4fb708dd287cb0
        0xa9ef401e27b99fa0392ce08172c95a30360779900821896e0ee3ba9f10db6509),
    ((⟨.messageDelivery, 1700000000000, ⟨⟩⟩ : IntentMessage EmptyResponse).toBytes
        EmptyResponse.toBytes,
      signatureBytes 0x04bc0a93f7c1021e6c10865722a7174ee9b128993e533001185f48bcae31a078
        0xc9ec282cb2686106501aa1c5dbea1141a6e013b49ebf782207f403064ffd2802)].lookup payload).getD []
  publicKeyBytes := (FixedBytes.bigEndian 32
    0x1398f62c6d1a457c51ba6a4b5f3dbd2f69fca93216218dc8997e416bd17d93ca).val

/-- The relayer of the client's group. -/
def sampleRelayer : Relayer where
  libs := sampleLibs
  config := {
    requestTtlSeconds := 900
    groupsPackageId := samplePackage
    walrusSyncBatchSize := 100
    walrusSyncMessageThreshold := 50 }
  keyPair := sampleKeyPair

/-- The client joins the group and gets every permission. -/
def sampleStart : List Action :=
  [.suiEvent (sampleEvent "MemberAdded" sampleMemberBytes),
    .suiEvent (sampleEvent "PermissionsGranted" samplePermissionsBytes)]

/-- The membership store afterwards. -/
def sampleMembership : InMemoryMembershipStore :=
  (InMemoryMembershipStore.new.applyEvent (.memberAdded (hexAddress sampleGroup)
    (hexAddress sampleAddress))).applyEvent (.permissionsGranted (hexAddress sampleGroup)
      (hexAddress sampleAddress)
      [.messagingSender, .messagingReader, .messagingEditor, .messagingDeleter])

theorem parseSuiEvent_sampleMember :
    parseSuiEvent sampleLibs (sampleEvent "MemberAdded" sampleMemberBytes) samplePackage =
      some (.memberAdded (hexAddress sampleGroup) (hexAddress sampleAddress)) := by
  have hparse : parseSuiEvent sampleLibs (sampleEvent "MemberAdded" sampleMemberBytes)
      samplePackage = parseMemberAdded sampleLibs sampleMemberBytes := by
    decide +kernel
  rw [hparse]
  unfold parseMemberAdded sampleLibs
  rw [memberEventFromBcs_ofTables, List.lookup_cons_self]
  rfl

theorem parseSuiEvent_samplePermissions :
    parseSuiEvent sampleLibs (sampleEvent "PermissionsGranted" samplePermissionsBytes)
      samplePackage = some (.permissionsGranted (hexAddress sampleGroup) (hexAddress sampleAddress)
        [.messagingSender, .messagingReader, .messagingEditor, .messagingDeleter]) := by
  have hparse : parseSuiEvent sampleLibs (sampleEvent "PermissionsGranted" samplePermissionsBytes)
      samplePackage = parsePermissionsGranted sampleLibs samplePermissionsBytes := by
    decide +kernel
  have hnames : samplePermissionNames.filterMap MessagingPermission.fromTypeName =
      [.messagingSender, .messagingReader, .messagingEditor, .messagingDeleter] := by
    decide +kernel
  rw [hparse, ← hnames]
  unfold parsePermissionsGranted sampleLibs
  rw [permissionsEventFromBcs_ofTables, List.lookup_cons_self]
  rfl

theorem run_sampleStart :
    sampleRelayer.run sampleStart = some { System.init with membership := sampleMembership } := by
  unfold sampleStart
  rw [Relayer.run, runFrom_cons, step_suiEvent sampleRelayer parseSuiEvent_sampleMember,
    Option.bind_some, runFrom_cons, step_suiEvent sampleRelayer parseSuiEvent_samplePermissions,
    Option.bind_some]
  rfl

/-- No request has been served yet. -/
theorem tasks_sampleStart (task : TaskId) :
    ({ System.init with membership := sampleMembership } : System).tasks.lookup task = none :=
  Finmap.lookup_empty task

theorem hasPermission_sampleMembership (permission : MessagingPermission) :
    sampleMembership.hasPermission (hexAddress sampleGroup) (hexAddress sampleAddress) permission =
      true := by
  cases permission <;> decide +kernel

theorem address_sampleSigner : sampleSigner.address sampleLibs = hexAddress sampleAddress := by
  unfold Signer.address sampleLibs
  rw [blake2b256_ofTables List.lookup_cons_self]

theorem length_contentText (groupId senderAddress encryptedText nonce messageSignature : String)
    (timestamp keyVersion : Int) :
    (contentText groupId senderAddress encryptedText nonce messageSignature timestamp
      keyVersion).length =
      133 + groupId.length + senderAddress.length + (toString timestamp).length +
        encryptedText.length + nonce.length + (toString keyVersion).length +
          messageSignature.length := by
  unfold contentText
  simp only [String.length_append]
  have hgroup : "\"group_id\":\"".length = 12 := rfl
  have hsender : "\",\"sender_address\":\"".length = 20 := rfl
  have htime : "\",\"timestamp\":".length = 14 := rfl
  have htext : ",\"encrypted_text\":\"".length = 19 := rfl
  have hnonce : "\",\"nonce\":\"".length = 11 := rfl
  have hversion : "\",\"key_version\":".length = 16 := rfl
  have hsignature : ",\"message_signature\":\"".length = 22 := rfl
  have hend : "\",\"attachments\":[]\x7d".length = 19 := rfl
  omega

/-- A body of the client stays far below the limit of the extractor. -/
theorem length_utf8_contentText_le {opening encryptedText nonce : String}
    {group sender : FixedBytes 32} {signature : List UInt8} (hsignature : signature.length = 64)
    (hshort : opening.length + encryptedText.length + nonce.length ≤ 1000) :
    (utf8 (opening ++ contentText (hexAddress group) (hexAddress sender) encryptedText nonce
      (Hex.encode signature) sampleTimestamp 0)).length ≤ defaultBodyLimit := by
  refine (length_utf8_le _).trans ?_
  rw [String.length_append, length_contentText, length_hexAddress, length_hexAddress,
    Hex.length_encode, hsignature]
  have htime : (toString sampleTimestamp).length = 10 := rfl
  have hversion : (toString (0 : Int)).length = 1 := rfl
  unfold defaultBodyLimit
  omega

theorem length_postBody_le : postBody.length ≤ defaultBodyLimit :=
  length_utf8_contentText_le (length_signatureBytes _ _) (by decide)

/-- The body of an edit opens with the identifier of the message. -/
theorem length_putOpening (id : Uuid) :
    ("\x7b\"message_id\":\"" ++ Uuid.toString id ++ "\",").length = 53 := by
  rw [String.length_append, String.length_append, Uuid.length_toString]
  rfl

theorem length_putBody_le : putBody.length ≤ defaultBodyLimit := by
  refine length_utf8_contentText_le (length_signatureBytes _ _) ?_
  rw [length_putOpening]
  decide

theorem head?_postBody : postBody.head? = some 0x7b := by
  unfold postBody
  rw [utf8_append, List.head?_append]
  rfl

theorem head?_putBody : putBody.head? = some 0x7b := by
  unfold putBody
  rw [utf8_append, utf8_append, utf8_append, List.head?_append, List.head?_append,
    List.head?_append]
  rfl

/-- The two bodies differ in the name of their first field. -/
theorem putBody_ne_postBody : putBody ≠ postBody := by
  have hput : putBody[2]? = some 0x6d := by
    unfold putBody
    rw [utf8_append, utf8_append, utf8_append, List.append_assoc, List.append_assoc]
    rfl
  have hpost : postBody[2]? = some 0x67 := by
    unfold postBody contentText
    simp only [utf8_append, List.append_assoc]
    rfl
  intro hsame
  rw [hsame, hpost] at hput
  exact absurd hput (by decide)

theorem jsonFromSlice_postBody :
    sampleLibs.jsonFromSlice postBody = .ok (samplePost.toJson sampleTimestamp) := by
  unfold sampleLibs
  rw [jsonFromSlice_ofTables List.lookup_cons_self]

theorem jsonFromSlice_putBody :
    sampleLibs.jsonFromSlice putBody = .ok (samplePut.toJson sampleTimestamp) := by
  have hlookup : [(postBody, samplePost.toJson sampleTimestamp),
      (putBody, samplePut.toJson sampleTimestamp)].lookup putBody =
        some (samplePut.toJson sampleTimestamp) := by
    rw [List.lookup_cons, beq_false_of_ne putBody_ne_postBody, List.lookup_cons_self]
  unfold sampleLibs
  rw [jsonFromSlice_ofTables hlookup]

theorem lawfulJson_sampleLibs : sampleLibs.LawfulJson := by
  have hheads : ∀ entry ∈ [(postBody, samplePost.toJson sampleTimestamp),
      (putBody, samplePut.toJson sampleTimestamp)], entry.1.head? = some 0x7b := by
    intro entry hmem
    rcases List.mem_pair.mp hmem with hentry | hentry
    · rw [hentry, head?_postBody]
    · rw [hentry, head?_putBody]
  unfold sampleLibs
  exact lawfulJson_ofTables hheads

/-- A signature of the client is good for exactly the bytes a table has for it. -/
theorem verifySignature_clientTable {signed : List (List UInt8 × List UInt8)}
    {hashes : List (List UInt8 × FixedBytes 32)} {documents : List (List UInt8 × Json)}
    {queries : List (String × List (String × String))} {uuids : List (String × FixedBytes 16)}
    {memberEvents : List (List UInt8 × FixedBytes 32 × FixedBytes 32)}
    {permissionsEvents : List (List UInt8 × FixedBytes 32 × FixedBytes 32 × List String)}
    {message signature : List UInt8} (hlength : signature.length = 64) :
    verifySignature (Externals.ofTables
        (signed.map fun entry ↦
          (entry.1, serializedSignature .ed25519 entry.2 sampleSigner.key))
        hashes documents queries uuids memberEvents permissionsEvents)
      message signature sampleSigner.key sampleSigner.scheme = .ok () ↔
      (message, signature) ∈ signed := by
  have hserialized : ∀ other, serializedSignature .ed25519 other sampleSigner.key =
      serializedSignature .ed25519 signature sampleSigner.key ↔ other = signature := by
    intro other
    unfold serializedSignature
    rw [List.cons.injEq, List.append_left_inj]
    exact and_iff_right rfl
  rw [verifySignature_ofTables hlength sampleSigner.key_length, List.mem_map]
  constructor
  · rintro ⟨⟨text, other⟩, hmem, hsame⟩
    obtain ⟨rfl, hother⟩ := Prod.mk.inj hsame
    obtain rfl := (hserialized other).mp hother
    exact hmem
  · exact fun hmem ↦ ⟨_, hmem, rfl⟩

theorem verifySignature_sampleLibs {message signature : List UInt8}
    (hlength : signature.length = 64) :
    verifySignature sampleLibs message signature sampleSigner.key sampleSigner.scheme = .ok () ↔
      (message, signature) ∈ sampleSigned := by
  unfold sampleLibs
  exact verifySignature_clientTable hlength

/-- The client's signatures differ, so each is good for one text. -/
theorem eq_of_verifySignature_sampleLibs {first second signature : List UInt8}
    (hlength : signature.length = 64)
    (hfirst : verifySignature sampleLibs first signature sampleSigner.key sampleSigner.scheme =
      .ok ())
    (hsecond : verifySignature sampleLibs second signature sampleSigner.key sampleSigner.scheme =
      .ok ()) : first = second := by
  have hdistinct : (sampleSigned.map Prod.snd).Nodup := by
    decide +kernel
  exact congrArg Prod.fst (List.inj_on_of_nodup_map hdistinct
    ((verifySignature_sampleLibs hlength).mp hfirst)
    ((verifySignature_sampleLibs hlength).mp hsecond) rfl)

/-- The client's requests are in time. -/
theorem validateTimestamp_sampleClock {reading : Nat} (hreading : reading < 1000000000) :
    validateTimestamp (DateTime.timestamp (sampleClock reading)) sampleTimestamp 900 = .ok () := by
  have hnow : DateTime.timestamp (sampleClock reading) = sampleTimestamp := by
    unfold DateTime.timestamp sampleClock sampleTimestamp
    omega
  rw [hnow]
  rfl

/-- The context of the client's requests. -/
def sampleAuth : AuthContext where
  senderAddress := hexAddress sampleAddress
  publicKey := sampleSigner.key
  scheme := .ed25519
  authorizedGroup := some (hexAddress sampleGroup)

theorem context_sampleSigner {libs : Externals}
    (haddress : sampleSigner.address libs = hexAddress sampleAddress) :
    sampleSigner.context libs (hexAddress sampleGroup) = sampleAuth := by
  unfold Signer.context
  rw [haddress]
  rfl

def postRequest : Request :=
  sampleSigner.bodyRequest .post postSignature postBody

def putRequest : Request :=
  sampleSigner.bodyRequest .put putSignature putBody

def deleteRequest : Request :=
  sampleSigner.headerRequest .delete (.message (Uuid.toString sampleMessageId)) ""
    canonicalSignature (hexAddress sampleAddress) sampleTimestamp (hexAddress sampleGroup)

def getRequest : Request :=
  sampleSigner.headerRequest .get .messages sampleQuery canonicalSignature
    (hexAddress sampleAddress) sampleTimestamp (hexAddress sampleGroup)

theorem ne_nil_of_head? {bytes : List UInt8} {first : UInt8} (hhead : bytes.head? = some first) :
    bytes ≠ [] := by
  rintro rfl
  simp at hhead

/-- Assumes: libraries with the client's address. A body the client has signed, which makes its
claims, is accepted for every method that needs a permission. -/
theorem authMiddleware_clientBody {libs : Externals} {method : Method}
    {permission : MessagingPermission} {signature body : List UInt8} {json : Json} {reading : Nat}
    (haddress : sampleSigner.address libs = hexAddress sampleAddress)
    (hpermission : requiredPermission method = some permission) (hbody : body ≠ [])
    (hjson : libs.jsonFromSlice body = .ok json)
    (hfields : BodyAuthFields.fromJson json =
      .ok ⟨hexAddress sampleGroup, hexAddress sampleAddress, sampleTimestamp⟩)
    (hsigned : verifySignature libs body signature sampleSigner.key sampleSigner.scheme = .ok ())
    (hreading : reading < 1000000000) :
    authMiddleware libs 900 sampleMembership (DateTime.timestamp (sampleClock reading))
      (sampleSigner.bodyRequest method signature body) = .ok (some sampleAuth) := by
  have hheld : sampleMembership.hasPermission (hexAddress sampleGroup)
      (sampleSigner.address libs) permission = true := by
    rw [haddress]
    exact hasPermission_sampleMembership permission
  rw [← haddress] at hfields
  rw [← context_sampleSigner haddress]
  exact sampleSigner.authMiddleware_bodyRequest hpermission hbody hjson hfields
    (validateTimestamp_sampleClock hreading) hsigned hheld

theorem authMiddleware_postRequest {reading : Nat} (hreading : reading < 1000000000) :
    authMiddleware sampleLibs 900 sampleMembership (DateTime.timestamp (sampleClock reading))
      postRequest = .ok (some sampleAuth) := by
  have hsigned : verifySignature sampleLibs postBody postSignature sampleSigner.key
      sampleSigner.scheme = .ok () :=
    (verifySignature_sampleLibs (length_signatureBytes _ _)).mpr List.mem_cons_self
  exact authMiddleware_clientBody address_sampleSigner rfl (ne_nil_of_head? head?_postBody)
    jsonFromSlice_postBody (samplePost.bodyAuth_toJson (by decide)) hsigned hreading

/-- A bodyless request of the client is accepted for every method, path and query. -/
theorem authMiddleware_canonical {reading : Nat} {method : Method} {route : Route} {query : String}
    {permission : MessagingPermission} (hpermission : requiredPermission method = some permission)
    (hreading : reading < 1000000000) :
    authMiddleware sampleLibs 900 sampleMembership (DateTime.timestamp (sampleClock reading))
      (sampleSigner.headerRequest method route query canonicalSignature (hexAddress sampleAddress)
        sampleTimestamp (hexAddress sampleGroup)) = .ok (some sampleAuth) := by
  have hsigned : verifySignature sampleLibs (utf8 (canonicalRequest sampleTimestamp
      (sampleSigner.address sampleLibs) (hexAddress sampleGroup))) canonicalSignature
      sampleSigner.key sampleSigner.scheme = .ok () := by
    rw [address_sampleSigner]
    have hlast : (utf8 (canonicalRequest sampleTimestamp (hexAddress sampleAddress)
        (hexAddress sampleGroup)), canonicalSignature) ∈ sampleSigned.drop 4 := List.mem_cons_self
    exact (verifySignature_sampleLibs (length_signatureBytes _ _)).mpr (List.mem_of_mem_drop hlast)
  have hheld : sampleMembership.hasPermission (hexAddress sampleGroup)
      (sampleSigner.address sampleLibs) permission = true := by
    rw [address_sampleSigner]
    exact hasPermission_sampleMembership permission
  rw [← context_sampleSigner address_sampleSigner, ← address_sampleSigner]
  exact sampleSigner.authMiddleware_headerRequest hpermission (graphic_hexAddress sampleGroup)
    (by decide) (validateTimestamp_sampleClock hreading) hsigned hheld

/-- What the client posts, decoded. -/
def sampleContent : MessageContent where
  encryptedMsg := [0xc0, 0xff, 0xee]
  nonce := List.replicate 12 0x1a
  keyVersion := 0
  attachments := []
  signature := postMessageSignature
  publicKey := sampleAuth.publicKeyWithFlag

/-- What the client edits it to. -/
def editedContent : MessageContent where
  encryptedMsg := [0xf0, 0x0d]
  nonce := List.replicate 12 0x2b
  keyVersion := 0
  attachments := []
  signature := putMessageSignature
  publicKey := sampleAuth.publicKeyWithFlag

theorem decodeContent_samplePost :
    decodeContent sampleLibs sampleAuth samplePost.groupId samplePost.encryptedText
      samplePost.nonce samplePost.keyVersion samplePost.messageSignature samplePost.attachments =
        .ok sampleContent := by
  have hsigned : (utf8 (canonicalMessage samplePost.groupId samplePost.encryptedText
      samplePost.nonce 0), postMessageSignature) ∈ sampleSigned :=
    List.mem_cons_of_mem _ List.mem_cons_self
  exact decodeContent_of_verified rfl rfl rfl
    ((verifySignature_sampleLibs (length_signatureBytes _ _)).mpr hsigned)

theorem decodeContent_samplePut :
    decodeContent sampleLibs sampleAuth samplePut.groupId samplePut.encryptedText
      samplePut.nonce samplePut.keyVersion samplePut.messageSignature samplePut.attachments =
        .ok editedContent := by
  have hsigned : (utf8 (canonicalMessage samplePut.groupId samplePut.encryptedText
      samplePut.nonce 0), putMessageSignature) ∈ sampleSigned.drop 3 := List.mem_cons_self
  exact decodeContent_of_verified rfl rfl rfl
    ((verifySignature_sampleLibs (length_signatureBytes _ _)).mpr (List.mem_of_mem_drop hsigned))

section Runs

variable {system : System} {task : TaskId} {storage : InMemoryStorage}
  {arrived built written responded : Nat}

/-- The client's post, built into a message. -/
def postedMessage (id : Uuid) (built : Nat) : Message :=
  Message.new id (sampleClock built) (hexAddress sampleGroup) (hexAddress sampleAddress)
    sampleContent

/-- Assumes: libraries that read and verify what the client has written and signed. A post by the
client is admitted. -/
theorem admission_clientPost {relayer : Relayer} {req : CreateMessageRequest}
    {signature body : List UInt8} (libs : Externals) (hlibs : relayer.libs = libs)
    (httl : relayer.config.requestTtlSeconds = 900)
    (haddress : sampleSigner.address libs = hexAddress sampleAddress)
    (htype : libs.isJsonContentType (utf8 "application/json") = true)
    (hbody : body ≠ []) (hsize : body.length ≤ defaultBodyLimit)
    (hjson : libs.jsonFromSlice body = .ok (req.toJson sampleTimestamp))
    (hgroup : req.groupId = hexAddress sampleGroup)
    (hsender : req.senderAddress = hexAddress sampleAddress) (hversion : req.keyVersion = 0)
    (hsigned : verifySignature libs body signature sampleSigner.key sampleSigner.scheme = .ok ())
    (harrived : arrived < 1000000000) :
    relayer.admission sampleMembership (sampleClock arrived)
      (sampleSigner.bodyRequest .post signature body) =
        .calling (.createMessage sampleAuth req) := by
  subst hlibs
  have hfields : BodyAuthFields.fromJson (req.toJson sampleTimestamp) =
      .ok ⟨hexAddress sampleGroup, hexAddress sampleAddress, sampleTimestamp⟩ := by
    rw [← hgroup, ← hsender]
    exact req.bodyAuth_toJson (by decide)
  have hdispatch : dispatch relayer.libs (sampleSigner.bodyRequest .post signature body)
      (some sampleAuth) = .ok (.createMessage sampleAuth req) :=
    sampleSigner.dispatch_post htype hsize hjson
      (req.fromJson_toJson sampleTimestamp (by rw [hversion]; decide))
  refine admission_eq_calling ?_ hdispatch
  rw [httl]
  exact authMiddleware_clientBody haddress rfl hbody hjson hfields hsigned harrived

theorem admission_postRequest (harrived : arrived < 1000000000) :
    sampleRelayer.admission sampleMembership (sampleClock arrived) postRequest =
      .calling (.createMessage sampleAuth samplePost) := by
  have hsigned : verifySignature sampleLibs postBody postSignature sampleSigner.key
      sampleSigner.scheme = .ok () :=
    (verifySignature_sampleLibs (length_signatureBytes _ _)).mpr List.mem_cons_self
  exact admission_clientPost sampleLibs rfl rfl address_sampleSigner (beq_self_eq_true _)
    (ne_nil_of_head? head?_postBody) length_postBody_le jsonFromSlice_postBody rfl rfl rfl hsigned
    harrived

/-- Assumes: libraries that read and verify what the client has written and signed. An edit by the
client is admitted. -/
theorem admission_clientPut {relayer : Relayer} {req : UpdateMessageRequest}
    {signature body : List UInt8} (libs : Externals) (hlibs : relayer.libs = libs)
    (httl : relayer.config.requestTtlSeconds = 900)
    (haddress : sampleSigner.address libs = hexAddress sampleAddress)
    (htype : libs.isJsonContentType (utf8 "application/json") = true)
    (hid : libs.uuidParseStr (Uuid.toString req.messageId) = .ok req.messageId)
    (hbody : body ≠ []) (hsize : body.length ≤ defaultBodyLimit)
    (hjson : libs.jsonFromSlice body = .ok (req.toJson sampleTimestamp))
    (hgroup : req.groupId = hexAddress sampleGroup)
    (hsender : req.senderAddress = hexAddress sampleAddress) (hversion : req.keyVersion = 0)
    (hsigned : verifySignature libs body signature sampleSigner.key sampleSigner.scheme = .ok ())
    (harrived : arrived < 1000000000) :
    relayer.admission sampleMembership (sampleClock arrived)
      (sampleSigner.bodyRequest .put signature body) =
        .calling (.updateMessage sampleAuth req) := by
  subst hlibs
  have hfields : BodyAuthFields.fromJson (req.toJson sampleTimestamp) =
      .ok ⟨hexAddress sampleGroup, hexAddress sampleAddress, sampleTimestamp⟩ := by
    rw [← hgroup, ← hsender]
    exact req.bodyAuth_toJson (by decide)
  have hdispatch : dispatch relayer.libs (sampleSigner.bodyRequest .put signature body)
      (some sampleAuth) = .ok (.updateMessage sampleAuth req) :=
    sampleSigner.dispatch_put htype hsize hjson
      (req.fromJson_toJson sampleTimestamp hid (by rw [hversion]; decide))
  refine admission_eq_calling ?_ hdispatch
  rw [httl]
  exact authMiddleware_clientBody haddress rfl hbody hjson hfields hsigned harrived

theorem createMessagePrepare_samplePost (id : Uuid) (built : Nat) :
    createMessagePrepare sampleRelayer.libs sampleAuth samplePost id (sampleClock built) =
      .ok (postedMessage id built) :=
  bind_eq_ok_iff.mpr ⟨sampleContent, decodeContent_samplePost, rfl⟩

/-- The client's post is served whenever the storage takes the message. -/
theorem runFrom_postRequest {id : Uuid} {created : Message}
    (hmembership : system.membership = sampleMembership) (hfresh : system.tasks.lookup task = none)
    (harrived : arrived < 1000000000)
    (hstored : system.storage.createMessage (postedMessage id built) = (.ok created, storage)) :
    runFrom sampleRelayer.step system (serveCreate task postRequest id (sampleClock arrived)
      (sampleClock built) (sampleClock responded)) =
      some ({ system with
        storage := storage
        notifications := system.notifications + 1 }.setTask task postRequest
          (.done (sampleRelayer.createReply created.id (sampleClock responded)))) := by
  have hadmission : sampleRelayer.admission system.membership (sampleClock arrived) postRequest =
      .calling (.createMessage sampleAuth samplePost) := by
    rw [hmembership]
    exact admission_postRequest harrived
  exact runFrom_serveCreate hfresh hadmission (createMessagePrepare_samplePost id built) hstored

/-- The message is the client's, in its group. -/
def OwnedByClient (message : Message) : Prop :=
  message.groupId = hexAddress sampleGroup ∧ message.senderWalletAddr = hexAddress sampleAddress

theorem checkOwnership_sampleAuth {existing : Message} (howned : OwnedByClient existing)
    (verb : String) : checkOwnership sampleAuth existing verb = .ok () := by
  unfold checkOwnership
  rw [howned.1, howned.2]
  simp [sampleAuth]

theorem uuidParseStr_sampleMessageId :
    sampleLibs.uuidParseStr (Uuid.toString sampleMessageId) = .ok sampleMessageId := by
  unfold sampleLibs
  exact uuidParseStr_ofTables List.lookup_cons_self

/-- The client's edit is served whenever the storage takes it. -/
theorem runFrom_putRequest {existing updated : Message}
    (hmembership : system.membership = sampleMembership) (hfresh : system.tasks.lookup task = none)
    (harrived : arrived < 1000000000)
    (hexisting : system.storage.messages.lookup sampleMessageId = some existing)
    (howned : OwnedByClient existing)
    (hstored : system.storage.updateMessage sampleMessageId editedContent (sampleClock written) =
      (.ok updated, storage)) :
    runFrom sampleRelayer.step system (serveUpdate task putRequest (sampleClock arrived)
      (sampleClock written) (sampleClock responded)) =
      some ({ system with storage := storage }.setTask task putRequest
        (.done (sampleRelayer.updateReply (sampleClock responded)))) := by
  have hsigned : verifySignature sampleLibs putBody putSignature sampleSigner.key
      sampleSigner.scheme = .ok () :=
    (verifySignature_sampleLibs (length_signatureBytes _ _)).mpr
      (List.mem_cons_of_mem _ (List.mem_cons_of_mem _ List.mem_cons_self))
  have hadmission : sampleRelayer.admission system.membership (sampleClock arrived) putRequest =
      .calling (.updateMessage sampleAuth samplePut) := by
    rw [hmembership]
    exact admission_clientPut sampleLibs rfl rfl address_sampleSigner (beq_self_eq_true _)
      uuidParseStr_sampleMessageId (ne_nil_of_head? head?_putBody) length_putBody_le
      jsonFromSlice_putBody rfl rfl rfl hsigned harrived
  have hcheck : updateMessageCheck sampleRelayer.libs sampleAuth samplePut existing =
      .ok editedContent :=
    bind_eq_ok_iff.mpr ⟨(), checkOwnership_sampleAuth howned "edit", decodeContent_samplePut⟩
  exact runFrom_serveUpdate hfresh hadmission hexisting hcheck hstored

theorem dispatch_deleteRequest :
    dispatch sampleLibs deleteRequest (some sampleAuth) =
      .ok (.deleteMessage sampleAuth sampleMessageId) :=
  sampleSigner.dispatch_delete uuidParseStr_sampleMessageId

theorem admission_deleteRequest (harrived : arrived < 1000000000) :
    sampleRelayer.admission sampleMembership (sampleClock arrived) deleteRequest =
      .calling (.deleteMessage sampleAuth sampleMessageId) :=
  admission_eq_calling (authMiddleware_canonical rfl harrived) dispatch_deleteRequest

theorem dispatch_getRequest :
    dispatch sampleLibs getRequest (some sampleAuth) =
      .ok (.getMessages sampleAuth ⟨some sampleMessageId, none, none, none, none⟩) := by
  have hpairs : sampleLibs.formUrlDecode sampleQuery =
      [("message_id", Uuid.toString sampleMessageId)] := by
    unfold sampleLibs
    exact formUrlDecode_ofTables List.lookup_cons_self
  refine sampleSigner.dispatch_get ?_
  rw [hpairs]
  exact GetMessagesQuery.fromPairs_messageId uuidParseStr_sampleMessageId

theorem admission_getRequest (harrived : arrived < 1000000000) :
    sampleRelayer.admission sampleMembership (sampleClock arrived) getRequest =
      .calling (.getMessages sampleAuth ⟨some sampleMessageId, none, none, none, none⟩) :=
  admission_eq_calling (authMiddleware_canonical rfl harrived) dispatch_getRequest

end Runs

/-- The client joins the group and posts its message. -/
def samplePosting : List Action :=
  sampleStart ++ serveCreate 0 postRequest sampleMessageId (sampleClock 0) (sampleClock 1)
    (sampleClock 2)

/-- The message as it is stored. -/
def sampleMessage : Message :=
  (postedMessage sampleMessageId 1).setOrder 1

/-- The storage with the client's message. -/
def samplePostedStorage : InMemoryStorage where
  messages := Finmap.insert sampleMessageId sampleMessage ∅
  groupOrders := Finmap.insert (hexAddress sampleGroup) 1 ∅
  nonces := insert sampleContent.nonce ∅

/-- The system when the client's post has been answered. -/
def samplePosted : System :=
  { System.init with
    membership := sampleMembership
    storage := samplePostedStorage
    notifications := 1 }.setTask 0 postRequest
      (.done (sampleRelayer.createReply sampleMessageId (sampleClock 2)))

theorem lookup_samplePostedStorage :
    samplePostedStorage.messages.lookup sampleMessageId = some sampleMessage :=
  Finmap.lookup_insert _

/-- The client's post is the only task so far. -/
theorem tasks_samplePosted {task : TaskId} (htask : task ≠ 0) :
    samplePosted.tasks.lookup task = none := by
  unfold samplePosted
  rw [System.lookup_setTask_of_ne _ _ _ _ htask]
  simp [System.init]

theorem createMessage_samplePosting :
    InMemoryStorage.new.createMessage (postedMessage sampleMessageId 1) =
      (.ok sampleMessage, samplePostedStorage) := by
  simp [InMemoryStorage.createMessage, InMemoryStorage.nextOrder, InMemoryStorage.insertMessage,
    InMemoryStorage.new, samplePostedStorage, sampleMessage, postedMessage, Message.setOrder,
    Message.new]

theorem run_samplePosting : sampleRelayer.run samplePosting = some samplePosted :=
  runFrom_append_eq_some.mpr ⟨_, run_sampleStart,
    runFrom_postRequest rfl (tasks_sampleStart 0) (by decide) createMessage_samplePosting⟩

/-- The storage after the client's edit. -/
def sampleEditedStorage (written : Nat) : InMemoryStorage where
  messages := samplePostedStorage.messages.insert sampleMessageId
    (sampleMessage.updateContent editedContent (sampleClock written))
  groupOrders := samplePostedStorage.groupOrders
  nonces := insert editedContent.nonce (samplePostedStorage.nonces.erase sampleMessage.nonce)

theorem updateMessage_samplePostedStorage (written : Nat) :
    samplePostedStorage.updateMessage sampleMessageId editedContent (sampleClock written) =
      (.ok (sampleMessage.updateContent editedContent (sampleClock written)),
        sampleEditedStorage written) := by
  have hunused : editedContent.nonce ∉ samplePostedStorage.nonces := by
    unfold samplePostedStorage
    decide
  exact samplePostedStorage.updateMessage_eq_ok _ (sampleClock written) lookup_samplePostedStorage
    (Or.inr hunused)

/-- The client posts its message and edits it. -/
def sampleEditing : List Action :=
  samplePosting ++ serveUpdate 1 putRequest (sampleClock 3) (sampleClock 4) (sampleClock 5)

/-- The system when the client's edit has been answered. -/
def sampleEdited : System :=
  { samplePosted with storage := sampleEditedStorage 4 }.setTask 1 putRequest
    (.done (sampleRelayer.updateReply (sampleClock 5)))

theorem run_sampleEditing : sampleRelayer.run sampleEditing = some sampleEdited :=
  runFrom_append_eq_some.mpr ⟨_, run_samplePosting, runFrom_putRequest rfl
    (tasks_samplePosted (by decide)) (by decide) lookup_samplePostedStorage ⟨rfl, rfl⟩
    (updateMessage_samplePostedStorage 4)⟩

/-- The publisher stores the patch of the client's message. -/
def sampleReply : QuiltStoreResponse :=
  ⟨[⟨patchIdentifier sampleMessageId, "sample-patch"⟩]⟩

/-- The worker takes its first snapshot after the post. -/
def sampleSnapshot : List Action :=
  [.tick, .snapshot [sampleMessage]]

/-- The snapshot is uploaded. -/
def sampleUpload : List Action :=
  [.upload (.ok sampleReply)]

/-- The system when the client's message is about to be uploaded. -/
def sampleUploading : System :=
  { samplePosted with worker := ⟨.uploading .pending [sampleMessage], 0⟩ }

/-- The system when the client's message is uploaded and not written back yet. -/
def sampleUploaded : System :=
  { samplePosted with
    worker := ⟨.writingBack .pending [sampleMessage] sampleReply, 0⟩
    archive := Pass.pending.patches [sampleMessage] }

theorem getPatchId_sampleReply :
    sampleReply.getPatchId (patchIdentifier sampleMessageId) = some "sample-patch" := by
  simp [QuiltStoreResponse.getPatchId, sampleReply]

theorem runFrom_sampleSnapshot :
    runFrom sampleRelayer.step samplePosted sampleSnapshot = some sampleUploading := by
  have hlisting : samplePostedStorage.messages.IterationOrder [sampleMessage] :=
    HashMap.iterationOrder_singleton sampleMessageId sampleMessage
  exact Option.bind_eq_some_iff.mpr ⟨{ samplePosted with worker := ⟨.snapshot .pending, 0⟩ }, rfl,
    Option.bind_eq_some_iff.mpr ⟨_, step_snapshot rfl hlisting rfl (List.cons_ne_nil _ _), rfl⟩⟩

theorem run_sampleSnapshot :
    sampleRelayer.run (samplePosting ++ sampleSnapshot) = some sampleUploading :=
  runFrom_append_eq_some.mpr ⟨_, run_samplePosting, runFrom_sampleSnapshot⟩

theorem run_sampleUpload :
    sampleRelayer.run (samplePosting ++ sampleSnapshot ++ sampleUpload) = some sampleUploaded :=
  runFrom_append_eq_some.mpr ⟨_, run_sampleSnapshot, rfl⟩

/-- The client's message as it is written back. -/
def sampleSynced : Message :=
  sampleMessage.withSyncStatus .synced (some "sample-patch") (sampleClock 3)

/-- The worker's first cycle after the client's post. -/
def sampleCycle : List Action :=
  sampleSnapshot ++ sampleUpload ++
    [.writeBack (sampleClock 3), .finishPass, .snapshot [sampleSynced], .snapshot [sampleSynced]]

/-- The system after the cycle. -/
def sampleCycled : System :=
  { samplePosted with
    storage := { samplePostedStorage with
      messages := Finmap.insert sampleMessageId sampleSynced ∅ }
    archive := Pass.pending.patches [sampleMessage] }

theorem writeBackMessage_samplePosted :
    writeBackMessage samplePostedStorage .pending sampleMessage sampleReply (sampleClock 3) =
      sampleCycled.storage := by
  have hwritten : samplePostedStorage.updateSyncStatus sampleMessageId .synced
      (some "sample-patch") (sampleClock 3) = (.ok sampleSynced, sampleCycled.storage) := by
    unfold InMemoryStorage.updateSyncStatus
    simp only [lookup_samplePostedStorage]
    unfold samplePostedStorage sampleCycled
    simp only [Finmap.insert_insert]
    rfl
  unfold writeBackMessage
  have hpatch : sampleReply.getPatchId (patchIdentifier sampleMessage.id) = some "sample-patch" :=
    getPatchId_sampleReply
  rw [hpatch]
  exact congrArg Prod.snd hwritten

theorem runFrom_sampleCycle :
    runFrom sampleRelayer.step samplePosted sampleCycle = some sampleCycled := by
  have hlater : sampleCycled.storage.messages.IterationOrder [sampleSynced] :=
    HashMap.iterationOrder_singleton sampleMessageId sampleSynced
  have huploaded : runFrom sampleRelayer.step samplePosted (sampleSnapshot ++ sampleUpload) =
      some sampleUploaded := runFrom_append_eq_some.mpr ⟨_, runFrom_sampleSnapshot, rfl⟩
  refine runFrom_append_eq_some.mpr ⟨_, huploaded, ?_⟩
  rw [runFrom_cons, step_writeBack (sampleClock 3) rfl, Option.bind_some]
  have hstorage : writeBackMessage sampleUploaded.storage .pending sampleMessage sampleReply
      (sampleClock 3) = sampleCycled.storage := writeBackMessage_samplePosted
  rw [hstorage]
  have hskip (pass : Pass) (hpass : pass ≠ .pending) : InMemoryStorage.getMessagesBySyncStatus
      [sampleSynced] pass.fromStatus
        (walrusBatchSize sampleRelayer.config.walrusSyncBatchSize) = [] := by
    cases pass with
    | pending => exact absurd rfl hpass
    | updated => rfl
    | deleted => rfl
  simp only [runFrom_cons, runFrom_nil, Relayer.step, SyncWorker.leavePass, Pass.next,
    Option.bind_some, if_pos hlater, hskip .updated (by decide), hskip .deleted (by decide),
    SyncWorker.takeSnapshot, if_true]
  rfl

end Sample

end MessagingRelayer
