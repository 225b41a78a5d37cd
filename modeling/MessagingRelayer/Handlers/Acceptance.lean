import MessagingRelayer.Auth.Acceptance
import MessagingRelayer.Handlers.Messages

/-!
# What reaches a handler

The other direction of the extractors: the body a client writes is read by the middleware and by the
handler as what it stands for (`CreateMessageRequest.fromJson_toJson` and its siblings), and the
requests of a signer are dispatched to the handler they are meant for.
-/

set_option autoImplicit false
set_option relaxedAutoImplicit false

namespace MessagingRelayer

open Foundation

/-! ### Bodies -/

/-- The attachment as a client writes it. -/
def AttachmentRequest.toJson (request : AttachmentRequest) : Json :=
  .obj [("storage_id", .str request.storageId), ("nonce", .str request.nonce),
    ("encrypted_metadata", .str request.encryptedMetadata),
    ("metadata_nonce", .str request.metadataNonce)]

theorem AttachmentRequest.fromJson_toJson (request : AttachmentRequest) :
    AttachmentRequest.fromJson request.toJson = .ok request :=
  rfl

theorem attachmentsFromJson_map_toJson (requests : List AttachmentRequest) :
    attachmentsFromJson (.arr (requests.map AttachmentRequest.toJson)) = .ok requests := by
  unfold attachmentsFromJson Json.asVec
  induction requests with
  | nil => rfl
  | cons request rest ih =>
    simp only at ih ⊢
    rw [List.map_cons, List.mapM_cons]
    refine bind_eq_ok_iff.mpr ⟨request, request.fromJson_toJson, ?_⟩
    exact bind_eq_ok_iff.mpr ⟨rest, ih, rfl⟩

/-- Assumes: an integer in the range of an `i64`. -/
theorem asI64_int {value : Int} (hvalue : -2 ^ 63 ≤ value ∧ value < 2 ^ 63) :
    Json.asI64 (.int value) = .ok value := by
  unfold Json.asI64
  exact if_pos hvalue

namespace CreateMessageRequest

/-- The body of a create request as a client writes it, with the time of the request. -/
def toJson (req : CreateMessageRequest) (timestamp : Int) : Json :=
  .obj [("group_id", .str req.groupId), ("sender_address", .str req.senderAddress),
    ("timestamp", .int timestamp), ("encrypted_text", .str req.encryptedText),
    ("nonce", .str req.nonce), ("key_version", .int req.keyVersion),
    ("message_signature", .str req.messageSignature),
    ("attachments", .arr (req.attachments.map AttachmentRequest.toJson))]

/-- The handler reads the request back. -/
theorem fromJson_toJson (req : CreateMessageRequest) (timestamp : Int)
    (hversion : -2 ^ 63 ≤ req.keyVersion ∧ req.keyVersion < 2 ^ 63) :
    fromJson (req.toJson timestamp) = .ok req := by
  refine bind_eq_ok_iff.mpr ⟨_, rfl, ?_⟩
  refine bind_eq_ok_iff.mpr ⟨req.groupId, rfl, ?_⟩
  refine bind_eq_ok_iff.mpr ⟨req.encryptedText, rfl, ?_⟩
  refine bind_eq_ok_iff.mpr ⟨req.nonce, rfl, ?_⟩
  refine bind_eq_ok_iff.mpr ⟨req.keyVersion, asI64_int hversion, ?_⟩
  refine bind_eq_ok_iff.mpr ⟨req.senderAddress, rfl, ?_⟩
  refine bind_eq_ok_iff.mpr ⟨req.messageSignature, rfl, ?_⟩
  exact bind_eq_ok_iff.mpr ⟨req.attachments, attachmentsFromJson_map_toJson req.attachments, rfl⟩

/-- The middleware reads the claims of the request. -/
theorem bodyAuth_toJson (req : CreateMessageRequest) {timestamp : Int}
    (htimestamp : -2 ^ 63 ≤ timestamp ∧ timestamp < 2 ^ 63) :
    BodyAuthFields.fromJson (req.toJson timestamp) =
      .ok ⟨req.groupId, req.senderAddress, timestamp⟩ := by
  refine bind_eq_ok_iff.mpr ⟨_, rfl, ?_⟩
  refine bind_eq_ok_iff.mpr ⟨req.groupId, rfl, ?_⟩
  refine bind_eq_ok_iff.mpr ⟨req.senderAddress, rfl, ?_⟩
  exact bind_eq_ok_iff.mpr ⟨timestamp, asI64_int htimestamp, rfl⟩

end CreateMessageRequest

namespace UpdateMessageRequest

/-- The body of an update request as a client writes it, with the time of the request. -/
def toJson (req : UpdateMessageRequest) (timestamp : Int) : Json :=
  .obj [("message_id", .str (Uuid.toString req.messageId)), ("group_id", .str req.groupId),
    ("sender_address", .str req.senderAddress), ("timestamp", .int timestamp),
    ("encrypted_text", .str req.encryptedText), ("nonce", .str req.nonce),
    ("key_version", .int req.keyVersion), ("message_signature", .str req.messageSignature),
    ("attachments", .arr (req.attachments.map AttachmentRequest.toJson))]

/-- Assumes: the identifier is read from its text. The handler reads the request back. -/
theorem fromJson_toJson {libs : Externals} (req : UpdateMessageRequest) (timestamp : Int)
    (hid : libs.uuidParseStr (Uuid.toString req.messageId) = .ok req.messageId)
    (hversion : -2 ^ 63 ≤ req.keyVersion ∧ req.keyVersion < 2 ^ 63) :
    fromJson libs (req.toJson timestamp) = .ok req := by
  refine bind_eq_ok_iff.mpr ⟨_, rfl, ?_⟩
  refine bind_eq_ok_iff.mpr ⟨req.messageId, hid, ?_⟩
  refine bind_eq_ok_iff.mpr ⟨req.groupId, rfl, ?_⟩
  refine bind_eq_ok_iff.mpr ⟨req.senderAddress, rfl, ?_⟩
  refine bind_eq_ok_iff.mpr ⟨req.encryptedText, rfl, ?_⟩
  refine bind_eq_ok_iff.mpr ⟨req.nonce, rfl, ?_⟩
  refine bind_eq_ok_iff.mpr ⟨req.keyVersion, asI64_int hversion, ?_⟩
  refine bind_eq_ok_iff.mpr ⟨req.messageSignature, rfl, ?_⟩
  exact bind_eq_ok_iff.mpr ⟨req.attachments, attachmentsFromJson_map_toJson req.attachments, rfl⟩

/-- The middleware reads the claims of the request. -/
theorem bodyAuth_toJson (req : UpdateMessageRequest) {timestamp : Int}
    (htimestamp : -2 ^ 63 ≤ timestamp ∧ timestamp < 2 ^ 63) :
    BodyAuthFields.fromJson (req.toJson timestamp) =
      .ok ⟨req.groupId, req.senderAddress, timestamp⟩ := by
  refine bind_eq_ok_iff.mpr ⟨_, rfl, ?_⟩
  refine bind_eq_ok_iff.mpr ⟨req.groupId, rfl, ?_⟩
  refine bind_eq_ok_iff.mpr ⟨req.senderAddress, rfl, ?_⟩
  exact bind_eq_ok_iff.mpr ⟨timestamp, asI64_int htimestamp, rfl⟩

end UpdateMessageRequest

/-! ### Content -/

/-- Assumes: fields that spell bytes, the nonce twelve of them, and a signature of 64 bytes that is
good for the canonical text. The content of a request without attachments is decoded. -/
theorem decodeContent_of_verified {libs : Externals} {auth : AuthContext}
    {groupId encryptedText nonceText : String} {keyVersion : Int}
    {encryptedMsg nonce signature : List UInt8}
    (hencrypted : Hex.decode encryptedText = .ok encryptedMsg)
    (hnonce : Hex.decode nonceText = .ok nonce) (hlength : nonce.length = 12)
    (hverify : verifySignature libs
      (utf8 (canonicalMessage groupId encryptedText nonceText keyVersion)) signature auth.publicKey
      auth.scheme = .ok ()) :
    decodeContent libs auth groupId encryptedText nonceText keyVersion (Hex.encode signature) [] =
      .ok ⟨encryptedMsg, nonce, keyVersion, [], signature, auth.publicKeyWithFlag⟩ := by
  have hsignature : verifyMessageSignature libs (Hex.encode signature) groupId encryptedText
      nonceText keyVersion auth = .ok signature := by
    unfold verifyMessageSignature
    rw [Hex.decode_encode]
    simp only [hverify, (verifySignature_eq_ok_iff.mp hverify).1, ne_eq, not_true_eq_false,
      if_false]
  refine bind_eq_ok_iff.mpr ⟨encryptedMsg, ?_, ?_⟩
  · unfold decodeHexField
    rw [hencrypted]
  · refine bind_eq_ok_iff.mpr ⟨nonce, ?_, bind_eq_ok_iff.mpr ⟨signature, hsignature, rfl⟩⟩
    refine bind_eq_ok_iff.mpr ⟨nonce, ?_, if_neg (not_not_intro hlength)⟩
    unfold decodeHexField
    rw [hnonce]

/-! ### Dispatch -/

namespace Signer

variable (signer : Signer) {libs : Externals} {auth : AuthContext}
  {signature body : List UInt8} {json : Json}

/-- Assumes: a body within the limit. The JSON extractor reads the body of a signer's request. -/
theorem jsonExtractor_bodyRequest {Value : Type} {target : String}
    {decode : Json → Except String Value} {value : Value} {method : Method}
    (htype : libs.isJsonContentType (utf8 "application/json") = true)
    (hsize : body.length ≤ defaultBodyLimit) (hjson : libs.jsonFromSlice body = .ok json)
    (hdecode : decode json = .ok value) :
    jsonExtractor libs target (signer.bodyRequest method signature body) decode = .ok value := by
  have hheader : (signer.bodyRequest method signature body).headers.lookup "content-type" =
      some (utf8 "application/json") := rfl
  have hbody : (signer.bodyRequest method signature body).body = some body := rfl
  unfold jsonExtractor
  simp only [hheader, htype, Bool.true_eq_false, if_false, hbody, Option.getD_some]
  rw [if_neg (not_lt.mpr hsize)]
  simp only [hjson, hdecode]

theorem dispatch_post {req : CreateMessageRequest}
    (htype : libs.isJsonContentType (utf8 "application/json") = true)
    (hsize : body.length ≤ defaultBodyLimit) (hjson : libs.jsonFromSlice body = .ok json)
    (hreq : CreateMessageRequest.fromJson json = .ok req) :
    dispatch libs (signer.bodyRequest .post signature body) (some auth) =
      .ok (.createMessage auth req) :=
  bind_eq_ok_iff.mpr ⟨auth, rfl,
    bind_eq_ok_iff.mpr ⟨req, signer.jsonExtractor_bodyRequest htype hsize hjson hreq, rfl⟩⟩

theorem dispatch_put {req : UpdateMessageRequest}
    (htype : libs.isJsonContentType (utf8 "application/json") = true)
    (hsize : body.length ≤ defaultBodyLimit) (hjson : libs.jsonFromSlice body = .ok json)
    (hreq : UpdateMessageRequest.fromJson libs json = .ok req) :
    dispatch libs (signer.bodyRequest .put signature body) (some auth) =
      .ok (.updateMessage auth req) :=
  bind_eq_ok_iff.mpr ⟨auth, rfl,
    bind_eq_ok_iff.mpr ⟨req, signer.jsonExtractor_bodyRequest htype hsize hjson hreq, rfl⟩⟩

variable {query segment senderAddress groupId : String} {timestamp : Int}

theorem dispatch_delete {messageId : Uuid} (hid : libs.uuidParseStr segment = .ok messageId) :
    dispatch libs (signer.headerRequest .delete (.message segment) query signature senderAddress
      timestamp groupId) (some auth) = .ok (.deleteMessage auth messageId) :=
  dispatch_delete_of_path rfl rfl hid

theorem dispatch_get {parameters : GetMessagesQuery}
    (hquery : GetMessagesQuery.fromPairs libs (libs.formUrlDecode query) = .ok parameters) :
    dispatch libs (signer.headerRequest .get .messages query signature senderAddress timestamp
      groupId) (some auth) = .ok (.getMessages auth parameters) := by
  refine bind_eq_ok_iff.mpr ⟨auth, rfl, bind_eq_ok_iff.mpr ⟨parameters, ?_, rfl⟩⟩
  have hfields : (signer.headerRequest .get .messages query signature senderAddress timestamp
      groupId).query = query := rfl
  unfold queryExtractor
  rw [hfields, hquery]

end Signer

/-- A query for one message. -/
theorem GetMessagesQuery.fromPairs_messageId {libs : Externals} {text : String} {messageId : Uuid}
    (hid : libs.uuidParseStr text = .ok messageId) :
    GetMessagesQuery.fromPairs libs [("message_id", text)] =
      .ok ⟨some messageId, none, none, none, none⟩ := by
  have hparameter : parameter [("message_id", text)] "message_id" libs.uuidParseStr =
      .ok (some messageId) := by
    unfold parameter
    rw [List.lookup_cons_self]
    simp only [hid]
    rfl
  exact bind_eq_ok_iff.mpr ⟨_, hparameter, rfl⟩

end MessagingRelayer
