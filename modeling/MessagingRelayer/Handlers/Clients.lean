import MessagingRelayer.Auth.Timestamp
import MessagingRelayer.Foundation.Fields
import MessagingRelayer.Handlers.Acceptance
import MessagingRelayer.Http.Numbers

/-!
# Requests as clients write them

What a client that follows the protocol sends for each of the four operations (`Signer.Sends`), with
any spelling of the hex fields. The relayer reads what the client has written: the query parameters
(`GetMessagesQuery.fromPairs_toPairs`), the attachments and the content
(`Signer.Spells.decodeContent_eq`); and a client with the permission is let through to the handler
with the parameters it meant (`Signer.Sends.authMiddleware_eq`, `Signer.Sends.dispatch_eq`).
-/

set_option autoImplicit false
set_option relaxedAutoImplicit false

namespace MessagingRelayer

open Foundation

/-! ### The clock -/

/-- A timestamp in the window is accepted, whatever the difference wraps to. -/
theorem validateTimestamp_of_le {now timestamp ttlSeconds : Int}
    (hwindow : |now - timestamp| ≤ ttlSeconds) :
    validateTimestamp now timestamp ttlSeconds = .ok () := by
  rw [validateTimestamp_eq_ok_iff]
  have habs : |now - timestamp| = if now - timestamp < 0 then -(now - timestamp)
      else now - timestamp := by
    split_ifs with hneg
    · exact abs_of_neg hneg
    · exact abs_of_nonneg (not_lt.mp hneg)
  unfold wrappingAbs wrappingSub
  rw [Int.bmod_def, Int.bmod_def]
  split_ifs at habs ⊢ <;> omega

/-! ### Query parameters -/

namespace GetMessagesQuery

/-- The parameters under their names, as texts. -/
def fields (query : GetMessagesQuery) : List (String × Option String) :=
  [("message_id", query.messageId.map Uuid.toString), ("group_id", query.groupId),
    ("after_order", query.afterOrder.map toString),
    ("before_order", query.beforeOrder.map toString), ("limit", query.limit.map toString)]

/-- The pairs of a query string. -/
def toPairs (query : GetMessagesQuery) : List (String × String) :=
  presentFields query.fields

/-- The numbers are in the ranges of their types, and the identifier is read from its text. -/
structure Readable (libs : Externals) (query : GetMessagesQuery) : Prop where
  messageId : ∀ id ∈ query.messageId, libs.uuidParseStr (Uuid.toString id) = .ok id
  afterOrder : ∀ order ∈ query.afterOrder, -2 ^ 63 ≤ order ∧ order < 2 ^ 63
  beforeOrder : ∀ order ∈ query.beforeOrder, -2 ^ 63 ≤ order ∧ order < 2 ^ 63
  limit : ∀ limit ∈ query.limit, limit < 2 ^ 64

/-- A parameter that is written is read back where its text is. -/
theorem parameter_toPairs {Value : Type} {query : GetMessagesQuery} {name : String}
    {write : Value → String} {parse : String → Except String Value} {value : Option Value}
    (hfield : (query.fields.lookup name).join = value.map write)
    (hparse : ∀ found ∈ value, parse (write found) = .ok found) :
    parameter query.toPairs name parse = .ok value := by
  have hnames : (query.fields.map Prod.fst).Nodup := by
    show ["message_id", "group_id", "after_order", "before_order", "limit"].Nodup
    decide
  unfold parameter toPairs
  rw [lookup_presentFields hnames, hfield]
  cases value with
  | none => rfl
  | some found =>
    show (parse (write found)).map some = _
    rw [hparse found rfl]
    rfl

theorem asInteger_toString {Value : Type} {parse : String → Option Value}
    {refusal : String → IntErrorKind} {text : String} {value : Value}
    (hparse : parse text = some value) : asInteger parse refusal text = .ok value := by
  unfold asInteger
  rw [hparse]

/-- Assumes: parameters that can be read. What is written as query parameters is read back. -/
theorem fromPairs_toPairs {libs : Externals} {query : GetMessagesQuery}
    (hreadable : query.Readable libs) : fromPairs libs query.toPairs = .ok query := by
  have hnames : (query.fields.map Prod.fst).Nodup := by
    show ["message_id", "group_id", "after_order", "before_order", "limit"].Nodup
    decide
  have hunique : (fieldNames.find? fun name ↦
      1 < query.toPairs.countP fun pair ↦ pair.1 == name) = none := by
    rw [List.find?_eq_none]
    intro name _ hmany
    exact absurd (of_decide_eq_true hmany) (not_lt.mpr (countP_presentFields_le hnames name))
  unfold fromPairs
  rw [hunique]
  refine bind_eq_ok_iff.mpr ⟨query.messageId, parameter_toPairs rfl hreadable.messageId, ?_⟩
  refine bind_eq_ok_iff.mpr ⟨query.groupId,
    parameter_toPairs Option.map_id'.symm fun _ _ ↦ rfl, ?_⟩
  refine bind_eq_ok_iff.mpr ⟨query.afterOrder, parameter_toPairs rfl fun order horder ↦
    asInteger_toString (parseI64_toString (hreadable.afterOrder order horder)), ?_⟩
  refine bind_eq_ok_iff.mpr ⟨query.beforeOrder, parameter_toPairs rfl fun order horder ↦
    asInteger_toString (parseI64_toString (hreadable.beforeOrder order horder)), ?_⟩
  exact bind_eq_ok_iff.mpr ⟨query.limit, parameter_toPairs rfl fun limit hlimit ↦
    asInteger_toString (parseUsize_toString (hreadable.limit limit hlimit)), rfl⟩

end GetMessagesQuery

/-! ### Content -/

/-- The request spells the attachment, which has nonces for AES-GCM. -/
structure AttachmentRequest.Spells (request : AttachmentRequest) (attachment : Attachment) :
    Prop where
  storageId : request.storageId = attachment.storageId
  nonce : Hex.decode request.nonce = .ok attachment.nonce
  nonce_length : attachment.nonce.length = 12
  encryptedMetadata : Hex.decode request.encryptedMetadata = .ok attachment.encryptedMetadata
  metadataNonce : Hex.decode request.metadataNonce = .ok attachment.metadataNonce
  metadataNonce_length : attachment.metadataNonce.length = 12

theorem AttachmentRequest.Spells.tryIntoAttachment_eq {request : AttachmentRequest}
    {attachment : Attachment} (hspells : request.Spells attachment) :
    request.tryIntoAttachment = .ok attachment := by
  have hfield {shown text : String} {bytes : List UInt8} (hdecode : Hex.decode text = .ok bytes) :
      decodeField shown text = .ok bytes := by
    unfold decodeField
    rw [hdecode]
  have hnonce {shown text : String} {bytes : List UInt8} (hdecode : Hex.decode text = .ok bytes)
      (hlength : bytes.length = 12) : decodeNonce shown text = .ok bytes :=
    bind_eq_ok_iff.mpr ⟨bytes, hfield hdecode, if_neg (not_not_intro hlength)⟩
  refine bind_eq_ok_iff.mpr ⟨_, hnonce hspells.nonce hspells.nonce_length, ?_⟩
  refine bind_eq_ok_iff.mpr ⟨_, hfield hspells.encryptedMetadata, ?_⟩
  refine bind_eq_ok_iff.mpr ⟨_, hnonce hspells.metadataNonce hspells.metadataNonce_length, ?_⟩
  rw [hspells.storageId]

theorem decodeAttachments_of_spells {requests : List AttachmentRequest}
    {attachments : List Attachment}
    (hspells : List.Forall₂ AttachmentRequest.Spells requests attachments) :
    decodeAttachments requests = .ok attachments := by
  unfold decodeAttachments
  induction hspells with
  | nil => rfl
  | cons hfirst hrest ih =>
    rw [List.mapM_cons, hfirst.tryIntoAttachment_eq]
    exact bind_eq_ok_iff.mpr ⟨_, rfl, bind_eq_ok_iff.mpr ⟨_, ih, rfl⟩⟩

namespace Signer

/-- The texts of a request spell the content, which the signer has signed for the group as it is
spelled. -/
structure Spells (signer : Signer) (libs : Externals) (groupId encryptedText nonceText : String)
    (keyVersion : Int) (messageSignature : String) (attachments : List AttachmentRequest)
    (content : MessageContent) : Prop where
  encryptedMsg : Hex.decode encryptedText = .ok content.encryptedMsg
  nonce : Hex.decode nonceText = .ok content.nonce
  nonce_length : content.nonce.length = 12
  keyVersion_eq : keyVersion = content.keyVersion
  keyVersion_range : -2 ^ 63 ≤ keyVersion ∧ keyVersion < 2 ^ 63
  attachments_spell : List.Forall₂ AttachmentRequest.Spells attachments content.attachments
  signature : Hex.decode messageSignature = .ok content.signature
  verified : verifySignature libs
    (utf8 (canonicalMessage groupId encryptedText nonceText keyVersion)) content.signature
    signer.key signer.scheme = .ok ()
  publicKey : content.publicKey = signer.publicKeyWithFlag

/-- The handlers decode the content that was spelled. -/
theorem Spells.decodeContent_eq {signer : Signer} {libs : Externals}
    {groupId encryptedText nonceText messageSignature : String} {keyVersion : Int}
    {attachments : List AttachmentRequest} {content : MessageContent}
    (hspells : signer.Spells libs groupId encryptedText nonceText keyVersion messageSignature
      attachments content) :
    decodeContent libs (signer.context libs groupId) groupId encryptedText nonceText keyVersion
      messageSignature attachments = .ok content := by
  have hfield {name text : String} {bytes : List UInt8} (hdecode : Hex.decode text = .ok bytes) :
      decodeHexField name text = .ok bytes := by
    unfold decodeHexField
    rw [hdecode]
  have hsignature : verifyMessageSignature libs messageSignature groupId encryptedText nonceText
      keyVersion (signer.context libs groupId) = .ok content.signature := by
    have hverified : verifySignature libs
        (utf8 (canonicalMessage groupId encryptedText nonceText keyVersion)) content.signature
        (signer.context libs groupId).publicKey (signer.context libs groupId).scheme = .ok () :=
      hspells.verified
    unfold verifyMessageSignature
    rw [hspells.signature]
    simp only [hverified, (verifySignature_eq_ok_iff.mp hverified).1, ne_eq, not_true_eq_false,
      if_false]
  refine bind_eq_ok_iff.mpr ⟨_, hfield hspells.encryptedMsg, ?_⟩
  refine bind_eq_ok_iff.mpr ⟨_, bind_eq_ok_iff.mpr ⟨_, hfield hspells.nonce,
    if_neg (not_not_intro hspells.nonce_length)⟩, ?_⟩
  refine bind_eq_ok_iff.mpr ⟨_, hsignature, ?_⟩
  refine bind_eq_ok_iff.mpr ⟨_, decodeAttachments_of_spells hspells.attachments_spell, ?_⟩
  show Except.ok (_ : MessageContent) = .ok content
  have hkey : (signer.context libs groupId).publicKeyWithFlag = content.publicKey :=
    hspells.publicKey.symm
  rw [hkey, hspells.keyVersion_eq]

end Signer

/-! ### Calls -/

/-- What a client asks the relayer to do. -/
inductive ClientCall
  | post (req : CreateMessageRequest) (content : MessageContent)
  | edit (req : UpdateMessageRequest) (content : MessageContent)
  | remove (messageId : Uuid)
  | read (query : GetMessagesQuery)

namespace ClientCall

/-- The permission the client needs for the call. -/
def permission : ClientCall → MessagingPermission
  | post _ _ => .messagingSender
  | edit _ _ => .messagingEditor
  | remove _ => .messagingDeleter
  | read _ => .messagingReader

/-- The handler that is meant, with its parameters. -/
def handlerCall (auth : AuthContext) : ClientCall → HandlerCall
  | post req _ => .createMessage auth req
  | edit req _ => .updateMessage auth req
  | remove messageId => .deleteMessage auth messageId
  | read query => .getMessages auth query

end ClientCall

namespace Signer

/-- The request that the client sends for a call on the group, at the time that it gives: a body
that it has signed and that is within the limit of the extractors, or the canonical text signed and
the parts of it in headers. -/
inductive Sends (signer : Signer) (libs : Externals) (groupId : String) (timestamp : Int) :
    ClientCall → Request → Prop
  | post {req : CreateMessageRequest} {content : MessageContent} {signature body : List UInt8}
      (hgroup : req.groupId = groupId) (hsender : req.senderAddress = signer.address libs)
      (hspells : signer.Spells libs groupId req.encryptedText req.nonce req.keyVersion
        req.messageSignature req.attachments content)
      (hbody : libs.jsonFromSlice body = .ok (req.toJson timestamp))
      (hsize : body.length ≤ defaultBodyLimit)
      (hsigned : verifySignature libs body signature signer.key signer.scheme = .ok ()) :
      Sends signer libs groupId timestamp (.post req content)
        (signer.bodyRequest .post signature body)
  | edit {req : UpdateMessageRequest} {content : MessageContent} {signature body : List UInt8}
      (hgroup : req.groupId = groupId) (hsender : req.senderAddress = signer.address libs)
      (hid : libs.uuidParseStr (Uuid.toString req.messageId) = .ok req.messageId)
      (hspells : signer.Spells libs groupId req.encryptedText req.nonce req.keyVersion
        req.messageSignature req.attachments content)
      (hbody : libs.jsonFromSlice body = .ok (req.toJson timestamp))
      (hsize : body.length ≤ defaultBodyLimit)
      (hsigned : verifySignature libs body signature signer.key signer.scheme = .ok ()) :
      Sends signer libs groupId timestamp (.edit req content)
        (signer.bodyRequest .put signature body)
  | remove {messageId : Uuid} {query : String} {signature : List UInt8} (hgroup : Graphic groupId)
      (hid : libs.uuidParseStr (Uuid.toString messageId) = .ok messageId)
      (hsigned : verifySignature libs
        (utf8 (canonicalRequest timestamp (signer.address libs) groupId)) signature signer.key
        signer.scheme = .ok ()) :
      Sends signer libs groupId timestamp (.remove messageId)
        (signer.headerRequest .delete (.message (Uuid.toString messageId)) query signature
          (signer.address libs) timestamp groupId)
  | read {query : GetMessagesQuery} {text : String} {signature : List UInt8}
      (hgroup : Graphic groupId) (hreadable : query.Readable libs)
      (hquery : libs.formUrlDecode text = query.toPairs)
      (hsigned : verifySignature libs
        (utf8 (canonicalRequest timestamp (signer.address libs) groupId)) signature signer.key
        signer.scheme = .ok ()) :
      Sends signer libs groupId timestamp (.read query)
        (signer.headerRequest .get .messages text signature (signer.address libs) timestamp groupId)

section Accepted

variable {signer : Signer} {libs : Externals} {groupId : String} {timestamp ttlSeconds now : Int}
  {call : ClientCall} {request : Request} {store : InMemoryMembershipStore}

/-- Assumes: a JSON library that takes objects for nothing but objects, and a time that is an `i64`
within the window around the clock. The middleware passes on the request of a client that holds the
permission. -/
theorem Sends.authMiddleware_eq (hjson : libs.LawfulJson)
    (hsends : signer.Sends libs groupId timestamp call request)
    (htimestamp : -2 ^ 63 ≤ timestamp ∧ timestamp < 2 ^ 63)
    (hwindow : |now - timestamp| ≤ ttlSeconds)
    (hheld : store.hasPermission groupId (signer.address libs) call.permission = true) :
    authMiddleware libs ttlSeconds store now request =
      .ok (some (signer.context libs groupId)) := by
  have hnonempty {body : List UInt8} {members : List (String × Json)}
      (hbody : libs.jsonFromSlice body = .ok (.obj members)) : body ≠ [] := by
    obtain ⟨first, -, hhead⟩ := hjson body _ hbody (Or.inl ⟨members, rfl⟩)
    rintro rfl
    simp at hhead
  cases hsends with
  | @post req content signature body hgroup hsender hspells hbody hsize hsigned =>
    have hfields := req.bodyAuth_toJson htimestamp
    rw [hgroup, hsender] at hfields
    exact signer.authMiddleware_bodyRequest rfl (hnonempty hbody) hbody hfields
      (validateTimestamp_of_le hwindow) hsigned hheld
  | @edit req content signature body hgroup hsender hid hspells hbody hsize hsigned =>
    have hfields := req.bodyAuth_toJson htimestamp
    rw [hgroup, hsender] at hfields
    exact signer.authMiddleware_bodyRequest rfl (hnonempty hbody) hbody hfields
      (validateTimestamp_of_le hwindow) hsigned hheld
  | remove hgroup hid hsigned =>
    exact signer.authMiddleware_headerRequest rfl hgroup (parseI64_toString htimestamp)
      (validateTimestamp_of_le hwindow) hsigned hheld
  | read hgroup hreadable hquery hsigned =>
    exact signer.authMiddleware_headerRequest rfl hgroup (parseI64_toString htimestamp)
      (validateTimestamp_of_le hwindow) hsigned hheld

/-- The request reaches the handler that the client means, with its parameters. -/
theorem Sends.dispatch_eq (htype : libs.isJsonContentType (utf8 "application/json") = true)
    (hsends : signer.Sends libs groupId timestamp call request) (auth : AuthContext) :
    dispatch libs request (some auth) = .ok (call.handlerCall auth) := by
  cases hsends with
  | @post req content signature body hgroup hsender hspells hbody hsize hsigned =>
    exact signer.dispatch_post htype hsize hbody
      (req.fromJson_toJson timestamp hspells.keyVersion_range)
  | @edit req content signature body hgroup hsender hid hspells hbody hsize hsigned =>
    exact signer.dispatch_put htype hsize hbody
      (req.fromJson_toJson timestamp hid hspells.keyVersion_range)
  | remove hgroup hid hsigned => exact signer.dispatch_delete hid
  | @read query text signature hgroup hreadable hquery hsigned =>
    refine signer.dispatch_get ?_
    rw [hquery]
    exact GetMessagesQuery.fromPairs_toPairs hreadable

end Accepted

end Signer

end MessagingRelayer
