import MessagingRelayer.Auth.Signature
import MessagingRelayer.Models.Message
import MessagingRelayer.Storage.Memory

/-!
# Responses

The data transfer objects the messages API answers with, and its errors. `MessageResponse.verifies`
is what a receiver can check of a message response by its own fields.
-/

set_option autoImplicit false
set_option relaxedAutoImplicit false

namespace MessagingRelayer

open Foundation

/-! ### Messages -/

/-- Wire-format attachment with hex-encoded binary fields. -/
structure AttachmentResponse where
  storageId : String
  nonce : String
  encryptedMetadata : String
  metadataNonce : String
deriving DecidableEq

def AttachmentResponse.fromAttachment (attachment : Attachment) : AttachmentResponse where
  storageId := attachment.storageId
  nonce := Hex.encode attachment.nonce
  encryptedMetadata := Hex.encode attachment.encryptedMetadata
  metadataNonce := Hex.encode attachment.metadataNonce

/-- Response for a single message. -/
structure MessageResponse where
  messageId : Uuid
  groupId : String
  order : Int
  encryptedText : String
  nonce : String
  keyVersion : Int
  senderAddress : String
  createdAt : Int
  updatedAt : Int
  attachments : List AttachmentResponse
  isEdited : Bool
  isDeleted : Bool
  syncStatus : String
  quiltPatchId : Option String
  signature : String
  publicKey : String
deriving DecidableEq

/-- Canonical content a message signature is over: `group_id:encrypted_text:nonce:key_version`. -/
def canonicalMessage (groupId encryptedText nonce : String) (keyVersion : Int) : String :=
  groupId ++ ":" ++ encryptedText ++ ":" ++ nonce ++ ":" ++ toString keyVersion

/-- Assumes: texts without a colon. Canonical contents of one group are equal only when the fields
are. -/
theorem canonicalMessage_inj {groupId first second firstNonce secondNonce : String}
    {firstVersion secondVersion : Int} (hfirst : ':' ∉ first.toList) (hsecond : ':' ∉ second.toList)
    (hfirstNonce : ':' ∉ firstNonce.toList) (hsecondNonce : ':' ∉ secondNonce.toList)
    (heq : canonicalMessage groupId first firstNonce firstVersion =
      canonicalMessage groupId second secondNonce secondVersion) :
    first = second ∧ firstNonce = secondNonce ∧ firstVersion = secondVersion := by
  have hrest : first ++ ":" ++ (firstNonce ++ ":" ++ toString firstVersion) =
      second ++ ":" ++ (secondNonce ++ ":" ++ toString secondVersion) := by
    simp only [canonicalMessage, String.append_assoc] at heq ⊢
    exact String.append_right_inj _ |>.mp (String.append_right_inj _ |>.mp heq)
  obtain ⟨htext, hrest⟩ := colon_inj hfirst hsecond hrest
  obtain ⟨hnonce, hversion⟩ := colon_inj hfirstNonce hsecondNonce hrest
  exact ⟨htext, hnonce, toString_int_injective hversion⟩

namespace MessageResponse

def fromMessage (msg : Message) : MessageResponse where
  messageId := msg.id
  groupId := msg.groupId
  order := msg.order.getD 0
  encryptedText := Hex.encode msg.encryptedMsg
  nonce := Hex.encode msg.nonce
  keyVersion := msg.keyVersion
  senderAddress := msg.senderWalletAddr
  createdAt := DateTime.timestamp msg.createdAt
  updatedAt := DateTime.timestamp msg.updatedAt
  attachments := msg.attachments.map AttachmentResponse.fromAttachment
  isEdited := decide (msg.updatedAt ≠ msg.createdAt)
  isDeleted := msg.syncStatus.isDeleted
  syncStatus := msg.syncStatus.toString
  quiltPatchId := msg.quiltPatchId
  signature := Hex.encode msg.signature
  publicKey := Hex.encode msg.publicKey

/-- A receiver can verify the response by its own fields: the public key is a flag and a key whose
address is the sender's, and the signature is good under that key for the canonical content. -/
def Verifies (libs : Externals) (response : MessageResponse) : Prop :=
  ∃ flag key scheme signature,
    Hex.decode response.publicKey = .ok (flag :: key) ∧
    SignatureScheme.fromFlag flag = some scheme ∧
    deriveSuiAddress libs key scheme = .ok response.senderAddress ∧
    Hex.decode response.signature = .ok signature ∧
    verifySignature libs
      (utf8 (canonicalMessage response.groupId response.encryptedText response.nonce
        response.keyVersion)) signature key scheme = .ok ()

/-- Assumes: a message whose public key is this key with the flag of its scheme. Its response
verifies exactly when the key is the sender's and the signature is good for the content as it is
served. -/
theorem verifies_fromMessage_iff {libs : Externals} {message : Message} {scheme : SignatureScheme}
    {key : List UInt8} (hkey : message.publicKey = scheme.flag :: key) :
    (fromMessage message).Verifies libs ↔
      deriveSuiAddress libs key scheme = .ok message.senderWalletAddr ∧
      verifySignature libs (utf8 (canonicalMessage message.groupId (Hex.encode message.encryptedMsg)
        (Hex.encode message.nonce) message.keyVersion)) message.signature key scheme = .ok () := by
  constructor
  · rintro ⟨flag, found, other, signature, hdecode, hflag, haddress, hsignature, hverify⟩
    have hbytes : message.publicKey = flag :: found :=
      Except.ok.inj ((Hex.decode_encode _).symm.trans hdecode)
    obtain ⟨rfl, rfl⟩ : scheme.flag = flag ∧ key = found := by simpa [hkey] using hbytes
    obtain rfl : scheme = other := by simpa [SignatureScheme.fromFlag_flag] using hflag
    obtain rfl : message.signature = signature :=
      Except.ok.inj ((Hex.decode_encode _).symm.trans hsignature)
    exact ⟨haddress, hverify⟩
  · rintro ⟨haddress, hverify⟩
    refine ⟨scheme.flag, key, scheme, message.signature, ?_, SignatureScheme.fromFlag_flag scheme,
      haddress, Hex.decode_encode _, hverify⟩
    have hdecode := Hex.decode_encode message.publicKey
    rw [hkey] at hdecode
    exact (congrArg (fun bytes ↦ Hex.decode (Hex.encode bytes)) hkey).trans hdecode

end MessageResponse

/-- Response for `POST /messages`. -/
structure CreateMessageResponse where
  messageId : Uuid
deriving DecidableEq

/-- The BCS bytes of the response: the identifier as length-prefixed bytes. -/
def CreateMessageResponse.toBytes (response : CreateMessageResponse) : List UInt8 :=
  16 :: response.messageId.val

/-- Generic empty response. -/
structure EmptyResponse where
deriving DecidableEq

/-- The BCS bytes of the empty response. -/
def EmptyResponse.toBytes (_response : EmptyResponse) : List UInt8 :=
  []

/-- Response for `GET /messages`. -/
inductive GetMessagesResponse
  | single (message : MessageResponse)
  | list (messages : List MessageResponse) (hasNext : Bool)
deriving DecidableEq

/-- The messages in a response. -/
def GetMessagesResponse.bodies : GetMessagesResponse → List MessageResponse
  | single message => [message]
  | list messages _ => messages

/-! ### Errors -/

/-- API error that maps to an HTTP response. -/
inductive ApiError
  | notFound (message : String)
  | badRequest (message : String)
  | conflict (message : String)
  | internal (message : String)
  | unauthorized (message : String)
  | forbidden (message : String)
deriving DecidableEq

/-- The status and the message of an error response. -/
def ApiError.intoResponse : ApiError → Nat × String
  | notFound message => (404, message)
  | badRequest message => (400, message)
  | conflict message => (409, message)
  | internal message => (500, message)
  | unauthorized message => (401, message)
  | forbidden message => (403, message)

def ApiError.fromStorageError : StorageError → ApiError
  | .notFound id => notFound s!"Message not found: {Uuid.toString id}"
  | .groupNotFound groupId => notFound s!"Group not found: {groupId}"
  | .duplicateId id => conflict s!"Duplicate message ID: {Uuid.toString id}"
  | .duplicateNonce => conflict "Duplicate nonce: a message with this nonce already exists"
  | .operationFailed message => internal message

end MessagingRelayer
