import MessagingRelayer.Auth.Middleware
import MessagingRelayer.Models.Message

/-!
# Request bodies and query parameters

The data transfer objects of the messages API with their derived deserializers. A create and an
update body have the auth fields among their own fields, so a body that both the middleware and a
handler read names one group and one sender (`CreateMessageRequest.agrees_with_bodyAuth`,
`UpdateMessageRequest.agrees_with_bodyAuth`).
-/

set_option autoImplicit false
set_option relaxedAutoImplicit false

namespace MessagingRelayer

open Foundation

/-! ### Attachments -/

/-- Wire-format attachment with hex-encoded binary fields. -/
structure AttachmentRequest where
  storageId : String
  nonce : String
  encryptedMetadata : String
  metadataNonce : String
deriving DecidableEq

namespace AttachmentRequest

/-- The derived deserializer. -/
def fromJson (json : Json) : Except String AttachmentRequest := do
  let fields ← json.structFields ["storage_id", "nonce", "encrypted_metadata", "metadata_nonce"]
  let storageId ← Json.required fields "storage_id" Json.asString
  let nonce ← Json.required fields "nonce" Json.asString
  let encryptedMetadata ← Json.required fields "encrypted_metadata" Json.asString
  let metadataNonce ← Json.required fields "metadata_nonce" Json.asString
  .ok ⟨storageId, nonce, encryptedMetadata, metadataNonce⟩

/-- The bytes of a hex-encoded field. -/
def decodeField (shown text : String) : Except String (List UInt8) :=
  match Hex.decode text with
  | .error err => .error s!"Invalid hex in attachment {shown}: {err.toString}"
  | .ok bytes => .ok bytes

/-- The bytes of a hex-encoded nonce. -/
def decodeNonce (shown text : String) : Except String (List UInt8) := do
  let bytes ← decodeField shown text
  if bytes.length ≠ 12 then
    .error s!"Attachment {shown} must be exactly 12 bytes, got {bytes.length}"
  else
    .ok bytes

/-- Decodes hex fields into the domain attachment. -/
def tryIntoAttachment (request : AttachmentRequest) : Except String Attachment := do
  let nonce ← decodeNonce "nonce" request.nonce
  let encryptedMetadata ← decodeField "encrypted_metadata" request.encryptedMetadata
  let metadataNonce ← decodeNonce "metadata_nonce" request.metadataNonce
  .ok ⟨request.storageId, nonce, encryptedMetadata, metadataNonce⟩

end AttachmentRequest

/-! ### Bodies -/

/-- Request body for `POST /messages`. -/
structure CreateMessageRequest where
  groupId : String
  encryptedText : String
  nonce : String
  keyVersion : Int
  senderAddress : String
  messageSignature : String
  attachments : List AttachmentRequest
deriving DecidableEq

/-- Request body for `PUT /messages`. -/
structure UpdateMessageRequest where
  messageId : Uuid
  groupId : String
  senderAddress : String
  encryptedText : String
  nonce : String
  keyVersion : Int
  messageSignature : String
  attachments : List AttachmentRequest
deriving DecidableEq

/-- A list of attachments. -/
def attachmentsFromJson : Json → Except String (List AttachmentRequest) :=
  Json.asVec AttachmentRequest.fromJson

namespace CreateMessageRequest

def fieldNames : List String :=
  ["group_id", "encrypted_text", "nonce", "key_version", "sender_address", "message_signature",
    "attachments"]

/-- The derived deserializer. -/
def fromJson (json : Json) : Except String CreateMessageRequest := do
  let fields ← json.structFields fieldNames
  let groupId ← Json.required fields "group_id" Json.asString
  let encryptedText ← Json.required fields "encrypted_text" Json.asString
  let nonce ← Json.required fields "nonce" Json.asString
  let keyVersion ← Json.required fields "key_version" Json.asI64
  let senderAddress ← Json.required fields "sender_address" Json.asString
  let messageSignature ← Json.required fields "message_signature" Json.asString
  let attachments ← Json.defaulted fields "attachments" attachmentsFromJson []
  .ok ⟨groupId, encryptedText, nonce, keyVersion, senderAddress, messageSignature, attachments⟩

end CreateMessageRequest

/-- A UUID in a string. -/
def uuidFromJson (libs : Externals) (json : Json) : Except String Uuid := do
  let text ← Json.asString json
  libs.uuidParseStr text

namespace UpdateMessageRequest

def fieldNames : List String :=
  ["message_id", "group_id", "sender_address", "encrypted_text", "nonce", "key_version",
    "message_signature", "attachments"]

/-- The derived deserializer. -/
def fromJson (libs : Externals) (json : Json) : Except String UpdateMessageRequest := do
  let fields ← json.structFields fieldNames
  let messageId ← Json.required fields "message_id" (uuidFromJson libs)
  let groupId ← Json.required fields "group_id" Json.asString
  let senderAddress ← Json.required fields "sender_address" Json.asString
  let encryptedText ← Json.required fields "encrypted_text" Json.asString
  let nonce ← Json.required fields "nonce" Json.asString
  let keyVersion ← Json.required fields "key_version" Json.asI64
  let messageSignature ← Json.required fields "message_signature" Json.asString
  let attachments ← Json.defaulted fields "attachments" attachmentsFromJson []
  .ok ⟨messageId, groupId, senderAddress, encryptedText, nonce, keyVersion, messageSignature,
    attachments⟩

end UpdateMessageRequest

/-! ### Query parameters -/

/-- Query parameters for `GET /messages`. -/
structure GetMessagesQuery where
  messageId : Option Uuid
  groupId : Option String
  afterOrder : Option Int
  beforeOrder : Option Int
  limit : Option Nat
deriving DecidableEq

namespace GetMessagesQuery

def fieldNames : List String :=
  ["message_id", "group_id", "after_order", "before_order", "limit"]

/-- An optional parameter: absent, or a value the parser accepts. -/
def parameter {Value : Type} (pairs : List (String × String)) (name : String)
    (parse : String → Except String Value) : Except String (Option Value) :=
  match pairs.lookup name with
  | none => .ok none
  | some text => (parse text).map some

/-- An integer parameter, with the parser of its type and what it says of a text it refuses. -/
def asInteger {Value : Type} (parse : String → Option Value) (refusal : String → IntErrorKind)
    (text : String) : Except String Value :=
  match parse text with
  | none => .error (refusal text).toString
  | some value => .ok value

/-- The derived deserializer. -/
def fromPairs (libs : Externals) (pairs : List (String × String)) :
    Except String GetMessagesQuery :=
  match fieldNames.find? fun name ↦ 1 < pairs.countP fun pair ↦ pair.1 == name with
  | some name => .error s!"duplicate field `{name}`"
  | none => do
    let messageId ← parameter pairs "message_id" libs.uuidParseStr
    let groupId ← parameter pairs "group_id" .ok
    let afterOrder ← parameter pairs "after_order" (asInteger parseI64 parseI64Error)
    let beforeOrder ← parameter pairs "before_order" (asInteger parseI64 parseI64Error)
    let limit ← parameter pairs "limit" (asInteger parseUsize parseUsizeError)
    .ok ⟨messageId, groupId, afterOrder, beforeOrder, limit⟩

end GetMessagesQuery

/-! ### One body read twice -/

section TwoReaders

variable {json : Json} {auth : BodyAuthFields}

theorem BodyAuthFields.fromJson_eq_ok (hauth : BodyAuthFields.fromJson json = .ok auth) :
    ∃ fields, json.structFields BodyAuthFields.fieldNames = .ok fields ∧
      Json.required fields "group_id" Json.asString = .ok auth.groupId ∧
      Json.required fields "sender_address" Json.asString = .ok auth.senderAddress ∧
      Json.required fields "timestamp" Json.asI64 = .ok auth.timestamp := by
  obtain ⟨fields, hfields, hrest⟩ := bind_eq_ok_iff.mp hauth
  obtain ⟨groupId, hgroup, hrest⟩ := bind_eq_ok_iff.mp hrest
  obtain ⟨senderAddress, hsender, hrest⟩ := bind_eq_ok_iff.mp hrest
  obtain ⟨timestamp, htimestamp, hrest⟩ := bind_eq_ok_iff.mp hrest
  obtain rfl := Except.ok.inj hrest
  exact ⟨fields, hfields, hgroup, hsender, htimestamp⟩

/-- Two structs read from one value give one text to a field they both have, where the second has a
field beyond the fields of the first. -/
theorem required_agree {names others : List String} {fields more : String → Option Json}
    {name last text other : String} (hfields : json.structFields names = .ok fields)
    (hmore : json.structFields others = .ok more)
    (hlast : ∃ found, more last = some found) (hlong : names.length ≤ others.idxOf last)
    (hrequired : Json.required fields name Json.asString = .ok text)
    (hother : Json.required more name Json.asString = .ok other) : text = other := by
  rcases Json.obj_or_arr_of_structFields hfields with ⟨members, rfl⟩ | ⟨items, rfl⟩
  · have hsame : fields = more :=
      (Json.lookup_eq_of_structFields hfields).trans (Json.lookup_eq_of_structFields hmore).symm
    rw [hsame] at hrequired
    exact Except.ok.inj (hrequired.symm.trans hother)
  · obtain ⟨hshort, -⟩ := Json.length_of_structFields hfields
    obtain ⟨-, hreach⟩ := Json.length_of_structFields hmore
    obtain ⟨found, hfound⟩ := hlast
    have hindex := hreach last found hfound
    omega

/-- A create body names the group and the sender the middleware read from it. -/
theorem CreateMessageRequest.agrees_with_bodyAuth {request : CreateMessageRequest}
    (hauth : BodyAuthFields.fromJson json = .ok auth)
    (hrequest : CreateMessageRequest.fromJson json = .ok request) :
    auth.groupId = request.groupId ∧ auth.senderAddress = request.senderAddress := by
  obtain ⟨fields, hfields, hgroup, hsender, -⟩ := BodyAuthFields.fromJson_eq_ok hauth
  obtain ⟨more, hmore, hrest⟩ := bind_eq_ok_iff.mp hrequest
  obtain ⟨groupId, hgroup', hrest⟩ := bind_eq_ok_iff.mp hrest
  obtain ⟨encryptedText, -, hrest⟩ := bind_eq_ok_iff.mp hrest
  obtain ⟨nonce, -, hrest⟩ := bind_eq_ok_iff.mp hrest
  obtain ⟨keyVersion, -, hrest⟩ := bind_eq_ok_iff.mp hrest
  obtain ⟨senderAddress, hsender', hrest⟩ := bind_eq_ok_iff.mp hrest
  obtain ⟨messageSignature, hsignature, hrest⟩ := bind_eq_ok_iff.mp hrest
  obtain ⟨attachments, -, hrest⟩ := bind_eq_ok_iff.mp hrest
  obtain rfl := Except.ok.inj hrest
  obtain ⟨found, hfound, -⟩ := Json.required_eq_ok hsignature
  have hlong : BodyAuthFields.fieldNames.length ≤ fieldNames.idxOf "message_signature" := by
    decide
  exact ⟨required_agree hfields hmore ⟨found, hfound⟩ hlong hgroup hgroup',
    required_agree hfields hmore ⟨found, hfound⟩ hlong hsender hsender'⟩

/-- An update body names the group and the sender the middleware read from it. -/
theorem UpdateMessageRequest.agrees_with_bodyAuth {libs : Externals}
    {request : UpdateMessageRequest} (hauth : BodyAuthFields.fromJson json = .ok auth)
    (hrequest : UpdateMessageRequest.fromJson libs json = .ok request) :
    auth.groupId = request.groupId ∧ auth.senderAddress = request.senderAddress := by
  obtain ⟨fields, hfields, hgroup, hsender, -⟩ := BodyAuthFields.fromJson_eq_ok hauth
  obtain ⟨more, hmore, hrest⟩ := bind_eq_ok_iff.mp hrequest
  obtain ⟨messageId, -, hrest⟩ := bind_eq_ok_iff.mp hrest
  obtain ⟨groupId, hgroup', hrest⟩ := bind_eq_ok_iff.mp hrest
  obtain ⟨senderAddress, hsender', hrest⟩ := bind_eq_ok_iff.mp hrest
  obtain ⟨encryptedText, -, hrest⟩ := bind_eq_ok_iff.mp hrest
  obtain ⟨nonce, -, hrest⟩ := bind_eq_ok_iff.mp hrest
  obtain ⟨keyVersion, -, hrest⟩ := bind_eq_ok_iff.mp hrest
  obtain ⟨messageSignature, hsignature, hrest⟩ := bind_eq_ok_iff.mp hrest
  obtain ⟨attachments, -, hrest⟩ := bind_eq_ok_iff.mp hrest
  obtain rfl := Except.ok.inj hrest
  obtain ⟨found, hfound, -⟩ := Json.required_eq_ok hsignature
  have hlong : BodyAuthFields.fieldNames.length ≤ fieldNames.idxOf "message_signature" := by
    decide
  exact ⟨required_agree hfields hmore ⟨found, hfound⟩ hlong hgroup hgroup',
    required_agree hfields hmore ⟨found, hfound⟩ hlong hsender hsender'⟩

end TwoReaders

end MessagingRelayer
