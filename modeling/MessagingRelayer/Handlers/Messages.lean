import MessagingRelayer.Enclave
import MessagingRelayer.Handlers.Request
import MessagingRelayer.Handlers.Response

/-!
# The message handlers

A handler is cut where it calls the storage: what it computes before a call, and what it makes of
the answer, are the functions here, and the calls themselves are steps of the system.
`decodeContent` is the part that creating and updating share, from the text of a request to the
content that is stored.

`dispatch` is the router with its extractors: it reads the parameters of the handler from the
request, or rejects it. `corsLayer` stands in front of the router and of the middleware.
-/

set_option autoImplicit false
set_option relaxedAutoImplicit false

namespace MessagingRelayer

open Foundation

section Handlers

variable (libs : Externals)

/-! ### Content -/

/-- Verifies the per-message signature over canonical content. -/
def verifyMessageSignature (signatureHex groupId encryptedText nonce : String) (keyVersion : Int)
    (auth : AuthContext) : Except ApiError (List UInt8) :=
  match Hex.decode signatureHex with
  | .error err => .error (.badRequest s!"Invalid hex in message_signature: {err.toString}")
  | .ok signatureBytes =>
    if signatureBytes.length ≠ 64 then
      .error (.badRequest
        s!"message_signature must be exactly 64 bytes, got {signatureBytes.length}")
    else
      let canonical := canonicalMessage groupId encryptedText nonce keyVersion
      match verifySignature libs (utf8 canonical) signatureBytes auth.publicKey auth.scheme with
      | .error err =>
        .error (.badRequest s!"Message signature verification failed: {err.toString}")
      | .ok () => .ok signatureBytes

/-- Decodes the attachments of a request; the first that cannot be decoded is reported. -/
def decodeAttachments (requests : List AttachmentRequest) : Except ApiError (List Attachment) :=
  requests.mapM fun request ↦
    match request.tryIntoAttachment with
    | .error message => .error (.badRequest message)
    | .ok attachment => .ok attachment

/-- The bytes of a hex-encoded field. -/
def decodeHexField (name text : String) : Except ApiError (List UInt8) :=
  match Hex.decode text with
  | .error err => .error (.badRequest s!"Invalid hex in {name}: {err.toString}")
  | .ok bytes => .ok bytes

/-- The bytes of the nonce. -/
def decodeNonce (text : String) : Except ApiError (List UInt8) := do
  let nonce ← decodeHexField "nonce" text
  if nonce.length ≠ 12 then
    .error (.badRequest s!"Nonce must be exactly 12 bytes, got {nonce.length}")
  else
    .ok nonce

/-- The content a request asks to store: text and nonce are decoded, the signature is verified over
the text of the request, the attachments are decoded, and the key is the authenticated one. -/
def decodeContent (auth : AuthContext) (groupId encryptedText nonceText : String) (keyVersion : Int)
    (messageSignature : String) (attachmentRequests : List AttachmentRequest) :
    Except ApiError MessageContent := do
  let encryptedMsg ← decodeHexField "encrypted_text" encryptedText
  let nonce ← decodeNonce nonceText
  let signature ←
    verifyMessageSignature libs messageSignature groupId encryptedText nonceText keyVersion auth
  let attachments ← decodeAttachments attachmentRequests
  .ok {
    encryptedMsg := encryptedMsg
    nonce := nonce
    keyVersion := keyVersion
    attachments := attachments
    signature := signature
    publicKey := auth.publicKeyWithFlag }

/-! ### The parts of the handlers -/

/-- `create_message` before the storage call: the message to store, with the identifier and the
clock reading its construction draws. -/
def createMessagePrepare (auth : AuthContext) (req : CreateMessageRequest) (id : Uuid)
    (now : DateTime) : Except ApiError Message := do
  let content ← decodeContent libs auth req.groupId req.encryptedText req.nonce req.keyVersion
    req.messageSignature req.attachments
  .ok (Message.new id now req.groupId req.senderAddress content)

/-- The checks `update_message` and `delete_message` make of the stored message. -/
def checkOwnership (auth : AuthContext) (existing : Message) (verb : String) :
    Except ApiError Unit :=
  if auth.authorizedGroup ≠ some existing.groupId then
    .error (.forbidden "Message does not belong to the authorized group")
  else if existing.senderWalletAddr ≠ auth.senderAddress then
    .error (.forbidden s!"Only the original sender can {verb} this message")
  else
    .ok ()

/-- `update_message` between its two storage calls: the content to write. -/
def updateMessageCheck (auth : AuthContext) (req : UpdateMessageRequest) (existing : Message) :
    Except ApiError MessageContent := do
  checkOwnership auth existing "edit"
  decodeContent libs auth req.groupId req.encryptedText req.nonce req.keyVersion
    req.messageSignature req.attachments

/-- `delete_message` between its two storage calls. -/
def deleteMessageCheck (auth : AuthContext) (existing : Message) : Except ApiError Unit :=
  checkOwnership auth existing "delete"

/-- Default number of messages per page. -/
def defaultPageLimit : Nat :=
  50

/-- Maximum allowed messages per page. -/
def maxPageLimit : Nat :=
  100

/-- `get_messages`, which makes one storage call: a single message, or a page of a group. `listing`
is the order in which the storage walks over its messages. -/
def getMessages (auth : AuthContext) (query : GetMessagesQuery) (storage : InMemoryStorage)
    (listing : List Message) : Except ApiError GetMessagesResponse :=
  match query.messageId with
  | some messageId =>
    match storage.getMessage messageId with
    | .error err => .error (ApiError.fromStorageError err)
    | .ok message =>
      if auth.authorizedGroup ≠ some message.groupId then
        .error (.forbidden "Message does not belong to the authorized group")
      else
        .ok (.single (MessageResponse.fromMessage message))
  | none =>
    match query.groupId with
    | none => .error (.badRequest "Either message_id or group_id is required")
    | some groupId =>
      if auth.authorizedGroup ≠ some groupId then
        .error (.forbidden "Not authorized for this group")
      else
        let limit := min (query.limit.getD defaultPageLimit) maxPageLimit
        let messages := InMemoryStorage.getMessagesByGroup listing groupId query.afterOrder
          query.beforeOrder (limit + 1)
        .ok (.list ((messages.take limit).map MessageResponse.fromMessage)
          (decide (messages.length > limit)))

/-! ### Routing -/

/-- A response that is not made by a handler. -/
structure Rejection where
  status : Nat
  message : String
deriving DecidableEq

/-- The response to a preflight request, which has no body. -/
structure PreflightResponse where
  status : Nat
deriving DecidableEq

/-- A handler with its parameters. -/
inductive HandlerCall
  | createMessage (auth : AuthContext) (req : CreateMessageRequest)
  | getMessages (auth : AuthContext) (query : GetMessagesQuery)
  | updateMessage (auth : AuthContext) (req : UpdateMessageRequest)
  | deleteMessage (auth : AuthContext) (messageId : Uuid)
deriving DecidableEq

/-- The authentication context among the extensions of a request. -/
def extensionExtractor (auth : Option AuthContext) : Except Rejection AuthContext :=
  match auth with
  | none => .error ⟨500, "Missing request extension"⟩
  | some auth => .ok auth

/-- How many bytes of a body the extractors read unless a route says otherwise, which none does. -/
def defaultBodyLimit : Nat :=
  2097152

/-- A JSON body, read as the named type. -/
def jsonExtractor {Value : Type} (target : String) (request : Request)
    (decode : Json → Except String Value) : Except Rejection Value :=
  match request.headers.lookup "content-type" with
  | none => .error ⟨415, "Expected request with `Content-Type: application/json`"⟩
  | some contentType =>
    if libs.isJsonContentType contentType = false then
      .error ⟨415, "Expected request with `Content-Type: application/json`"⟩
    else
      let bytes := request.body.getD []
      if defaultBodyLimit < bytes.length then
        .error ⟨413, "Failed to buffer the request body: length limit exceeded"⟩
      else
        match libs.jsonFromSlice bytes with
        | .error reason =>
          let text := libs.jsonPathErrorText target bytes reason
          .error ⟨400, s!"Failed to parse the request body as JSON: {text}"⟩
        | .ok json =>
          match decode json with
          | .error reason =>
            let text := libs.jsonPathErrorText target bytes reason
            .error ⟨422, s!"Failed to deserialize the JSON body into the target type: {text}"⟩
          | .ok value => .ok value

/-- The query parameters. -/
def queryExtractor (request : Request) : Except Rejection GetMessagesQuery :=
  match GetMessagesQuery.fromPairs libs (libs.formUrlDecode request.query) with
  | .error err => .error ⟨400, s!"Failed to deserialize query string: {err}"⟩
  | .ok query => .ok query

/-- The identifier in the path. -/
def pathExtractor (segment : String) : Except Rejection Uuid :=
  match libs.uuidParseStr segment with
  | .error err => .error ⟨400, s!"Invalid URL: {err}"⟩
  | .ok messageId => .ok messageId

/-- The response of the CORS layer to a request that it answers itself: every `OPTIONS` request,
whatever its headers and its route are. -/
def corsLayer (request : Request) : Option PreflightResponse :=
  if request.method = .options then some ⟨200⟩ else none

/-- The handler a request reaches, with what its extractors read. A `HEAD` request reaches the
handler for `GET`. -/
def dispatch (request : Request) (auth : Option AuthContext) : Except Rejection HandlerCall :=
  match request.route, request.method with
  | .messages, .get => do
    let auth ← extensionExtractor auth
    let query ← queryExtractor libs request
    .ok (.getMessages auth query)
  | .messages, .head => do
    let auth ← extensionExtractor auth
    let query ← queryExtractor libs request
    .ok (.getMessages auth query)
  | .messages, .post => do
    let auth ← extensionExtractor auth
    let req ← jsonExtractor libs "CreateMessageRequest" request CreateMessageRequest.fromJson
    .ok (.createMessage auth req)
  | .messages, .put => do
    let auth ← extensionExtractor auth
    let req ←
      jsonExtractor libs "UpdateMessageRequest" request (UpdateMessageRequest.fromJson libs)
    .ok (.updateMessage auth req)
  | .message segment, .delete => do
    let messageId ← pathExtractor libs segment
    let auth ← extensionExtractor auth
    .ok (.deleteMessage auth messageId)
  | _, _ => .error ⟨405, ""⟩

end Handlers

/-! ### What a handler has checked -/

section Checked

variable {libs : Externals} {auth : AuthContext}

theorem verifyMessageSignature_eq_ok {signatureHex groupId encryptedText nonce : String}
    {keyVersion : Int} {signature : List UInt8}
    (hverify : verifyMessageSignature libs signatureHex groupId encryptedText nonce keyVersion
      auth = .ok signature) :
    Hex.decode signatureHex = .ok signature ∧
      verifySignature libs (utf8 (canonicalMessage groupId encryptedText nonce keyVersion))
        signature auth.publicKey auth.scheme = .ok () := by
  unfold verifyMessageSignature at hverify
  cases hdecode : Hex.decode signatureHex with
  | error err => simp [hdecode] at hverify
  | ok bytes =>
    simp only [hdecode] at hverify
    split_ifs at hverify with hlength
    cases hsignature :
        verifySignature libs (utf8 (canonicalMessage groupId encryptedText nonce keyVersion))
          bytes auth.publicKey auth.scheme with
    | error err => simp [hsignature] at hverify
    | ok verified =>
      obtain rfl : bytes = signature := by simpa [hsignature] using hverify
      exact ⟨rfl, hsignature⟩

theorem decodeHexField_eq_ok {name text : String} {bytes : List UInt8}
    (hdecode : decodeHexField name text = .ok bytes) : Hex.decode text = .ok bytes := by
  unfold decodeHexField at hdecode
  cases hhex : Hex.decode text with
  | error err => simp [hhex] at hdecode
  | ok decoded => simpa [hhex] using hdecode

theorem decodeNonce_eq_ok {text : String} {nonce : List UInt8}
    (hdecode : decodeNonce text = .ok nonce) :
    Hex.decode text = .ok nonce ∧ nonce.length = 12 := by
  obtain ⟨bytes, hbytes, hrest⟩ := bind_eq_ok_iff.mp hdecode
  split_ifs at hrest with hlength
  obtain rfl := Except.ok.inj hrest
  exact ⟨decodeHexField_eq_ok hbytes, not_not.mp hlength⟩

/-- What is stored of a request: the bytes its text spells, under a signature that is good for that
text, with the authenticated key. -/
theorem decodeContent_eq_ok {groupId encryptedText nonceText messageSignature : String}
    {keyVersion : Int} {attachmentRequests : List AttachmentRequest} {content : MessageContent}
    (hdecode : decodeContent libs auth groupId encryptedText nonceText keyVersion messageSignature
      attachmentRequests = .ok content) :
    Hex.decode encryptedText = .ok content.encryptedMsg ∧
      Hex.decode nonceText = .ok content.nonce ∧
      content.keyVersion = keyVersion ∧
      content.publicKey = auth.publicKeyWithFlag ∧
      verifySignature libs (utf8 (canonicalMessage groupId encryptedText nonceText keyVersion))
        content.signature auth.publicKey auth.scheme = .ok () := by
  obtain ⟨encryptedMsg, hencrypted, hrest⟩ := bind_eq_ok_iff.mp hdecode
  obtain ⟨nonce, hnonce, hrest⟩ := bind_eq_ok_iff.mp hrest
  obtain ⟨signature, hsignature, hrest⟩ := bind_eq_ok_iff.mp hrest
  obtain ⟨attachments, -, hrest⟩ := bind_eq_ok_iff.mp hrest
  obtain rfl := Except.ok.inj hrest
  exact ⟨decodeHexField_eq_ok hencrypted, (decodeNonce_eq_ok hnonce).1, rfl, rfl,
    (verifyMessageSignature_eq_ok hsignature).2⟩

theorem createMessagePrepare_eq_ok {req : CreateMessageRequest} {id : Uuid} {now : DateTime}
    {message : Message} (hprepare : createMessagePrepare libs auth req id now = .ok message) :
    ∃ content, decodeContent libs auth req.groupId req.encryptedText req.nonce req.keyVersion
        req.messageSignature req.attachments = .ok content ∧
      message = Message.new id now req.groupId req.senderAddress content := by
  obtain ⟨content, hcontent, hrest⟩ := bind_eq_ok_iff.mp hprepare
  exact ⟨content, hcontent, (Except.ok.inj hrest).symm⟩

theorem checkOwnership_eq_ok {existing : Message} {verb : String} {checked : Unit}
    (hcheck : checkOwnership auth existing verb = .ok checked) :
    auth.authorizedGroup = some existing.groupId ∧
      existing.senderWalletAddr = auth.senderAddress := by
  unfold checkOwnership at hcheck
  split_ifs at hcheck with hgroup hsender
  exact ⟨not_not.mp hgroup, not_not.mp hsender⟩

theorem updateMessageCheck_eq_ok {req : UpdateMessageRequest} {existing : Message}
    {content : MessageContent} (hcheck : updateMessageCheck libs auth req existing = .ok content) :
    auth.authorizedGroup = some existing.groupId ∧
      existing.senderWalletAddr = auth.senderAddress ∧
      decodeContent libs auth req.groupId req.encryptedText req.nonce req.keyVersion
        req.messageSignature req.attachments = .ok content := by
  obtain ⟨checked, howner, hcontent⟩ := bind_eq_ok_iff.mp hcheck
  obtain ⟨hgroup, hsender⟩ := checkOwnership_eq_ok howner
  exact ⟨hgroup, hsender, hcontent⟩

/-- Every body in the answer to a read is built from a stored message of the authorized group. -/
theorem mem_bodies_of_getMessages {query : GetMessagesQuery} {storage : InMemoryStorage}
    {listing : List Message} {response : GetMessagesResponse} {body : MessageResponse}
    (hlisting : storage.messages.IterationOrder listing)
    (hread : getMessages auth query storage listing = .ok response)
    (hbody : body ∈ response.bodies) :
    ∃ id message, storage.messages.lookup id = some message ∧
      auth.authorizedGroup = some message.groupId ∧ body = MessageResponse.fromMessage message := by
  unfold getMessages at hread
  cases hid : query.messageId with
  | some messageId =>
    simp only [hid] at hread
    cases hget : storage.getMessage messageId with
    | error err => simp [hget] at hread
    | ok message =>
      simp only [hget] at hread
      split_ifs at hread with hgroup
      obtain rfl := Except.ok.inj hread
      exact ⟨messageId, message, (storage.getMessage_eq_ok_iff messageId message).mp hget,
        not_not.mp hgroup, List.mem_singleton.mp hbody⟩
  | none =>
    simp only [hid] at hread
    cases hgroup : query.groupId with
    | none => simp [hgroup] at hread
    | some groupId =>
      simp only [hgroup] at hread
      split_ifs at hread with hauthorized
      obtain rfl := Except.ok.inj hread
      obtain ⟨message, hmem, rfl⟩ := List.mem_map.mp hbody
      obtain ⟨hlisted, hsame, -⟩ :=
        InMemoryStorage.mem_getMessagesByGroup (List.mem_of_mem_take hmem)
      obtain ⟨id, hlookup⟩ := hlisting.mem_iff.mp hlisted
      exact ⟨id, message, hlookup, hsame ▸ not_not.mp hauthorized, rfl⟩

end Checked

/-! ### What reaches a handler -/

section Reached

variable {libs : Externals} {request : Request} {context : Option AuthContext}

theorem extensionExtractor_eq_ok {auth : AuthContext}
    (hextract : extensionExtractor context = .ok auth) : context = some auth := by
  cases context with
  | none => simp [extensionExtractor] at hextract
  | some found => simpa [extensionExtractor] using hextract

theorem jsonExtractor_eq_ok {Value : Type} {target : String}
    {decode : Json → Except String Value} {value : Value}
    (hextract : jsonExtractor libs target request decode = .ok value) :
    ∃ json, libs.jsonFromSlice (request.body.getD []) = .ok json ∧ decode json = .ok value := by
  unfold jsonExtractor at hextract
  cases hheader : request.headers.lookup "content-type" with
  | none => simp [hheader] at hextract
  | some contentType =>
    simp only [hheader] at hextract
    split_ifs at hextract with htype hsize
    cases hjson : libs.jsonFromSlice (request.body.getD []) with
    | error err => simp [hjson] at hextract
    | ok json =>
      simp only [hjson] at hextract
      cases hdecode : decode json with
      | error err => simp [hdecode] at hextract
      | ok decoded =>
        obtain rfl : decoded = value := by simpa [hdecode] using hextract
        exact ⟨json, rfl, hdecode⟩

/-- How a request reaches a handler: by its method and route, with the parameters its extractors
read. -/
inductive Routed (libs : Externals) (request : Request) (auth : AuthContext) : HandlerCall → Prop
  | getMessages {query : GetMessagesQuery}
      (hmethod : request.method = .get ∨ request.method = .head)
      (hroute : request.route = .messages) (hquery : queryExtractor libs request = .ok query) :
      Routed libs request auth (.getMessages auth query)
  | createMessage {req : CreateMessageRequest} {json : Json} (hmethod : request.method = .post)
      (hroute : request.route = .messages)
      (hjson : libs.jsonFromSlice (request.body.getD []) = .ok json)
      (hreq : CreateMessageRequest.fromJson json = .ok req) :
      Routed libs request auth (.createMessage auth req)
  | updateMessage {req : UpdateMessageRequest} {json : Json} (hmethod : request.method = .put)
      (hroute : request.route = .messages)
      (hjson : libs.jsonFromSlice (request.body.getD []) = .ok json)
      (hreq : UpdateMessageRequest.fromJson libs json = .ok req) :
      Routed libs request auth (.updateMessage auth req)
  | deleteMessage {segment : String} {messageId : Uuid} (hmethod : request.method = .delete)
      (hroute : request.route = .message segment)
      (hid : libs.uuidParseStr segment = .ok messageId) :
      Routed libs request auth (.deleteMessage auth messageId)

/-- `create_message` gets the same parameters from the same body, whatever the context. -/
theorem Routed.createMessage_of_body {libs : Externals} {first second : Request}
    {auth other : AuthContext} {req : CreateMessageRequest} {call : HandlerCall}
    (hfirst : Routed libs first auth (.createMessage auth req))
    (hsecond : Routed libs second other call) (hmethod : first.method = second.method)
    (hbody : first.body = second.body) : call = .createMessage other req := by
  cases hfirst with
  | createMessage hpost _ hjson hreq =>
    rw [hpost] at hmethod
    cases hsecond with
    | createMessage _ _ hjson' hreq' =>
      rw [hbody] at hjson
      obtain rfl := Except.ok.inj (hjson.symm.trans hjson')
      obtain rfl := Except.ok.inj (hreq.symm.trans hreq')
      rfl
    | getMessages hget => simp [← hmethod] at hget
    | updateMessage hput => simp [← hmethod] at hput
    | deleteMessage hdelete => simp [← hmethod] at hdelete

/-- `update_message` gets the same parameters from the same body, whatever the context. -/
theorem Routed.updateMessage_of_body {libs : Externals} {first second : Request}
    {auth other : AuthContext} {req : UpdateMessageRequest} {call : HandlerCall}
    (hfirst : Routed libs first auth (.updateMessage auth req))
    (hsecond : Routed libs second other call) (hmethod : first.method = second.method)
    (hbody : first.body = second.body) : call = .updateMessage other req := by
  cases hfirst with
  | updateMessage hput _ hjson hreq =>
    rw [hput] at hmethod
    cases hsecond with
    | updateMessage _ _ hjson' hreq' =>
      rw [hbody] at hjson
      obtain rfl := Except.ok.inj (hjson.symm.trans hjson')
      obtain rfl := Except.ok.inj (hreq.symm.trans hreq')
      rfl
    | getMessages hget => simp [← hmethod] at hget
    | createMessage hpost => simp [← hmethod] at hpost
    | deleteMessage hdelete => simp [← hmethod] at hdelete

/-- A handler that has its parameters in the body gets the same ones from the same body. -/
theorem Routed.eq_of_body {libs : Externals} {first second : Request} {auth : AuthContext}
    {call repeated : HandlerCall} (hfirst : Routed libs first auth call)
    (hsecond : Routed libs second auth repeated) (hmethod : first.method = second.method)
    (hbody : first.body = second.body) (hwrites : first.method = .post ∨ first.method = .put) :
    call = repeated := by
  cases hfirst with
  | createMessage hpost hroute hjson hreq =>
    have hrouted : Routed libs first auth _ := .createMessage hpost hroute hjson hreq
    exact (hrouted.createMessage_of_body hsecond hmethod hbody).symm
  | updateMessage hput hroute hjson hreq =>
    have hrouted : Routed libs first auth _ := .updateMessage hput hroute hjson hreq
    exact (hrouted.updateMessage_of_body hsecond hmethod hbody).symm
  | getMessages hget =>
    rcases hwrites with hpost | hput
    · simp [hpost] at hget
    · simp [hput] at hget
  | deleteMessage hdelete =>
    rcases hwrites with hpost | hput
    · simp [hpost] at hdelete
    · simp [hput] at hdelete

/-- A request that reaches a handler has a context. -/
theorem routed_of_dispatch {call : HandlerCall}
    (hdispatch : dispatch libs request context = .ok call) :
    ∃ auth, context = some auth ∧ Routed libs request auth call := by
  unfold dispatch at hdispatch
  split at hdispatch
  case h_1 hroute hmethod =>
    obtain ⟨auth, hauth, hrest⟩ := bind_eq_ok_iff.mp hdispatch
    obtain ⟨query, hquery, hrest⟩ := bind_eq_ok_iff.mp hrest
    obtain rfl := Except.ok.inj hrest
    exact ⟨auth, extensionExtractor_eq_ok hauth, .getMessages (Or.inl hmethod) hroute hquery⟩
  case h_2 hroute hmethod =>
    obtain ⟨auth, hauth, hrest⟩ := bind_eq_ok_iff.mp hdispatch
    obtain ⟨query, hquery, hrest⟩ := bind_eq_ok_iff.mp hrest
    obtain rfl := Except.ok.inj hrest
    exact ⟨auth, extensionExtractor_eq_ok hauth, .getMessages (Or.inr hmethod) hroute hquery⟩
  case h_3 hroute hmethod =>
    obtain ⟨auth, hauth, hrest⟩ := bind_eq_ok_iff.mp hdispatch
    obtain ⟨req, hextract, hrest⟩ := bind_eq_ok_iff.mp hrest
    obtain rfl := Except.ok.inj hrest
    obtain ⟨json, hjson, hreq⟩ := jsonExtractor_eq_ok hextract
    exact ⟨auth, extensionExtractor_eq_ok hauth, .createMessage hmethod hroute hjson hreq⟩
  case h_4 hroute hmethod =>
    obtain ⟨auth, hauth, hrest⟩ := bind_eq_ok_iff.mp hdispatch
    obtain ⟨req, hextract, hrest⟩ := bind_eq_ok_iff.mp hrest
    obtain rfl := Except.ok.inj hrest
    obtain ⟨json, hjson, hreq⟩ := jsonExtractor_eq_ok hextract
    exact ⟨auth, extensionExtractor_eq_ok hauth, .updateMessage hmethod hroute hjson hreq⟩
  case h_5 segment hroute hmethod =>
    obtain ⟨messageId, hpath, hrest⟩ := bind_eq_ok_iff.mp hdispatch
    obtain ⟨auth, hauth, hrest⟩ := bind_eq_ok_iff.mp hrest
    obtain rfl := Except.ok.inj hrest
    refine ⟨auth, extensionExtractor_eq_ok hauth, .deleteMessage hmethod hroute ?_⟩
    unfold pathExtractor at hpath
    cases hparse : libs.uuidParseStr segment with
    | error err => simp [hparse] at hpath
    | ok found => simpa [hparse] using hpath
  · simp at hdispatch

/-- A deletion reaches its handler whatever its query, headers and body are. -/
theorem dispatch_delete_of_path {auth : AuthContext} {segment : String} {messageId : Uuid}
    (hmethod : request.method = .delete) (hroute : request.route = .message segment)
    (hid : libs.uuidParseStr segment = .ok messageId) :
    dispatch libs request (some auth) = .ok (.deleteMessage auth messageId) := by
  unfold dispatch
  rw [hmethod, hroute]
  refine bind_eq_ok_iff.mpr ⟨messageId, ?_, bind_eq_ok_iff.mpr ⟨auth, rfl, rfl⟩⟩
  unfold pathExtractor
  rw [hid]

/-- A request that reaches a handler is not answered by the CORS layer. -/
theorem corsLayer_eq_none {call : HandlerCall}
    (hdispatch : dispatch libs request context = .ok call) : corsLayer request = none := by
  refine if_neg fun hoptions ↦ ?_
  unfold dispatch at hdispatch
  rw [hoptions] at hdispatch
  simp at hdispatch

end Reached

/-! ### The claims of a body -/

section Claims

variable {libs : Externals} {request : Request} {ttlSeconds now : Int}
  {store : InMemoryMembershipStore} {permission : MessagingPermission} {signed : Signed}
  {auth : AuthContext} {json : Json}

theorem CreateMessageRequest.obj_or_arr {req : CreateMessageRequest}
    (hreq : CreateMessageRequest.fromJson json = .ok req) :
    (∃ members, json = .obj members) ∨ ∃ items, json = .arr items := by
  obtain ⟨fields, hfields, -⟩ := bind_eq_ok_iff.mp hreq
  exact Json.obj_or_arr_of_structFields hfields

theorem UpdateMessageRequest.obj_or_arr {req : UpdateMessageRequest}
    (hreq : UpdateMessageRequest.fromJson libs json = .ok req) :
    (∃ members, json = .obj members) ∨ ∃ items, json = .arr items := by
  obtain ⟨fields, hfields, -⟩ := bind_eq_ok_iff.mp hreq
  exact Json.obj_or_arr_of_structFields hfields

/-- Assumes: the JSON text of an object or array is not empty. Where a handler reads a struct from
the body, the middleware has read the auth fields from the same value, and the body is what was
signed. -/
theorem Authenticated.bodyAuth (hjson : libs.LawfulJson)
    (hauth : Authenticated libs ttlSeconds store now request permission signed auth)
    (hread : libs.jsonFromSlice (request.body.getD []) = .ok json)
    (hshape : (∃ members, json = .obj members) ∨ ∃ items, json = .arr items) :
    ∃ fields, BodyAuthFields.fromJson json = .ok fields ∧
      auth.authorizedGroup = some fields.groupId ∧ auth.senderAddress = fields.senderAddress ∧
      request.body = some signed.message ∧ signed.message ≠ [] := by
  obtain ⟨-, -, body, -, -, -, -, hbody, hfields⟩ := extractSigned_eq_ok hauth.extract_eq
  rw [hbody, Option.getD_some] at hread
  obtain ⟨first, -, hhead⟩ := hjson body json hread hshape
  have hnonempty : body ≠ [] := by
    rintro rfl
    simp at hhead
  obtain ⟨hmessage, found, hfound, hdecode⟩ := authFields_of_body hnonempty hfields
  obtain rfl : found = json := Except.ok.inj (hfound.symm.trans hread)
  refine ⟨_, hdecode, ?_, ?_, ?_, ?_⟩
  · rw [hauth.auth_eq]
  · rw [hauth.auth_eq]
  · rw [hbody, hmessage]
  · rw [hmessage]
    exact hnonempty

/-- A create request is authorized for the group and the sender it names. -/
theorem Authenticated.create_claims (hjson : libs.LawfulJson)
    (hauth : Authenticated libs ttlSeconds store now request permission signed auth)
    {req : CreateMessageRequest} (hrouted : Routed libs request auth (.createMessage auth req)) :
    auth.authorizedGroup = some req.groupId ∧ auth.senderAddress = req.senderAddress := by
  cases hrouted with
  | createMessage hmethod hroute hread hreq =>
    obtain ⟨fields, hdecode, hgroup, hsender, -⟩ :=
      hauth.bodyAuth hjson hread (CreateMessageRequest.obj_or_arr hreq)
    obtain ⟨hsameGroup, hsameSender⟩ := CreateMessageRequest.agrees_with_bodyAuth hdecode hreq
    exact ⟨hsameGroup ▸ hgroup, hsender.trans hsameSender⟩

/-- An update request is authorized for the group it names. -/
theorem Authenticated.update_claims (hjson : libs.LawfulJson)
    (hauth : Authenticated libs ttlSeconds store now request permission signed auth)
    {req : UpdateMessageRequest} (hrouted : Routed libs request auth (.updateMessage auth req)) :
    auth.authorizedGroup = some req.groupId := by
  cases hrouted with
  | updateMessage hmethod hroute hread hreq =>
    obtain ⟨fields, hdecode, hgroup, -⟩ :=
      hauth.bodyAuth hjson hread (UpdateMessageRequest.obj_or_arr hreq)
    obtain ⟨hsameGroup, -⟩ := UpdateMessageRequest.agrees_with_bodyAuth hdecode hreq
    exact hsameGroup ▸ hgroup

end Claims

end MessagingRelayer
