import MessagingRelayer.Foundation.Failures
import MessagingRelayer.Handlers.Messages

/-!
# The statuses of error responses

Which status codes each part of the request path can end a request with: the middleware, the router
with its extractors, and the handlers around their storage calls. `Method.success` and
`Method.failures` are the table of the messages API that they come to.
-/

set_option autoImplicit false
set_option relaxedAutoImplicit false

namespace MessagingRelayer

open Foundation

/-- The status code a request with this method succeeds with on a route. -/
def Method.success : Method → Route → Option Nat
  | .get, .messages => some 200
  | .post, .messages => some 201
  | .put, .messages => some 200
  | .delete, .message _ => some 200
  | .options, _ => some 200
  | _, _ => none

/-- The status codes a request with this method can fail with on a route. -/
def Method.failures : Method → Route → List Nat
  | .get, .messages => [400, 401, 403, 404]
  | .post, .messages => [400, 401, 403, 409, 413, 415, 422]
  | .put, .messages => [400, 401, 403, 404, 409, 413, 415, 422]
  | .delete, .message _ => [400, 401, 403, 404]
  | .head, .messages => [500]
  | .head, .message _ => [405]
  | .options, _ => []
  | .other, _ => [405]
  | _, _ => [400, 401, 403, 405]

theorem Method.le_of_mem_failures {method : Method} {route : Route} {status : Nat}
    (hstatus : status ∈ method.failures route) : 400 ≤ status := by
  cases method <;> cases route <;> simp [Method.failures] at hstatus <;> omega

/-! ### The middleware -/

section Middleware

variable (libs : Externals)

/-- The status is one the middleware answers with. -/
def AuthErrorResponse.Refuses (response : AuthErrorResponse) : Prop :=
  response.status ∈ [400, 401, 403]

theorem failsWith_requireHeader (headers : List (String × List UInt8)) (name shown code : String) :
    FailsWith AuthErrorResponse.Refuses (requireHeader headers name shown code) := by
  unfold requireHeader
  split
  · exact .error (by simp [AuthErrorResponse.Refuses])
  · exact .ok _

theorem failsWith_presentedKey (text : String) :
    FailsWith AuthErrorResponse.Refuses (presentedKey text) := by
  unfold presentedKey
  split
  · exact .error (by simp [AuthErrorResponse.Refuses, authErrorResponse])
  · exact .error (by simp [AuthErrorResponse.Refuses, authErrorResponse])
  · split
    · exact .error (by simp [AuthErrorResponse.Refuses, authErrorResponse])
    · split_ifs
      · exact .error (by simp [AuthErrorResponse.Refuses, authErrorResponse])
      · exact .ok _

theorem failsWith_authFields (headers : List (String × List UInt8)) (body : List UInt8) :
    FailsWith AuthErrorResponse.Refuses (authFields libs headers body) := by
  unfold authFields
  split_ifs
  · refine .bind ?_ fun fields _ ↦ .ok _
    unfold parseBodyAuth
    split
    · exact .error (by simp [AuthErrorResponse.Refuses])
    · exact .ok _
  · refine .bind (failsWith_requireHeader headers _ _ _) fun sender _ ↦ ?_
    refine .bind (failsWith_requireHeader headers _ _ _) fun timestampText _ ↦ ?_
    refine .bind (failsWith_requireHeader headers _ _ _) fun groupId _ ↦ ?_
    refine .bind ?_ fun timestamp _ ↦ .ok _
    unfold parseTimestamp
    split
    · exact .error (by simp [AuthErrorResponse.Refuses])
    · exact .ok _

theorem failsWith_extractSigned (request : Request) :
    FailsWith AuthErrorResponse.Refuses (extractSigned libs request) := by
  unfold extractSigned
  refine .bind (failsWith_requireHeader _ _ _ _) fun signatureHex _ ↦ ?_
  refine .bind (failsWith_requireHeader _ _ _ _) fun publicKeyHex _ ↦ ?_
  refine .bind (failsWith_presentedKey publicKeyHex) fun key _ ↦ ?_
  refine .bind ?_ fun signature _ ↦ .bind ?_ fun body _ ↦
    .bind (failsWith_authFields libs _ body) fun fields _ ↦ .ok _
  · unfold presentedSignature
    split
    · exact .error (by simp [AuthErrorResponse.Refuses, authErrorResponse])
    · exact .ok _
  · unfold collectBody
    split
    · exact .error (by simp [AuthErrorResponse.Refuses])
    · exact .ok _

theorem failsWith_checkSigned (ttlSeconds : Int) (store : InMemoryMembershipStore) (now : Int)
    (permission : MessagingPermission) (signed : Signed) :
    FailsWith AuthErrorResponse.Refuses
      (checkSigned libs ttlSeconds store now permission signed) := by
  unfold checkSigned
  split
  · exact .error (by simp [AuthErrorResponse.Refuses, authErrorResponse])
  · split
    · exact .error (by simp [AuthErrorResponse.Refuses, authErrorResponse])
    · split
      · exact .error (by simp [AuthErrorResponse.Refuses, authErrorResponse])
      · split_ifs
        · exact .ok _
        · exact .error (by simp [AuthErrorResponse.Refuses, authErrorResponse])

/-- The middleware ends a request with 400, 401 or 403. -/
theorem failsWith_authMiddleware (ttlSeconds : Int) (store : InMemoryMembershipStore) (now : Int)
    (request : Request) : FailsWith AuthErrorResponse.Refuses
      (authMiddleware libs ttlSeconds store now request) := by
  unfold authMiddleware
  split
  · exact .ok none
  · exact .bind (failsWith_extractSigned libs request) fun signed _ ↦
      .bind (failsWith_checkSigned libs _ _ _ _ signed) fun auth _ ↦ .ok _

end Middleware

/-! ### The router -/

section Router

variable (libs : Externals) (request : Request)

theorem failsWith_jsonExtractor {Value : Type} (target : String)
    (decode : Json → Except String Value) :
    FailsWith (fun rejection : Rejection ↦ rejection.status ∈ [400, 413, 415, 422])
      (jsonExtractor libs target request decode) := by
  unfold jsonExtractor
  split
  · exact .error (by simp)
  · dsimp only
    split_ifs
    · exact .error (by simp)
    · exact .error (by simp)
    · split
      · exact .error (by simp)
      · split
        · exact .error (by simp)
        · exact .ok _

theorem failsWith_queryExtractor :
    FailsWith (fun rejection : Rejection ↦ rejection.status = 400)
      (queryExtractor libs request) := by
  unfold queryExtractor
  split
  · exact .error rfl
  · exact .ok _

theorem failsWith_pathExtractor (segment : String) :
    FailsWith (fun rejection : Rejection ↦ rejection.status = 400)
      (pathExtractor libs segment) := by
  unfold pathExtractor
  split
  · exact .error rfl
  · exact .ok _

/-- The status is one the router rejects with. -/
def Rejection.Refuses (rejection : Rejection) : Prop :=
  rejection.status ∈ [400, 405, 413, 415, 422, 500]

/-- The router ends a request that it does not route with one of its statuses. -/
theorem failsWith_dispatch (auth : Option AuthContext) :
    FailsWith Rejection.Refuses (dispatch libs request auth) := by
  have hextension : FailsWith Rejection.Refuses (extensionExtractor auth) := by
    unfold extensionExtractor
    split
    · exact .error (by simp [Rejection.Refuses])
    · exact .ok _
  have hquery : FailsWith Rejection.Refuses (queryExtractor libs request) :=
    (failsWith_queryExtractor libs request).mono
      fun rejection hstatus ↦ by simp [Rejection.Refuses, hstatus]
  have hpath (segment : String) : FailsWith Rejection.Refuses (pathExtractor libs segment) :=
    (failsWith_pathExtractor libs segment).mono
      fun rejection hstatus ↦ by simp [Rejection.Refuses, hstatus]
  have hjson {Value : Type} (target : String) (decode : Json → Except String Value) :
      FailsWith Rejection.Refuses (jsonExtractor libs target request decode) :=
    (failsWith_jsonExtractor libs request target decode).mono fun rejection hstatus ↦ by
      simp only [Rejection.Refuses, List.mem_cons] at hstatus ⊢
      tauto
  unfold dispatch
  split
  · exact .bind hextension fun found _ ↦ .bind hquery fun query _ ↦ .ok _
  · exact .bind hextension fun found _ ↦ .bind hquery fun query _ ↦ .ok _
  · exact .bind hextension fun found _ ↦ .bind (hjson _ _) fun req _ ↦ .ok _
  · exact .bind hextension fun found _ ↦ .bind (hjson _ _) fun req _ ↦ .ok _
  · exact .bind (hpath _) fun messageId _ ↦ .bind hextension fun found _ ↦ .ok _
  · exact .error (by simp [Rejection.Refuses])

/-- A request that needs a permission is rejected with a status of the table. -/
theorem failsWith_dispatch_some (auth : AuthContext) {permission : MessagingPermission}
    (hpermission : requiredPermission request.method = some permission) :
    FailsWith (fun rejection : Rejection ↦ rejection.status ∈ request.method.failures request.route)
      (dispatch libs request (some auth)) := by
  unfold dispatch
  split
  case h_1 hroute hmethod =>
    rw [hroute, hmethod]
    exact .bind (.ok auth) fun found _ ↦ .bind ((failsWith_queryExtractor libs request).mono
      fun rejection hstatus ↦ by simp [hstatus, Method.failures]) fun query _ ↦ .ok _
  case h_2 hroute hmethod =>
    simp [hmethod, requiredPermission] at hpermission
  case h_3 hroute hmethod =>
    rw [hroute, hmethod]
    exact .bind (.ok auth) fun found _ ↦ .bind ((failsWith_jsonExtractor libs request _ _).mono
      fun rejection hstatus ↦ by simp [Method.failures] at hstatus ⊢; tauto) fun req _ ↦ .ok _
  case h_4 hroute hmethod =>
    rw [hroute, hmethod]
    exact .bind (.ok auth) fun found _ ↦ .bind ((failsWith_jsonExtractor libs request _ _).mono
      fun rejection hstatus ↦ by simp [Method.failures] at hstatus ⊢; tauto) fun req _ ↦ .ok _
  case h_5 segment hroute hmethod =>
    rw [hroute, hmethod]
    exact .bind ((failsWith_pathExtractor libs segment).mono
      fun rejection hstatus ↦ by simp [hstatus, Method.failures]) fun messageId _ ↦
        .bind (.ok auth) fun found _ ↦ .ok _
  case h_6 hget hhead hpost hput hdelete =>
    refine .error ?_
    cases hmethod : request.method <;> cases hroute : request.route <;>
      simp_all [Method.failures, requiredPermission]

/-- A request without a context that is not a preflight request is rejected with a status of the
table. -/
theorem failsWith_dispatch_none (hpermission : requiredPermission request.method = none)
    (hcors : corsLayer request = none) :
    ∃ rejection, dispatch libs request none = .error rejection ∧
      rejection.status ∈ request.method.failures request.route := by
  unfold dispatch
  cases hmethod : request.method with
  | head =>
    cases request.route with
    | messages => exact ⟨_, rfl, by simp [Method.failures]⟩
    | message segment => exact ⟨_, rfl, by simp [Method.failures]⟩
  | other =>
    cases request.route with
    | messages => exact ⟨_, rfl, by simp [Method.failures]⟩
    | message segment => exact ⟨_, rfl, by simp [Method.failures]⟩
  | options => simp [corsLayer, hmethod] at hcors
  | get => simp [hmethod, requiredPermission] at hpermission
  | post => simp [hmethod, requiredPermission] at hpermission
  | put => simp [hmethod, requiredPermission] at hpermission
  | delete => simp [hmethod, requiredPermission] at hpermission

end Router

/-! ### The handlers -/

section Handlers

variable (libs : Externals) (auth : AuthContext)

/-- The status of an error. -/
def ApiError.status (err : ApiError) : Nat :=
  err.intoResponse.1

theorem failsWith_decodeHexField (name text : String) :
    FailsWith (fun err : ApiError ↦ err.status = 400) (decodeHexField name text) := by
  unfold decodeHexField
  split
  · exact .error rfl
  · exact .ok _

/-- Content that cannot be decoded or verified is a bad request. -/
theorem failsWith_decodeContent (groupId encryptedText nonce : String) (keyVersion : Int)
    (messageSignature : String) (attachments : List AttachmentRequest) :
    FailsWith (fun err : ApiError ↦ err.status = 400) (decodeContent libs auth groupId encryptedText
      nonce keyVersion messageSignature attachments) := by
  unfold decodeContent
  refine .bind (failsWith_decodeHexField _ _) fun encrypted _ ↦ .bind ?_ fun nonceBytes _ ↦
    .bind ?_ fun signature _ ↦ .bind ?_ fun decoded _ ↦ .ok _
  · unfold decodeNonce
    refine .bind (failsWith_decodeHexField _ _) fun bytes _ ↦ ?_
    split_ifs
    · exact .error rfl
    · exact .ok _
  · unfold verifyMessageSignature
    split
    · exact .error rfl
    · split_ifs
      · exact .error rfl
      · dsimp only
        split
        · exact .error rfl
        · exact .ok _
  · refine .mapM fun request _ ↦ ?_
    split
    · exact .error rfl
    · exact .ok _

theorem failsWith_createMessagePrepare (req : CreateMessageRequest) (id : Uuid) (now : DateTime) :
    FailsWith (fun err : ApiError ↦ err.status = 400)
      (createMessagePrepare libs auth req id now) :=
  .bind (failsWith_decodeContent libs auth _ _ _ _ _ _) fun _ _ ↦ .ok _

theorem failsWith_checkOwnership (existing : Message) (verb : String) :
    FailsWith (fun err : ApiError ↦ err.status = 403) (checkOwnership auth existing verb) := by
  unfold checkOwnership
  split_ifs
  · exact .error rfl
  · exact .error rfl
  · exact .ok _

theorem failsWith_updateMessageCheck (req : UpdateMessageRequest) (existing : Message) :
    FailsWith (fun err : ApiError ↦ err.status ∈ [400, 403])
      (updateMessageCheck libs auth req existing) := by
  unfold updateMessageCheck
  refine .bind ((failsWith_checkOwnership auth existing "edit").mono fun err hstatus ↦ ?_)
    fun checked _ ↦ (failsWith_decodeContent libs auth _ _ _ _ _ _).mono fun err hstatus ↦ ?_
  · simp [hstatus]
  · simp [hstatus]

theorem failsWith_getMessage (storage : InMemoryStorage) (id : Uuid) :
    FailsWith (fun err ↦ (ApiError.fromStorageError err).status = 404) (storage.getMessage id) := by
  unfold InMemoryStorage.getMessage
  split
  · exact .error rfl
  · exact .ok _

theorem failsWith_getMessages (query : GetMessagesQuery) (storage : InMemoryStorage)
    (listing : List Message) : FailsWith (fun err : ApiError ↦ err.status ∈ [400, 403, 404])
      (getMessages auth query storage listing) := by
  unfold getMessages
  split
  · split
    · next hid err hget =>
      refine .error ?_
      rw [failsWith_getMessage storage _ err hget]
      simp
    · split_ifs
      · exact .error (by simp [ApiError.status, ApiError.intoResponse])
      · exact .ok _
  · split
    · exact .error (by simp [ApiError.status, ApiError.intoResponse])
    · split_ifs
      · exact .error (by simp [ApiError.status, ApiError.intoResponse])
      · exact .ok _

theorem failsWith_insertMessage (storage : InMemoryStorage) (message : Message) :
    FailsWith (fun err ↦ (ApiError.fromStorageError err).status = 409)
      (storage.insertMessage message).1 := by
  unfold InMemoryStorage.insertMessage
  split_ifs
  · exact .error rfl
  · exact .error rfl
  · exact .ok _

theorem failsWith_updateMessage (storage : InMemoryStorage) (id : Uuid) (content : MessageContent)
    (now : DateTime) : FailsWith (fun err ↦ (ApiError.fromStorageError err).status ∈ [404, 409])
      (storage.updateMessage id content now).1 := by
  unfold InMemoryStorage.updateMessage
  split
  · exact .error (by simp [ApiError.status, ApiError.fromStorageError, ApiError.intoResponse])
  · split_ifs
    · exact .error (by simp [ApiError.status, ApiError.fromStorageError, ApiError.intoResponse])
    · exact .ok _

theorem failsWith_deleteMessage (storage : InMemoryStorage) (id : Uuid) (now : DateTime) :
    FailsWith (fun err ↦ (ApiError.fromStorageError err).status = 404)
      (storage.deleteMessage id now).1 := by
  unfold InMemoryStorage.deleteMessage
  split
  · exact .error rfl
  · exact .ok _

end Handlers

end MessagingRelayer
