import MessagingRelayer.Auth.Membership
import MessagingRelayer.Auth.Signature
import MessagingRelayer.Http.Request

/-!
# The authentication middleware

`auth_middleware` in two halves: `extractSigned` finds the key, the signature, the claimed sender,
group and time, and the bytes that were signed (the body when there is one, and the canonical
`timestamp:sender_address:group_id` otherwise), and `checkSigned` checks them. A request whose
method needs no permission is passed on without a context.

`Authenticated` names what an accepted request has been checked for, and
`authenticated_of_authMiddleware` says that acceptance means all of it.
-/

set_option autoImplicit false
set_option relaxedAutoImplicit false

namespace MessagingRelayer

open Foundation

/-! ### Errors -/

/-- The response to a request that is not authenticated. -/
structure AuthErrorResponse where
  status : Nat
  error : String
  code : String
deriving DecidableEq

/-- The code of an error. -/
def AuthError.code : AuthError → String
  | requestExpired _ _ _ => "REQUEST_EXPIRED"
  | invalidSignatureFormat _ => "INVALID_SIGNATURE_FORMAT"
  | invalidPublicKeyFormat _ => "INVALID_PUBLIC_KEY_FORMAT"
  | signatureVerificationFailed _ => "SIGNATURE_VERIFICATION_FAILED"
  | addressMismatch _ _ => "ADDRESS_MISMATCH"
  | notGroupMember _ _ => "NOT_GROUP_MEMBER"
  | missingSignature => "MISSING_SIGNATURE"
  | missingPublicKey => "MISSING_PUBLIC_KEY"
  | missingTimestamp => "MISSING_TIMESTAMP"
  | invalidTimestamp _ => "INVALID_TIMESTAMP"

/-- Creates an error response for auth failures. -/
def authErrorResponse (status : Nat) (err : AuthError) : AuthErrorResponse :=
  ⟨status, err.toString, err.code⟩

/-- The value of a header that must be there. -/
def requireHeader (headers : List (String × List UInt8)) (name shown code : String) :
    Except AuthErrorResponse String :=
  match getHeader headers name with
  | none => .error ⟨401, s!"Missing {shown} header", code⟩
  | some value => .ok value

/-! ### What was signed -/

/-- The permission a method needs. -/
def requiredPermission : Method → Option MessagingPermission
  | .get => some .messagingReader
  | .post => some .messagingSender
  | .put => some .messagingEditor
  | .delete => some .messagingDeleter
  | .head => none
  | .options => none
  | .other => none

/-- The key, the signature, the claims and the signed bytes of a request. -/
structure Signed where
  scheme : SignatureScheme
  publicKey : List UInt8
  signature : List UInt8
  groupId : String
  senderAddress : String
  timestamp : Int
  message : List UInt8
deriving DecidableEq

/-- The scheme and the key bytes in the public key header. -/
def presentedKey (publicKeyHex : String) :
    Except AuthErrorResponse (SignatureScheme × List UInt8) :=
  match Hex.decode publicKeyHex with
  | .error err => .error (authErrorResponse 401 (.invalidPublicKeyFormat err.toString))
  | .ok [] => .error (authErrorResponse 401 (.invalidPublicKeyFormat "Empty public key"))
  | .ok (schemeFlag :: publicKeyBytes) =>
    match SignatureScheme.fromFlag schemeFlag with
    | none =>
      .error (authErrorResponse 401 (.invalidPublicKeyFormat
        s!"Unknown signature scheme flag: 0x{Hex.encode [schemeFlag]}"))
    | some scheme =>
      if publicKeyBytes.length ≠ scheme.publicKeyLength then
        .error (authErrorResponse 401 (wrongKeyLength scheme publicKeyBytes))
      else
        .ok (scheme, publicKeyBytes)

/-- The signature bytes in the signature header. -/
def presentedSignature (signatureHex : String) : Except AuthErrorResponse (List UInt8) :=
  match Hex.decode signatureHex with
  | .error err => .error (authErrorResponse 401 (.invalidSignatureFormat err.toString))
  | .ok bytes => .ok bytes

/-- The body bytes of a request. -/
def collectBody (request : Request) : Except AuthErrorResponse (List UInt8) :=
  match request.body with
  | none => .error ⟨400, "Failed to read request body", "BODY_READ_ERROR"⟩
  | some bytes => .ok bytes

/-- Auth fields extracted from the request body. -/
structure BodyAuthFields where
  groupId : String
  senderAddress : String
  timestamp : Int
deriving DecidableEq

namespace BodyAuthFields

def fieldNames : List String :=
  ["group_id", "sender_address", "timestamp"]

/-- The derived deserializer. -/
def fromJson (json : Json) : Except String BodyAuthFields := do
  let fields ← json.structFields fieldNames
  let groupId ← Json.required fields "group_id" Json.asString
  let senderAddress ← Json.required fields "sender_address" Json.asString
  let timestamp ← Json.required fields "timestamp" Json.asI64
  .ok ⟨groupId, senderAddress, timestamp⟩

end BodyAuthFields

section Extraction

variable (libs : Externals)

/-- The auth fields in a JSON body. -/
def parseBodyAuth (bodyBytes : List UInt8) : Except AuthErrorResponse BodyAuthFields :=
  match libs.jsonFromSlice bodyBytes >>= BodyAuthFields.fromJson with
  | .error reason =>
    let text := libs.jsonErrorText "BodyAuthFields" bodyBytes reason
    .error ⟨400, s!"Invalid request body: {text}", "INVALID_BODY"⟩
  | .ok fields => .ok fields

/-- The timestamp in its header. -/
def parseTimestamp (timestampStr : String) : Except AuthErrorResponse Int :=
  match parseI64 timestampStr with
  | none =>
    .error ⟨400, "Invalid X-Timestamp header: must be a unix timestamp", "INVALID_TIMESTAMP"⟩
  | some timestamp => .ok timestamp

/-- Canonical signed message for bodyless requests: `timestamp:sender_address:group_id`. -/
def canonicalRequest (timestamp : Int) (senderAddress groupId : String) : String :=
  toString timestamp ++ ":" ++ senderAddress ++ ":" ++ groupId

/-- The auth fields of a request with the bytes that were signed: the body and what it says when it
is not empty, and else the headers and their canonical form. -/
def authFields (headers : List (String × List UInt8)) (bodyBytes : List UInt8) :
    Except AuthErrorResponse (BodyAuthFields × List UInt8) :=
  if bodyBytes ≠ [] then do
    let bodyAuth ← parseBodyAuth libs bodyBytes
    .ok (bodyAuth, bodyBytes)
  else do
    let senderAddress ←
      requireHeader headers "x-sender-address" "X-Sender-Address" "MISSING_SENDER_ADDRESS"
    let timestampStr ← requireHeader headers "x-timestamp" "X-Timestamp" "MISSING_TIMESTAMP"
    let groupId ← requireHeader headers "x-group-id" "X-Group-Id" "MISSING_GROUP_ID"
    let timestamp ← parseTimestamp timestampStr
    .ok (⟨groupId, senderAddress, timestamp⟩,
      utf8 (canonicalRequest timestamp senderAddress groupId))

/-- Steps 1 to 6: what the request presents. -/
def extractSigned (request : Request) : Except AuthErrorResponse Signed := do
  let signatureHex ← requireHeader request.headers "x-signature" "X-Signature" "MISSING_SIGNATURE"
  let publicKeyHex ←
    requireHeader request.headers "x-public-key" "X-Public-Key" "MISSING_PUBLIC_KEY"
  let (scheme, publicKeyBytes) ← presentedKey publicKeyHex
  let signatureBytes ← presentedSignature signatureHex
  let bodyBytes ← collectBody request
  let (fields, messageBytes) ← authFields libs request.headers bodyBytes
  .ok {
    scheme := scheme
    publicKey := publicKeyBytes
    signature := signatureBytes
    groupId := fields.groupId
    senderAddress := fields.senderAddress
    timestamp := fields.timestamp
    message := messageBytes }

/-- Steps 7 to 10: the time, the signature, the address and the permission. -/
def checkSigned (ttlSeconds : Int) (store : InMemoryMembershipStore) (now : Int)
    (permission : MessagingPermission) (signed : Signed) : Except AuthErrorResponse AuthContext :=
  match validateTimestamp now signed.timestamp ttlSeconds with
  | .error err => .error (authErrorResponse 401 err)
  | .ok () =>
    match verifySignature libs signed.message signed.signature signed.publicKey signed.scheme with
    | .error err => .error (authErrorResponse 401 err)
    | .ok () =>
      match verifyAddressMatchesPubkey libs signed.senderAddress signed.publicKey signed.scheme with
      | .error err => .error (authErrorResponse 401 err)
      | .ok _ =>
        if store.hasPermission signed.groupId signed.senderAddress permission then
          .ok {
            senderAddress := signed.senderAddress
            publicKey := signed.publicKey
            scheme := signed.scheme
            authorizedGroup := some signed.groupId }
        else
          .error (authErrorResponse 403 (.notGroupMember signed.senderAddress signed.groupId))

/-- The middleware: the response it ends the request with, or the context it passes it on with. -/
def authMiddleware (ttlSeconds : Int) (store : InMemoryMembershipStore) (now : Int)
    (request : Request) : Except AuthErrorResponse (Option AuthContext) :=
  match requiredPermission request.method with
  | none => .ok none
  | some permission => do
    let signed ← extractSigned libs request
    let auth ← checkSigned libs ttlSeconds store now permission signed
    .ok (some auth)

end Extraction

/-! ### What acceptance means -/

/-- The request has passed every check of the middleware, at a time `now` and against a membership
store: what it presents is `signed`, and the context is `auth`. -/
structure Authenticated (libs : Externals) (ttlSeconds : Int) (store : InMemoryMembershipStore)
    (now : Int) (request : Request) (permission : MessagingPermission) (signed : Signed)
    (auth : AuthContext) : Prop where
  permission_eq : requiredPermission request.method = some permission
  extract_eq : extractSigned libs request = .ok signed
  timestamp_ok : validateTimestamp now signed.timestamp ttlSeconds = .ok ()
  signature_ok :
    verifySignature libs signed.message signed.signature signed.publicKey signed.scheme = .ok ()
  address_ok :
    deriveSuiAddress libs signed.publicKey signed.scheme = .ok signed.senderAddress
  permission_held : store.hasPermission signed.groupId signed.senderAddress permission = true
  auth_eq : auth = {
    senderAddress := signed.senderAddress
    publicKey := signed.publicKey
    scheme := signed.scheme
    authorizedGroup := some signed.groupId }

section Acceptance

variable {libs : Externals} {ttlSeconds now : Int} {store : InMemoryMembershipStore}
  {request : Request} {permission : MessagingPermission} {signed : Signed} {auth : AuthContext}

theorem getHeader_of_requireHeader {headers : List (String × List UInt8)}
    {name shown code value : String}
    (hrequire : requireHeader headers name shown code = .ok value) :
    getHeader headers name = some value := by
  unfold requireHeader at hrequire
  cases hheader : getHeader headers name with
  | none => simp [hheader] at hrequire
  | some found => simpa [hheader] using hrequire

theorem checkSigned_eq_ok (hcheck :
    checkSigned libs ttlSeconds store now permission signed = .ok auth) :
    validateTimestamp now signed.timestamp ttlSeconds = .ok () ∧
      verifySignature libs signed.message signed.signature signed.publicKey signed.scheme = .ok () ∧
      deriveSuiAddress libs signed.publicKey signed.scheme = .ok signed.senderAddress ∧
      store.hasPermission signed.groupId signed.senderAddress permission = true ∧
      auth = {
        senderAddress := signed.senderAddress
        publicKey := signed.publicKey
        scheme := signed.scheme
        authorizedGroup := some signed.groupId } := by
  unfold checkSigned at hcheck
  cases htime : validateTimestamp now signed.timestamp ttlSeconds with
  | error err => simp [htime] at hcheck
  | ok checked =>
    cases hsignature :
        verifySignature libs signed.message signed.signature signed.publicKey signed.scheme with
    | error err => simp [htime, hsignature] at hcheck
    | ok verified =>
      cases haddress :
          verifyAddressMatchesPubkey libs signed.senderAddress signed.publicKey signed.scheme with
      | error err => simp [htime, hsignature, haddress] at hcheck
      | ok derived =>
        obtain ⟨hderived, hsame⟩ := verifyAddressMatchesPubkey_eq_ok_iff.mp haddress
        simp only [htime, hsignature, haddress] at hcheck
        split_ifs at hcheck with hheld
        exact ⟨rfl, rfl, hsame ▸ hderived, hheld, (Except.ok.inj hcheck).symm⟩

/-- The middleware passes a request on without a context where its method needs no permission. -/
theorem authMiddleware_eq_ok_none_iff :
    authMiddleware libs ttlSeconds store now request = .ok none ↔
      requiredPermission request.method = none := by
  unfold authMiddleware
  cases requiredPermission request.method with
  | none => exact iff_of_true rfl rfl
  | some permission =>
    refine iff_of_false (fun hpassed ↦ ?_) (Option.some_ne_none permission)
    obtain ⟨signed, -, hrest⟩ := bind_eq_ok_iff.mp hpassed
    obtain ⟨checked, -, hnone⟩ := bind_eq_ok_iff.mp hrest
    exact Option.some_ne_none checked (Except.ok.inj hnone)

/-- A request the middleware passes on with a context has passed every check. -/
theorem authenticated_of_authMiddleware
    (haccept : authMiddleware libs ttlSeconds store now request = .ok (some auth)) :
    ∃ permission signed,
      Authenticated libs ttlSeconds store now request permission signed auth := by
  unfold authMiddleware at haccept
  cases hpermission : requiredPermission request.method with
  | none => simp [hpermission] at haccept
  | some permission =>
    simp only [hpermission] at haccept
    obtain ⟨signed, hextract, hrest⟩ := bind_eq_ok_iff.mp haccept
    obtain ⟨checked, hcheck, hauth⟩ := bind_eq_ok_iff.mp hrest
    obtain rfl : checked = auth := Option.some.inj (Except.ok.inj hauth)
    obtain ⟨htime, hsignature, haddress, hheld, hcontext⟩ := checkSigned_eq_ok hcheck
    exact ⟨permission, signed, hpermission, hextract, htime, hsignature, haddress, hheld, hcontext⟩

/-- What a request that presents everything presents, by the header or the body it is read from. -/
theorem extractSigned_eq_ok (hextract : extractSigned libs request = .ok signed) :
    ∃ signatureHex publicKeyHex body,
      getHeader request.headers "x-signature" = some signatureHex ∧
      getHeader request.headers "x-public-key" = some publicKeyHex ∧
      presentedKey publicKeyHex = .ok (signed.scheme, signed.publicKey) ∧
      presentedSignature signatureHex = .ok signed.signature ∧
      request.body = some body ∧
      authFields libs request.headers body =
        .ok (⟨signed.groupId, signed.senderAddress, signed.timestamp⟩, signed.message) := by
  obtain ⟨signatureHex, hsignatureHex, hrest⟩ := bind_eq_ok_iff.mp hextract
  obtain ⟨publicKeyHex, hpublicKeyHex, hrest⟩ := bind_eq_ok_iff.mp hrest
  obtain ⟨⟨scheme, publicKeyBytes⟩, hkey, hrest⟩ := bind_eq_ok_iff.mp hrest
  obtain ⟨signatureBytes, hsignature, hrest⟩ := bind_eq_ok_iff.mp hrest
  obtain ⟨body, hbody, hrest⟩ := bind_eq_ok_iff.mp hrest
  obtain ⟨⟨fields, message⟩, hfields, hrest⟩ := bind_eq_ok_iff.mp hrest
  obtain rfl := Except.ok.inj hrest
  have hcollected : request.body = some body := by
    unfold collectBody at hbody
    cases hread : request.body with
    | none => simp [hread] at hbody
    | some bytes => simpa [hread] using hbody
  exact ⟨signatureHex, publicKeyHex, body, getHeader_of_requireHeader hsignatureHex,
    getHeader_of_requireHeader hpublicKeyHex, hkey, hsignature, hcollected, hfields⟩

/-- With a body, the auth fields are what the body says and the signed bytes are the body. -/
theorem authFields_of_body {headers : List (String × List UInt8)} {body message : List UInt8}
    {fields : BodyAuthFields} (hbody : body ≠ [])
    (hfields : authFields libs headers body = .ok (fields, message)) :
    message = body ∧ ∃ json, libs.jsonFromSlice body = .ok json ∧
      BodyAuthFields.fromJson json = .ok fields := by
  unfold authFields at hfields
  rw [if_pos hbody] at hfields
  obtain ⟨bodyAuth, hparse, hrest⟩ := bind_eq_ok_iff.mp hfields
  obtain ⟨rfl, rfl⟩ : bodyAuth = fields ∧ body = message := by simpa using hrest
  refine ⟨rfl, ?_⟩
  unfold parseBodyAuth at hparse
  cases hread : libs.jsonFromSlice body >>= BodyAuthFields.fromJson with
  | error err => simp [hread] at hparse
  | ok parsed =>
    obtain rfl : parsed = bodyAuth := by simpa [hread] using hparse
    exact bind_eq_ok_iff.mp hread

/-- Without a body, the auth fields are in the headers and the signed bytes are their canonical
form. -/
theorem authFields_of_nil {headers : List (String × List UInt8)} {message : List UInt8}
    {fields : BodyAuthFields} (hfields : authFields libs headers [] = .ok (fields, message)) :
    message = utf8 (canonicalRequest fields.timestamp fields.senderAddress fields.groupId) := by
  unfold authFields at hfields
  rw [if_neg (not_not_intro rfl)] at hfields
  obtain ⟨senderAddress, -, hrest⟩ := bind_eq_ok_iff.mp hfields
  obtain ⟨timestampStr, -, hrest⟩ := bind_eq_ok_iff.mp hrest
  obtain ⟨groupId, -, hrest⟩ := bind_eq_ok_iff.mp hrest
  obtain ⟨timestamp, -, hrest⟩ := bind_eq_ok_iff.mp hrest
  obtain ⟨rfl, rfl⟩ : (⟨groupId, senderAddress, timestamp⟩ : BodyAuthFields) = fields ∧
      utf8 (canonicalRequest timestamp senderAddress groupId) = message := by simpa using hrest
  rfl

end Acceptance

end MessagingRelayer
