import MessagingRelayer.Foundation.Hex

/-!
# Signature schemes, permissions and the authentication types

The three Sui signature schemes with their flag bytes and key lengths, the four messaging
permissions of the Groups SDK, the authentication context the middleware hands to a handler, and the
errors an authentication can end in.
-/

set_option autoImplicit false
set_option relaxedAutoImplicit false

namespace MessagingRelayer

open Foundation

/-! ### Signature schemes -/

/-- Sui signature schemes. -/
inductive SignatureScheme
  | ed25519
  | secp256k1
  | secp256r1
deriving DecidableEq

namespace SignatureScheme

def fromFlag (flag : UInt8) : Option SignatureScheme :=
  if flag = 0x00 then some ed25519
  else if flag = 0x01 then some secp256k1
  else if flag = 0x02 then some secp256r1
  else none

def flag : SignatureScheme → UInt8
  | ed25519 => 0x00
  | secp256k1 => 0x01
  | secp256r1 => 0x02

def publicKeyLength : SignatureScheme → Nat
  | ed25519 => 32
  | secp256k1 => 33
  | secp256r1 => 33

def toString : SignatureScheme → String
  | ed25519 => "Ed25519"
  | secp256k1 => "Secp256k1"
  | secp256r1 => "Secp256r1"

@[simp] theorem fromFlag_flag (scheme : SignatureScheme) : fromFlag scheme.flag = some scheme := by
  cases scheme <;> rfl

end SignatureScheme

/-! ### Permissions -/

/-- Messaging-specific permissions from the Groups SDK: to send, to read, to edit and to delete. -/
inductive MessagingPermission
  | messagingSender
  | messagingReader
  | messagingEditor
  | messagingDeleter
deriving DecidableEq

namespace MessagingPermission

/-- The pieces of a text between its occurrences of `::`. -/
def segmentsFrom (current : List Char) : List Char → List (List Char)
  | ':' :: ':' :: rest => current.reverse :: segmentsFrom [] rest
  | symbol :: rest => segmentsFrom (symbol :: current) rest
  | [] => [current.reverse]

/-- The permission named by the last segment of a type name. -/
def fromTypeName (typeName : String) : Option MessagingPermission := do
  let name ← (segmentsFrom [] typeName.toList).getLast?
  if name = "MessagingSender".toList then some messagingSender
  else if name = "MessagingReader".toList then some messagingReader
  else if name = "MessagingEditor".toList then some messagingEditor
  else if name = "MessagingDeleter".toList then some messagingDeleter
  else none

end MessagingPermission

/-! ### The authentication context and errors -/

/-- Validated authentication context passed to handlers: the sender address derived from the
verified public key, the key without its flag byte, its scheme, and the group the sender is
authorized for. -/
structure AuthContext where
  senderAddress : String
  publicKey : List UInt8
  scheme : SignatureScheme
  authorizedGroup : Option String
deriving DecidableEq

/-- The public key with its flag byte in front, as the handlers store it. -/
def AuthContext.publicKeyWithFlag (auth : AuthContext) : List UInt8 :=
  auth.scheme.flag :: auth.publicKey

/-- Errors of an authentication. -/
inductive AuthError
  | missingSignature
  | missingPublicKey
  | missingTimestamp
  | invalidTimestamp (detail : String)
  | requestExpired (timestamp serverTime ttlSeconds : Int)
  | invalidSignatureFormat (detail : String)
  | invalidPublicKeyFormat (detail : String)
  | signatureVerificationFailed (detail : String)
  | addressMismatch (expected got : String)
  | notGroupMember (address groupId : String)
deriving DecidableEq

/-- The text of an error. -/
def AuthError.toString : AuthError → String
  | missingSignature => "Missing X-Signature header"
  | missingPublicKey => "Missing X-Public-Key header"
  | missingTimestamp => "Missing timestamp"
  | invalidTimestamp detail => s!"Invalid timestamp: {detail}"
  | requestExpired timestamp serverTime ttlSeconds =>
    s!"Request expired: timestamp {timestamp} is more than {ttlSeconds}s from server time {serverTime}"
  | invalidSignatureFormat detail => s!"Invalid signature format: {detail}"
  | invalidPublicKeyFormat detail => s!"Invalid public key format: {detail}"
  | signatureVerificationFailed detail => s!"Signature verification failed: {detail}"
  | addressMismatch expected got => s!"Address mismatch: expected {expected}, got {got}"
  | notGroupMember address groupId => s!"Address {address} is not a member of group {groupId}"

end MessagingRelayer
