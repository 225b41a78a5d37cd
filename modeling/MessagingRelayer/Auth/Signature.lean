import MessagingRelayer.Auth.Scheme
import MessagingRelayer.Externals

/-!
# Timestamps, signatures and addresses

`validate_timestamp`, `verify_signature`, `derive_sui_address` and `verify_address_matches_pubkey`.
Timestamps are 64-bit integers: the difference and its absolute value wrap. What an accepted call
says is in `verifySignature_eq_ok_iff` and `verifyAddressMatchesPubkey_eq_ok_iff`.
-/

set_option autoImplicit false
set_option relaxedAutoImplicit false

namespace MessagingRelayer

open Foundation

/-! ### Timestamps -/

/-- The difference of two `i64`s. -/
def wrappingSub (first second : Int) : Int :=
  (first - second).bmod (2 ^ 64)

/-- The absolute value of an `i64`. -/
def wrappingAbs (value : Int) : Int :=
  if value < 0 then (-value).bmod (2 ^ 64) else value

/-- Whether a timestamp is within the window around the server's clock. -/
def validateTimestamp (now timestamp ttlSeconds : Int) : Except AuthError Unit :=
  let diff := wrappingAbs (wrappingSub now timestamp)
  if diff > ttlSeconds then
    .error (.requestExpired timestamp now ttlSeconds)
  else
    .ok ()

/-! ### Signatures -/

section Signatures

variable (libs : Externals)

/-- The error for a public key of the wrong length. -/
def wrongKeyLength (scheme : SignatureScheme) (publicKeyBytes : List UInt8) : AuthError :=
  .invalidPublicKeyFormat
    s!"Expected {scheme.publicKeyLength} bytes for {scheme.toString}, got {publicKeyBytes.length}"

/-- The Sui serialization of a signature: flag, signature, public key. -/
def serializedSignature (scheme : SignatureScheme) (signatureBytes publicKeyBytes : List UInt8) :
    List UInt8 :=
  scheme.flag :: (signatureBytes ++ publicKeyBytes)

/-- Verifies a signature against a message. -/
def verifySignature (message signatureBytes publicKeyBytes : List UInt8)
    (scheme : SignatureScheme) : Except AuthError Unit :=
  if signatureBytes.length ≠ 64 then
    .error (.invalidSignatureFormat s!"Expected 64 bytes, got {signatureBytes.length}")
  else if publicKeyBytes.length ≠ scheme.publicKeyLength then
    .error (wrongKeyLength scheme publicKeyBytes)
  else
    let serializedSig := serializedSignature scheme signatureBytes publicKeyBytes
    match libs.userSignatureFromBytes serializedSig with
    | .error detail =>
      .error (.invalidSignatureFormat s!"Failed to parse signature: {detail}")
    | .ok () =>
      match libs.verifyPersonalMessage message serializedSig with
      | .error detail => .error (.signatureVerificationFailed detail)
      | .ok () => .ok ()

variable {libs} {message signatureBytes publicKeyBytes : List UInt8} {scheme : SignatureScheme}

theorem verifySignature_eq_ok_iff :
    verifySignature libs message signatureBytes publicKeyBytes scheme = .ok () ↔
      signatureBytes.length = 64 ∧ publicKeyBytes.length = scheme.publicKeyLength ∧
        libs.userSignatureFromBytes
          (serializedSignature scheme signatureBytes publicKeyBytes) = .ok () ∧
        libs.verifyPersonalMessage message
          (serializedSignature scheme signatureBytes publicKeyBytes) = .ok () := by
  unfold verifySignature
  by_cases hlength : signatureBytes.length = 64
  · by_cases hkey : publicKeyBytes.length = scheme.publicKeyLength
    · simp only [hlength, hkey, ne_eq, not_true_eq_false, if_false, true_and]
      cases hparse : libs.userSignatureFromBytes
        (serializedSignature scheme signatureBytes publicKeyBytes) with
      | error detail => simp
      | ok parsed =>
        cases hverify : libs.verifyPersonalMessage message
          (serializedSignature scheme signatureBytes publicKeyBytes) with
        | error detail => simp
        | ok verified => simp
    · simp [hlength, hkey]
  · simp [hlength]

end Signatures

/-! ### Addresses -/

section Addresses

variable (libs : Externals)

/-- The Sui address of a public key: the hash of flag and key, in hexadecimal. -/
def deriveSuiAddress (publicKeyBytes : List UInt8) (scheme : SignatureScheme) :
    Except AuthError String :=
  if publicKeyBytes.length ≠ scheme.publicKeyLength then
    .error (wrongKeyLength scheme publicKeyBytes)
  else
    let hash := libs.blake2b256 (scheme.flag :: publicKeyBytes)
    .ok ("0x" ++ Hex.encode hash.val)

/-- Verifies that the claimed address matches the public key. -/
def verifyAddressMatchesPubkey (claimedAddress : String) (publicKeyBytes : List UInt8)
    (scheme : SignatureScheme) : Except AuthError String :=
  match deriveSuiAddress libs publicKeyBytes scheme with
  | .error err => .error err
  | .ok derivedAddress =>
    if claimedAddress ≠ derivedAddress then
      .error (.addressMismatch derivedAddress claimedAddress)
    else
      .ok derivedAddress

variable {libs} {claimedAddress derivedAddress : String} {publicKeyBytes : List UInt8}
  {scheme : SignatureScheme}

theorem deriveSuiAddress_eq_ok_iff :
    deriveSuiAddress libs publicKeyBytes scheme = .ok derivedAddress ↔
      publicKeyBytes.length = scheme.publicKeyLength ∧
        derivedAddress =
          "0x" ++ Hex.encode (libs.blake2b256 (scheme.flag :: publicKeyBytes)).val := by
  unfold deriveSuiAddress
  by_cases hkey : publicKeyBytes.length = scheme.publicKeyLength
  · simp [hkey, eq_comm]
  · simp [hkey]

theorem verifyAddressMatchesPubkey_eq_ok_iff :
    verifyAddressMatchesPubkey libs claimedAddress publicKeyBytes scheme = .ok derivedAddress ↔
      deriveSuiAddress libs publicKeyBytes scheme = .ok derivedAddress ∧
        claimedAddress = derivedAddress := by
  unfold verifyAddressMatchesPubkey
  cases hderive : deriveSuiAddress libs publicKeyBytes scheme with
  | error err => simp
  | ok address =>
    by_cases hclaimed : claimedAddress = address
    · subst hclaimed
      simp only [ne_eq, not_true_eq_false, if_false, Except.ok.injEq]
      exact ⟨fun heq ↦ ⟨heq, heq⟩, fun heq ↦ heq.1⟩
    · simp only [ne_eq, hclaimed, not_false_eq_true, if_true, reduceCtorEq, false_iff, not_and,
        Except.ok.injEq]
      rintro rfl
      exact hclaimed

/-- A derived address has no colon. -/
theorem colon_notMem_of_deriveSuiAddress
    (hderive : deriveSuiAddress libs publicKeyBytes scheme = .ok derivedAddress) :
    ':' ∉ derivedAddress.toList := by
  obtain ⟨-, rfl⟩ := deriveSuiAddress_eq_ok_iff.mp hderive
  rw [String.toList_append, List.mem_append]
  rintro (hhead | hdigits)
  · simp at hhead
  · exact Hex.colon_notMem_encode _ hdigits

end Addresses

end MessagingRelayer
