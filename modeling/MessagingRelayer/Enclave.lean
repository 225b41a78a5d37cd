import MessagingRelayer.Foundation.Numerals
import MessagingRelayer.Models.Message

/-!
# Signed responses

`to_signed_response` wraps a payload in an intent message, encodes it in BCS and signs the bytes
with the keypair of the enclave. The bytes determine the intent, the time and the bytes of the
payload (`IntentMessage.toBytes_inj`), and nothing in them says of which type the payload is.
-/

set_option autoImplicit false
set_option relaxedAutoImplicit false

namespace MessagingRelayer

open Foundation

/-- What a signed message is for. -/
inductive IntentScope
  | generic
  | signName
  | messageDelivery
deriving DecidableEq

/-- The BCS byte of a scope. -/
def IntentScope.toByte : IntentScope → UInt8
  | generic => 0
  | signName => 1
  | messageDelivery => 2

/-- A payload with its scope and the time it was signed. -/
structure IntentMessage (Data : Type) where
  intent : IntentScope
  timestampMs : Nat
  data : Data
deriving DecidableEq

/-- An intent message with its signature and the key it verifies under. -/
structure ProcessedDataResponse (Data : Type) where
  response : Data
  signature : String
  enclavePublicKey : String
deriving DecidableEq

/-- The keypair of the enclave: its signing function and its public key. -/
structure EnclaveKeyPair where
  sign : List UInt8 → List UInt8
  publicKeyBytes : List UInt8

/-- A 64-bit integer, least significant byte first. -/
def littleEndian64 (value : Nat) : List UInt8 :=
  (List.range 8).map fun index ↦ UInt8.ofNat (value / 256 ^ index % 256)

/-- The BCS bytes of an intent message. -/
def IntentMessage.toBytes {Data : Type} (serialize : Data → List UInt8)
    (message : IntentMessage Data) : List UInt8 :=
  message.intent.toByte :: (littleEndian64 message.timestampMs ++ serialize message.data)

/-- BCS-encodes the intent message and signs it with the enclave keypair. -/
def toSignedResponse {Data : Type} (serialize : Data → List UInt8) (keyPair : EnclaveKeyPair)
    (payload : Data) (timestampMs : Nat) (intent : IntentScope) :
    ProcessedDataResponse (IntentMessage Data) :=
  let intentMessage : IntentMessage Data := ⟨intent, timestampMs, payload⟩
  let signingPayload := intentMessage.toBytes serialize
  { response := intentMessage
    signature := Hex.encode (keyPair.sign signingPayload)
    enclavePublicKey := Hex.encode keyPair.publicKeyBytes }

/-- The milliseconds of a clock reading, as a `u64`. -/
def DateTime.timestampMillis (time : DateTime) : Nat :=
  (time / 1000000 % 2 ^ 64).toNat

/-! ### What the signed bytes determine -/

theorem timestampMillis_lt (time : DateTime) : DateTime.timestampMillis time < 2 ^ 64 := by
  unfold DateTime.timestampMillis
  have hlow := Int.emod_nonneg (time / 1000000) (by decide : (2 ^ 64 : ℤ) ≠ 0)
  have hhigh := Int.emod_lt_of_pos (time / 1000000) (by decide : (0 : ℤ) < 2 ^ 64)
  omega

theorem length_littleEndian64 (value : Nat) : (littleEndian64 value).length = 8 := by
  unfold littleEndian64
  rw [List.length_map, List.length_range]

/-- Assumes: 64-bit integers. -/
theorem littleEndian64_inj {first second : Nat} (hfirst : first < 2 ^ 64)
    (hsecond : second < 2 ^ 64) (heq : littleEndian64 first = littleEndian64 second) :
    first = second := by
  have hbytes (value : Nat) : littleEndian64 value =
      (List.range 8).map fun index ↦ UInt8.ofNat (value / 256 ^ index) := by
    unfold littleEndian64
    refine List.map_congr_left fun index _ ↦ UInt8.toNat_inj.mp ?_
    rw [UInt8.toNat_ofNat', UInt8.toNat_ofNat', Nat.mod_mod]
  rw [hbytes, hbytes] at heq
  exact bytes_inj hfirst hsecond heq

theorem IntentScope.toByte_inj {first second : IntentScope}
    (heq : first.toByte = second.toByte) : first = second := by
  cases first <;> cases second <;> first | rfl | exact absurd heq (by decide)

/-- Assumes: times of 64 bits. The bytes of intent messages, of payloads of any two types, are equal
only when the intents, the times and the bytes of the payloads are. -/
theorem IntentMessage.toBytes_inj {Data Other : Type} {serialize : Data → List UInt8}
    {serializeOther : Other → List UInt8} {first : IntentMessage Data}
    {second : IntentMessage Other} (hfirst : first.timestampMs < 2 ^ 64)
    (hsecond : second.timestampMs < 2 ^ 64)
    (heq : first.toBytes serialize = second.toBytes serializeOther) :
    first.intent = second.intent ∧ first.timestampMs = second.timestampMs ∧
      serialize first.data = serializeOther second.data := by
  unfold toBytes at heq
  obtain ⟨hintent, hrest⟩ := List.cons.inj heq
  obtain ⟨htime, hdata⟩ := List.append_inj hrest (by rw [length_littleEndian64,
    length_littleEndian64])
  exact ⟨IntentScope.toByte_inj hintent, littleEndian64_inj hfirst hsecond htime, hdata⟩

end MessagingRelayer
