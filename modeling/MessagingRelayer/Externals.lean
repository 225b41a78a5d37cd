import MessagingRelayer.Foundation.Json
import MessagingRelayer.Foundation.Text

/-!
# The libraries the relayer calls

What the relayer takes from other libraries, as one structure of functions that the model is
parametric in: signature parsing and verification, the hash, and the decoders of JSON, UUIDs, query
strings, media types and BCS. A decoder that fails gives the text of its error. The errors of a
derived deserializer are shown with a line, a column and a path, which depend on the text it reads,
so their texts are functions of that text.
-/

set_option autoImplicit false
set_option relaxedAutoImplicit false

namespace MessagingRelayer

open Foundation

/-- The third-party functions. -/
structure Externals where
  /-- `UserSignature::from_bytes`: whether `flag || signature || public_key` is a signature. -/
  userSignatureFromBytes : List UInt8 → Except String Unit
  /-- `verify_personal_message` of a message and a serialized signature. -/
  verifyPersonalMessage : List UInt8 → List UInt8 → Except String Unit
  /-- Blake2b with a digest of 32 bytes. -/
  blake2b256 : List UInt8 → FixedBytes 32
  /-- The JSON value `serde_json::from_slice` reads. One reading serves the middleware and the
  handler behind it. A derived deserializer skips the members that it does not know without decoding
  their strings, so a text that is refused here for a string the middleware does not look at is
  refused by the program only when the handler reads it; what is accepted here both accept. -/
  jsonFromSlice : List UInt8 → Except String Json
  /-- The text of an error of `serde_json::from_slice` at a type: the type, what is read, and the
  reason. -/
  jsonErrorText : String → List UInt8 → String → String
  /-- The text with the path to the value in front, as the `Json` extractor shows it. -/
  jsonPathErrorText : String → List UInt8 → String → String
  /-- Whether a `Content-Type` names a JSON media type. -/
  isJsonContentType : List UInt8 → Bool
  /-- The pairs of a query string. -/
  formUrlDecode : String → List (String × String)
  /-- `Uuid::parse_str`. -/
  uuidParseStr : String → Except String (FixedBytes 16)
  /-- `bcs::from_bytes` at `MemberEventBcs`: group and member. -/
  memberEventFromBcs : List UInt8 → Option (FixedBytes 32 × FixedBytes 32)
  /-- `bcs::from_bytes` at `PermissionsEventBcs`: group, member and the permissions' type names. -/
  permissionsEventFromBcs : List UInt8 → Option (FixedBytes 32 × FixedBytes 32 × List String)

/-- The text of a JSON object or array starts with white space or with its opening bracket. -/
def Externals.LawfulJson (libs : Externals) : Prop :=
  ∀ text json, libs.jsonFromSlice text = .ok json →
    ((∃ members, json = .obj members) ∨ ∃ items, json = .arr items) →
      ∃ first ∈ ([0x20, 0x09, 0x0a, 0x0d, 0x7b, 0x5b] : List UInt8), text.head? = some first

/-- The libraries as far as tables say what they do: the messages each serialized signature is good
for, some hashes, and what some inputs of the decoders stand for. Whatever is not in a table is
refused, and its hash is zero. -/
def Externals.ofTables (signed : List (List UInt8 × List UInt8))
    (hashes : List (List UInt8 × FixedBytes 32)) (documents : List (List UInt8 × Json))
    (queries : List (String × List (String × String))) (uuids : List (String × FixedBytes 16))
    (memberEvents : List (List UInt8 × FixedBytes 32 × FixedBytes 32))
    (permissionsEvents : List (List UInt8 × FixedBytes 32 × FixedBytes 32 × List String)) :
    Externals where
  userSignatureFromBytes serialized :=
    if signed.any (·.2 == serialized) then .ok () else .error "invalid signature"
  verifyPersonalMessage message serialized :=
    if signed.contains (message, serialized) then .ok () else .error "signature error"
  blake2b256 input := (hashes.lookup input).getD (FixedBytes.fill 32 0)
  jsonFromSlice text :=
    match documents.lookup text with
    | some json => .ok json
    | none => .error "expected value"
  jsonErrorText _ _ reason := reason
  jsonPathErrorText _ _ reason := reason
  isJsonContentType value := value == utf8 "application/json"
  formUrlDecode query := (queries.lookup query).getD []
  uuidParseStr text :=
    match uuids.lookup text with
    | some id => .ok id
    | none => .error "invalid UUID"
  memberEventFromBcs bytes := memberEvents.lookup bytes
  permissionsEventFromBcs bytes := permissionsEvents.lookup bytes

section Tables

variable {signed : List (List UInt8 × List UInt8)} {hashes : List (List UInt8 × FixedBytes 32)}
  {documents : List (List UInt8 × Json)} {queries : List (String × List (String × String))}
  {uuids : List (String × FixedBytes 16)}
  {memberEvents : List (List UInt8 × FixedBytes 32 × FixedBytes 32)}
  {permissionsEvents : List (List UInt8 × FixedBytes 32 × FixedBytes 32 × List String)}

theorem userSignatureFromBytes_ofTables {message serialized : List UInt8}
    (hmem : (message, serialized) ∈ signed) :
    (Externals.ofTables signed hashes documents queries uuids memberEvents
      permissionsEvents).userSignatureFromBytes serialized = .ok () :=
  if_pos (List.any_eq_true.mpr ⟨_, hmem, beq_self_eq_true serialized⟩)

theorem verifyPersonalMessage_ofTables {message serialized : List UInt8} :
    (Externals.ofTables signed hashes documents queries uuids memberEvents
      permissionsEvents).verifyPersonalMessage message serialized = .ok () ↔
      (message, serialized) ∈ signed := by
  simp only [Externals.ofTables]
  split_ifs with hmem
  · exact ⟨fun _ ↦ List.contains_iff_mem.mp hmem, fun _ ↦ rfl⟩
  · exact ⟨fun hok ↦ by simp at hok, fun hfound ↦ absurd (List.contains_iff_mem.mpr hfound) hmem⟩

theorem blake2b256_ofTables {input : List UInt8} {hash : FixedBytes 32}
    (hlookup : hashes.lookup input = some hash) :
    (Externals.ofTables signed hashes documents queries uuids memberEvents
      permissionsEvents).blake2b256 input = hash :=
  congrArg (·.getD (FixedBytes.fill 32 0)) hlookup

theorem jsonFromSlice_ofTables {text : List UInt8} {json : Json}
    (hlookup : documents.lookup text = some json) :
    (Externals.ofTables signed hashes documents queries uuids memberEvents
      permissionsEvents).jsonFromSlice text = .ok json := by
  simp only [Externals.ofTables, hlookup]

theorem formUrlDecode_ofTables {query : String} {pairs : List (String × String)}
    (hlookup : queries.lookup query = some pairs) :
    (Externals.ofTables signed hashes documents queries uuids memberEvents
      permissionsEvents).formUrlDecode query = pairs :=
  congrArg (·.getD []) hlookup

theorem uuidParseStr_ofTables {text : String} {id : FixedBytes 16}
    (hlookup : uuids.lookup text = some id) :
    (Externals.ofTables signed hashes documents queries uuids memberEvents
      permissionsEvents).uuidParseStr text = .ok id := by
  simp only [Externals.ofTables, hlookup]

theorem memberEventFromBcs_ofTables {bytes : List UInt8} :
    (Externals.ofTables signed hashes documents queries uuids memberEvents
      permissionsEvents).memberEventFromBcs bytes = memberEvents.lookup bytes :=
  rfl

theorem permissionsEventFromBcs_ofTables {bytes : List UInt8} :
    (Externals.ofTables signed hashes documents queries uuids memberEvents
      permissionsEvents).permissionsEventFromBcs bytes = permissionsEvents.lookup bytes :=
  rfl

/-- Assumes: every document starts with an opening brace. -/
theorem lawfulJson_ofTables (hdocuments : ∀ entry ∈ documents, entry.1.head? = some 0x7b) :
    (Externals.ofTables signed hashes documents queries uuids memberEvents
      permissionsEvents).LawfulJson := by
  intro text json hread _
  simp only [Externals.ofTables] at hread
  cases hlookup : documents.lookup text with
  | none => simp [hlookup] at hread
  | some found =>
    obtain ⟨earlier, later, hdocument, -⟩ := List.lookup_eq_some_iff.mp hlookup
    exact ⟨0x7b, by simp, hdocuments (text, found) (hdocument ▸ by simp)⟩

end Tables

end MessagingRelayer
