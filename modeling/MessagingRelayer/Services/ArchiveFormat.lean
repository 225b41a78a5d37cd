import MessagingRelayer.Foundation.Encoding
import MessagingRelayer.Handlers.Acceptance
import MessagingRelayer.Http.Numbers
import MessagingRelayer.Services.WalrusSync

/-!
# The format of the archive

A patch is the JSON text of a message, by the derived serializer, and comes with tags for the index
of the quilt. The derived deserializer reads the message back (`Message.fromJson_toJson`), where the
library for times reads back the two times it wrote and the library for UUIDs the identifier. The
tags of a patch agree with the message in it (`describes_of_mem_patches`).
-/

set_option autoImplicit false
set_option relaxedAutoImplicit false

namespace MessagingRelayer

open Foundation

/-- The texts of times: how a `DateTime<Utc>` is serialized, and how it is parsed. -/
structure TimeFormat where
  write : DateTime → String
  read : String → Except String DateTime

/-! ### The derived serializers -/

/-- The derived serializer. -/
def Attachment.toJson (attachment : Attachment) : Json :=
  .obj [("storage_id", .str attachment.storageId),
    ("nonce", Json.ofBytes attachment.nonce),
    ("encrypted_metadata", Json.ofBytes attachment.encryptedMetadata),
    ("metadata_nonce", Json.ofBytes attachment.metadataNonce)]

/-- The derived deserializer. -/
def Attachment.fromJson (json : Json) : Except String Attachment := do
  let fields ← json.structFields ["storage_id", "nonce", "encrypted_metadata", "metadata_nonce"]
  let storageId ← Json.required fields "storage_id" Json.asString
  let nonce ← Json.required fields "nonce" Json.asBytes
  let encryptedMetadata ← Json.required fields "encrypted_metadata" Json.asBytes
  let metadataNonce ← Json.required fields "metadata_nonce" Json.asBytes
  .ok ⟨storageId, nonce, encryptedMetadata, metadataNonce⟩

/-- The variants of a status under their serialized names. -/
def SyncStatus.variants : List (String × SyncStatus) :=
  [("SYNC_PENDING", .syncPending), ("SYNCED", .synced), ("UPDATE_PENDING", .updatePending),
    ("UPDATED", .updated), ("DELETE_PENDING", .deletePending), ("DELETED", .deleted)]

/-- The derived serializer; the names of the variants are the texts of the statuses. -/
def SyncStatus.toJson (status : SyncStatus) : Json :=
  .str status.toString

/-- The derived deserializer. -/
def SyncStatus.fromJson : Json → Except String SyncStatus :=
  Json.asVariant variants

namespace Message

def fieldNames : List String :=
  ["id", "group_id", "order", "sender_wallet_addr", "encrypted_msg", "nonce", "key_version",
    "created_at", "updated_at", "sync_status", "quilt_patch_id", "attachments", "signature",
    "public_key"]

/-- The derived serializer. -/
def toJson (times : TimeFormat) (message : Message) : Json :=
  .obj [("id", .str (Uuid.toString message.id)),
    ("group_id", .str message.groupId),
    ("order", Json.ofOption .int message.order),
    ("sender_wallet_addr", .str message.senderWalletAddr),
    ("encrypted_msg", Json.ofBytes message.encryptedMsg),
    ("nonce", Json.ofBytes message.nonce),
    ("key_version", .int message.keyVersion),
    ("created_at", .str (times.write message.createdAt)),
    ("updated_at", .str (times.write message.updatedAt)),
    ("sync_status", message.syncStatus.toJson),
    ("quilt_patch_id", Json.ofOption .str message.quiltPatchId),
    ("attachments", .arr (message.attachments.map Attachment.toJson)),
    ("signature", Json.ofBytes message.signature),
    ("public_key", Json.ofBytes message.publicKey)]

/-- A time in a string. -/
def timeFromJson (times : TimeFormat) (json : Json) : Except String DateTime := do
  let text ← Json.asString json
  times.read text

/-- The derived deserializer. -/
def fromJson (libs : Externals) (times : TimeFormat) (json : Json) : Except String Message := do
  let fields ← json.structFields fieldNames
  let id ← Json.required fields "id" (uuidFromJson libs)
  let groupId ← Json.required fields "group_id" Json.asString
  let order ← Json.defaulted fields "order" (Json.asOption Json.asI64) none
  let senderWalletAddr ← Json.required fields "sender_wallet_addr" Json.asString
  let encryptedMsg ← Json.required fields "encrypted_msg" Json.asBytes
  let nonce ← Json.required fields "nonce" Json.asBytes
  let keyVersion ← Json.required fields "key_version" Json.asI64
  let createdAt ← Json.required fields "created_at" (timeFromJson times)
  let updatedAt ← Json.required fields "updated_at" (timeFromJson times)
  let syncStatus ← Json.required fields "sync_status" SyncStatus.fromJson
  let quiltPatchId ← Json.defaulted fields "quilt_patch_id" (Json.asOption Json.asString) none
  let attachments ← Json.required fields "attachments" (Json.asVec Attachment.fromJson)
  let signature ← Json.required fields "signature" Json.asBytes
  let publicKey ← Json.required fields "public_key" Json.asBytes
  .ok {
    id := id
    groupId := groupId
    order := order
    senderWalletAddr := senderWalletAddr
    encryptedMsg := encryptedMsg
    nonce := nonce
    keyVersion := keyVersion
    createdAt := createdAt
    updatedAt := updatedAt
    syncStatus := syncStatus
    quiltPatchId := quiltPatchId
    attachments := attachments
    signature := signature
    publicKey := publicKey }

end Message

/-! ### Reading back -/

theorem Attachment.fromJson_toJson (attachment : Attachment) :
    fromJson attachment.toJson = .ok attachment := by
  refine bind_eq_ok_iff.mpr ⟨_, rfl, ?_⟩
  refine bind_eq_ok_iff.mpr ⟨attachment.storageId, rfl, ?_⟩
  refine bind_eq_ok_iff.mpr ⟨attachment.nonce, Json.asBytes_ofBytes _, ?_⟩
  refine bind_eq_ok_iff.mpr ⟨attachment.encryptedMetadata, Json.asBytes_ofBytes _, ?_⟩
  exact bind_eq_ok_iff.mpr ⟨attachment.metadataNonce, Json.asBytes_ofBytes _, rfl⟩

theorem SyncStatus.fromJson_toJson (status : SyncStatus) : fromJson status.toJson = .ok status := by
  have hmem : (status.toString, status) ∈ variants := by
    cases status <;> decide
  exact Json.asVariant_ofVariant (by decide) hmem

/-- The texts in the serialized message that other libraries write are read back. -/
structure Message.TextsRead (libs : Externals) (times : TimeFormat) (message : Message) :
    Prop where
  id : libs.uuidParseStr (Uuid.toString message.id) = .ok message.id
  createdAt : times.read (times.write message.createdAt) = .ok message.createdAt
  updatedAt : times.read (times.write message.updatedAt) = .ok message.updatedAt

/-- Assumes: integers in the range of an `i64`. A serialized message is read back. -/
theorem Message.fromJson_toJson {libs : Externals} {times : TimeFormat} {message : Message}
    (htexts : message.TextsRead libs times)
    (hversion : -2 ^ 63 ≤ message.keyVersion ∧ message.keyVersion < 2 ^ 63)
    (horder : ∀ order ∈ message.order, -2 ^ 63 ≤ order ∧ order < 2 ^ 63) :
    fromJson libs times (message.toJson times) = .ok message := by
  have hnumber : Json.asOption Json.asI64 (Json.ofOption .int message.order) =
      .ok message.order :=
    Json.asOption_ofOption (fun _ _ hnull ↦ by simp at hnull)
      fun order hmem ↦ asI64_int (horder order hmem)
  have hpatch : Json.asOption Json.asString (Json.ofOption .str message.quiltPatchId) =
      .ok message.quiltPatchId :=
    Json.asOption_ofOption (fun _ _ hnull ↦ by simp at hnull) fun _ _ ↦ rfl
  have hattachments : Json.asVec Attachment.fromJson
      (.arr (message.attachments.map Attachment.toJson)) = .ok message.attachments :=
    Json.asVec_map fun attachment _ ↦ attachment.fromJson_toJson
  refine bind_eq_ok_iff.mpr ⟨_, rfl, ?_⟩
  refine bind_eq_ok_iff.mpr ⟨message.id, htexts.id, ?_⟩
  refine bind_eq_ok_iff.mpr ⟨message.groupId, rfl, ?_⟩
  refine bind_eq_ok_iff.mpr ⟨message.order, hnumber, ?_⟩
  refine bind_eq_ok_iff.mpr ⟨message.senderWalletAddr, rfl, ?_⟩
  refine bind_eq_ok_iff.mpr ⟨message.encryptedMsg, Json.asBytes_ofBytes _, ?_⟩
  refine bind_eq_ok_iff.mpr ⟨message.nonce, Json.asBytes_ofBytes _, ?_⟩
  refine bind_eq_ok_iff.mpr ⟨message.keyVersion, asI64_int hversion, ?_⟩
  refine bind_eq_ok_iff.mpr ⟨message.createdAt, htexts.createdAt, ?_⟩
  refine bind_eq_ok_iff.mpr ⟨message.updatedAt, htexts.updatedAt, ?_⟩
  refine bind_eq_ok_iff.mpr ⟨message.syncStatus, message.syncStatus.fromJson_toJson, ?_⟩
  refine bind_eq_ok_iff.mpr ⟨message.quiltPatchId, hpatch, ?_⟩
  refine bind_eq_ok_iff.mpr ⟨message.attachments, hattachments, ?_⟩
  refine bind_eq_ok_iff.mpr ⟨message.signature, Json.asBytes_ofBytes _, ?_⟩
  exact bind_eq_ok_iff.mpr ⟨message.publicKey, Json.asBytes_ofBytes _, rfl⟩

/-! ### Tags -/

/-- What an indexer reads from the tags of a patch is what the message in the patch says. -/
structure QuiltPatchMetadata.Describes (metadata : QuiltPatchMetadata) (patch : Patch) : Prop where
  identifier : metadata.identifier = patch.identifier
  source : metadata.tags.lookup "source" = some sourceTag
  groupId : metadata.tags.lookup "group_id" = some patch.message.groupId
  sender : metadata.tags.lookup "sender" = some patch.message.senderWalletAddr
  syncStatus : metadata.tags.lookup "sync_status" = some patch.message.syncStatus.toString
  order : metadata.tags.lookup "order" = some ((patch.message.order.map toString).getD "")

/-- A patch of a pass is uploaded with metadata that describes it. -/
theorem describes_of_mem_patches {pass : Pass} {messages : List Message} {patch : Patch}
    (hmem : patch ∈ pass.patches messages) : ∃ metadata,
      (metadata, patch) ∈ (pass.metadata messages).zip (pass.patches messages) ∧
        metadata.Describes patch := by
  obtain ⟨msg, hmsg, rfl⟩ := List.mem_map.mp hmem
  unfold Pass.metadata Pass.patches
  rw [List.zip_map']
  refine ⟨_, List.mem_map.mpr ⟨msg, hmsg, rfl⟩, ?_⟩
  constructor <;> simp

end MessagingRelayer
