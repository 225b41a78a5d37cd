import MessagingRelayer.Foundation.Hex
import MessagingRelayer.Foundation.Text

/-!
# Messages

The record the relayer stores for a message, its synchronization status with Walrus, and the
in-place changes `set_order`, `mark_for_deletion` and `update_content`. The six fields an edit
replaces together are the structure `MessageContent`; `Message.content` reads them, and the other
changes leave them alone (`content_setOrder`, `content_markForDeletion`, `content_withSyncStatus`).

A clock reading is an integer number of nanoseconds.
-/

set_option autoImplicit false
set_option relaxedAutoImplicit false

namespace MessagingRelayer

open Foundation

/-- A `DateTime<Utc>`, in nanoseconds since the Unix epoch. -/
abbrev DateTime := Int

/-- The Unix timestamp of a clock reading, in whole seconds. -/
def DateTime.timestamp (time : DateTime) : Int :=
  time / 1000000000

/-- A UUID, as its sixteen bytes. -/
abbrev Uuid := FixedBytes 16

/-- A UUID in the hyphenated lower-case form. -/
def Uuid.toString (id : Uuid) : String :=
  Hex.encode (id.val.take 4) ++ "-" ++ Hex.encode ((id.val.drop 4).take 2) ++ "-" ++
    Hex.encode ((id.val.drop 6).take 2) ++ "-" ++ Hex.encode ((id.val.drop 8).take 2) ++ "-" ++
      Hex.encode (id.val.drop 10)

/-- The text of a UUID without its hyphens is the encoding of its bytes. -/
theorem Uuid.filter_toString (id : Uuid) :
    (Uuid.toString id).toList.filter (· ≠ '-') = (Hex.encode id.val).toList := by
  have hdigits : ∀ bytes,
      (Hex.encode bytes).toList.filter (· ≠ '-') = (Hex.encode bytes).toList := by
    intro bytes
    refine List.filter_eq_self.mpr fun symbol hmem ↦ decide_eq_true ?_
    obtain ⟨value, hvalue, rfl⟩ := Hex.exists_digitChar_of_mem_encode hmem
    clear hmem
    revert value
    decide
  have hjoin : ∀ start count, (id.val.drop start).take count ++ id.val.drop (start + count) =
      id.val.drop start := by
    intro start count
    rw [← List.drop_drop, List.take_append_drop]
  have hparts : id.val.take 4 ++ ((id.val.drop 4).take 2 ++ ((id.val.drop 6).take 2 ++
      ((id.val.drop 8).take 2 ++ id.val.drop 10))) = id.val := by
    rw [hjoin 8 2, hjoin 6 2, hjoin 4 2, List.take_append_drop]
  unfold Uuid.toString
  simp only [String.toList_append, List.filter_append, hdigits]
  simp only [Hex.toList_encode]
  conv_rhs => rw [← hparts]
  simp

theorem Uuid.toString_injective : Function.Injective Uuid.toString := by
  intro first second heq
  have htexts : (Hex.encode first.val).toList = (Hex.encode second.val).toList := by
    rw [← Uuid.filter_toString, ← Uuid.filter_toString, heq]
  exact Subtype.ext (Hex.encode_injective (String.toList_inj.mp htexts))

theorem Uuid.length_toString (id : Uuid) : (Uuid.toString id).length = 36 := by
  unfold Uuid.toString
  simp only [String.length_append, Hex.length_encode, List.length_take, List.length_drop,
    id.property]
  rfl

/-- A message attachment as stored by the relayer; the data itself is never seen. -/
structure Attachment where
  storageId : String
  nonce : List UInt8
  encryptedMetadata : List UInt8
  metadataNonce : List UInt8
deriving DecidableEq

/-- The synchronization status of a message with Walrus storage. -/
inductive SyncStatus
  | syncPending
  | synced
  | updatePending
  | updated
  | deletePending
  | deleted
deriving DecidableEq

namespace SyncStatus

/-- The text of a status. -/
def toString : SyncStatus → String
  | syncPending => "SYNC_PENDING"
  | synced => "SYNCED"
  | updatePending => "UPDATE_PENDING"
  | updated => "UPDATED"
  | deletePending => "DELETE_PENDING"
  | deleted => "DELETED"

/-- The statuses of a message that was deleted by its sender. -/
def isDeleted : SyncStatus → Bool
  | deletePending => true
  | deleted => true
  | _ => false

/-- The statuses that say the archive holds the message. -/
def isArchived : SyncStatus → Bool
  | synced => true
  | updated => true
  | deleted => true
  | _ => false

end SyncStatus

/-- What a client sends and an edit replaces: the ciphertext with its nonce and key version, the
attachments, the sender's signature and the public key it verifies under. -/
structure MessageContent where
  encryptedMsg : List UInt8
  nonce : List UInt8
  keyVersion : Int
  attachments : List Attachment
  signature : List UInt8
  publicKey : List UInt8
deriving DecidableEq

/-- A message in the relayer storage. -/
structure Message where
  id : Uuid
  groupId : String
  order : Option Int
  senderWalletAddr : String
  encryptedMsg : List UInt8
  nonce : List UInt8
  keyVersion : Int
  createdAt : DateTime
  updatedAt : DateTime
  syncStatus : SyncStatus
  quiltPatchId : Option String
  attachments : List Attachment
  signature : List UInt8
  publicKey : List UInt8
deriving DecidableEq

namespace Message

/-- A new message, with the random identifier and the clock reading its construction draws. -/
def new (id : Uuid) (now : DateTime) (groupId senderWalletAddr : String)
    (content : MessageContent) : Message where
  id := id
  groupId := groupId
  order := none
  senderWalletAddr := senderWalletAddr
  encryptedMsg := content.encryptedMsg
  nonce := content.nonce
  keyVersion := content.keyVersion
  createdAt := now
  updatedAt := now
  syncStatus := .syncPending
  quiltPatchId := none
  attachments := content.attachments
  signature := content.signature
  publicKey := content.publicKey

/-- Sets the order the storage layer determined. -/
def setOrder (message : Message) (order : Int) : Message :=
  { message with order := some order }

/-- Marks the message for deletion, whatever its status was. -/
def markForDeletion (message : Message) (now : DateTime) : Message :=
  { message with syncStatus := .deletePending, updatedAt := now }

/-- Replaces the content and marks the message for re-archival, whatever its status was. -/
def updateContent (message : Message) (content : MessageContent) (now : DateTime) : Message :=
  { message with
    encryptedMsg := content.encryptedMsg
    nonce := content.nonce
    keyVersion := content.keyVersion
    attachments := content.attachments
    signature := content.signature
    publicKey := content.publicKey
    syncStatus := .updatePending
    updatedAt := now }

/-- Records the outcome of an archival; a patch identifier is only ever replaced, not removed. -/
def withSyncStatus (message : Message) (status : SyncStatus) (quiltPatchId : Option String)
    (now : DateTime) : Message :=
  { message with
    syncStatus := status
    updatedAt := now
    quiltPatchId := quiltPatchId.or message.quiltPatchId }

/-- The content of a message. -/
def content (message : Message) : MessageContent where
  encryptedMsg := message.encryptedMsg
  nonce := message.nonce
  keyVersion := message.keyVersion
  attachments := message.attachments
  signature := message.signature
  publicKey := message.publicKey

section Fields

variable (message : Message) (order : Int) (now : DateTime) (newContent : MessageContent)
  (status : SyncStatus) (patchId : Option String)

@[simp] theorem content_setOrder : (message.setOrder order).content = message.content :=
  rfl

@[simp] theorem content_markForDeletion :
    (message.markForDeletion now).content = message.content :=
  rfl

@[simp] theorem content_updateContent :
    (message.updateContent newContent now).content = newContent :=
  rfl

@[simp] theorem content_withSyncStatus :
    (message.withSyncStatus status patchId now).content = message.content :=
  rfl

@[simp] theorem content_new (id : Uuid) (groupId sender : String) :
    (Message.new id now groupId sender newContent).content = newContent :=
  rfl

@[simp] theorem nonce_content : message.content.nonce = message.nonce :=
  rfl

end Fields

/-- What never changes after a message is stored. -/
structure Identity where
  id : Uuid
  groupId : String
  order : Option Int
  senderWalletAddr : String
  createdAt : DateTime
deriving DecidableEq

/-- The fields that are set when a message is stored. -/
def identity (message : Message) : Identity where
  id := message.id
  groupId := message.groupId
  order := message.order
  senderWalletAddr := message.senderWalletAddr
  createdAt := message.createdAt

section Identity

variable (message : Message) (now : DateTime) (newContent : MessageContent)
  (status : SyncStatus) (patchId : Option String)

@[simp] theorem identity_markForDeletion :
    (message.markForDeletion now).identity = message.identity :=
  rfl

@[simp] theorem identity_updateContent :
    (message.updateContent newContent now).identity = message.identity :=
  rfl

@[simp] theorem identity_withSyncStatus :
    (message.withSyncStatus status patchId now).identity = message.identity :=
  rfl

end Identity

end Message

end MessagingRelayer
