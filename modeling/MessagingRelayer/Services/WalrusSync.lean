import MessagingRelayer.Storage.Memory

/-!
# The Walrus sync service

The worker waits for a tick or for enough notifications and then makes three passes, one for each
pending status. A pass takes a snapshot of the messages with its status, uploads them as the patches
of one quilt, and writes the target status back to each message whose patch identifier is in the
reply. The worker is cut where it waits or calls the storage: a `SyncPhase` is what it holds between
two such points.

A patch carries the message it serializes; serializing a message never fails.
-/

set_option autoImplicit false
set_option relaxedAutoImplicit false

namespace MessagingRelayer

open Foundation

/-! ### Patches -/

/-- Prefix for message patch identifiers in Walrus quilts. -/
def msgPrefix : String :=
  "msg-"

/-- Source tag value to identify patches from this relayer. -/
def sourceTag : String :=
  "sui-messaging-relayer"

/-- The patch identifier of a message. -/
def patchIdentifier (id : Uuid) : String :=
  msgPrefix ++ Uuid.toString id

theorem patchIdentifier_injective : Function.Injective patchIdentifier := by
  intro first second heq
  exact Uuid.toString_injective ((String.append_right_inj _).mp heq)

/-- A patch: its identifier and the message that is serialized into it. -/
structure Patch where
  identifier : String
  message : Message
deriving DecidableEq

/-- The tags of a patch. -/
structure QuiltPatchMetadata where
  identifier : String
  tags : HashMap String String
deriving DecidableEq

/-- A patch in the reply of the publisher. -/
structure StoredQuiltPatch where
  identifier : String
  quiltPatchId : String
deriving DecidableEq

/-- The reply of the publisher. -/
structure QuiltStoreResponse where
  storedQuiltBlobs : List StoredQuiltPatch
deriving DecidableEq

/-- The patch identifier the first matching entry of the reply gives. -/
def QuiltStoreResponse.getPatchId (response : QuiltStoreResponse) (identifier : String) :
    Option String :=
  (response.storedQuiltBlobs.find? (·.identifier == identifier)).map (·.quiltPatchId)

/-- The patch identifier is that of the first entry with the identifier. -/
theorem QuiltStoreResponse.getPatchId_eq_some_iff {response : QuiltStoreResponse}
    {identifier patchId : String} :
    response.getPatchId identifier = some patchId ↔ ∃ earlier entry later,
      response.storedQuiltBlobs = earlier ++ entry :: later ∧ entry.identifier = identifier ∧
        (∀ other ∈ earlier, other.identifier ≠ identifier) ∧ entry.quiltPatchId = patchId := by
  unfold QuiltStoreResponse.getPatchId
  rw [Option.map_eq_some_iff]
  constructor
  · rintro ⟨entry, hfind, rfl⟩
    obtain ⟨hentry, earlier, later, hsplit, hearlier⟩ := List.find?_eq_some_iff_append.mp hfind
    exact ⟨earlier, entry, later, hsplit, by simpa using hentry,
      fun other hmem ↦ by simpa using hearlier other hmem, rfl⟩
  · rintro ⟨earlier, entry, later, hsplit, hentry, hearlier, rfl⟩
    refine ⟨entry, List.find?_eq_some_iff_append.mpr ⟨by simpa using hentry, earlier, later, hsplit,
      fun other hmem ↦ by simpa using hearlier other hmem⟩, rfl⟩

/-- A reply has a patch identifier for exactly the identifiers of its entries. -/
theorem QuiltStoreResponse.getPatchId_ne_none_iff {response : QuiltStoreResponse}
    {identifier : String} :
    response.getPatchId identifier ≠ none ↔
      ∃ entry ∈ response.storedQuiltBlobs, entry.identifier = identifier := by
  unfold QuiltStoreResponse.getPatchId
  rw [ne_eq, Option.map_eq_none_iff, List.find?_eq_none]
  simp

/-! ### The three passes -/

/-- The sync workflows. -/
inductive Pass
  | pending
  | updated
  | deleted
deriving DecidableEq

namespace Pass

def fromStatus : Pass → SyncStatus
  | pending => .syncPending
  | updated => .updatePending
  | deleted => .deletePending

def toStatus : Pass → SyncStatus
  | pending => .synced
  | updated => .updated
  | deleted => .deleted

/-- The pass that follows in a cycle. -/
def next : Pass → Option Pass
  | pending => some updated
  | updated => some deleted
  | deleted => none

/-- The patches of a pass: every message with the target status, so that the copy reflects the final
state. -/
def patches (pass : Pass) (messages : List Message) : List Patch :=
  messages.map fun msg ↦ ⟨patchIdentifier msg.id, { msg with syncStatus := pass.toStatus }⟩

/-- The metadata of the patches of a pass. -/
def metadata (pass : Pass) (messages : List Message) : List QuiltPatchMetadata :=
  messages.map fun msg ↦
    { identifier := patchIdentifier msg.id
      tags := (((((∅ : HashMap String String).insert "source" sourceTag).insert "group_id"
        msg.groupId).insert "sender" msg.senderWalletAddr).insert "sync_status"
          pass.toStatus.toString).insert "order" ((msg.order.map toString).getD "") }

end Pass

/-! ### The worker -/

/-- What the worker is doing: waiting for a trigger, about to take the snapshot of a pass, uploading
a snapshot, or writing back the messages of a snapshot that remain. -/
inductive SyncPhase
  | waiting
  | snapshot (pass : Pass)
  | uploading (pass : Pass) (messages : List Message)
  | writingBack (pass : Pass) (remaining : List Message) (response : QuiltStoreResponse)
deriving DecidableEq

/-- The worker has the message in the snapshot of a pass, uploaded or still to be written back. -/
def SyncPhase.Holds (pass : Pass) (msg : Message) : SyncPhase → Prop
  | .waiting => False
  | .snapshot _ => False
  | .uploading current messages => current = pass ∧ msg ∈ messages
  | .writingBack current remaining _ => current = pass ∧ msg ∈ remaining

/-- The messages of a snapshot that the worker still has to deal with. -/
def SyncPhase.held : SyncPhase → List Message
  | .waiting => []
  | .snapshot _ => []
  | .uploading _ messages => messages
  | .writingBack _ remaining _ => remaining

/-- The worker with its count of notifications since the last cycle. -/
structure SyncWorker where
  phase : SyncPhase
  messageCount : Nat
deriving DecidableEq

namespace SyncWorker

def new : SyncWorker where
  phase := .waiting
  messageCount := 0

/-- The worker starts a cycle. -/
def startCycle (worker : SyncWorker) : SyncWorker :=
  { worker with phase := .snapshot .pending }

/-- A message notification: a cycle starts when there have been enough, and a threshold of zero is
never reached. -/
def receive (worker : SyncWorker) (messageThreshold : Nat) : SyncWorker :=
  let counted := { worker with messageCount := worker.messageCount + 1 }
  if messageThreshold = 0 ∨ counted.messageCount < messageThreshold then counted
  else counted.startCycle

/-- The worker leaves a pass, for the next one or to wait with its count reset. -/
def leavePass (worker : SyncWorker) (pass : Pass) : SyncWorker :=
  match pass.next with
  | some next => { worker with phase := .snapshot next }
  | none => ⟨.waiting, 0⟩

/-- The worker has the snapshot of a pass; an empty one is not uploaded. -/
def takeSnapshot (worker : SyncWorker) (pass : Pass) (messages : List Message) : SyncWorker :=
  if messages = [] then worker.leavePass pass
  else { worker with phase := .uploading pass messages }

/-- The worker has the reply to an upload; a failed upload ends the pass. -/
def handleReply (worker : SyncWorker) (pass : Pass) (messages : List Message)
    (reply : Except String QuiltStoreResponse) : SyncWorker :=
  match reply with
  | .error _ => worker.leavePass pass
  | .ok response => { worker with phase := .writingBack pass messages response }

end SyncWorker

/-- Max messages to batch per sync cycle. -/
def walrusBatchSize (configured : Nat) : Nat :=
  min configured 666

/-- The write-back of one message of a snapshot: its target status and patch identifier, or nothing
when the reply has no patch for it. -/
def writeBackMessage (storage : InMemoryStorage) (pass : Pass) (msg : Message)
    (response : QuiltStoreResponse) (now : DateTime) : InMemoryStorage :=
  match response.getPatchId (patchIdentifier msg.id) with
  | none => storage
  | some patchId => (storage.updateSyncStatus msg.id pass.toStatus (some patchId) now).2

/-- Assumes: the reply has a patch for the message. The stored message gets the target status of the
pass, whatever its status was. -/
theorem lookup_writeBackMessage {storage : InMemoryStorage} {pass : Pass} {msg stored : Message}
    {response : QuiltStoreResponse} {patchId : String} (now : DateTime)
    (hpatch : response.getPatchId (patchIdentifier msg.id) = some patchId)
    (hlookup : storage.messages.lookup msg.id = some stored) :
    (writeBackMessage storage pass msg response now).messages.lookup msg.id =
      some (stored.withSyncStatus pass.toStatus (some patchId) now) := by
  simp only [writeBackMessage, hpatch, InMemoryStorage.updateSyncStatus, hlookup]
  exact Finmap.lookup_insert _

end MessagingRelayer
