import MessagingRelayer.Services.WalrusSync
import MessagingRelayer.Storage.Calls
import MessagingRelayer.Storage.Status

/-!
# One pass of the sync worker

`syncMessages` is a pass without interruption: a snapshot, its upload, and the write-backs one after
the other. Whatever the publisher replies, the pass accounts exactly for its batch
(`syncMessages_accounts`): the patches and their metadata are those of the messages of the snapshot,
and a message is written back when the reply has an entry for it, with the patch identifier of the
first such entry, and not touched otherwise.
-/

set_option autoImplicit false
set_option relaxedAutoImplicit false

namespace MessagingRelayer

open Foundation

/-- What a pass gives to the publisher. -/
structure Upload where
  patches : List Patch
  metadata : List QuiltPatchMetadata
deriving DecidableEq

/-- A part of the form that `store_quilt` sends: a patch under its file name, or the metadata. -/
inductive FormPart
  | bytes (fileName : String) (message : Message)
  | text (metadata : List QuiltPatchMetadata)
deriving DecidableEq

/-- The named parts of the form: one for each patch, and one for the metadata. -/
def Upload.form (upload : Upload) : List (String × FormPart) :=
  (upload.patches.map fun patch ↦
    (patch.identifier, .bytes patch.identifier patch.message)) ++
      [("_metadata", .text upload.metadata)]

/-- The write-backs of a snapshot; `clock` is the reading of the call for a message. -/
def writeBackAll (storage : InMemoryStorage) (pass : Pass) (response : QuiltStoreResponse)
    (clock : Uuid → DateTime) (messages : List Message) : InMemoryStorage :=
  messages.foldl (fun reached msg ↦ writeBackMessage reached pass msg response (clock msg.id))
    storage

/-- A pass without interruption: what it uploads, and the storage it leaves behind. -/
def syncMessages (storage : InMemoryStorage) (pass : Pass) (batchSize : Nat)
    (listing : List Message) (reply : Except String QuiltStoreResponse) (clock : Uuid → DateTime) :
    Option Upload × InMemoryStorage :=
  let messages := InMemoryStorage.getMessagesBySyncStatus listing pass.fromStatus batchSize
  if messages = [] then (none, storage)
  else
    (some ⟨pass.patches messages, pass.metadata messages⟩,
      match reply with
      | .error _ => storage
      | .ok response => writeBackAll storage pass response clock messages)

/-! ### What the write-backs do -/

section WriteBack

variable {storage : InMemoryStorage} {pass : Pass} {response : QuiltStoreResponse}
  {clock : Uuid → DateTime} {messages : List Message} {msg : Message} {id : Uuid} {now : DateTime}

/-- What the write-back of a message makes of the stored one. -/
def Pass.writeBack (pass : Pass) (response : QuiltStoreResponse) (now : DateTime)
    (stored : Message) : Message :=
  match response.getPatchId (patchIdentifier stored.id) with
  | none => stored
  | some patchId => stored.withSyncStatus pass.toStatus (some patchId) now

/-- Assumes: messages are filed under their identifiers. A write-back changes its message alone. -/
theorem lookup_writeBackMessage_eq (hindexed : storage.NonceIndexed) (id : Uuid) :
    (writeBackMessage storage pass msg response now).messages.lookup id =
      if id = msg.id then (storage.messages.lookup id).map (pass.writeBack response now)
      else storage.messages.lookup id := by
  unfold writeBackMessage
  cases hpatch : response.getPatchId (patchIdentifier msg.id) with
  | none =>
    split_ifs with hsame
    · cases hlookup : storage.messages.lookup id with
      | none => rfl
      | some stored =>
        have hid : stored.id = msg.id := (hindexed.filed id stored hlookup).trans hsame
        simp [Pass.writeBack, hid, hpatch]
    · rfl
  | some patchId =>
    rcases storage.updateSyncStatus_cases msg.id pass.toStatus (some patchId) now with
      ⟨hnone, hresult⟩ | ⟨stored, hlookup, hresult⟩
    · simp only [hresult]
      split_ifs with hsame
      · rw [hsame, hnone]
        rfl
      · rfl
    · simp only [hresult, HashMap.lookup_insert_eq]
      split_ifs with hsame
      · have hid : stored.id = msg.id := hindexed.filed msg.id stored hlookup
        rw [hsame, hlookup, Option.map_some, Pass.writeBack, hid, hpatch]
      · rfl

theorem nonceIndexed_writeBackMessage (hindexed : storage.NonceIndexed) :
    (writeBackMessage storage pass msg response now).NonceIndexed := by
  unfold writeBackMessage
  cases response.getPatchId (patchIdentifier msg.id) with
  | none => exact hindexed
  | some patchId => exact hindexed.updateSyncStatus msg.id pass.toStatus (some patchId) now

/-- A write-back keeps the nonces and the order counters. -/
theorem kept_writeBackMessage :
    (writeBackMessage storage pass msg response now).nonces = storage.nonces ∧
      (writeBackMessage storage pass msg response now).groupOrders = storage.groupOrders := by
  unfold writeBackMessage
  cases response.getPatchId (patchIdentifier msg.id) with
  | none => exact ⟨rfl, rfl⟩
  | some patchId =>
    rcases storage.updateSyncStatus_cases msg.id pass.toStatus (some patchId) now with
      ⟨-, hresult⟩ | ⟨stored, -, hresult⟩
    · simp only [hresult, and_self]
    · simp only [hresult, and_self]

theorem kept_writeBackAll :
    (writeBackAll storage pass response clock messages).nonces = storage.nonces ∧
      (writeBackAll storage pass response clock messages).groupOrders = storage.groupOrders := by
  induction messages generalizing storage with
  | nil => exact ⟨rfl, rfl⟩
  | cons msg rest ih =>
    have hfirst : (writeBackMessage storage pass msg response (clock msg.id)).nonces =
        storage.nonces ∧ (writeBackMessage storage pass msg response (clock msg.id)).groupOrders =
          storage.groupOrders := kept_writeBackMessage
    exact ⟨ih.1.trans hfirst.1, ih.2.trans hfirst.2⟩

/-- Assumes: different messages. The write-backs change these messages alone, each as its own
write-back does. -/
theorem lookup_writeBackAll (hindexed : storage.NonceIndexed)
    (hdistinct : (messages.map Message.id).Nodup) (id : Uuid) :
    (writeBackAll storage pass response clock messages).messages.lookup id =
      if id ∈ messages.map Message.id then
        (storage.messages.lookup id).map (pass.writeBack response (clock id))
      else storage.messages.lookup id := by
  induction messages generalizing storage with
  | nil => rfl
  | cons msg rest ih =>
    obtain ⟨hnotMem, hrest⟩ := List.nodup_cons.mp hdistinct
    show (writeBackAll (writeBackMessage storage pass msg response (clock msg.id)) pass response
      clock rest).messages.lookup id = _
    rw [ih (nonceIndexed_writeBackMessage hindexed) hrest, lookup_writeBackMessage_eq hindexed]
    by_cases hsame : id = msg.id
    · subst hsame
      simp [hnotMem]
    · simp [hsame]

end WriteBack

/-! ### What a pass accounts for -/

/-- The pass took this batch, uploaded exactly it, and left the storage as the reply says. -/
structure AccountsFor (storage : InMemoryStorage) (pass : Pass) (batchSize : Nat)
    (reply : Except String QuiltStoreResponse) (batch : List Message)
    (outcome : Option Upload × InMemoryStorage) : Prop where
  /-- As many messages as the batch size allows, as they are stored. -/
  taken : batch.length = min batchSize (storage.idsWithStatus pass.fromStatus).card ∧
    ∀ msg ∈ batch, storage.messages.lookup msg.id = some msg ∧ msg.syncStatus = pass.fromStatus
  distinct : (batch.map fun msg ↦ patchIdentifier msg.id).Nodup
  /-- A batch that is not empty is uploaded, each message with metadata of its own. -/
  uploaded : if batch = [] then outcome.1 = none else ∃ upload, outcome.1 = some upload ∧
    List.Forall₂ (fun msg patch ↦ patch.identifier = patchIdentifier msg.id ∧
      patch.message = { msg with syncStatus := pass.toStatus }) batch upload.patches ∧
    List.Forall₂ (fun msg entry ↦ entry.identifier = patchIdentifier msg.id ∧
      entry.tags.lookup "group_id" = some msg.groupId ∧
      entry.tags.lookup "sender" = some msg.senderWalletAddr ∧
      ∃ order, msg.order = some order ∧ entry.tags.lookup "order" = some (toString order))
        batch upload.metadata ∧
    (upload.form.map Prod.fst).Nodup
  failed : ∀ err, reply = .error err → outcome.2 = storage
  /-- A message changes exactly when it is in the batch and the reply has an entry for it. -/
  changed : ∀ response, reply = .ok response → ∀ id,
    outcome.2.messages.lookup id ≠ storage.messages.lookup id ↔
      ∃ msg ∈ batch, msg.id = id ∧
        ∃ entry ∈ response.storedQuiltBlobs, entry.identifier = "msg-" ++ Uuid.toString id
  /-- It gets the target status and the patch identifier of the first such entry. -/
  written : ∀ response, reply = .ok response → ∀ msg ∈ batch, ∀ earlier entry later,
    response.storedQuiltBlobs = earlier ++ entry :: later →
      entry.identifier = "msg-" ++ Uuid.toString msg.id →
        (∀ other ∈ earlier, other.identifier ≠ "msg-" ++ Uuid.toString msg.id) →
          ∃ now, outcome.2.messages.lookup msg.id = some { msg with
            syncStatus := pass.toStatus
            quiltPatchId := some entry.quiltPatchId
            updatedAt := now }
  kept : outcome.2.nonces = storage.nonces ∧ outcome.2.groupOrders = storage.groupOrders

section Accounts

variable {storage : InMemoryStorage} {pass : Pass} {listing messages : List Message}
  {msg : Message}

/-- The parts of the form have different names. -/
theorem nodup_form (hdistinct : (messages.map fun msg ↦ patchIdentifier msg.id).Nodup) :
    (Upload.form ⟨pass.patches messages, pass.metadata messages⟩).map Prod.fst |>.Nodup := by
  have hnames : (Upload.form ⟨pass.patches messages, pass.metadata messages⟩).map Prod.fst =
      (messages.map fun msg ↦ patchIdentifier msg.id) ++ ["_metadata"] := by
    simp [Upload.form, Pass.patches, Function.comp_def]
  rw [hnames, List.nodup_append]
  refine ⟨hdistinct, List.nodup_singleton _, ?_⟩
  intro name hname other hother heq
  obtain ⟨msg, -, rfl⟩ := List.mem_map.mp hname
  rw [List.mem_singleton.mp hother] at heq
  have hfirst := congrArg (fun text ↦ text.toList.head?) heq
  simp [patchIdentifier, msgPrefix, String.toList_append] at hfirst

theorem toStatus_ne_fromStatus (pass : Pass) : pass.toStatus ≠ pass.fromStatus := by
  cases pass <;> decide

/-- A message the pass looks for is changed by its write-back exactly when the reply has an entry
for it. -/
theorem writeBack_ne_iff {response : QuiltStoreResponse} (now : DateTime)
    (hstatus : msg.syncStatus = pass.fromStatus) :
    pass.writeBack response now msg ≠ msg ↔
      ∃ entry ∈ response.storedQuiltBlobs, entry.identifier = patchIdentifier msg.id := by
  rw [← QuiltStoreResponse.getPatchId_ne_none_iff]
  unfold Pass.writeBack
  cases hpatch : response.getPatchId (patchIdentifier msg.id) with
  | none => simp
  | some patchId =>
    refine iff_of_true (fun hsame ↦ ?_) (Option.some_ne_none patchId)
    have hwritten : pass.toStatus = msg.syncStatus := congrArg Message.syncStatus hsame
    exact toStatus_ne_fromStatus pass (hwritten.trans hstatus)

/-- The patches are those of the messages, in their order. -/
theorem forall₂_patches (pass : Pass) (messages : List Message) :
    List.Forall₂ (fun msg patch ↦ patch.identifier = patchIdentifier msg.id ∧
      patch.message = { msg with syncStatus := pass.toStatus }) messages
        (pass.patches messages) := by
  unfold Pass.patches
  rw [List.forall₂_map_right_iff]
  exact List.forall₂_same.mpr fun msg _ ↦ ⟨rfl, rfl⟩

/-- Assumes: messages with order numbers. The metadata are those of the messages, in their order. -/
theorem forall₂_metadata (pass : Pass)
    (hordered : ∀ msg ∈ messages, ∃ order, msg.order = some order) :
    List.Forall₂ (fun msg entry ↦ entry.identifier = patchIdentifier msg.id ∧
      entry.tags.lookup "group_id" = some msg.groupId ∧
      entry.tags.lookup "sender" = some msg.senderWalletAddr ∧
      ∃ order, msg.order = some order ∧ entry.tags.lookup "order" = some (toString order))
        messages (pass.metadata messages) := by
  unfold Pass.metadata
  rw [List.forall₂_map_right_iff]
  refine List.forall₂_same.mpr fun msg hmem ↦ ?_
  obtain ⟨order, horder⟩ := hordered msg hmem
  refine ⟨rfl, ?_, ?_, order, horder, ?_⟩
  · simp
  · simp
  · simp [horder]

/-- The storage a pass leaves behind. -/
theorem syncMessages_snd (storage : InMemoryStorage) (pass : Pass) (batchSize : Nat)
    (listing : List Message) (reply : Except String QuiltStoreResponse) (clock : Uuid → DateTime) :
    (syncMessages storage pass batchSize listing reply clock).2 =
      match reply with
      | .error _ => storage
      | .ok response => writeBackAll storage pass response clock
          (InMemoryStorage.getMessagesBySyncStatus listing pass.fromStatus batchSize) := by
  unfold syncMessages
  simp only
  split_ifs with hempty
  · rw [hempty]
    cases reply <;> rfl
  · rfl

/-- What a pass uploads. -/
theorem syncMessages_fst (storage : InMemoryStorage) (pass : Pass) (batchSize : Nat)
    (listing : List Message) (reply : Except String QuiltStoreResponse) (clock : Uuid → DateTime) :
    (syncMessages storage pass batchSize listing reply clock).1 =
      if InMemoryStorage.getMessagesBySyncStatus listing pass.fromStatus batchSize = [] then none
      else some ⟨pass.patches (InMemoryStorage.getMessagesBySyncStatus listing pass.fromStatus
        batchSize), pass.metadata (InMemoryStorage.getMessagesBySyncStatus listing pass.fromStatus
          batchSize)⟩ := by
  unfold syncMessages
  simp only
  split_ifs <;> rfl

/-- The messages are stored as they are, each once, with the status the pass looks for. -/
structure Batch (storage : InMemoryStorage) (pass : Pass) (messages : List Message) : Prop where
  stored : ∀ msg ∈ messages, storage.messages.lookup msg.id = some msg ∧
    msg.syncStatus = pass.fromStatus
  distinct : (messages.map Message.id).Nodup

theorem batch_snapshot (hindexed : storage.NonceIndexed)
    (hlisting : storage.messages.IterationOrder listing) (pass : Pass) (batchSize : Nat) :
    Batch storage pass
      (InMemoryStorage.getMessagesBySyncStatus listing pass.fromStatus batchSize) where
  stored _ hmem := InMemoryStorage.lookup_of_mem_snapshot hindexed hlisting hmem
  distinct := InMemoryStorage.nodup_getMessagesBySyncStatus hindexed hlisting pass.fromStatus
    batchSize

theorem Batch.nodup_identifiers (hbatch : Batch storage pass messages) :
    (messages.map fun msg ↦ patchIdentifier msg.id).Nodup := by
  have hmap : (messages.map fun msg ↦ patchIdentifier msg.id) =
      (messages.map Message.id).map patchIdentifier := by
    rw [List.map_map]
    rfl
  rw [hmap]
  exact hbatch.distinct.map patchIdentifier_injective

/-- The write-backs of a batch change a message exactly when it is in the batch and the reply has an
entry for it. -/
theorem Batch.changed_iff (hbatch : Batch storage pass messages) (hindexed : storage.NonceIndexed)
    (response : QuiltStoreResponse) (clock : Uuid → DateTime) (id : Uuid) :
    (writeBackAll storage pass response clock messages).messages.lookup id ≠
        storage.messages.lookup id ↔
      ∃ msg ∈ messages, msg.id = id ∧
        ∃ entry ∈ response.storedQuiltBlobs, entry.identifier = patchIdentifier id := by
  rw [lookup_writeBackAll hindexed hbatch.distinct]
  constructor
  · intro hchanged
    split_ifs at hchanged with hmem
    · obtain ⟨msg, hmsg, rfl⟩ := List.mem_map.mp hmem
      obtain ⟨hlookup, hstatus⟩ := hbatch.stored msg hmsg
      rw [hlookup, Option.map_some, ne_eq, Option.some_inj] at hchanged
      exact ⟨msg, hmsg, rfl, (writeBack_ne_iff _ hstatus).mp hchanged⟩
    · exact absurd rfl hchanged
  · rintro ⟨msg, hmsg, rfl, hentry⟩
    obtain ⟨hlookup, hstatus⟩ := hbatch.stored msg hmsg
    rw [if_pos (List.mem_map_of_mem hmsg), hlookup, Option.map_some, ne_eq, Option.some_inj]
    exact (writeBack_ne_iff _ hstatus).mpr hentry

/-- A message of the batch gets the patch identifier of the first entry for it. -/
theorem Batch.lookup_written (hbatch : Batch storage pass messages)
    (hindexed : storage.NonceIndexed) {response : QuiltStoreResponse} (clock : Uuid → DateTime)
    (hmsg : msg ∈ messages) {earlier later : List StoredQuiltPatch} {entry : StoredQuiltPatch}
    (hsplit : response.storedQuiltBlobs = earlier ++ entry :: later)
    (hentry : entry.identifier = patchIdentifier msg.id)
    (hearlier : ∀ other ∈ earlier, other.identifier ≠ patchIdentifier msg.id) :
    (writeBackAll storage pass response clock messages).messages.lookup msg.id =
      some (msg.withSyncStatus pass.toStatus (some entry.quiltPatchId) (clock msg.id)) := by
  have hpatch : response.getPatchId (patchIdentifier msg.id) = some entry.quiltPatchId :=
    QuiltStoreResponse.getPatchId_eq_some_iff.mpr
      ⟨earlier, entry, later, hsplit, hentry, hearlier, rfl⟩
  rw [lookup_writeBackAll hindexed hbatch.distinct, if_pos (List.mem_map_of_mem hmsg),
    (hbatch.stored msg hmsg).1, Option.map_some, Pass.writeBack, hpatch]

/-- In every storage the relayer can reach, a pass accounts exactly for its batch, whatever the
order of the walk and the reply of the publisher. -/
theorem syncMessages_accounts (hreachable : storage.Reachable)
    (hlisting : storage.messages.IterationOrder listing) (pass : Pass) (batchSize : Nat)
    (reply : Except String QuiltStoreResponse) (clock : Uuid → DateTime) :
    AccountsFor storage pass batchSize reply
      (InMemoryStorage.getMessagesBySyncStatus listing pass.fromStatus batchSize)
      (syncMessages storage pass batchSize listing reply clock) := by
  have hindexed := hreachable.nonceIndexed
  have hbatch := batch_snapshot hindexed hlisting pass batchSize
  have hlength := InMemoryStorage.length_getMessagesBySyncStatus hindexed hlisting pass.fromStatus
    batchSize
  have hupload := syncMessages_fst storage pass batchSize listing reply clock
  have hsync := syncMessages_snd storage pass batchSize listing reply clock
  constructor
  · exact ⟨hlength, hbatch.stored⟩
  · exact hbatch.nodup_identifiers
  · split_ifs with hempty
    · rw [hupload, if_pos hempty]
    · refine ⟨_, by rw [hupload, if_neg hempty], forall₂_patches pass _, forall₂_metadata pass ?_,
        nodup_form hbatch.nodup_identifiers⟩
      intro msg hmem
      obtain ⟨order, horder, -⟩ := hreachable.numbered (hbatch.stored msg hmem).1
      exact ⟨order, horder⟩
  · rintro err rfl
    exact hsync
  · rintro response rfl id
    rw [hsync]
    exact hbatch.changed_iff hindexed response clock id
  · rintro response rfl msg hmsg earlier entry later hsplit hentry hearlier
    rw [hsync]
    exact ⟨clock msg.id, hbatch.lookup_written hindexed clock hmsg hsplit hentry hearlier⟩
  · rw [hsync]
    cases reply with
    | error err => exact ⟨rfl, rfl⟩
    | ok response => exact kept_writeBackAll

end Accounts

/-! ### A pass over one message -/

/-- A storage with one message. -/
def sampleStored : InMemoryStorage :=
  InMemoryStorage.new.performAll [.createMessage (crossingMessage 0x0c 0x1a)]

/-- A reply with a foreign entry and two entries for the message. -/
def repeatedReply : QuiltStoreResponse :=
  ⟨[⟨"msg-", "foreign"⟩, ⟨patchIdentifier crossedMessage.id, "first"⟩,
    ⟨patchIdentifier crossedMessage.id, "second"⟩]⟩

/-- The pass writes the first of the two patch identifiers back. -/
theorem accountsFor_sampleStored :
    AccountsFor sampleStored .pending 666 (.ok repeatedReply)
      (InMemoryStorage.getMessagesBySyncStatus [crossedMessage] .syncPending 666)
      (syncMessages sampleStored .pending 666 [crossedMessage] (.ok repeatedReply) fun _ ↦ 0) := by
  have hreachable : sampleStored.Reachable := InMemoryStorage.reachable_new.performAll _
  have hlisting : sampleStored.messages.IterationOrder [crossedMessage] :=
    HashMap.iterationOrder_singleton crossedMessage.id crossedMessage
  exact syncMessages_accounts hreachable hlisting .pending 666 (.ok repeatedReply) fun _ ↦ 0

end MessagingRelayer
