import MessagingRelayer.Foundation.PartialRun
import MessagingRelayer.Services.MembershipSync
import Mathlib.Data.List.Range

/-!
# Subscriptions served from a chain

A fullnode serves the checkpoints of a chain: each stream delivers consecutive checkpoints from
whatever checkpoint is current when it is opened, and may end or fail at any point. Nothing is
delivered again when a stream starts behind the last cursor, and nothing is filled in when it starts
ahead of it.

`MembershipSyncService.Covered` is what such a service keeps: as long as no skipped checkpoint takes
away an entry or a permission the store holds, its store stays below the store of the whole chain.
`MembershipSyncService.failsClosed_of_skipped` is the consequence for `has_permission`, and
`MembershipSyncService.staleRead_of_missedRevocation` a chain and two streams where a revocation is
skipped.
-/

set_option autoImplicit false
set_option relaxedAutoImplicit false

namespace MessagingRelayer

open Foundation

/-! ### Streams as the responses they deliver -/

namespace MembershipSyncService

variable (libs : Externals)

/-- The responses of a stream before it ends or fails. -/
def delivered : List (Except String SubscribeCheckpointsResponse) →
    List SubscribeCheckpointsResponse
  | [] => []
  | .error _ :: _ => []
  | .ok response :: rest => response :: delivered rest

theorem runSubscription_eq_foldl (service : MembershipSyncService)
    (stream : List (Except String SubscribeCheckpointsResponse)) :
    (service.runSubscription libs stream).2 =
      (delivered stream).foldl (handleResponse libs) service := by
  induction stream generalizing service with
  | nil => rfl
  | cons item rest ih =>
    cases item with
    | error err => rfl
    | ok response => exact ih (service.handleResponse libs response)

/-- What the service makes of its streams is what it makes of the responses they deliver, one after
the other: a reconnection changes nothing. -/
theorem run_eq_foldl (service : MembershipSyncService)
    (streams : List (List (Except String SubscribeCheckpointsResponse))) :
    service.run libs streams = (streams.flatMap delivered).foldl (handleResponse libs) service := by
  induction streams generalizing service with
  | nil => rfl
  | cons stream rest ih =>
    rw [List.flatMap_cons, List.foldl_append, ← runSubscription_eq_foldl]
    exact ih (service.runSubscription libs stream).2

theorem processEvents_eq_applyEvents (groupsPackageId : String) (store : InMemoryMembershipStore)
    (events : List SuiEvent) :
    events.foldl (processEvent libs groupsPackageId) store =
      store.applyEvents (events.filterMap fun event ↦
        parseSuiEvent libs event groupsPackageId) := by
  induction events generalizing store with
  | nil => rfl
  | cons event rest ih =>
    rw [List.foldl_cons, ih, List.filterMap_cons]
    unfold processEvent
    cases parseSuiEvent libs event groupsPackageId with
    | none => rfl
    | some groupsEvent => rfl

/-- A checkpoint is processed by applying its Groups events in order. -/
theorem processCheckpoint_eq (service : MembershipSyncService) (checkpoint : Checkpoint) :
    service.processCheckpoint libs checkpoint =
      { service with
        membershipStore := service.membershipStore.applyEvents
          (checkpoint.groupsEvents libs service.groupsPackageId) } := by
  unfold processCheckpoint Checkpoint.groupsEvents
  generalize service.membershipStore = store
  induction checkpoint.transactions generalizing store with
  | nil => rfl
  | cons transaction rest ih =>
    rw [List.foldl_cons, ih, List.flatMap_cons, InMemoryMembershipStore.applyEvents_append]
    cases transaction with
    | none => rfl
    | some events =>
      simp only [Option.getD_some]
      rw [processEvents_eq_applyEvents]

end MembershipSyncService

/-! ### The chain and the streams it serves -/

/-- A stream that delivers `count` consecutive checkpoints from `start` on, and then ends, or fails
with an error. -/
structure ServedStream where
  start : Nat
  count : Nat
  failure : Option String

section Chain

variable (libs : Externals) (groupsPackageId : String) (chain : Nat → Checkpoint)

/-- The response that delivers a checkpoint of the chain. -/
def chainResponse (cursor : Nat) : SubscribeCheckpointsResponse where
  cursor := some cursor
  checkpoint := some (chain cursor)

namespace ServedStream

/-- The sequence numbers of the checkpoints a stream delivers. -/
def cursors (stream : ServedStream) : List Nat :=
  List.range' stream.start stream.count

/-- The items of a stream. -/
def items (stream : ServedStream) : List (Except String SubscribeCheckpointsResponse) :=
  stream.cursors.map (fun cursor ↦ .ok (chainResponse chain cursor)) ++
    stream.failure.toList.map .error

theorem delivered_items (stream : ServedStream) :
    MembershipSyncService.delivered (stream.items chain) =
      stream.cursors.map (chainResponse chain) := by
  unfold items
  induction stream.cursors with
  | nil =>
    cases stream.failure with
    | none => rfl
    | some err => rfl
  | cons cursor rest ih =>
    exact congrArg (chainResponse chain cursor :: ·) ih

end ServedStream

/-- The Groups events of `count` checkpoints of the chain from `first` on. -/
def chainEvents (first count : Nat) : List GroupsEvent :=
  (List.range' first count).flatMap fun cursor ↦ (chain cursor).groupsEvents libs groupsPackageId

/-- The store after all Groups events of the chain through a checkpoint. -/
def storeThrough (cursor : Nat) : InMemoryMembershipStore :=
  InMemoryMembershipStore.new.applyEvents (chainEvents libs groupsPackageId chain 0 (cursor + 1))

theorem chainEvents_append (first count more : Nat) :
    chainEvents libs groupsPackageId chain first (count + more) =
      chainEvents libs groupsPackageId chain first count ++
        chainEvents libs groupsPackageId chain (first + count) more := by
  unfold chainEvents
  rw [← List.flatMap_append, List.range'_append_1]

theorem chainEvents_one (cursor : Nat) :
    chainEvents libs groupsPackageId chain cursor 1 =
      (chain cursor).groupsEvents libs groupsPackageId := by
  simp [chainEvents]

namespace MembershipSyncService

/-- The first checkpoint after the last one the service has processed. -/
def nextExpected (service : MembershipSyncService) : Nat :=
  match service.lastCursor with
  | none => 0
  | some last => last + 1

/-- The service receives a checkpoint of the chain. -/
def deliver (service : MembershipSyncService) (cursor : Nat) : Option MembershipSyncService :=
  some (service.handleResponse libs (chainResponse chain cursor))

/-- The checkpoints between the last one processed and this one take nothing away from the store:
applied to it, they leave every entry and every permission it holds. -/
def SkippedTakeNothing (service : MembershipSyncService) (cursor : Nat) : Prop :=
  service.membershipStore ≤ service.membershipStore.applyEvents
    (chainEvents libs groupsPackageId chain service.nextExpected (cursor - service.nextExpected))

/-- A delivered checkpoint is skipped, or processed and made the last cursor. -/
theorem handleResponse_chainResponse (service : MembershipSyncService) (cursor : Nat) :
    service.handleResponse libs (chainResponse chain cursor) =
      if cursor < service.nextExpected then service
      else { service with
        membershipStore := service.membershipStore.applyEvents
          ((chain cursor).groupsEvents libs service.groupsPackageId)
        lastCursor := some cursor } := by
  unfold handleResponse nextExpected
  cases hlast : service.lastCursor with
  | none =>
    simp only [chainResponse, Option.getD_some, Nat.not_lt_zero, if_false, advance]
    rw [processCheckpoint_eq]
  | some last =>
    by_cases hskip : cursor ≤ last
    · rw [if_pos (Nat.lt_succ_of_le hskip)]
      simp only [chainResponse, Option.getD_some, hskip, if_true]
    · rw [if_neg fun hlt ↦ hskip (Nat.le_of_lt_succ hlt)]
      simp only [chainResponse, Option.getD_some, hskip, if_false, advance]
      rw [processCheckpoint_eq]

/-- The store is below the store of the whole chain through the last cursor. -/
def Covered (service : MembershipSyncService) : Prop :=
  service.groupsPackageId = groupsPackageId ∧
    service.membershipStore ≤ InMemoryMembershipStore.new.applyEvents
      (chainEvents libs groupsPackageId chain 0 service.nextExpected)

/-- What `has_permission` grants, the store of the whole chain through the last cursor grants. -/
def FailsClosed (service : MembershipSyncService) : Prop :=
  ∀ cursor, service.lastCursor = some cursor → ∀ groupId address permission,
    service.membershipStore.hasPermission groupId address permission = true →
      (storeThrough libs groupsPackageId chain cursor).hasPermission groupId address permission =
        true

/-- A run over served streams takes their checkpoints one after the other. -/
theorem runFrom_deliver_cursors (service : MembershipSyncService) (streams : List ServedStream) :
    runFrom (deliver libs chain) service (streams.flatMap ServedStream.cursors) =
      some (service.run libs (streams.map (ServedStream.items chain))) := by
  have hdelivered : (streams.map (ServedStream.items chain)).flatMap delivered =
      (streams.flatMap ServedStream.cursors).map (chainResponse chain) := by
    rw [List.flatMap_map, List.map_flatMap]
    exact congrArg streams.flatMap (funext (ServedStream.delivered_items chain))
  rw [run_eq_foldl, hdelivered]
  generalize streams.flatMap ServedStream.cursors = cursors
  induction cursors generalizing service with
  | nil => rfl
  | cons cursor rest ih => exact ih (service.handleResponse libs (chainResponse chain cursor))

variable {libs groupsPackageId chain}

/-- Where nothing is skipped, nothing is taken away. -/
theorem skippedTakeNothing_of_le {service : MembershipSyncService} {cursor : Nat}
    (hnext : cursor ≤ service.nextExpected) :
    SkippedTakeNothing libs groupsPackageId chain service cursor := by
  unfold SkippedTakeNothing
  rw [Nat.sub_eq_zero_of_le hnext]
  exact le_refl service.membershipStore

theorem covered_new : Covered libs groupsPackageId chain (new groupsPackageId .new) :=
  ⟨rfl, InMemoryMembershipStore.new_le _⟩

/-- Assumes: the skipped checkpoints take nothing away. A delivery keeps the store below the store
of the whole chain. -/
theorem covered_deliver {service next : MembershipSyncService} {cursor : Nat}
    (hcovered : Covered libs groupsPackageId chain service)
    (hskipped : SkippedTakeNothing libs groupsPackageId chain service cursor)
    (hdeliver : deliver libs chain service cursor = some next) :
    Covered libs groupsPackageId chain next := by
  obtain ⟨hpackage, hbelow⟩ := hcovered
  obtain rfl := Option.some.inj hdeliver
  rw [handleResponse_chainResponse]
  by_cases hskip : cursor < service.nextExpected
  · rw [if_pos hskip]
    exact ⟨hpackage, hbelow⟩
  · rw [if_neg hskip]
    refine ⟨hpackage, ?_⟩
    have hsplit : cursor + 1 =
        service.nextExpected + (cursor - service.nextExpected) + 1 := by omega
    have hevents : chainEvents libs groupsPackageId chain 0 (cursor + 1) =
        chainEvents libs groupsPackageId chain 0 service.nextExpected ++
          chainEvents libs groupsPackageId chain service.nextExpected
            (cursor - service.nextExpected) ++
          (chain cursor).groupsEvents libs groupsPackageId := by
      rw [hsplit, chainEvents_append, chainEvents_append, Nat.zero_add, Nat.zero_add,
        ← chainEvents_one]
      congr 2
      omega
    change _ ≤ InMemoryMembershipStore.new.applyEvents
      (chainEvents libs groupsPackageId chain 0 (cursor + 1))
    rw [hevents, InMemoryMembershipStore.applyEvents_append,
      InMemoryMembershipStore.applyEvents_append, hpackage]
    refine InMemoryMembershipStore.applyEvents_mono _ ?_
    exact hskipped.trans (InMemoryMembershipStore.applyEvents_mono _ hbelow)

theorem Covered.failsClosed {service : MembershipSyncService}
    (hcovered : Covered libs groupsPackageId chain service) :
    FailsClosed libs groupsPackageId chain service := by
  intro cursor hcursor groupId address permission hholds
  have hbelow := hcovered.2
  unfold nextExpected at hbelow
  rw [hcursor] at hbelow
  exact InMemoryMembershipStore.hasPermission_of_le hbelow hholds

/-- Assumes: whenever a checkpoint is delivered, the checkpoints skipped before it take nothing away
from the store as it is then. In every state the service reaches over its streams, what
`has_permission` grants is granted by the whole chain through the last cursor. -/
theorem failsClosed_of_skipped {streams : List ServedStream}
    (hskipped : EveryStep (deliver libs chain) (SkippedTakeNothing libs groupsPackageId chain)
      (new groupsPackageId .new) (streams.flatMap ServedStream.cursors)) :
    FailsClosed libs groupsPackageId chain
        ((new groupsPackageId .new).run libs (streams.map (ServedStream.items chain))) ∧
      ∀ past rest service, streams.flatMap ServedStream.cursors = past ++ rest →
        runFrom (deliver libs chain) (new groupsPackageId .new) past = some service →
          FailsClosed libs groupsPackageId chain service := by
  have hreached : ∀ past rest service, streams.flatMap ServedStream.cursors = past ++ rest →
      runFrom (deliver libs chain) (new groupsPackageId .new) past = some service →
        FailsClosed libs groupsPackageId chain service := by
    intro past rest service hsplit hpast
    rw [hsplit] at hskipped
    have hcovered : Covered libs groupsPackageId chain service :=
      history_induction_of_everyStep
        (fun _ reached ↦ Covered libs groupsPackageId chain reached)
        covered_new
        (fun _ _ _ _ _ hbefore hmeets hdeliver ↦ covered_deliver hbefore hmeets hdeliver)
        hskipped.of_append hpast
    exact hcovered.failsClosed
  refine ⟨?_, hreached⟩
  exact hreached _ [] _ (List.append_nil _).symm (runFrom_deliver_cursors libs chain _ streams)

end MembershipSyncService

end Chain

/-! ### A revocation between two streams -/

/-- Each stream is opened when its first checkpoint is the current one of the chain: not before the
last one delivered earlier. -/
def OpenedAtCurrent (streams : List ServedStream) : Prop :=
  streams.IsChain fun earlier later ↦ earlier.start + earlier.count ≤ later.start + 1

section MissedRevocation

def samplePackage : String :=
  "0x5a"

def sampleGroup : FixedBytes 32 :=
  FixedBytes.fill 32 0x0a

def sampleMember : FixedBytes 32 :=
  FixedBytes.fill 32 0x0b

/-- The type name of a permission in Move. -/
def sampleReader : String :=
  "5a::messaging::MessagingReader"

/-- The BCS bytes of a member event: group and member. -/
def memberBytes : List UInt8 :=
  sampleGroup.val ++ sampleMember.val

/-- The BCS bytes of a permissions event with one permission: group, member, the number of
permissions, and the length and text of the type name. -/
def permissionsBytes : List UInt8 :=
  memberBytes ++ [1, 30] ++ utf8 sampleReader

/-- BCS as far as these two byte strings go. -/
def sampleBcs : Externals :=
  Externals.ofTables [] [] [] [] [] [(memberBytes, sampleGroup, sampleMember)]
    [(permissionsBytes, sampleGroup, sampleMember, [sampleReader])]

/-- A Groups event of the sample package. -/
def sampleEvent (name : String) (contents : List UInt8) : SuiEvent where
  eventType := some ("0x5a::permissioned_group::" ++ name ++ "<0x5a::messaging::Messaging>")
  contents := some (some contents)

/-- A member is added, may read, and may no longer read; then nothing happens. -/
def sampleChain : Nat → Checkpoint
  | 0 => ⟨[some [sampleEvent "MemberAdded" memberBytes]]⟩
  | 1 => ⟨[some [sampleEvent "PermissionsGranted" permissionsBytes]]⟩
  | 2 => ⟨[some [sampleEvent "PermissionsRevoked" permissionsBytes]]⟩
  | _ => ⟨[]⟩

/-- The first stream fails after the grant, and the second is opened after the revocation. -/
def sampleStreams : List ServedStream :=
  [⟨0, 2, some "transport error"⟩, ⟨3, 1, none⟩]

/-- A service whose stream fails before a revocation and is opened again after it still grants what
was revoked: with the streams a fullnode may serve, the store does not fail closed. -/
theorem MembershipSyncService.staleRead_of_missedRevocation :
    ¬ ∀ (libs : Externals) (groupsPackageId : String) (chain : Nat → Checkpoint)
      (streams : List ServedStream), OpenedAtCurrent streams →
        MembershipSyncService.FailsClosed libs groupsPackageId chain
          ((MembershipSyncService.new groupsPackageId .new).run libs
            (streams.map (ServedStream.items chain))) := by
  intro hclosed
  have hopened : OpenedAtCurrent sampleStreams := by
    simp [OpenedAtCurrent, sampleStreams]
  have hstale := hclosed sampleBcs samplePackage sampleChain sampleStreams hopened 3
    (by decide +kernel) (hexAddress sampleGroup) (hexAddress sampleMember) .messagingReader
    (by decide +kernel)
  exact absurd hstale (by decide +kernel)

/-- Two streams that leave no gap, the second one starting with the last checkpoint of the first. -/
def gaplessStreams : List ServedStream :=
  [⟨0, 2, some "transport error"⟩, ⟨1, 2, none⟩]

theorem MembershipSyncService.failsClosed_gaplessStreams :
    FailsClosed sampleBcs samplePackage sampleChain
      ((new samplePackage .new).run sampleBcs
        (gaplessStreams.map (ServedStream.items sampleChain))) := by
  have hskipped : EveryStep (deliver sampleBcs sampleChain)
      (SkippedTakeNothing sampleBcs samplePackage sampleChain) (new samplePackage .new)
      (gaplessStreams.flatMap ServedStream.cursors) := by
    change EveryStep _ _ _ [0, 1, 1, 2]
    refine everyStep_cons_iff.mpr ⟨skippedTakeNothing_of_le (Nat.le_refl 0), ?_⟩
    rintro _ ⟨⟩
    refine everyStep_cons_iff.mpr ⟨skippedTakeNothing_of_le (Nat.le_refl 1), ?_⟩
    rintro _ ⟨⟩
    refine everyStep_cons_iff.mpr ⟨skippedTakeNothing_of_le (Nat.le_succ 1), ?_⟩
    rintro _ ⟨⟩
    refine everyStep_cons_iff.mpr ⟨skippedTakeNothing_of_le (Nat.le_refl 2), ?_⟩
    rintro _ ⟨⟩
    exact EveryStep.nil
  exact (failsClosed_of_skipped hskipped).1

end MissedRevocation

end MessagingRelayer
