import MessagingRelayer.Foundation.Redelivery
import MessagingRelayer.Services.Subscription

/-!
# Redelivered checkpoints

Streams may deliver a checkpoint again, at any time after its first delivery and any number of
times. Applying an event twice is not harmless: a member who is added again loses its permissions,
and a grant that is applied again undoes a later revocation. The service skips what is not above its
last cursor, so it is a consumer in the sense of `Foundation.Consumer` (`consumer_handleResponse`),
and `appliedOnce_of_redelivery` says that every checkpoint through the last cursor is applied once.
-/

set_option autoImplicit false
set_option relaxedAutoImplicit false

namespace MessagingRelayer

open Foundation

/-- The first deliveries are those of consecutive checkpoints, from `first` on. -/
def RedeliveredFrom (first : Nat) (cursors : List Nat) : Prop :=
  ∃ count, cursors.eraseDups = List.range' first count

theorem RedeliveredFrom.firstDeliveriesIncrease {first : Nat} {cursors : List Nat}
    (hredelivered : RedeliveredFrom first cursors) : FirstDeliveriesIncrease cursors := by
  obtain ⟨count, hcount⟩ := hredelivered
  unfold FirstDeliveriesIncrease
  rw [hcount]
  exact List.pairwise_lt_range'

/-- What was delivered so far is redelivered in the same way. -/
theorem RedeliveredFrom.of_append {first : Nat} {past rest : List Nat}
    (hredelivered : RedeliveredFrom first (past ++ rest)) : RedeliveredFrom first past := by
  obtain ⟨count, hcount⟩ := hredelivered
  rw [List.eraseDups_append] at hcount
  obtain ⟨firsts, -, hpast, -⟩ := List.range'_eq_append_iff.mp hcount.symm
  exact ⟨firsts, hpast⟩

namespace MembershipSyncService

section Chain

variable (libs : Externals) (groupsPackageId : String) (chain : Nat → Checkpoint)
  (start : InMemoryMembershipStore) (first : Nat)

/-- After these deliveries the last cursor is the highest of them, and the store has every Groups
event of the checkpoints from the first one through the last cursor applied once, in order. -/
def AppliedOnce (cursors : List Nat) (service : MembershipSyncService) : Prop :=
  match service.lastCursor with
  | none => cursors = [] ∧ service.membershipStore = start
  | some last =>
    (last ∈ cursors ∧ ∀ cursor ∈ cursors, first ≤ cursor ∧ cursor ≤ last) ∧
      service.membershipStore =
        start.applyEvents (chainEvents libs groupsPackageId chain first (last + 1 - first))

/-- The service as a consumer of checkpoints. -/
def consumer (service : MembershipSyncService) : Consumer InMemoryMembershipStore Nat :=
  ⟨service.membershipStore, service.lastCursor⟩

/-- What a checkpoint of the chain makes of a store. -/
def applyCheckpoint (store : InMemoryMembershipStore) (cursor : Nat) : InMemoryMembershipStore :=
  store.applyEvents ((chain cursor).groupsEvents libs groupsPackageId)

theorem passed_consumer_iff (service : MembershipSyncService) (cursor : Nat) :
    service.consumer.Passed cursor ↔ cursor < service.nextExpected := by
  unfold Consumer.Passed consumer nextExpected
  cases service.lastCursor with
  | none => simp
  | some last => simp

/-- The service takes a delivered checkpoint as a consumer does, and keeps its package. -/
theorem consumer_handleResponse (service : MembershipSyncService) (cursor : Nat) :
    (service.handleResponse libs (chainResponse chain cursor)).consumer =
        service.consumer.take (applyCheckpoint libs service.groupsPackageId chain) cursor ∧
      (service.handleResponse libs (chainResponse chain cursor)).groupsPackageId =
        service.groupsPackageId := by
  rw [handleResponse_chainResponse]
  unfold Consumer.take
  by_cases hskip : cursor < service.nextExpected
  · rw [if_pos hskip, if_pos ((service.passed_consumer_iff cursor).mpr hskip)]
    exact ⟨rfl, rfl⟩
  · rw [if_neg hskip, if_neg fun hpassed ↦ hskip ((service.passed_consumer_iff cursor).mp hpassed)]
    exact ⟨rfl, rfl⟩

theorem consumer_foldl_handleResponse (service : MembershipSyncService) (cursors : List Nat) :
    ((cursors.map (chainResponse chain)).foldl (handleResponse libs) service).consumer =
      cursors.foldl (Consumer.take (applyCheckpoint libs service.groupsPackageId chain))
        service.consumer := by
  induction cursors generalizing service with
  | nil => rfl
  | cons cursor rest ih =>
    obtain ⟨htake, hpackage⟩ := consumer_handleResponse libs chain service cursor
    rw [List.map_cons, List.foldl_cons, List.foldl_cons, ih, htake, hpackage]

/-- Checkpoints applied one after the other apply their events one after the other. -/
theorem foldl_applyCheckpoint (count : Nat) :
    (List.range' first count).foldl (applyCheckpoint libs groupsPackageId chain) start =
      start.applyEvents (chainEvents libs groupsPackageId chain first count) := by
  unfold chainEvents InMemoryMembershipStore.applyEvents
  rw [List.foldl_flatMap]
  rfl

/-- What a stream has delivered so far, it delivers first. -/
theorem delivered_prefix (current unread : List (Except String SubscribeCheckpointsResponse)) :
    delivered current <+: delivered (current ++ unread) := by
  induction current with
  | nil => exact List.nil_prefix
  | cons item rest ih =>
    cases item with
    | error err => exact List.prefix_refl []
    | ok response => exact List.cons_prefix_cons.mpr ⟨rfl, ih⟩

variable {libs groupsPackageId chain start first}

/-- Assumes: redelivered checkpoints of the chain. The responses delivered so far have every
checkpoint applied once. -/
theorem appliedOnce_foldl {cursors : List Nat} (hredelivered : RedeliveredFrom first cursors) :
    AppliedOnce libs groupsPackageId chain start first cursors
      ((cursors.map (chainResponse chain)).foldl (handleResponse libs)
        (new groupsPackageId start)) := by
  have hconsumer := consumer_foldl_handleResponse libs chain (new groupsPackageId start) cursors
  have htaken : cursors.foldl (Consumer.take (applyCheckpoint libs groupsPackageId chain))
      (new groupsPackageId start).consumer = _ :=
    foldl_take (applyCheckpoint libs groupsPackageId chain) start
      hredelivered.firstDeliveriesIncrease
  rw [show (new groupsPackageId start).groupsPackageId = groupsPackageId from rfl, htaken]
    at hconsumer
  generalize (cursors.map (chainResponse chain)).foldl (handleResponse libs)
    (new groupsPackageId start) = service at hconsumer ⊢
  obtain ⟨hstore, hlast⟩ := Consumer.mk.inj hconsumer
  obtain ⟨count, hcount⟩ := hredelivered
  have hmem : ∀ cursor, cursor ∈ cursors ↔ first ≤ cursor ∧ cursor < first + count := by
    intro cursor
    rw [← List.mem_eraseDups, hcount, List.mem_range'_1]
  rw [hcount, foldl_applyCheckpoint] at hstore
  rw [hcount] at hlast
  unfold AppliedOnce
  cases count with
  | zero =>
    rw [hlast]
    exact ⟨List.eq_nil_iff_forall_not_mem.mpr fun cursor hcursor ↦ by
      have hrange := (hmem cursor).mp hcursor
      omega, hstore⟩
  | succ count =>
    rw [List.range'_1_concat, List.getLast?_concat] at hlast
    rw [hlast]
    have hevents : first + count + 1 - first = count + 1 := by omega
    refine ⟨⟨(hmem _).mpr ⟨by omega, by omega⟩, fun cursor hcursor ↦ ?_⟩, ?_⟩
    · have hrange := (hmem cursor).mp hcursor
      exact ⟨hrange.1, by omega⟩
    · rw [hevents]
      exact hstore

/-- Assumes: streams whose responses are redelivered checkpoints of the chain. When the service has
run over its streams, and whenever it has read some of one stream after leaving those before it, the
store has every checkpoint through the last cursor applied once. -/
theorem appliedOnce_of_redelivery
    {streams : List (List (Except String SubscribeCheckpointsResponse))} {cursors : List Nat}
    (hdelivered : streams.flatMap delivered = cursors.map (chainResponse chain))
    (hredelivered : RedeliveredFrom first cursors) :
    AppliedOnce libs groupsPackageId chain start first cursors
        ((new groupsPackageId start).run libs streams) ∧
      ∀ left current unread later, streams = left ++ (current ++ unread) :: later →
        ∃ past rest, cursors = past ++ rest ∧
          (left ++ [current]).flatMap delivered = past.map (chainResponse chain) ∧
          AppliedOnce libs groupsPackageId chain start first past
            ((new groupsPackageId start).run libs (left ++ [current])) := by
  constructor
  · rw [run_eq_foldl, hdelivered]
    exact appliedOnce_foldl hredelivered
  · rintro left current unread later rfl
    obtain ⟨more, hmore⟩ := delivered_prefix current unread
    have hsplit : cursors.map (chainResponse chain) =
        (left ++ [current]).flatMap delivered ++ (more ++ later.flatMap delivered) := by
      rw [← hdelivered]
      simp [← hmore]
    obtain ⟨past, rest, rfl, hpast, -⟩ := List.map_eq_append_iff.mp hsplit
    refine ⟨past, rest, rfl, hpast.symm, ?_⟩
    rw [run_eq_foldl, ← hpast]
    exact appliedOnce_foldl hredelivered.of_append

end Chain

section Sample

/-- The first stream fails after two checkpoints; the second starts over, repeats the grant after
the revocation, and fails; the third repeats the revocation. -/
def redeliveringStreams : List (List (Except String SubscribeCheckpointsResponse)) :=
  [[.ok (chainResponse sampleChain 0), .ok (chainResponse sampleChain 1),
      .error "transport error"],
    [.ok (chainResponse sampleChain 0), .ok (chainResponse sampleChain 1),
      .ok (chainResponse sampleChain 2), .ok (chainResponse sampleChain 1),
      .error "transport error"],
    [.ok (chainResponse sampleChain 2), .ok (chainResponse sampleChain 3)]]

theorem appliedOnce_redeliveringStreams :
    AppliedOnce sampleBcs samplePackage sampleChain .new 0 [0, 1, 0, 1, 2, 1, 2, 3]
      ((new samplePackage .new).run sampleBcs redeliveringStreams) := by
  have hredelivered : RedeliveredFrom 0 [0, 1, 0, 1, 2, 1, 2, 3] := ⟨4, by decide⟩
  exact (appliedOnce_of_redelivery rfl hredelivered).1

end Sample

end MembershipSyncService

end MessagingRelayer
