import MessagingRelayer.Storage.Concurrent

/-!
# Order numbers

The counter of a group is the number of calls of `create_message` that took an order number in it,
whatever has become of them (`lastOrder_of_accesses`). So a 64-bit counter does not overflow before
that many calls, and within this bound the order numbers of the stored messages lie between one and
the counter, differ within a group, and stay what `create_message` returned (`orders_stable`).
-/

set_option autoImplicit false
set_option relaxedAutoImplicit false

namespace MessagingRelayer

open Foundation

/-- The access takes an order number in the group. -/
def StorageAccess.takesOrder (groupId : String) : StorageAccess → Bool
  | .takeOrder _ message => message.groupId == groupId
  | _ => false

/-- How often an order number of the group was taken. -/
def ordersTaken (groupId : String) (accesses : List StorageAccess) : Nat :=
  accesses.countP (·.takesOrder groupId)

/-- Every message with an order number has a positive one. -/
def Numbered (shared : SharedStorage) : Prop :=
  ∀ holder message, shared.holds holder = some message →
    ∃ order, message.order = some order ∧ 1 ≤ order

/-- In every run of accesses the nonces are those of the stored messages, each of one message. -/
theorem nonceIndexed_of_accesses {polled : String} {accesses : List StorageAccess}
    {after : SharedStorage} (hrun : SharedStorage.run polled accesses = some after) :
    after.storage.NonceIndexed := by
  refine invariant_of_run (fun reached ↦ reached.storage.NonceIndexed)
    InMemoryStorage.nonceIndexed_new ?_ hrun
  intro before access after hindexed hstep
  cases access with
  | takeOrder call message =>
    simp only [SharedStorage.step] at hstep
    split at hstep
    · simp at hstep
    · rw [← Option.some.inj hstep]
      exact hindexed.with_orders _
  | insert call =>
    simp only [SharedStorage.step] at hstep
    split at hstep
    · simp at hstep
    · rw [← Option.some.inj hstep]
      exact hindexed.insertMessage _
  | updateMessage id content now =>
    rw [← Option.some.inj hstep]
    exact hindexed.updateMessage id content now
  | deleteMessage id now =>
    rw [← Option.some.inj hstep]
    exact hindexed.deleteMessage id now
  | updateSyncStatus id status quiltPatchId now =>
    rw [← Option.some.inj hstep]
    exact hindexed.updateSyncStatus id status quiltPatchId now
  | poll listing limit =>
    simp only [SharedStorage.step] at hstep
    split_ifs at hstep with hlisting
    rw [← Option.some.inj hstep]
    exact hindexed

/-- After the accesses, stored messages have order numbers between one and the counter of their
group, which fits 64 bits; messages of one group have different ones; and a message has the order
number that `create_message` returned for it. -/
structure OrdersStable (polled : String) (accesses : List StorageAccess) (after : SharedStorage) :
    Prop where
  bounded : ∀ id message, after.storage.messages.lookup id = some message → ∃ order last,
    message.order = some order ∧ after.storage.groupOrders.lookup message.groupId = some last ∧
      1 ≤ order ∧ order ≤ last ∧ last < 2 ^ 63 - 1
  distinct : ∀ first second message other, after.storage.messages.lookup first = some message →
    after.storage.messages.lookup second = some other → message.groupId = other.groupId →
      first ≠ second → message.order ≠ other.order
  returned : ∀ past call rest before message created, accesses = past ++ .insert call :: rest →
    SharedStorage.run polled past = some before → before.creating.lookup call = some message →
      (before.storage.insertMessage message).1 = .ok created →
        ∃ stored, after.storage.messages.lookup created.id = some stored ∧
          stored.order = created.order

section Orders

variable {polled : String} {before after : SharedStorage} {access : StorageAccess}
  {accesses : List StorageAccess}

/-- Only taking an order number moves a counter, and by one. -/
theorem lastOrder_of_access (hstep : before.step polled access = some after) (groupId : String) :
    after.storage.lastOrder groupId =
      before.storage.lastOrder groupId + if access.takesOrder groupId then 1 else 0 := by
  cases access with
  | takeOrder call message =>
    simp only [SharedStorage.step] at hstep
    split at hstep
    · simp at hstep
    · rw [← Option.some.inj hstep]
      show (before.storage.nextOrder message.groupId).2.lastOrder groupId = _
      rw [lastOrder_nextOrder]
      by_cases hgroup : message.groupId = groupId
      · simp [StorageAccess.takesOrder, hgroup]
      · simp [StorageAccess.takesOrder, hgroup, Ne.symm hgroup]
  | insert call =>
    simp only [SharedStorage.step] at hstep
    split at hstep
    · simp at hstep
    case h_2 message hcall =>
      rw [← Option.some.inj hstep]
      rcases before.storage.insertMessage_cases message with ⟨err, hresult, -⟩ | ⟨-, -, hresult⟩
      · rw [hresult]
        exact (add_zero _).symm
      · rw [hresult]
        exact (add_zero _).symm
  | updateMessage id content now =>
    rw [← Option.some.inj hstep]
    exact (lastOrder_congr (before.storage.groupOrders_updateMessage id content now) groupId).trans
      (add_zero _).symm
  | deleteMessage id now =>
    rw [← Option.some.inj hstep]
    exact (lastOrder_congr (before.storage.groupOrders_deleteMessage id now) groupId).trans
      (add_zero _).symm
  | updateSyncStatus id status quiltPatchId now =>
    rw [← Option.some.inj hstep]
    exact (lastOrder_congr
      (before.storage.groupOrders_updateSyncStatus id status quiltPatchId now) groupId).trans
      (add_zero _).symm
  | poll listing limit =>
    simp only [SharedStorage.step] at hstep
    split_ifs at hstep with hlisting
    rw [← Option.some.inj hstep]
    exact (add_zero _).symm

/-- The counter of a group is the number of calls that took an order number in it. -/
theorem lastOrder_of_accesses (hrun : SharedStorage.run polled accesses = some after)
    (groupId : String) : after.storage.lastOrder groupId = ordersTaken groupId accesses := by
  refine history_induction
    (fun past reached ↦ reached.storage.lastOrder groupId = (ordersTaken groupId past : Int)) ?_ ?_
    hrun
  · rfl
  · intro past before access after _ htaken hstep
    rw [lastOrder_of_access hstep, htaken, ordersTaken, ordersTaken, List.countP_append,
      List.countP_singleton]
    by_cases htakes : access.takesOrder groupId = true <;> simp [htakes]

/-- A message that waits to be stored waited before, or it has just taken the next order number of
its group. -/
theorem creating_of_access (hstep : before.step polled access = some after) {call : CallId}
    {message : Message} (hcall : after.creating.lookup call = some message) :
    before.creating.lookup call = some message ∨ ∃ ordered, access = .takeOrder call ordered ∧
      message = ordered.setOrder (before.storage.lastOrder ordered.groupId + 1) := by
  cases access with
  | takeOrder other ordered =>
    simp only [SharedStorage.step] at hstep
    split at hstep
    · simp at hstep
    · rw [← Option.some.inj hstep, HashMap.lookup_insert_eq] at hcall
      by_cases hsame : call = other
      · rw [if_pos hsame, nextOrder_eq] at hcall
        exact Or.inr ⟨ordered, by rw [hsame], (Option.some.inj hcall).symm⟩
      · rw [if_neg hsame] at hcall
        exact Or.inl hcall
  | insert other =>
    simp only [SharedStorage.step] at hstep
    split at hstep
    · simp at hstep
    · rw [← Option.some.inj hstep] at hcall
      exact Or.inl (HashMap.lookup_erase_eq_some hcall).2
  | updateMessage id content now =>
    rw [← Option.some.inj hstep] at hcall
    exact Or.inl hcall
  | deleteMessage id now =>
    rw [← Option.some.inj hstep] at hcall
    exact Or.inl hcall
  | updateSyncStatus id status quiltPatchId now =>
    rw [← Option.some.inj hstep] at hcall
    exact Or.inl hcall
  | poll listing limit =>
    simp only [SharedStorage.step] at hstep
    split_ifs at hstep with hlisting
    rw [← Option.some.inj hstep] at hcall
    exact Or.inl hcall

theorem numbered_of_access (hnumbered : Numbered before)
    (hpositive : ∀ groupId, 0 ≤ before.storage.lastOrder groupId)
    (hstep : before.step polled access = some after) : Numbered after := by
  rintro (id | call) message hholds
  · rcases stored_of_access hstep hholds with ⟨stored, hstored, hidentity⟩ |
      ⟨⟨call, -, hcall, -⟩, -⟩
    · have horder : stored.order = message.order := congrArg Message.Identity.order hidentity
      rw [← horder]
      exact hnumbered (.inl id) stored hstored
    · exact hnumbered (.inr call) message hcall
  · rcases creating_of_access hstep hholds with hcreating | ⟨ordered, -, rfl⟩
    · exact hnumbered (.inr call) message hcreating
    · have hlast := hpositive ordered.groupId
      exact ⟨_, rfl, by omega⟩

theorem numbered_of_accesses (hrun : SharedStorage.run polled accesses = some after) :
    Numbered after := by
  refine history_induction (fun _ reached ↦ Numbered reached) ?_ ?_ hrun
  · rintro (id | call) message hholds
    · simp [SharedStorage.holds, SharedStorage.init, InMemoryStorage.new] at hholds
    · simp [SharedStorage.holds, SharedStorage.init] at hholds
  · intro past before access after hpast hnumbered hstep
    refine numbered_of_access hnumbered (fun groupId ↦ ?_) hstep
    rw [lastOrder_of_accesses hpast]
    exact Int.natCast_nonneg _

/-- Assumes: in every group fewer than `2 ^ 63 - 1` calls take an order number, so that no counter
overflows. -/
theorem orders_stable (hrun : SharedStorage.run polled accesses = some after)
    (hfew : ∀ groupId, ordersTaken groupId accesses < 2 ^ 63 - 1) :
    OrdersStable polled accesses after := by
  have hissued := ordersIssued_of_accesses hrun
  constructor
  · intro id message hlookup
    obtain ⟨order, horder, hpositive⟩ := numbered_of_accesses hrun (.inl id) message hlookup
    have hle := hissued.le_last (.inl id) message hlookup
    have hlast := lastOrder_of_accesses hrun message.groupId
    have hbound := hfew message.groupId
    rw [horder] at hle
    unfold InMemoryStorage.lastOrder at hle hlast
    cases hcounter : after.storage.groupOrders.lookup message.groupId with
    | none =>
      rw [hcounter] at hle
      simp only [Option.getD_some, Option.getD_none] at hle
      omega
    | some last =>
      rw [hcounter] at hle hlast
      simp only [Option.getD_some] at hle hlast
      exact ⟨order, last, horder, rfl, hpositive, hle, by omega⟩
  · intro first second message other hfirst hsecond hgroup hdifferent horder
    exact hdifferent (Sum.inl.inj (hissued.distinct (.inl first) (.inl second) message other hfirst
      hsecond hgroup (by rw [horder])))
  · rintro past call rest before message created rfl hpast hcall hok
    rcases before.storage.insertMessage_cases message with ⟨err, hresult, -⟩ |
      ⟨hid, hnonce, hresult⟩
    · simp [hresult] at hok
    · obtain rfl : message = created := by simpa [hresult] using hok
      obtain ⟨middle, hmiddle, hrest⟩ := runFrom_append_eq_some.mp hrun
      obtain rfl : before = middle := Option.some.inj (hpast.symm.trans hmiddle)
      obtain ⟨next, hnext, hlater⟩ := Option.bind_eq_some_iff.mp hrest
      obtain ⟨reached, hreached, hstored⟩ := step_of_stores ⟨call, rfl, hcall, hid, hnonce⟩
      obtain rfl : reached = next := Option.some.inj (hreached.symm.trans hnext)
      obtain ⟨stored, hlookup, hidentity⟩ := identityKept_of_accesses hlater message.id message
        hstored
      exact ⟨stored, hlookup, congrArg Message.Identity.order hidentity⟩

/-- Two calls cross, and the first is still to store its message. -/
theorem ordersStable_crossing : OrdersStable "0x0a" crossing crossedStorage :=
  orders_stable run_crossing fun _ ↦ lt_of_le_of_lt List.countP_le_length (by decide)

end Orders

end MessagingRelayer
