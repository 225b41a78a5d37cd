import MessagingRelayer.Handlers.Messages
import MessagingRelayer.Storage.Invariants

/-!
# The storage of one group

A storage restricted to a group has the messages of the group and its order counter
(`RestrictsTo`). The messages agree in what they were stored with and in their content, not in what
archiving leaves on them. An operation on the group does the same to both storages, as long as no
message of another group has the nonce or the identifier at hand (`restrictsTo_insertMessage` and
its siblings), and a page of the group shows the same messages (`exists_listing`,
`getMessagesByGroup_map`).
-/

set_option autoImplicit false
set_option relaxedAutoImplicit false

namespace MessagingRelayer

open Foundation

/-! ### Messages apart from archiving -/

/-- The messages are one apart from what archiving leaves on them. -/
structure Message.SameText (first second : Message) : Prop where
  identity : first.identity = second.identity
  content : first.content = second.content

namespace Message.SameText

variable {first second third : Message}

theorem refl (message : Message) : message.SameText message :=
  ⟨rfl, rfl⟩

theorem symm (hsame : first.SameText second) : second.SameText first :=
  ⟨hsame.identity.symm, hsame.content.symm⟩

theorem trans (hfirst : first.SameText second) (hsecond : second.SameText third) :
    first.SameText third :=
  ⟨hfirst.identity.trans hsecond.identity, hfirst.content.trans hsecond.content⟩

theorem id (hsame : first.SameText second) : first.id = second.id :=
  congrArg Identity.id hsame.identity

theorem groupId (hsame : first.SameText second) : first.groupId = second.groupId :=
  congrArg Identity.groupId hsame.identity

theorem order (hsame : first.SameText second) : first.order = second.order :=
  congrArg Identity.order hsame.identity

theorem senderWalletAddr (hsame : first.SameText second) :
    first.senderWalletAddr = second.senderWalletAddr :=
  congrArg Identity.senderWalletAddr hsame.identity

theorem nonce (hsame : first.SameText second) : first.nonce = second.nonce :=
  congrArg MessageContent.nonce hsame.content

end Message.SameText

namespace InMemoryStorage

/-- The second storage is the first one with the messages and the counter of the group only. -/
structure RestrictsTo (groupId : String) (whole part : InMemoryStorage) : Prop where
  kept : ∀ id message, whole.messages.lookup id = some message → message.groupId = groupId →
    ∃ own, part.messages.lookup id = some own ∧ message.SameText own
  only : ∀ id own, part.messages.lookup id = some own → ∃ message,
    whole.messages.lookup id = some message ∧ message.groupId = groupId ∧ message.SameText own
  order : part.groupOrders.lookup groupId = whole.groupOrders.lookup groupId

/-- No message of another group has the nonce. -/
def NonceUnclashed (whole : InMemoryStorage) (groupId : String) (nonce : List UInt8) : Prop :=
  ∀ id other, whole.messages.lookup id = some other → other.groupId ≠ groupId →
    other.nonce ≠ nonce

/-- No message of another group has the identifier. -/
def IdUnclashed (whole : InMemoryStorage) (groupId : String) (id : Uuid) : Prop :=
  ∀ other, whole.messages.lookup id = some other → other.groupId = groupId

/-- For the group, nothing changes at this identifier: what is there is another group's, or it is
the message with its text. -/
def KeepsGroup (groupId : String) (before after : Option Message) : Prop :=
  after = before ∨
    (∃ message later, before = some message ∧ after = some later ∧ message.SameText later) ∨
    (∀ message, before = some message → message.groupId ≠ groupId) ∧
      ∀ message, after = some message → message.groupId ≠ groupId

section Restriction

variable {groupId : String} {whole part later : InMemoryStorage}

theorem restrictsTo_new : RestrictsTo groupId .new .new where
  kept id message hlookup := by simp [new] at hlookup
  only id own hlookup := by simp [new] at hlookup
  order := rfl

/-- Changes to other groups, and archiving, leave the restriction as it is. -/
theorem RestrictsTo.of_keepsGroup (hrestricts : RestrictsTo groupId whole part)
    (horder : later.groupOrders.lookup groupId = whole.groupOrders.lookup groupId)
    (hkeeps : ∀ id, KeepsGroup groupId (whole.messages.lookup id) (later.messages.lookup id)) :
    RestrictsTo groupId later part where
  kept id message hlookup hgroup := by
    rcases hkeeps id with hsame | ⟨earlier, found, hearlier, hfound, hsame⟩ | ⟨-, hforeign⟩
    · exact hrestricts.kept id message (hsame ▸ hlookup) hgroup
    · obtain rfl := Option.some.inj (hlookup.symm.trans hfound)
      obtain ⟨own, hown, htext⟩ := hrestricts.kept id earlier hearlier (hsame.groupId.trans hgroup)
      exact ⟨own, hown, hsame.symm.trans htext⟩
    · exact absurd hgroup (hforeign message hlookup)
  only id own hlookup := by
    obtain ⟨message, hmessage, hgroup, htext⟩ := hrestricts.only id own hlookup
    rcases hkeeps id with hsame | ⟨earlier, found, hearlier, hfound, hsame⟩ | ⟨hforeign, -⟩
    · exact ⟨message, hsame.trans hmessage, hgroup, htext⟩
    · obtain rfl := Option.some.inj (hmessage.symm.trans hearlier)
      exact ⟨found, hfound, hsame.groupId.symm.trans hgroup, hsame.symm.trans htext⟩
    · exact absurd hgroup (hforeign message hmessage)
  order := hrestricts.order.trans horder.symm

/-- A message of the group that is stored in both storages, with whatever nonces. -/
theorem RestrictsTo.insert (hrestricts : RestrictsTo groupId whole part) {message own : Message}
    (id : Uuid) (nonces ownNonces : Finset (List UInt8)) (hgroup : message.groupId = groupId)
    (hsame : message.SameText own) :
    RestrictsTo groupId
      { whole with nonces := nonces, messages := whole.messages.insert id message }
      { part with nonces := ownNonces, messages := part.messages.insert id own } where
  kept other found hlookup hfound := by
    simp only [HashMap.lookup_insert_eq] at hlookup ⊢
    by_cases hid : other = id
    · rw [if_pos hid] at hlookup ⊢
      obtain rfl := Option.some.inj hlookup
      exact ⟨own, rfl, hsame⟩
    · rw [if_neg hid] at hlookup ⊢
      exact hrestricts.kept other found hlookup hfound
  only other found hlookup := by
    simp only [HashMap.lookup_insert_eq] at hlookup ⊢
    by_cases hid : other = id
    · rw [if_pos hid] at hlookup ⊢
      obtain rfl := Option.some.inj hlookup
      exact ⟨message, rfl, hgroup, hsame⟩
    · rw [if_neg hid] at hlookup ⊢
      exact hrestricts.only other found hlookup
  order := hrestricts.order

/-- A nonce that no other group has is in use in both storages or in none. -/
theorem RestrictsTo.nonce_iff (hrestricts : RestrictsTo groupId whole part)
    (hwhole : whole.NonceIndexed) (hpart : part.NonceIndexed) {nonce : List UInt8}
    (hunclashed : whole.NonceUnclashed groupId nonce) :
    nonce ∈ whole.nonces ↔ nonce ∈ part.nonces := by
  rw [hwhole.indexed, hpart.indexed]
  constructor
  · rintro ⟨id, message, hlookup, hnonce⟩
    by_cases hgroup : message.groupId = groupId
    · obtain ⟨own, hown, hsame⟩ := hrestricts.kept id message hlookup hgroup
      exact ⟨id, own, hown, hsame.nonce.symm.trans hnonce⟩
    · exact absurd hnonce (hunclashed id message hlookup hgroup)
  · rintro ⟨id, own, hlookup, hnonce⟩
    obtain ⟨message, hmessage, -, hsame⟩ := hrestricts.only id own hlookup
    exact ⟨id, message, hmessage, hsame.nonce.trans hnonce⟩

/-- What the two storages have under an identifier: nothing, the same message of the group, or a
message of another group in the whole storage alone. -/
theorem RestrictsTo.lookup_cases (hrestricts : RestrictsTo groupId whole part) (id : Uuid) :
    (whole.messages.lookup id = none ∧ part.messages.lookup id = none) ∨
    (∃ message own, whole.messages.lookup id = some message ∧
      part.messages.lookup id = some own ∧ message.groupId = groupId ∧ message.SameText own) ∨
    ∃ message, whole.messages.lookup id = some message ∧ part.messages.lookup id = none ∧
      message.groupId ≠ groupId := by
  cases hpart : part.messages.lookup id with
  | some own =>
    obtain ⟨message, hmessage, hgroup, hsame⟩ := hrestricts.only id own hpart
    exact Or.inr (Or.inl ⟨message, own, hmessage, rfl, hgroup, hsame⟩)
  | none =>
    cases hwhole : whole.messages.lookup id with
    | none => exact Or.inl ⟨rfl, rfl⟩
    | some message =>
      refine Or.inr (Or.inr ⟨message, rfl, rfl, fun hgroup ↦ ?_⟩)
      obtain ⟨own, hown, -⟩ := hrestricts.kept id message hwhole hgroup
      simp [hpart] at hown

/-! ### Operations on the group -/

/-- The group gets one order number in both storages. -/
theorem restrictsTo_nextOrder (hrestricts : RestrictsTo groupId whole part) :
    (part.nextOrder groupId).1 = (whole.nextOrder groupId).1 ∧
      RestrictsTo groupId (whole.nextOrder groupId).2 (part.nextOrder groupId).2 := by
  have hnext : (part.nextOrder groupId).1 = (whole.nextOrder groupId).1 := by
    unfold nextOrder
    rw [hrestricts.order]
  refine ⟨hnext, hrestricts.kept, hrestricts.only, ?_⟩
  show (Finmap.insert groupId (part.nextOrder groupId).1 part.groupOrders).lookup groupId =
    (Finmap.insert groupId (whole.nextOrder groupId).1 whole.groupOrders).lookup groupId
  rw [Finmap.lookup_insert, Finmap.lookup_insert, hnext]

/-- Assumes: a message of the group whose identifier and nonce no other group has. Both storages
take it, or both refuse it with one error. -/
theorem restrictsTo_insertMessage (hrestricts : RestrictsTo groupId whole part)
    (hwhole : whole.NonceIndexed) (hpart : part.NonceIndexed) {message : Message}
    (hgroup : message.groupId = groupId) (hid : whole.IdUnclashed groupId message.id)
    (hnonce : whole.NonceUnclashed groupId message.nonce) :
    (part.insertMessage message).1 = (whole.insertMessage message).1 ∧
      RestrictsTo groupId (whole.insertMessage message).2 (part.insertMessage message).2 := by
  have htaken : (whole.messages.lookup message.id).isSome ↔
      (part.messages.lookup message.id).isSome := by
    simp only [Option.isSome_iff_exists]
    constructor
    · rintro ⟨other, hother⟩
      obtain ⟨own, hown, -⟩ := hrestricts.kept _ other hother (hid other hother)
      exact ⟨own, hown⟩
    · rintro ⟨own, hown⟩
      obtain ⟨other, hother, -⟩ := hrestricts.only _ own hown
      exact ⟨other, hother⟩
  have hused := hrestricts.nonce_iff hwhole hpart hnonce
  unfold insertMessage
  by_cases hfound : (whole.messages.lookup message.id).isSome
  · rw [if_pos hfound, if_pos (htaken.mp hfound)]
    exact ⟨rfl, hrestricts⟩
  · rw [if_neg hfound, if_neg (htaken.not.mp hfound)]
    by_cases hmem : message.nonce ∈ whole.nonces
    · rw [if_pos hmem, if_pos (hused.mp hmem)]
      exact ⟨rfl, hrestricts⟩
    · rw [if_neg hmem, if_neg (hused.not.mp hmem)]
      exact ⟨rfl, hrestricts.insert message.id _ _ hgroup (.refl message)⟩

/-- Assumes: a message of the group, and a nonce that no other group has. Both storages change the
message, or both refuse to with one error. -/
theorem restrictsTo_updateMessage (hrestricts : RestrictsTo groupId whole part)
    (hwhole : whole.NonceIndexed) (hpart : part.NonceIndexed) {id : Uuid} {message : Message}
    {content : MessageContent} (now : DateTime)
    (hlookup : whole.messages.lookup id = some message) (hgroup : message.groupId = groupId)
    (hnonce : whole.NonceUnclashed groupId content.nonce) :
    (part.updateMessage id content now).1.map (fun _ ↦ ()) =
        (whole.updateMessage id content now).1.map (fun _ ↦ ()) ∧
      RestrictsTo groupId (whole.updateMessage id content now).2
        (part.updateMessage id content now).2 := by
  obtain ⟨own, hown, hsame⟩ := hrestricts.kept id message hlookup hgroup
  have hused := hrestricts.nonce_iff hwhole hpart hnonce
  unfold updateMessage
  rw [hlookup, hown]
  simp only [hsame.nonce, hused]
  by_cases hrefused : own.nonce ≠ content.nonce ∧ content.nonce ∈ part.nonces
  · rw [if_pos hrefused, if_pos hrefused]
    exact ⟨rfl, hrestricts⟩
  · rw [if_neg hrefused, if_neg hrefused]
    exact ⟨rfl, hrestricts.insert id _ _ hgroup ⟨hsame.identity, rfl⟩⟩

/-- Assumes: a message of the group. Both storages mark it. -/
theorem restrictsTo_deleteMessage (hrestricts : RestrictsTo groupId whole part) {id : Uuid}
    {message : Message} (now : DateTime) (hlookup : whole.messages.lookup id = some message)
    (hgroup : message.groupId = groupId) :
    (part.deleteMessage id now).1.map (fun _ ↦ ()) =
        (whole.deleteMessage id now).1.map (fun _ ↦ ()) ∧
      RestrictsTo groupId (whole.deleteMessage id now).2 (part.deleteMessage id now).2 := by
  obtain ⟨own, hown, hsame⟩ := hrestricts.kept id message hlookup hgroup
  unfold deleteMessage
  rw [hlookup, hown]
  exact ⟨rfl, hrestricts.insert id _ _ hgroup ⟨hsame.identity, hsame.content⟩⟩

/-! ### Reads of the group -/

/-- A walk over the restricted storage meets what a walk over the whole one meets of the group. -/
theorem exists_listing (hrestricts : RestrictsTo groupId whole part)
    (hwhole : whole.NonceIndexed) (hpart : part.NonceIndexed) {listing : List Message}
    (hlisting : whole.messages.IterationOrder listing) : ∃ counterpart : Message → Message,
      (∀ message ∈ listing, message.groupId = groupId → message.SameText (counterpart message)) ∧
      part.messages.IterationOrder
        ((listing.filter (·.groupId == groupId)).map counterpart) := by
  have hfound {message : Message} (hmem : message ∈ listing) (hgroup : message.groupId = groupId) :
      ∃ own, part.messages.lookup message.id = some own ∧ message.SameText own := by
    obtain ⟨id, hlookup⟩ := hlisting.mem_iff.mp hmem
    obtain rfl := hwhole.filed id message hlookup
    exact hrestricts.kept _ message hlookup hgroup
  refine ⟨fun message ↦ (part.messages.lookup message.id).getD message, ?_, ?_⟩
  · intro message hmem hgroup
    obtain ⟨own, hown, hsame⟩ := hfound hmem hgroup
    show message.SameText ((part.messages.lookup message.id).getD message)
    rw [hown]
    exact hsame
  · obtain ⟨walk, hwalk⟩ := HashMap.exists_iterationOrder part.messages
    have hids : ((listing.filter (·.groupId == groupId)).map fun message ↦
        (part.messages.lookup message.id).getD message).map Message.id =
          (listing.filter (·.groupId == groupId)).map Message.id := by
      rw [List.map_map]
      refine List.map_congr_left fun message hmem ↦ ?_
      obtain ⟨hlisted, hgroup⟩ := List.mem_filter.mp hmem
      obtain ⟨own, hown, hsame⟩ := hfound hlisted (beq_iff_eq.mp hgroup)
      show ((part.messages.lookup message.id).getD message).id = message.id
      rw [hown]
      exact hsame.id.symm
    have hnodup : ((listing.filter (·.groupId == groupId)).map fun message ↦
        (part.messages.lookup message.id).getD message).Nodup := by
      refine List.Nodup.of_map Message.id ?_
      rw [hids]
      exact (hlisting.nodup_map Message.id hwhole.filed).sublist (List.filter_sublist.map _)
    have hwalked : walk.Nodup :=
      List.Nodup.of_map Message.id (hwalk.nodup_map Message.id hpart.filed)
    refine Eq.trans (Multiset.coe_eq_coe.mpr ?_) hwalk
    rw [List.perm_ext_iff_of_nodup hnodup hwalked]
    intro own
    rw [List.mem_map, hwalk.mem_iff]
    constructor
    · rintro ⟨message, hmem, rfl⟩
      obtain ⟨hlisted, hgroup⟩ := List.mem_filter.mp hmem
      obtain ⟨own, hown, -⟩ := hfound hlisted (beq_iff_eq.mp hgroup)
      rw [hown]
      exact ⟨_, hown⟩
    · rintro ⟨id, hown⟩
      obtain ⟨message, hmessage, hgroup, hsame⟩ := hrestricts.only id own hown
      have hid := hwhole.filed id message hmessage
      refine ⟨message, List.mem_filter.mpr ⟨hlisting.mem_iff.mpr ⟨id, hmessage⟩,
        beq_iff_eq.mpr hgroup⟩, ?_⟩
      rw [hid, hown]
      rfl

/-- The pages of a group are those of the messages of the group, apart from archiving. -/
theorem getMessagesByGroup_map {listing : List Message} {counterpart : Message → Message}
    (hsame : ∀ message ∈ listing, message.groupId = groupId →
      message.SameText (counterpart message)) (afterOrder beforeOrder : Option Int) (limit : Nat) :
    getMessagesByGroup ((listing.filter (·.groupId == groupId)).map counterpart) groupId afterOrder
        beforeOrder limit =
      (getMessagesByGroup listing groupId afterOrder beforeOrder limit).map counterpart := by
  have htext : ∀ message ∈ listing.filter (·.groupId == groupId),
      message.SameText (counterpart message) := by
    intro message hmem
    obtain ⟨hlisted, hgroup⟩ := List.mem_filter.mp hmem
    exact hsame message hlisted (beq_iff_eq.mp hgroup)
  have hall : ((listing.filter (·.groupId == groupId)).map counterpart).filter
      (·.groupId == groupId) = (listing.filter (·.groupId == groupId)).map counterpart := by
    refine List.filter_eq_self.mpr fun own hown ↦ ?_
    obtain ⟨message, hmem, rfl⟩ := List.mem_map.mp hown
    rw [← (htext message hmem).groupId]
    exact (List.mem_filter.mp hmem).2
  have hbounds : ((listing.filter (·.groupId == groupId)).map counterpart).filter (fun message ↦
      withinBounds afterOrder beforeOrder (message.order.getD 0)) =
        ((listing.filter (·.groupId == groupId)).filter fun message ↦
          withinBounds afterOrder beforeOrder (message.order.getD 0)).map counterpart := by
    rw [List.filter_map]
    refine congrArg (List.map counterpart) (List.filter_congr fun message hmem ↦ ?_)
    show withinBounds afterOrder beforeOrder ((counterpart message).order.getD 0) = _
    rw [← (htext message hmem).order]
  unfold getMessagesByGroup
  simp only [hall, hbounds]
  rw [List.map_take]
  refine congrArg (List.take limit) (List.map_mergeSort ?_).symm
  intro first hfirst second hsecond
  rw [← (htext first (List.mem_filter.mp hfirst).1).order,
    ← (htext second (List.mem_filter.mp hsecond).1).order]

end Restriction

end InMemoryStorage

end MessagingRelayer
