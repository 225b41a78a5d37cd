import MessagingRelayer.Handlers.Messages
import MessagingRelayer.Storage.Paging

/-!
# Paging through a group

A list request is answered with the first page of the entries within its bounds, and with whether
there are more (`answersList_firstPage`). A reader goes forward by asking for what lies above the
last order number it was shown, while calls change the storage between its requests
(`ForwardWalk`). It misses nothing and sees nothing twice (`readsForward`), and it comes to an end
when the changes do (`exists_forwardWalk`). Going backward (`BackwardWalk`) it would need the last
page below its cursor and is given the first, which is the same only when everything fits on one
page (`lastPage_iff_card_le`).
-/

set_option autoImplicit false
set_option relaxedAutoImplicit false

namespace MessagingRelayer

open Foundation InMemoryStorage

/-- What readers know a message by, as its response shows it. -/
def MessageResponse.entry (body : MessageResponse) : Uuid × Int :=
  (body.messageId, body.order)

theorem map_entry_fromMessage (messages : List Message) :
    (messages.map MessageResponse.fromMessage).map MessageResponse.entry =
      messages.map Message.entry :=
  List.map_map

/-- The number of messages a list request asks for. -/
def pageSize (limit : Option Nat) : Nat :=
  min (limit.getD defaultPageLimit) maxPageLimit

/-- Assumes: the limit is not zero. -/
theorem one_le_pageSize {limit : Option Nat} (hlimit : limit ≠ some 0) : 1 ≤ pageSize limit := by
  unfold pageSize defaultPageLimit maxPageLimit
  cases limit with
  | none => decide
  | some size =>
    have hpositive : size ≠ 0 := fun hzero ↦ hlimit (congrArg some hzero)
    rw [Option.getD_some]
    omega

/-- Some caller is answered so, for some order of the walk over the storage. -/
def AnswersList (storage : InMemoryStorage) (query : GetMessagesQuery)
    (bodies : List MessageResponse) (hasNext : Bool) : Prop :=
  ∃ auth listing, storage.messages.IterationOrder listing ∧
    getMessages auth query storage listing = .ok (.list bodies hasNext)

section Answers

variable {storage : InMemoryStorage} {groupId : String} {afterOrder beforeOrder : Option Int}
  {limit : Option Nat} {bodies : List MessageResponse} {hasNext : Bool}

/-- What an authorized caller is answered. -/
theorem getMessages_list {auth : AuthContext} (hauthorized : auth.authorizedGroup = some groupId)
    (storage : InMemoryStorage) (listing : List Message) :
    getMessages auth ⟨none, some groupId, afterOrder, beforeOrder, limit⟩ storage listing =
      .ok (.list
        (((getMessagesByGroup listing groupId afterOrder beforeOrder (pageSize limit + 1)).take
          (pageSize limit)).map MessageResponse.fromMessage)
        (decide (pageSize limit <
          (getMessagesByGroup listing groupId afterOrder beforeOrder
            (pageSize limit + 1)).length))) := by
  unfold getMessages
  simp only
  rw [if_neg (not_not.mpr hauthorized)]
  rfl

/-- A list request of a group is answered with the first page of what is within its bounds, and with
whether that is not all. -/
theorem answersList_firstPage (hreachable : storage.Reachable)
    (hanswer : AnswersList storage ⟨none, some groupId, afterOrder, beforeOrder, limit⟩ bodies
      hasNext) :
    FirstPage Prod.snd (storage.entriesWithin groupId afterOrder beforeOrder) (pageSize limit)
      (bodies.map MessageResponse.entry) ∧
    (hasNext = true ↔
      pageSize limit < (storage.entriesWithin groupId afterOrder beforeOrder).card) := by
  obtain ⟨auth, listing, hlisting, hread⟩ := hanswer
  by_cases hauthorized : auth.authorizedGroup = some groupId
  · rw [getMessages_list hauthorized] at hread
    obtain ⟨rfl, rfl⟩ := GetMessagesResponse.list.inj (Except.ok.inj hread)
    rw [map_entry_fromMessage, decide_eq_true_iff]
    exact hreachable.firstPage_of_succ hlisting groupId afterOrder beforeOrder (pageSize limit)
  · simp [getMessages, hauthorized] at hread

/-- A list request of a group has an answer. -/
theorem exists_answersList (storage : InMemoryStorage) (groupId : String)
    (afterOrder beforeOrder : Option Int) (limit : Option Nat) :
    ∃ bodies hasNext,
      AnswersList storage ⟨none, some groupId, afterOrder, beforeOrder, limit⟩ bodies hasNext := by
  obtain ⟨listing, hlisting⟩ := storage.messages.exists_iterationOrder
  exact ⟨_, _, ⟨"", [], .ed25519, some groupId⟩, listing, hlisting, getMessages_list rfl _ _⟩

/-- What shows the entry of a message shows its identifier. -/
theorem mem_messageIds_of_mem_entries {message : Message}
    (hmem : message.entry ∈ bodies.map MessageResponse.entry) :
    message.id ∈ bodies.map MessageResponse.messageId := by
  obtain ⟨body, hbody, hentry⟩ := List.mem_map.mp hmem
  have hid : body.messageId = message.id := congrArg Prod.fst hentry
  rw [← hid]
  exact List.mem_map_of_mem hbody

/-- Assumes: bodies of stored messages. They show the identifier of a message exactly when they show
its entry. -/
theorem mem_messageIds_iff (hindexed : storage.NonceIndexed) {id : Uuid} {message : Message}
    (hstored : ∀ body ∈ bodies,
      body.entry ∈ storage.entriesWithin groupId afterOrder beforeOrder)
    (hlookup : storage.messages.lookup id = some message) :
    id ∈ bodies.map MessageResponse.messageId ↔
      message.entry ∈ bodies.map MessageResponse.entry := by
  constructor
  · intro hmem
    obtain ⟨body, hbody, rfl⟩ := List.mem_map.mp hmem
    rw [← entry_eq_of_mem hindexed (hstored body hbody) hlookup]
    exact List.mem_map_of_mem hbody
  · intro hmem
    rw [← hindexed.filed id message hlookup]
    exact mem_messageIds_of_mem_entries hmem

/-- Assumes: bodies of stored messages, with increasing order numbers. No message is shown twice. -/
theorem nodup_messageIds (hindexed : storage.NonceIndexed)
    (hsorted : bodies.Pairwise fun first second ↦ first.order < second.order)
    (hstored : ∀ body ∈ bodies,
      body.entry ∈ storage.entriesWithin groupId afterOrder beforeOrder) :
    (bodies.map MessageResponse.messageId).Nodup := by
  rw [List.Nodup, List.pairwise_map]
  refine hsorted.imp_of_mem fun {first second} hfirst hsecond hlt hsame ↦ ?_
  obtain ⟨id, message, hlookup, -, -, hentry⟩ := mem_entriesWithin.mp (hstored first hfirst)
  have hid : first.messageId = id :=
    (congrArg Prod.fst hentry).symm.trans (hindexed.filed id message hlookup)
  have hother : second.entry = message.entry :=
    entry_eq_of_mem hindexed (hstored second hsecond) (by rw [← hlookup, ← hid, hsame]; rfl)
  have horder : second.order = first.order := congrArg Prod.snd (hother.trans hentry)
  exact absurd horder.symm (ne_of_lt hlt)

/-- The bodies of an answer are of stored messages within the bounds. -/
theorem entry_mem_of_answersList (hreachable : storage.Reachable)
    (hanswer : AnswersList storage ⟨none, some groupId, afterOrder, beforeOrder, limit⟩ bodies
      hasNext) {body : MessageResponse} (hbody : body ∈ bodies) :
    body.entry ∈ storage.entriesWithin groupId afterOrder beforeOrder :=
  (answersList_firstPage hreachable hanswer).1.sound _ (List.mem_map_of_mem hbody)

end Answers

/-! ### Two messages, one to a page -/

/-- Assumes: a walk that meets the messages within the bounds in their order, one more than fits on
the page. -/
theorem answersList_of_ordered {storage : InMemoryStorage} {groupId : String}
    {afterOrder beforeOrder : Option Int} {limit : Option Nat} (listing shown : List Message)
    (hlisting : storage.messages.IterationOrder listing)
    (hshown : (listing.filter (·.groupId == groupId)).filter (fun message ↦
      withinBounds afterOrder beforeOrder (message.order.getD 0)) = shown)
    (hordered : shown.Pairwise fun first second ↦
      decide (first.order.getD 0 ≤ second.order.getD 0) = true) :
    AnswersList storage ⟨none, some groupId, afterOrder, beforeOrder, limit⟩
      (((shown.take (pageSize limit + 1)).take (pageSize limit)).map MessageResponse.fromMessage)
      (decide (pageSize limit < (shown.take (pageSize limit + 1)).length)) := by
  have hpage : getMessagesByGroup listing groupId afterOrder beforeOrder (pageSize limit + 1) =
      shown.take (pageSize limit + 1) := by
    unfold getMessagesByGroup
    simp only
    rw [hshown, List.mergeSort_of_pairwise hordered]
  refine ⟨⟨"", [], .ed25519, some groupId⟩, listing, hlisting, ?_⟩
  rw [getMessages_list rfl, hpage]

/-- Two messages of one group. -/
def twoMessages : InMemoryStorage :=
  new.performAll
    [.createMessage (crossingMessage 0x0c 0x1a), .createMessage (crossingMessage 0x0d 0x2b)]

theorem reachable_twoMessages : twoMessages.Reachable :=
  reachable_new.performAll _

/-- A reader asks for one message, and is given the older one. -/
theorem answersList_twoMessages :
    AnswersList twoMessages ⟨none, some "0x0a", none, none, some 1⟩
      [.fromMessage crossedMessage] true :=
  answersList_of_ordered [crossedMessage, earlyMessage] [crossedMessage, earlyMessage] (by decide)
    (by decide) (by decide)

/-- The older message is deleted before the second page is read. -/
theorem answersList_oneDeleted :
    AnswersList (twoMessages.performAll [.deleteMessage crossedMessage.id 1])
      ⟨none, some "0x0a", some 1, none, some 1⟩ [.fromMessage earlyMessage] false :=
  answersList_of_ordered [crossedMessage.markForDeletion 1, earlyMessage] [earlyMessage] (by decide)
    (by decide) (by decide)

/-- Nothing is below the order number of the older message. -/
theorem answersList_belowOldest :
    AnswersList twoMessages ⟨none, some "0x0a", none, some 1, some 1⟩ [] false :=
  answersList_of_ordered [crossedMessage, earlyMessage] [] (by decide) (by decide) (by decide)

/-! ### Going forward -/

/-- A page a reader was given, with the storage and the cursor of the request. -/
structure WalkPage where
  storage : InMemoryStorage
  cursor : Option Int
  bodies : List MessageResponse
  hasNext : Bool

/-- The bodies of all pages, in the order in which the reader was given them. -/
def shownBodies (pages : List WalkPage) : List MessageResponse :=
  pages.flatMap WalkPage.bodies

/-- A reader asks for a page, and after a page with more to come for what lies above the last order
number of it. Calls that change the storage come between two requests. -/
inductive ForwardWalk (groupId : String) (limit : Option Nat) :
    InMemoryStorage → Option Int → List WalkPage → Prop
  | page {storage : InMemoryStorage} {cursor : Option Int} {bodies : List MessageResponse}
      {hasNext : Bool}
      (hanswer : AnswersList storage ⟨none, some groupId, cursor, none, limit⟩ bodies hasNext) :
      ForwardWalk groupId limit storage cursor [⟨storage, cursor, bodies, hasNext⟩]
  | next {storage : InMemoryStorage} {cursor : Option Int} {bodies : List MessageResponse}
      {last : MessageResponse} {pages : List WalkPage}
      (hanswer : AnswersList storage ⟨none, some groupId, cursor, none, limit⟩ bodies true)
      (hlast : bodies.getLast? = some last) (calls : List StorageCall)
      (hrest : ForwardWalk groupId limit (storage.performAll calls) (some last.order) pages) :
      ForwardWalk groupId limit storage cursor (⟨storage, cursor, bodies, true⟩ :: pages)

/-- Nothing of the group above the cursor is missed, and nothing is shown twice. -/
structure ReadsForward (groupId : String) (limit : Option Nat) (storage : InMemoryStorage)
    (cursor : Option Int) (pages : List WalkPage) : Prop where
  increasing : (shownBodies pages).Pairwise fun first second ↦ first.order < second.order
  once : ((shownBodies pages).map MessageResponse.messageId).Nodup
  full : ∀ page ∈ pages.dropLast, page.bodies.length = pageSize limit
  complete : (∀ page ∈ pages.getLast?, page.hasNext = false) →
    ∀ id message, storage.messages.lookup id = some message → message.groupId = groupId →
      (∀ after ∈ cursor, after < message.order.getD 0) →
      id ∈ (shownBodies pages).map MessageResponse.messageId
  hasNext_iff : ∀ page ∈ pages, page.hasNext = true ↔
    ∃ id message, page.storage.messages.lookup id = some message ∧ message.groupId = groupId ∧
      (∀ after ∈ page.cursor, after < message.order.getD 0) ∧
      id ∉ page.bodies.map MessageResponse.messageId

section Forward

variable {storage later : InMemoryStorage} {groupId : String} {limit : Option Nat}
  {cursor : Option Int} {pages : List WalkPage}

/-- What lies above a cursor is what a request with that lower bound asks for. -/
theorem above_entriesWithin (storage : InMemoryStorage) (groupId : String) (cursor : Option Int) :
    above Prod.snd (storage.entriesWithin groupId none none) cursor =
      storage.entriesWithin groupId cursor none := by
  ext entry
  rw [mem_above, mem_entriesWithin, mem_entriesWithin]
  constructor
  · rintro ⟨⟨id, message, hlookup, hgroup, -, rfl⟩, habove⟩
    refine ⟨id, message, hlookup, hgroup, ?_, rfl⟩
    cases cursor with
    | none => rfl
    | some after => exact decide_eq_true (habove after rfl)
  · rintro ⟨id, message, hlookup, hgroup, hbounds, rfl⟩
    refine ⟨⟨id, message, hlookup, hgroup, rfl, rfl⟩, ?_⟩
    rintro after ⟨⟩
    exact of_decide_eq_true hbounds

theorem entriesWithin_subset_all (storage : InMemoryStorage) (groupId : String)
    (cursor : Option Int) :
    storage.entriesWithin groupId cursor none ⊆ storage.entriesWithin groupId none none := by
  rw [← above_entriesWithin]
  exact Finset.filter_subset _ _

/-- Messages that keep their identities keep their entries. -/
theorem entriesWithin_subset (hkept : IdentityKept storage later) (groupId : String)
    (afterOrder beforeOrder : Option Int) :
    storage.entriesWithin groupId afterOrder beforeOrder ⊆
      later.entriesWithin groupId afterOrder beforeOrder := by
  intro entry hmem
  obtain ⟨id, message, hlookup, hgroup, hbounds, rfl⟩ := mem_entriesWithin.mp hmem
  obtain ⟨kept, hlater, hidentity⟩ := hkept id message hlookup
  have hid : kept.id = message.id := congrArg Message.Identity.id hidentity
  have horder : kept.order = message.order := congrArg Message.Identity.order hidentity
  refine mem_entriesWithin.mpr ⟨id, kept, hlater, ?_, ?_, ?_⟩
  · exact (congrArg Message.Identity.groupId hidentity).trans hgroup
  · rw [horder]
    exact hbounds
  · unfold Message.entry
    rw [hid, horder]

/-- The entries of the pages of a walk. -/
def shownEntries (pages : List WalkPage) : List (List (Uuid × Int)) :=
  pages.map fun page ↦ page.bodies.map MessageResponse.entry

theorem flatten_shownEntries (pages : List WalkPage) :
    (shownEntries pages).flatten = (shownBodies pages).map MessageResponse.entry := by
  unfold shownEntries shownBodies
  rw [List.map_flatMap, List.flatMap_def]

/-- A reader that goes forward walks through the entries of its group. When the last page says that
there is nothing more, nothing is left. -/
theorem ForwardWalk.pageWalk (hwalk : ForwardWalk groupId limit storage cursor pages)
    (hreachable : storage.Reachable) :
    ∃ left, PageWalk Prod.snd (pageSize limit) (storage.entriesWithin groupId none none) cursor
        (shownEntries pages) left ∧
      ((∀ page, pages.getLast? = some page → page.hasNext = false) → left = ∅) := by
  induction hwalk with
  | @page storage cursor bodies hasNext hanswer =>
    obtain ⟨hpage, hmore⟩ := answersList_firstPage hreachable hanswer
    rw [← above_entriesWithin] at hpage hmore
    refine ⟨_, .page hpage, fun hdone ↦ ?_⟩
    have hfinished : hasNext = false := hdone _ rfl
    rw [Finset.sdiff_eq_empty_iff_subset]
    intro entry hmem
    have hfits : ¬ pageSize limit <
        (above Prod.snd (storage.entriesWithin groupId none none) cursor).card := by
      rw [← hmore, hfinished]
      exact Bool.false_ne_true
    exact List.mem_toFinset.mpr (hpage.mem_of_card_le (not_lt.mp hfits) hmem)
  | @next storage cursor bodies last pages hanswer hlast calls hrest ih =>
    obtain ⟨hpage, hmore⟩ := answersList_firstPage hreachable hanswer
    obtain ⟨left, hlater, hdone⟩ := ih (hreachable.performAll calls)
    rw [← above_entriesWithin] at hpage hmore
    have hfull : (bodies.map MessageResponse.entry).length = pageSize limit := by
      rw [hpage.length_eq]
      exact Nat.min_eq_left (le_of_lt (hmore.mp rfl))
    have hend : (bodies.map MessageResponse.entry).getLast? = some last.entry := by
      rw [List.getLast?_map, hlast]
      rfl
    refine ⟨left, .next hpage hfull hend ?_ hlater, fun hfinished ↦ hdone fun page hpages ↦ ?_⟩
    · exact entriesWithin_subset (identityKept_performAll storage calls) groupId none none
    · refine hfinished page ?_
      rw [List.getLast?_cons, hpages]
      rfl

/-- All that a walk shows is stored when it ends, with the order numbers it showed. -/
theorem ForwardWalk.exists_final (hwalk : ForwardWalk groupId limit storage cursor pages)
    (hreachable : storage.Reachable) :
    ∃ final : InMemoryStorage, final.Reachable ∧ IdentityKept storage final ∧
      ∀ body ∈ shownBodies pages, body.entry ∈ final.entriesWithin groupId none none := by
  induction hwalk with
  | @page storage cursor bodies hasNext hanswer =>
    refine ⟨storage, hreachable, .refl storage, fun body hbody ↦ ?_⟩
    rw [shownBodies, List.flatMap_singleton] at hbody
    exact entriesWithin_subset_all storage groupId cursor
      (entry_mem_of_answersList hreachable hanswer hbody)
  | @next storage cursor bodies last pages hanswer hlast calls hrest ih =>
    obtain ⟨final, hfinal, hkept, hshown⟩ := ih (hreachable.performAll calls)
    have hkeptAll := (identityKept_performAll storage calls).trans hkept
    refine ⟨final, hfinal, hkeptAll, fun body hbody ↦ ?_⟩
    rw [shownBodies, List.flatMap_cons, List.mem_append] at hbody
    rcases hbody with hfirst | hlater
    · exact entriesWithin_subset hkeptAll groupId none none
        (entriesWithin_subset_all storage groupId cursor
          (entry_mem_of_answersList hreachable hanswer hfirst))
    · exact hshown body hlater

/-- Every page of a walk is the answer to its request. -/
theorem ForwardWalk.answered (hwalk : ForwardWalk groupId limit storage cursor pages)
    (hreachable : storage.Reachable) :
    ∀ page ∈ pages, page.storage.Reachable ∧
      AnswersList page.storage ⟨none, some groupId, page.cursor, none, limit⟩ page.bodies
        page.hasNext := by
  induction hwalk with
  | @page storage cursor bodies hasNext hanswer =>
    intro page hmem
    rw [List.mem_singleton.mp hmem]
    exact ⟨hreachable, hanswer⟩
  | @next storage cursor bodies last pages hanswer hlast calls hrest ih =>
    intro page hmem
    rcases List.mem_cons.mp hmem with rfl | hmem
    · exact ⟨hreachable, hanswer⟩
    · exact ih (hreachable.performAll calls) page hmem

/-- A page says that there is more exactly when a message above its cursor is not on it. -/
theorem hasNext_iff_of_answersList (hreachable : storage.Reachable) {bodies : List MessageResponse}
    {hasNext : Bool}
    (hanswer : AnswersList storage ⟨none, some groupId, cursor, none, limit⟩ bodies hasNext) :
    hasNext = true ↔
      ∃ id message, storage.messages.lookup id = some message ∧ message.groupId = groupId ∧
        (∀ after ∈ cursor, after < message.order.getD 0) ∧
        id ∉ bodies.map MessageResponse.messageId := by
  obtain ⟨hpage, hmore⟩ := answersList_firstPage hreachable hanswer
  have hindexed := hreachable.nonceIndexed
  have hstored : ∀ body ∈ bodies, body.entry ∈ storage.entriesWithin groupId cursor none :=
    fun _ hbody ↦ entry_mem_of_answersList hreachable hanswer hbody
  rw [hmore, ← hpage.exists_notMem_iff, ← above_entriesWithin]
  constructor
  · rintro ⟨entry, hmem, hnot⟩
    obtain ⟨hentry, habove⟩ := mem_above.mp hmem
    obtain ⟨id, message, hlookup, hgroup, -, rfl⟩ := mem_entriesWithin.mp hentry
    exact ⟨id, message, hlookup, hgroup, habove,
      mt (mem_messageIds_iff hindexed hstored hlookup).mp hnot⟩
  · rintro ⟨id, message, hlookup, hgroup, habove, hnot⟩
    have hentry : message.entry ∈ storage.entriesWithin groupId none none :=
      mem_entriesWithin.mpr ⟨id, message, hlookup, hgroup, rfl, rfl⟩
    exact ⟨message.entry, mem_above.mpr ⟨hentry, habove⟩,
      mt (mem_messageIds_iff hindexed hstored hlookup).mpr hnot⟩

/-- Assumes: a limit that is not zero. While nothing changes the storage, a reader comes to a last
page. -/
theorem exists_forwardWalk (hreachable : storage.Reachable) (hlimit : limit ≠ some 0)
    (groupId : String) (cursor : Option Int) :
    ∃ pages, ForwardWalk groupId limit storage cursor pages ∧
      ∀ page ∈ pages.getLast?, page.hasNext = false := by
  generalize hcount : (storage.entriesWithin groupId cursor none).card = count
  induction count using Nat.strong_induction_on generalizing cursor with
  | _ count ih =>
    obtain ⟨bodies, hasNext, hanswer⟩ := exists_answersList storage groupId cursor none limit
    obtain ⟨hpage, hmore⟩ := answersList_firstPage hreachable hanswer
    cases hasNext with
    | false =>
      refine ⟨_, .page hanswer, fun page hlast ↦ ?_⟩
      obtain rfl := Option.some.inj hlast
      rfl
    | true =>
      have hroom := one_le_pageSize hlimit
      have hlength := hpage.length_eq
      rw [List.length_map, Nat.min_eq_left (hmore.mp rfl).le] at hlength
      have hnonempty : bodies ≠ [] := by
        rintro rfl
        rw [List.length_nil] at hlength
        omega
      have hlast := List.getLast?_eq_some_getLast hnonempty
      have hsmaller : (storage.entriesWithin groupId (some (bodies.getLast hnonempty).order)
          none).card < count := by
        have hshown := entry_mem_of_answersList hreachable hanswer (List.mem_of_getLast? hlast)
        rw [← above_entriesWithin] at hshown
        rw [← hcount, ← above_entriesWithin storage groupId cursor, ← above_entriesWithin]
        exact Finset.card_lt_card (above_ssubset hshown)
      obtain ⟨pages, hrest, hdone⟩ := ih _ hsmaller _ rfl
      refine ⟨_, .next hanswer hlast [] hrest, fun page hend ↦ hdone page ?_⟩
      cases hrest <;> exact hend

/-- Assumes: a storage that calls reach, under way or complete. Whatever complete calls come between
the requests, a walk shows increasing order numbers and no message twice, on full pages, and when it
comes to an end it has shown every message of the group above its cursor that was there at its
start. -/
theorem readsForward (hreachable : storage.Reachable)
    (hwalk : ForwardWalk groupId limit storage cursor pages) :
    ReadsForward groupId limit storage cursor pages := by
  obtain ⟨left, hpages, hdone⟩ := hwalk.pageWalk hreachable
  have hsorted := hpages.sorted
  rw [flatten_shownEntries, List.pairwise_map] at hsorted
  refine ⟨hsorted, ?_, ?_, ?_, ?_⟩
  · obtain ⟨final, hfinal, -, hshown⟩ := hwalk.exists_final hreachable
    exact nodup_messageIds hfinal.nonceIndexed hsorted hshown
  · intro page hmem
    have hfull := hpages.length_eq (page.bodies.map MessageResponse.entry) (by
      rw [shownEntries, ← List.map_dropLast]
      exact List.mem_map_of_mem hmem)
    rw [List.length_map] at hfull
    exact hfull
  · intro hfinished id message hlookup hgroup habove
    have hentry : message.entry ∈ storage.entriesWithin groupId none none :=
      mem_entriesWithin.mpr ⟨id, message, hlookup, hgroup, rfl, rfl⟩
    have hshown := hpages.complete message.entry (mem_above.mpr ⟨hentry, habove⟩)
    rw [hdone fun page hlast ↦ hfinished page hlast, flatten_shownEntries] at hshown
    rw [← hreachable.nonceIndexed.filed id message hlookup]
    exact mem_messageIds_of_mem_entries (hshown.resolve_right (Finset.notMem_empty _))
  · intro page hmem
    obtain ⟨hpage, hanswer⟩ := hwalk.answered hreachable page hmem
    exact hasNext_iff_of_answersList hpage hanswer

/-- Two requests, with a deletion between them. -/
def twoPages : List WalkPage :=
  [⟨twoMessages, none, [.fromMessage crossedMessage], true⟩,
    ⟨twoMessages.performAll [.deleteMessage crossedMessage.id 1], some 1,
      [.fromMessage earlyMessage], false⟩]

theorem forwardWalk_twoPages : ForwardWalk "0x0a" (some 1) twoMessages none twoPages :=
  .next answersList_twoMessages rfl _ (.page answersList_oneDeleted)

/-- The walk shows both messages. -/
theorem readsForward_twoPages : ReadsForward "0x0a" (some 1) twoMessages none twoPages :=
  readsForward reachable_twoMessages forwardWalk_twoPages

end Forward

/-! ### Going backward -/

/-- A reader asks for a page of what lies below its cursor, and after a page with messages for what
lies below the smallest order number of it, until a page is empty or the last. -/
inductive BackwardWalk (storage : InMemoryStorage) (groupId : String) (limit : Option Nat) :
    Option Int → List (List MessageResponse) → Prop
  | stop {cursor : Option Int} {bodies : List MessageResponse} {hasNext : Bool}
      (hanswer : AnswersList storage ⟨none, some groupId, none, cursor, limit⟩ bodies hasNext)
      (hend : bodies = [] ∨ hasNext = false) : BackwardWalk storage groupId limit cursor [bodies]
  | next {cursor : Option Int} {bodies : List MessageResponse} {hasNext : Bool}
      {oldest : MessageResponse} {pages : List (List MessageResponse)}
      (hanswer : AnswersList storage ⟨none, some groupId, none, cursor, limit⟩ bodies hasNext)
      (holdest : oldest ∈ bodies) (hsmallest : ∀ body ∈ bodies, oldest.order ≤ body.order)
      (hrest : BackwardWalk storage groupId limit (some oldest.order) pages) :
      BackwardWalk storage groupId limit cursor (bodies :: pages)

/-- Every message of the group is on the pages, once. -/
def VisitsOnce (storage : InMemoryStorage) (groupId : String)
    (pages : List (List MessageResponse)) : Prop :=
  ∀ id message, storage.messages.lookup id = some message → message.groupId = groupId →
    (pages.flatten.map MessageResponse.messageId).count id = 1

section Backward

variable {storage : InMemoryStorage} {groupId : String} {limit : Option Nat} {cursor : Option Int}
  {pages : List (List MessageResponse)} {bodies : List MessageResponse} {hasNext : Bool}

/-- Where nothing is within the bounds a walk shows nothing. -/
theorem BackwardWalk.flatten_eq_nil (hwalk : BackwardWalk storage groupId limit cursor pages)
    (hreachable : storage.Reachable) (hempty : storage.entriesWithin groupId none cursor = ∅) :
    pages.flatten = [] := by
  have hnone : ∀ bodies hasNext,
      AnswersList storage ⟨none, some groupId, none, cursor, limit⟩ bodies hasNext →
        bodies = [] := by
    intro bodies hasNext hanswer
    have hlength := (answersList_firstPage hreachable hanswer).1.length_eq
    rw [hempty, Finset.card_empty, Nat.min_zero, List.length_map] at hlength
    exact List.length_eq_zero_iff.mp hlength
  cases hwalk with
  | stop hanswer hend =>
    rw [List.flatten_singleton]
    exact hnone _ _ hanswer
  | next hanswer holdest hsmallest hrest =>
    rw [hnone _ _ hanswer] at holdest
    exact absurd holdest List.not_mem_nil

/-- Nothing of the group lies below the smallest order number of its first page. -/
theorem entriesWithin_below_firstPage (hreachable : storage.Reachable)
    (hanswer : AnswersList storage ⟨none, some groupId, none, none, limit⟩ bodies hasNext)
    {oldest : MessageResponse} (holdest : oldest ∈ bodies)
    (hsmallest : ∀ body ∈ bodies, oldest.order ≤ body.order) :
    storage.entriesWithin groupId none (some oldest.order) = ∅ := by
  have hpage := (answersList_firstPage hreachable hanswer).1
  rw [Finset.eq_empty_iff_forall_notMem]
  intro entry hmem
  obtain ⟨id, message, hlookup, hgroup, hbounds, rfl⟩ := mem_entriesWithin.mp hmem
  have hbelow : message.entry.2 < oldest.order := of_decide_eq_true hbounds
  by_cases hshown : message.entry ∈ bodies.map MessageResponse.entry
  · obtain ⟨body, hbody, hentry⟩ := List.mem_map.mp hshown
    have horder : body.order = message.entry.2 := congrArg Prod.snd hentry
    exact absurd (hsmallest body hbody) (by omega)
  · have hbeyond := hpage.first message.entry
      (mem_entriesWithin.mpr ⟨id, message, hlookup, hgroup, rfl, rfl⟩) hshown oldest.entry
      (List.mem_map_of_mem holdest)
    exact lt_asymm hbelow hbeyond

/-- A walk from the newest message shows the first page, and nothing else. -/
theorem BackwardWalk.exists_firstPage (hwalk : BackwardWalk storage groupId limit none pages)
    (hreachable : storage.Reachable) :
    ∃ bodies hasNext, pages.flatten = bodies ∧
      AnswersList storage ⟨none, some groupId, none, none, limit⟩ bodies hasNext := by
  cases hwalk with
  | stop hanswer hend => exact ⟨_, _, List.flatten_singleton, hanswer⟩
  | next hanswer holdest hsmallest hrest =>
    refine ⟨_, _, ?_, hanswer⟩
    rw [List.flatten_cons, hrest.flatten_eq_nil hreachable
      (entriesWithin_below_firstPage hreachable hanswer holdest hsmallest), List.append_nil]

/-- A walk from the newest message visits every message of the group once exactly when all fit on
one page. -/
theorem BackwardWalk.visitsOnce_iff (hwalk : BackwardWalk storage groupId limit none pages)
    (hreachable : storage.Reachable) :
    VisitsOnce storage groupId pages ↔
      (storage.entriesWithin groupId none none).card ≤ pageSize limit := by
  obtain ⟨bodies, hasNext, hflatten, hanswer⟩ := hwalk.exists_firstPage hreachable
  have hpage := (answersList_firstPage hreachable hanswer).1
  have hindexed := hreachable.nonceIndexed
  have hstored : ∀ body ∈ bodies, body.entry ∈ storage.entriesWithin groupId none none :=
    fun _ hbody ↦ entry_mem_of_answersList hreachable hanswer hbody
  unfold VisitsOnce
  rw [hflatten]
  constructor
  · intro hvisits
    by_contra hcard
    obtain ⟨entry, hmem, hnot⟩ := hpage.exists_notMem (not_le.mp hcard)
    obtain ⟨id, message, hlookup, hgroup, -, rfl⟩ := mem_entriesWithin.mp hmem
    have hshown : id ∈ bodies.map MessageResponse.messageId := by
      rw [← List.count_pos_iff, hvisits id message hlookup hgroup]
      exact Nat.one_pos
    exact hnot ((mem_messageIds_iff hindexed hstored hlookup).mp hshown)
  · intro hcard id message hlookup hgroup
    have hentry : message.entry ∈ storage.entriesWithin groupId none none :=
      mem_entriesWithin.mpr ⟨id, message, hlookup, hgroup, rfl, rfl⟩
    have hsorted := hpage.sorted
    rw [List.pairwise_map] at hsorted
    exact List.count_eq_one_of_mem (nodup_messageIds hindexed hsorted hstored)
      ((mem_messageIds_iff hindexed hstored hlookup).mpr (hpage.mem_of_card_le hcard hentry))

/-- Assumes: a storage that calls reach, and a limit that is not zero. A request without a lower
bound is answered with the newest messages below its upper bound exactly when all of them fit on
the page, and a walk backward visits every message of the group once exactly when all fit on one
page. -/
theorem lastPage_iff_card_le (hreachable : storage.Reachable) (hlimit : limit ≠ some 0) :
    (∀ auth listing beforeOrder, auth.authorizedGroup = some groupId →
      storage.messages.IterationOrder listing →
      ∃ bodies hasNext,
        getMessages auth ⟨none, some groupId, none, beforeOrder, limit⟩ storage listing =
          .ok (.list bodies hasNext) ∧
        (LastPage Prod.snd (storage.entriesWithin groupId none beforeOrder) (pageSize limit)
            (bodies.map MessageResponse.entry) ↔
          (storage.entriesWithin groupId none beforeOrder).card ≤ pageSize limit)) ∧
    ∀ pages, BackwardWalk storage groupId limit none pages →
      (VisitsOnce storage groupId pages ↔
        (storage.entriesWithin groupId none none).card ≤ pageSize limit) := by
  constructor
  · intro auth listing beforeOrder hauthorized hlisting
    refine ⟨_, _, getMessages_list hauthorized storage listing, ?_⟩
    exact (answersList_firstPage hreachable ⟨auth, listing, hlisting,
      getMessages_list hauthorized storage listing⟩).1.lastPage_iff (one_le_pageSize hlimit)
  · intro pages hwalk
    exact hwalk.visitsOnce_iff hreachable

/-- A reader that asks for one message at a time is given the older of two, and then nothing. -/
theorem backwardWalk_twoMessages :
    BackwardWalk twoMessages "0x0a" (some 1) none [[.fromMessage crossedMessage], []] := by
  refine .next answersList_twoMessages (List.mem_singleton_self _) (fun body hbody ↦ ?_)
    (.stop answersList_belowOldest (Or.inl rfl))
  rw [List.mem_singleton.mp hbody]

/-- Both parts of the condition, for two messages and pages of one. -/
theorem lastPage_iff_twoMessages :
    (∃ bodies hasNext,
      getMessages ⟨"", [], .ed25519, some "0x0a"⟩ ⟨none, some "0x0a", none, none, some 1⟩
        twoMessages [crossedMessage, earlyMessage] = .ok (.list bodies hasNext) ∧
      (LastPage Prod.snd (twoMessages.entriesWithin "0x0a" none none) (pageSize (some 1))
          (bodies.map MessageResponse.entry) ↔
        (twoMessages.entriesWithin "0x0a" none none).card ≤ pageSize (some 1))) ∧
    (VisitsOnce twoMessages "0x0a" [[.fromMessage crossedMessage], []] ↔
      (twoMessages.entriesWithin "0x0a" none none).card ≤ pageSize (some 1)) := by
  have hlimit : some 1 ≠ some 0 := by decide
  constructor
  · exact (lastPage_iff_card_le reachable_twoMessages hlimit).1 _ _ none rfl (by decide)
  · exact (lastPage_iff_card_le reachable_twoMessages hlimit).2 _ backwardWalk_twoMessages

/-- The page is not that of the newest message, and the walk does not visit both messages. -/
theorem not_lastPage_twoMessages :
    twoMessages.Reachable ∧
    AnswersList twoMessages ⟨none, some "0x0a", none, none, some 1⟩ [.fromMessage crossedMessage]
      true ∧
    ¬ LastPage Prod.snd (twoMessages.entriesWithin "0x0a" none none) (pageSize (some 1))
      [crossedMessage.entry] ∧
    BackwardWalk twoMessages "0x0a" (some 1) none [[.fromMessage crossedMessage], []] ∧
    ¬ VisitsOnce twoMessages "0x0a" [[.fromMessage crossedMessage], []] := by
  have hmore : ¬ (twoMessages.entriesWithin "0x0a" none none).card ≤ pageSize (some 1) := by
    decide
  have hpage := (answersList_firstPage reachable_twoMessages answersList_twoMessages).1
  exact ⟨reachable_twoMessages, answersList_twoMessages,
    mt (hpage.lastPage_iff (by decide)).mp hmore, backwardWalk_twoMessages,
    mt (backwardWalk_twoMessages.visitsOnce_iff reachable_twoMessages).mp hmore⟩

end Backward

end MessagingRelayer
