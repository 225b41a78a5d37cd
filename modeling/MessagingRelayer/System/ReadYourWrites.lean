import MessagingRelayer.Handlers.Paging
import MessagingRelayer.System.Outcomes
import MessagingRelayer.System.SignedBytes
import MessagingRelayer.System.StoredContent

/-!
# Reading what was written

A client that was answered that its message is created or updated can rely on it: whoever reads the
message afterwards, with the identifier or with a page of the group, finds it, and with the content
of the acknowledged write or of a later one (`read_your_writes`). The answer may come long after the
write, and any number of steps of others lie between the answer and the read.
-/

set_option autoImplicit false
set_option relaxedAutoImplicit false

namespace MessagingRelayer

open Foundation

/-! ### What a read shows -/

/-- The read asks for the message: by its identifier, or by its group and its order number. -/
def GetMessagesQuery.AsksFor (query : GetMessagesQuery) (message : Message) : Prop :=
  query.messageId = some message.id ∨
    query.messageId = none ∧ query.groupId = some message.groupId ∧
      InMemoryStorage.withinBounds query.afterOrder query.beforeOrder (message.order.getD 0) = true

/-- The answer shows the message, or a page that comes before it and says that there are more. -/
def GetMessagesResponse.Shows (message : Message) : GetMessagesResponse → Prop
  | .single body => body = .fromMessage message
  | .list bodies hasNext => MessageResponse.fromMessage message ∈ bodies ∨
      hasNext = true ∧ ∀ body ∈ bodies, body.order < message.order.getD 0

section Shows

variable {storage : InMemoryStorage} {listing : List Message} {auth : AuthContext}
  {query : GetMessagesQuery} {message : Message}

/-- A stored message that is on the page of a group, or whose entry is. -/
theorem mem_bodies_of_entry {bodies : List MessageResponse} {hasNext : Bool} {id : Uuid}
    (hindexed : storage.NonceIndexed) (hlisting : storage.messages.IterationOrder listing)
    (hread : getMessages auth query storage listing = .ok (.list bodies hasNext))
    (hlookup : storage.messages.lookup id = some message)
    (hentry : message.entry ∈ bodies.map MessageResponse.entry) :
    MessageResponse.fromMessage message ∈ bodies := by
  obtain ⟨body, hbody, hsame⟩ := List.mem_map.mp hentry
  obtain ⟨other, stored, hstored, -, rfl⟩ := mem_bodies_of_getMessages hlisting hread hbody
  have hid : stored.id = message.id := congrArg Prod.fst hsame
  have hkey : other = id := by
    rw [← hindexed.filed other stored hstored, ← hindexed.filed id message hlookup, hid]
  subst hkey
  rw [Option.some.inj (hlookup.symm.trans hstored)]
  exact hbody

/-- Assumes: the message is stored and asked for by an authorized caller. The answer shows it. -/
theorem getMessages_shows {id : Uuid} (hreachable : storage.Reachable)
    (hlisting : storage.messages.IterationOrder listing)
    (hlookup : storage.messages.lookup id = some message) (hasks : query.AsksFor message)
    (hgroup : auth.authorizedGroup = some message.groupId) :
    ∃ response, getMessages auth query storage listing = .ok response ∧
      response.Shows message := by
  obtain ⟨messageId, groupId, afterOrder, beforeOrder, limit⟩ := query
  rcases hasks with hnamed | ⟨hunnamed, hof, hbounds⟩
  · refine ⟨.single (.fromMessage message), ?_, rfl⟩
    have hfiled := hreachable.nonceIndexed.filed id message hlookup
    have hget : storage.getMessage message.id = .ok message := by
      rw [InMemoryStorage.getMessage_eq_ok_iff, hfiled]
      exact hlookup
    obtain rfl : messageId = some message.id := hnamed
    unfold getMessages
    simp only [hget]
    rw [if_neg (not_not.mpr hgroup)]
  · obtain rfl : messageId = none := hunnamed
    obtain rfl : groupId = some message.groupId := hof
    have hread : getMessages auth ⟨none, some message.groupId, afterOrder, beforeOrder, limit⟩
        storage listing = _ := getMessages_list hgroup storage listing
    obtain ⟨hpage, hmore⟩ := answersList_firstPage hreachable ⟨auth, listing, hlisting, hread⟩
    refine ⟨_, hread, ?_⟩
    by_cases hshown : message.entry ∈ (((InMemoryStorage.getMessagesByGroup listing message.groupId
        afterOrder beforeOrder (pageSize limit + 1)).take (pageSize limit)).map
          MessageResponse.fromMessage).map MessageResponse.entry
    · exact Or.inl (mem_bodies_of_entry hreachable.nonceIndexed hlisting hread hlookup hshown)
    · have hmem : message.entry ∈ storage.entriesWithin message.groupId afterOrder beforeOrder :=
        InMemoryStorage.mem_entriesWithin.mpr ⟨id, message, hlookup, rfl, hbounds, rfl⟩
      refine Or.inr ⟨hmore.mpr ?_, fun body hbody ↦ ?_⟩
      · by_contra hcard
        exact hshown (hpage.mem_of_card_le (not_lt.mp hcard) hmem)
      · exact hpage.first _ hmem hshown _ (List.mem_map_of_mem hbody)

/-- A caller of another group is refused. -/
theorem getMessages_forbidden {id : Uuid} (hindexed : storage.NonceIndexed)
    (hlookup : storage.messages.lookup id = some message) (hasks : query.AsksFor message)
    (hgroup : auth.authorizedGroup ≠ some message.groupId) :
    ∃ text, getMessages auth query storage listing = .error (.forbidden text) := by
  obtain ⟨messageId, groupId, afterOrder, beforeOrder, limit⟩ := query
  rcases hasks with hnamed | ⟨hunnamed, hof, -⟩
  · have hget : storage.getMessage message.id = .ok message := by
      rw [InMemoryStorage.getMessage_eq_ok_iff, hindexed.filed id message hlookup]
      exact hlookup
    obtain rfl : messageId = some message.id := hnamed
    unfold getMessages
    simp only [hget]
    exact ⟨_, if_pos hgroup⟩
  · obtain rfl : messageId = none := hunnamed
    obtain rfl : groupId = some message.groupId := hof
    unfold getMessages
    simp only
    exact ⟨_, if_pos hgroup⟩

end Shows

/-! ### What an answer acknowledges -/

/-- The answer tells the client that the message was created, or that the update of the message its
request asks for was made. -/
def AcknowledgesWrite (libs : Externals) (request : Request) (id : Uuid) : Reply → Prop
  | .created response => response.response.data.messageId = id
  | .updated _ => ∃ auth req, Routed libs request auth (.updateMessage auth req) ∧
      req.messageId = id
  | _ => False

section Acknowledged

variable {relayer : Relayer} {past rest : List Action} {action : Action}
  {before after reached : System} {writer reader : TaskId} {request asked : Request}
  {reply : Reply} {id : Uuid}

/-- A task serves one request. -/
theorem request_kept_of_step {phase : TaskPhase} (hstep : relayer.step before action = some after)
    (htask : before.tasks.lookup writer = some ⟨request, phase⟩) :
    ∃ later, after.tasks.lookup writer = some ⟨request, later⟩ := by
  by_cases hown : action.task? = some writer
  · obtain ⟨moved, later, hmove, hlookup⟩ := move_of_step hstep hown
    rcases fresh_or_served_of_move hmove with ⟨hfresh, -⟩ | ⟨earlier, hserved⟩
    · simp [hfresh] at htask
    · obtain rfl : request = moved :=
        congrArg Task.request (Option.some.inj (htask.symm.trans hserved))
      exact ⟨later, hlookup⟩
  · exact ⟨phase, (lookup_of_step_of_ne hstep hown).trans htask⟩

theorem request_kept_of_run {phase : TaskPhase}
    (htask : before.tasks.lookup writer = some ⟨request, phase⟩)
    (hrun : runFrom relayer.step before rest = some after) :
    ∃ later, after.tasks.lookup writer = some ⟨request, later⟩ :=
  invariant_of_run (fun reached ↦ ∃ later, reached.tasks.lookup writer = some ⟨request, later⟩)
    ⟨phase, htask⟩ (fun _ _ _ ⟨_, hfound⟩ hstep ↦ request_kept_of_step hstep hfound) hrun

/-- An acknowledged write was made, with a content that the request carried. -/
theorem written_of_acknowledgesWrite (hrun : relayer.run past = some before)
    (hwriter : before.tasks.lookup writer = some ⟨request, .done reply⟩)
    (hack : AcknowledgesWrite relayer.libs request id reply) : ∃ content,
      Happened relayer.step .init past (WritesTo id (request, content)) ∧
      (Carries relayer past writer request none content ∨
        Carries relayer past writer request (some id) content) := by
  have haccounted := accounted_of_run hrun writer
  rw [hwriter] at haccounted
  cases reply with
  | created response =>
    obtain ⟨created, now, hreply, hperformed⟩ := haccounted
    obtain rfl : created = id := by
      rw [← hack, Reply.created.inj hreply]
      rfl
    obtain ⟨first, action, more, middle, rfl, hfirst, moved, message, stored, rfl, htask, hid,
      hok⟩ := (hperformed (.delivery created)).mpr rfl
    obtain ⟨reached, hreached, hmore⟩ := runFrom_append_eq_some.mp hrun
    obtain rfl := Option.some.inj (hfirst.symm.trans hreached)
    obtain ⟨phase, hsame⟩ := request_kept_of_run htask hmore
    obtain rfl : moved = request :=
      congrArg Task.request (Option.some.inj (hsame.symm.trans hwriter))
    exact ⟨message.content, ⟨first, _, more, middle, rfl, hfirst,
      Or.inl ⟨writer, message, stored, rfl, htask, hid, rfl, hok⟩⟩,
      Or.inl ((carries_of_inserting hfirst htask).append _)⟩
  | updated response =>
    obtain ⟨edited, now, -, hperformed, -⟩ := haccounted
    obtain ⟨first, action, more, middle, rfl, hfirst, moved, content, written, stored, rfl, htask,
      hok⟩ := (hperformed (.update edited)).mpr rfl
    obtain ⟨reached, hreached, hmore⟩ := runFrom_append_eq_some.mp hrun
    obtain rfl := Option.some.inj (hfirst.symm.trans hreached)
    obtain ⟨phase, hsame⟩ := request_kept_of_run htask hmore
    obtain rfl : moved = request :=
      congrArg Task.request (Option.some.inj (hsame.symm.trans hwriter))
    obtain ⟨auth, req, hrouted, rfl⟩ := hack
    obtain ⟨other, found, hadmitted, rfl, -⟩ := backed_of_run hfirst _ _ htask
    -- The body says which message the request is about.
    have hbody := hrouted.updateMessage_of_body hadmitted.routed rfl rfl
    obtain ⟨-, rfl⟩ := HandlerCall.updateMessage.inj hbody
    exact ⟨content, ⟨first, _, more, middle, rfl, hfirst,
      Or.inr ⟨writer, written, stored, rfl, htask, hok⟩⟩,
      Or.inr ((carries_of_updating hfirst htask).append _)⟩
  | _ => exact hack.elim

/-- A message that was written is stored from then on, with the content of the last write to it. -/
theorem stored_of_written {written : Request × MessageContent}
    (hrun : relayer.run (past ++ rest) = some reached)
    (hwritten : Happened relayer.step .init past (WritesTo id written)) :
    ∃ message last, reached.storage.messages.lookup id = some message ∧ message.id = id ∧
      LastHappened relayer.step .init (past ++ rest) (WritesTo id) (last, message.content) := by
  obtain ⟨first, action, more, middle, hsplit, hfirst, hwrites⟩ := hwritten.append rest
  rw [hsplit, runFrom_append_eq_some] at hrun
  obtain ⟨same, hsame, hmore⟩ := hrun
  obtain rfl := Option.some.inj (hfirst.symm.trans hsame)
  rw [runFrom_cons, Option.bind_eq_some_iff] at hmore
  obtain ⟨wrote, hstep, hlater⟩ := hmore
  obtain ⟨-, stored, hstored, -, -⟩ := lookup_of_writes hwrites hstep
  obtain ⟨message, hlookup, -⟩ := identity_kept_of_run hlater id stored hstored
  have hwhole : relayer.run (past ++ rest) = some reached := by
    rw [hsplit]
    exact runFrom_append_eq_some.mpr
      ⟨middle, hfirst, Option.bind_eq_some_iff.mpr ⟨wrote, hstep, hlater⟩⟩
  obtain ⟨last, -, hlast, -⟩ := lastWritten_of_run hwhole hlookup
  exact ⟨message, last, hlookup, (nonceIndexed_of_run hwhole).filed id message hlookup, hlast⟩

/-- Assumes: a task was answered that it created or updated the message. A read that any task makes
afterwards, and that asks for the message that is stored then, shows it to a caller of its group and
is refused to any other. The stored message has the content of the last write to it, and the
acknowledged write is one of them. -/
theorem read_your_writes {auth : AuthContext} {query : GetMessagesQuery} {listing : List Message}
    (hrun : relayer.run past = some before)
    (hwriter : before.tasks.lookup writer = some ⟨request, .done reply⟩)
    (hack : AcknowledgesWrite relayer.libs request id reply)
    (hlater : runFrom relayer.step before rest = some reached)
    (hreader : reached.tasks.lookup reader = some ⟨asked, .calling (.getMessages auth query)⟩)
    (hread : relayer.step reached (.read reader listing) = some after) :
    ∃ content message last answer,
      (Happened relayer.step .init past (WritesTo id (request, content)) ∧
        (Carries relayer past writer request none content ∨
          Carries relayer past writer request (some id) content)) ∧
      (reached.storage.messages.lookup id = some message ∧ message.id = id ∧
        LastHappened relayer.step .init (past ++ rest) (WritesTo id) (last, message.content)) ∧
      after.tasks.lookup reader = some ⟨asked, .done answer⟩ ∧
      (query.AsksFor message →
        if auth.authorizedGroup = some message.groupId then
          ∃ response, answer = .messages response ∧ response.Shows message
        else answer.status = 403) := by
  have hwhole : relayer.run (past ++ rest) = some reached :=
    runFrom_append_eq_some.mpr ⟨before, hrun, hlater⟩
  obtain ⟨content, hwritten, hcarried⟩ := written_of_acknowledgesWrite hrun hwriter hack
  obtain ⟨message, last, hlookup, hid, hlast⟩ := stored_of_written hwhole hwritten
  simp only [Relayer.step, hreader] at hread
  split_ifs at hread with hlisting
  refine ⟨content, message, last, Relayer.readReply auth query reached.storage listing,
    ⟨hwritten, hcarried⟩, ⟨hlookup, hid, hlast⟩, ?_, fun hasks ↦ ?_⟩
  · rw [← Option.some.inj hread, System.lookup_setTask]
  · unfold Relayer.readReply
    split_ifs with hgroup
    · obtain ⟨response, hanswer, hshows⟩ :=
        getMessages_shows (reachable_of_run hwhole) hlisting hlookup hasks hgroup
      rw [hanswer]
      exact ⟨response, rfl, hshows⟩
    · obtain ⟨text, hanswer⟩ :=
        getMessages_forbidden (nonceIndexed_of_run hwhole) hlookup hasks hgroup
      rw [hanswer]
      rfl

end Acknowledged

/-! ### A client reads what it posted -/

section Sample

/-- The client that has posted its message asks for it. -/
def sampleAsking : List Action :=
  [.arrive 1 getRequest (sampleClock 3)]

/-- The system when the client's question is about to be answered. -/
def sampleAsked : System :=
  samplePosted.setTask 1 getRequest
    (.calling (.getMessages sampleAuth ⟨some sampleMessageId, none, none, none, none⟩))

theorem runFrom_sampleAsking :
    runFrom sampleRelayer.step samplePosted sampleAsking = some sampleAsked := by
  have hstep : sampleRelayer.step samplePosted (.arrive 1 getRequest (sampleClock 3)) =
      some sampleAsked :=
    step_arrive (tasks_samplePosted (show (1 : TaskId) ≠ 0 by decide))
      (admission_getRequest (by decide))
  exact Option.bind_eq_some_iff.mpr ⟨sampleAsked, hstep, rfl⟩

/-- The client is shown the message it posted. -/
theorem read_your_writes_sampleAsking : ∃ after response,
    sampleRelayer.step sampleAsked (.read 1 [sampleMessage]) = some after ∧
    after.tasks.lookup 1 = some ⟨getRequest, .done (.messages response)⟩ ∧
    response.Shows sampleMessage := by
  have hwriter : samplePosted.tasks.lookup 0 = some ⟨postRequest,
      .done (sampleRelayer.createReply sampleMessageId (sampleClock 2))⟩ :=
    System.lookup_setTask _ _ _ _
  have hreader : sampleAsked.tasks.lookup 1 = some ⟨getRequest,
      .calling (.getMessages sampleAuth ⟨some sampleMessageId, none, none, none, none⟩)⟩ :=
    System.lookup_setTask _ _ _ _
  have hlisting : sampleAsked.storage.messages.IterationOrder [sampleMessage] :=
    HashMap.iterationOrder_singleton sampleMessageId sampleMessage
  obtain ⟨after, hread⟩ :
      ∃ after, sampleRelayer.step sampleAsked (.read 1 [sampleMessage]) = some after := by
    simp only [Relayer.step, hreader]
    exact ⟨_, if_pos hlisting⟩
  obtain ⟨content, message, last, answer, -, ⟨hlookup, -, -⟩, hanswered, hshown⟩ :=
    read_your_writes run_samplePosting hwriter rfl runFrom_sampleAsking hreader hread
  obtain rfl : sampleMessage = message :=
    Option.some.inj (lookup_samplePostedStorage.symm.trans hlookup)
  have hgroup : sampleAuth.authorizedGroup = some sampleMessage.groupId := rfl
  have hanswer := hshown (Or.inl rfl)
  rw [if_pos hgroup] at hanswer
  obtain ⟨response, rfl, hshows⟩ := hanswer
  exact ⟨after, response, hread, hanswered, hshows⟩

end Sample

end MessagingRelayer
