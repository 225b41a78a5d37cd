import MessagingRelayer.System.Serving

/-!
# What signatures are over

Clients sign three kinds of bytes: the canonical form of a request without a body (`SignsRequest`),
a body (`SignsBody`), and the canonical content of a message (`SignsMessage`). The encodings have
no tags, and it is the checks around them that keep them apart: the first one starts with a decimal
number, JSON text with white space or a bracket, and content with the group, which is a hexadecimal
address in every store that only parsed events were applied to
(`exists_hexAddress_of_hasPermission`). No byte string is of two kinds, and its fields can be read
back from each canonical form (`signedBytes_separated`).

A signature says nothing about the method, the path or the query (`sameSigned_agree`).
-/

set_option autoImplicit false
set_option relaxedAutoImplicit false

namespace MessagingRelayer

open Foundation

/-! ### Groups of synchronized stores -/

/-- The events that were parsed have been applied to the empty store, and nothing else. -/
def Synchronized (libs : Externals) (store : InMemoryMembershipStore) : Prop :=
  ∃ (groupsPackageId : String) (events : List SuiEvent),
    events.foldl (MembershipSyncService.processEvent libs groupsPackageId) .new = store

/-- The groups of a synchronized store are hexadecimal addresses. -/
theorem exists_hexAddress_of_hasPermission {libs : Externals} {store : InMemoryMembershipStore}
    (hstore : Synchronized libs store) {groupId address : String} {permission : MessagingPermission}
    (hheld : store.hasPermission groupId address permission = true) :
    ∃ bytes, groupId = hexAddress bytes := by
  obtain ⟨groupsPackageId, events, rfl⟩ := hstore
  obtain ⟨perms, hentry, -⟩ := (InMemoryMembershipStore.hasPermission_iff _ _ _ _).mp hheld
  clear hheld
  induction events using List.reverseRecOn generalizing perms with
  | nil => simp at hentry
  | append_singleton past last ih =>
    rw [List.foldl_append, List.foldl_cons, List.foldl_nil,
      MembershipSyncService.processEvent] at hentry
    cases hparse : parseSuiEvent libs last groupsPackageId with
    | none =>
      simp only [hparse] at hentry
      exact ih perms hentry
    | some event =>
      simp only [hparse] at hentry
      rw [InMemoryMembershipStore.entry_applyEvent] at hentry
      by_cases habout : event.About groupId address
      · rw [habout.1]
        exact parseSuiEvent_groupId hparse
      · rw [if_neg habout] at hentry
        exact ih perms hentry

/-! ### The three kinds -/

/-- The fields of the canonical content of a message. -/
structure MessageFields where
  groupId : String
  encryptedText : String
  nonce : String
  keyVersion : Int
deriving DecidableEq

/-- The canonical content with the fields. -/
def MessageFields.canonical (fields : MessageFields) : String :=
  canonicalMessage fields.groupId fields.encryptedText fields.nonce fields.keyVersion

/-- The canonical form of a request without a body with the fields. -/
def BodyAuthFields.canonical (fields : BodyAuthFields) : String :=
  canonicalRequest fields.timestamp fields.senderAddress fields.groupId

/-- The content a handler is called with, and its signature. -/
def HandlerCall.signedContent : HandlerCall → Option (MessageFields × String)
  | .createMessage _ req =>
    some (⟨req.groupId, req.encryptedText, req.nonce, req.keyVersion⟩, req.messageSignature)
  | .updateMessage _ req =>
    some (⟨req.groupId, req.encryptedText, req.nonce, req.keyVersion⟩, req.messageSignature)
  | .getMessages _ _ => none
  | .deleteMessage _ _ => none

section Kinds

variable (libs : Externals)

/-- The middleware passes the request on, at some time, against a synchronized store. -/
def Passes (request : Request) (auth : AuthContext) : Prop :=
  ∃ ttlSeconds store now, Synchronized libs store ∧
    authMiddleware libs ttlSeconds store now request = .ok (some auth)

/-- A request without a body that passes presents the fields, and these bytes as the signed ones. -/
def SignsRequest (fields : BodyAuthFields) (bytes : List UInt8) : Prop :=
  ∃ request auth signed, Passes libs request auth ∧ extractSigned libs request = .ok signed ∧
    request.body = some [] ∧
    fields = ⟨signed.groupId, signed.senderAddress, signed.timestamp⟩ ∧ bytes = signed.message

/-- A request that passes has the bytes as its body, and they are the signed ones. -/
def SignsBody (bytes : List UInt8) : Prop :=
  ∃ request auth signed, Passes libs request auth ∧ extractSigned libs request = .ok signed ∧
    request.body = some bytes ∧ bytes ≠ [] ∧ bytes = signed.message

/-- A request that passes reaches a handler with the fields, text and nonce of which are decoded,
and the signature of the message is accepted over these bytes. -/
def SignsMessage (fields : MessageFields) (bytes : List UInt8) : Prop :=
  ∃ request auth call messageSignature encryptedMsg nonce signature, Passes libs request auth ∧
    dispatch libs request (some auth) = .ok call ∧
    call.signedContent = some (fields, messageSignature) ∧
    decodeHexField "encrypted_text" fields.encryptedText = .ok encryptedMsg ∧
    decodeNonce fields.nonce = .ok nonce ∧
    verifyMessageSignature libs messageSignature fields.groupId fields.encryptedText fields.nonce
      fields.keyVersion auth = .ok signature ∧
    bytes = utf8 fields.canonical

end Kinds

section Separated

variable {libs : Externals} {request : Request} {auth : AuthContext} {signed : Signed}
  {fields other : BodyAuthFields} {content copied : MessageFields} {bytes : List UInt8}

theorem Passes.authenticated (hpasses : Passes libs request auth)
    (hextract : extractSigned libs request = .ok signed) :
    ∃ ttlSeconds store now permission, Synchronized libs store ∧
      Authenticated libs ttlSeconds store now request permission signed auth := by
  obtain ⟨ttlSeconds, store, now, hstore, haccept⟩ := hpasses
  obtain ⟨permission, presented, hauth⟩ := authenticated_of_authMiddleware haccept
  obtain rfl := Except.ok.inj (hauth.extract_eq.symm.trans hextract)
  exact ⟨ttlSeconds, store, now, permission, hstore, hauth⟩

/-- The signed bytes are the canonical form of the fields, whose sender is an address. -/
theorem SignsRequest.canonical (hsigns : SignsRequest libs fields bytes) :
    bytes = utf8 fields.canonical ∧ ':' ∉ fields.senderAddress.toList := by
  obtain ⟨request, auth, signed, hpasses, hextract, hbody, rfl, rfl⟩ := hsigns
  obtain ⟨_, _, _, _, -, hauth⟩ := hpasses.authenticated hextract
  obtain ⟨-, -, body, -, -, -, -, hfound, hfields⟩ := extractSigned_eq_ok hextract
  obtain rfl := Option.some.inj (hbody.symm.trans hfound)
  exact ⟨authFields_of_nil hfields, colon_notMem_of_deriveSuiAddress hauth.address_ok⟩

/-- A signed body starts with white space or with a bracket. -/
theorem SignsBody.head (hjson : libs.LawfulJson) (hsigns : SignsBody libs bytes) :
    ∃ first ∈ ([0x20, 0x09, 0x0a, 0x0d, 0x7b, 0x5b] : List UInt8), bytes.head? = some first := by
  obtain ⟨request, auth, signed, -, hextract, hbody, hnonempty, -⟩ := hsigns
  obtain ⟨-, -, body, -, -, -, -, hfound, hfields⟩ := extractSigned_eq_ok hextract
  obtain rfl := Option.some.inj (hbody.symm.trans hfound)
  obtain ⟨-, json, hread, hdecode⟩ := authFields_of_body hnonempty hfields
  obtain ⟨structFields, hstruct, -⟩ := bind_eq_ok_iff.mp hdecode
  exact hjson bytes json hread (Json.obj_or_arr_of_structFields hstruct)

/-- The group of a signed message is a hexadecimal address, and no field has a colon. -/
theorem SignsMessage.canonical (hjson : libs.LawfulJson)
    (hsigns : SignsMessage libs content bytes) :
    bytes = utf8 content.canonical ∧ (∃ group, content.groupId = hexAddress group) ∧
      ':' ∉ content.encryptedText.toList ∧ ':' ∉ content.nonce.toList := by
  obtain ⟨request, auth, call, messageSignature, encryptedMsg, nonce, signature, hpasses, hdispatch,
    hcontent, hencrypted, hnonce, -, rfl⟩ := hsigns
  refine ⟨rfl, ?_, Hex.colon_notMem_of_decode (decodeHexField_eq_ok hencrypted),
    Hex.colon_notMem_of_decode (decodeNonce_eq_ok hnonce).1⟩
  obtain ⟨ttlSeconds, store, now, hstore, haccept⟩ := hpasses
  obtain ⟨permission, signed, hauth⟩ := authenticated_of_authMiddleware haccept
  obtain ⟨context, hcontext, hrouted⟩ := routed_of_dispatch hdispatch
  obtain rfl := Option.some.inj hcontext
  have hclaimed : auth.authorizedGroup = some content.groupId := by
    cases call with
    | createMessage found req =>
      obtain ⟨rfl, -⟩ := Prod.mk.inj (Option.some.inj hcontent)
      cases hrouted with
      | createMessage hmethod hroute hread hreq =>
        exact (hauth.create_claims hjson (.createMessage hmethod hroute hread hreq)).1
    | updateMessage found req =>
      obtain ⟨rfl, -⟩ := Prod.mk.inj (Option.some.inj hcontent)
      cases hrouted with
      | updateMessage hmethod hroute hread hreq =>
        exact hauth.update_claims hjson (.updateMessage hmethod hroute hread hreq)
    | getMessages found query => simp [HandlerCall.signedContent] at hcontent
    | deleteMessage found messageId => simp [HandlerCall.signedContent] at hcontent
  have hgroup : content.groupId = signed.groupId := by
    rw [hauth.auth_eq] at hclaimed
    exact (Option.some.inj hclaimed).symm
  rw [hgroup]
  exact exists_hexAddress_of_hasPermission hstore hauth.permission_held

/-- A hexadecimal address is no decimal number. -/
theorem toString_ne_hexAddress (number : Int) (group : FixedBytes 32) :
    toString number ≠ hexAddress group := by
  intro hsame
  have hmem : 'x' ∈ (toString number).toList := by
    rw [hsame, hexAddress, String.toList_append]
    exact List.mem_append_left _ (by decide)
  rcases isDigit_or_minus_of_mem_toString hmem with hdigit | hminus
  · exact absurd hdigit (by decide)
  · exact absurd hminus (by decide)

/-- The first field of the canonical form of a request is the time. -/
theorem BodyAuthFields.canonical_eq (fields : BodyAuthFields) :
    fields.canonical = toString fields.timestamp ++ ":" ++
      (fields.senderAddress ++ ":" ++ fields.groupId) := by
  simp only [canonical, canonicalRequest, String.append_assoc]

/-- The fields can be read back from the canonical form of a request. -/
theorem BodyAuthFields.canonical_inj (hfields : ':' ∉ fields.senderAddress.toList)
    (hother : ':' ∉ other.senderAddress.toList) (heq : fields.canonical = other.canonical) :
    fields = other := by
  rw [fields.canonical_eq, other.canonical_eq] at heq
  obtain ⟨htimestamp, hrest⟩ := colon_inj (colon_notMem_toString _) (colon_notMem_toString _) heq
  obtain ⟨hsender, hgroup⟩ := colon_inj hfields hother hrest
  obtain ⟨group, sender, timestamp⟩ := fields
  obtain ⟨group', sender', timestamp'⟩ := other
  rw [BodyAuthFields.mk.injEq]
  exact ⟨hgroup, hsender, toString_int_injective htimestamp⟩

/-- The first field of canonical content is the group. -/
theorem MessageFields.canonical_eq (content : MessageFields) :
    content.canonical = content.groupId ++ ":" ++ (content.encryptedText ++ ":" ++ content.nonce ++
      ":" ++ toString content.keyVersion) := by
  simp only [canonical, canonicalMessage, String.append_assoc]

/-- The fields can be read back from canonical content. -/
theorem MessageFields.canonical_inj (hgroup : ':' ∉ content.groupId.toList)
    (hgroup' : ':' ∉ copied.groupId.toList) (htext : ':' ∉ content.encryptedText.toList)
    (htext' : ':' ∉ copied.encryptedText.toList) (hnonce : ':' ∉ content.nonce.toList)
    (hnonce' : ':' ∉ copied.nonce.toList) (heq : content.canonical = copied.canonical) :
    content = copied := by
  have hfields := heq
  rw [content.canonical_eq, copied.canonical_eq] at hfields
  obtain ⟨hsame, -⟩ := colon_inj hgroup hgroup' hfields
  obtain ⟨group, encryptedText, nonce, keyVersion⟩ := content
  obtain ⟨group', encryptedText', nonce', keyVersion'⟩ := copied
  obtain rfl : group = group' := hsame
  obtain ⟨rfl, rfl, rfl⟩ := canonicalMessage_inj htext htext' hnonce hnonce' heq
  rfl

/-- The canonical form of a request starts with a digit or a minus sign. -/
theorem BodyAuthFields.head?_canonical (fields : BodyAuthFields) :
    ∃ head, fields.canonical.toList.head? = some head ∧ (head.isDigit ∨ head = '-') := by
  obtain ⟨head, hhead, hdigit⟩ := head?_toString fields.timestamp
  refine ⟨head, ?_, hdigit⟩
  rw [fields.canonical_eq, String.toList_append, String.toList_append, List.head?_append,
    List.head?_append, hhead]
  rfl

/-- A digit or a minus sign is no first byte of the text of a JSON object or array. -/
theorem notMem_of_isDigit_or_minus {head : Char} (hhead : head.isDigit ∨ head = '-') :
    head.toNat ≤ 127 ∧
      UInt8.ofNat head.toNat ∉ ([0x20, 0x09, 0x0a, 0x0d, 0x7b, 0x5b] : List UInt8) := by
  have htable : ∀ code < 58, 45 ≤ code →
      UInt8.ofNat code ∉ ([0x20, 0x09, 0x0a, 0x0d, 0x7b, 0x5b] : List UInt8) := by
    decide
  have hrange : 45 ≤ head.toNat ∧ head.toNat < 58 := by
    rcases hhead with hdigit | rfl
    · rw [Char.isDigit, Bool.and_eq_true, decide_eq_true_iff, decide_eq_true_iff] at hdigit
      have hlow : 48 ≤ head.toNat := UInt32.le_iff_toNat_le.mp hdigit.1
      have hhigh : head.toNat ≤ 57 := UInt32.le_iff_toNat_le.mp hdigit.2
      omega
    · decide
  exact ⟨by omega, htable head.toNat hrange.2 hrange.1⟩

/-- Text that starts with a digit or a minus sign is no text of a JSON object or array. -/
theorem utf8_ne_of_head {text : String} {head : Char} (hhead : text.toList.head? = some head)
    (hdigit : head.isDigit ∨ head = '-')
    (hbytes : ∃ first ∈ ([0x20, 0x09, 0x0a, 0x0d, 0x7b, 0x5b] : List UInt8),
      bytes.head? = some first) : bytes ≠ utf8 text := by
  rintro rfl
  obtain ⟨hascii, hnotMem⟩ := notMem_of_isDigit_or_minus hdigit
  obtain ⟨first, hmem, hfirst⟩ := hbytes
  rw [head?_utf8 hhead hascii] at hfirst
  exact hnotMem (Option.some.inj hfirst ▸ hmem)

/-- The kinds of signed bytes are apart, and the fields can be read back from the canonical ones. -/
theorem signedBytes_separated (hjson : libs.LawfulJson) :
    (∀ bytes fields content, SignsRequest libs fields bytes → ¬ SignsMessage libs content bytes) ∧
    (∀ bytes fields, SignsRequest libs fields bytes → ¬ SignsBody libs bytes) ∧
    (∀ bytes content, SignsMessage libs content bytes → ¬ SignsBody libs bytes) ∧
    (∀ bytes fields other, SignsRequest libs fields bytes → SignsRequest libs other bytes →
      fields = other) ∧
    ∀ bytes content copied, SignsMessage libs content bytes → SignsMessage libs copied bytes →
      content = copied := by
  refine ⟨?_, ?_, ?_, ?_, ?_⟩
  · intro bytes fields content hrequest hmessage
    obtain ⟨hbytes, -⟩ := hrequest.canonical
    obtain ⟨hcontent, ⟨group, hgroup⟩, -⟩ := hmessage.canonical hjson
    have htext := utf8_injective (hbytes.symm.trans hcontent)
    rw [fields.canonical_eq, content.canonical_eq] at htext
    obtain ⟨hfirst, -⟩ := colon_inj (colon_notMem_toString _)
      (hgroup ▸ colon_notMem_hexAddress group) htext
    exact toString_ne_hexAddress _ group (hfirst.trans hgroup)
  · intro bytes fields hrequest hbody
    obtain ⟨head, hhead, hdigit⟩ := fields.head?_canonical
    exact utf8_ne_of_head hhead hdigit (hbody.head hjson) hrequest.canonical.1
  · intro bytes content hmessage hbody
    obtain ⟨hcontent, ⟨group, hgroup⟩, -⟩ := hmessage.canonical hjson
    have hhead : content.canonical.toList.head? = some '0' := by
      rw [content.canonical_eq, String.toList_append, String.toList_append, List.head?_append,
        List.head?_append, hgroup, head?_hexAddress]
      rfl
    exact utf8_ne_of_head hhead (Or.inl (by decide)) (hbody.head hjson) hcontent
  · intro bytes fields other hfirst hsecond
    obtain ⟨hbytes, hsender⟩ := hfirst.canonical
    obtain ⟨hother, hsender'⟩ := hsecond.canonical
    exact BodyAuthFields.canonical_inj hsender hsender' (utf8_injective (hbytes.symm.trans hother))
  · intro bytes content copied hfirst hsecond
    obtain ⟨hcontent, ⟨group, hgroup⟩, htext, hnonce⟩ := hfirst.canonical hjson
    obtain ⟨hcopied, ⟨group', hgroup'⟩, htext', hnonce'⟩ := hsecond.canonical hjson
    have hsame : content.canonical = copied.canonical :=
      utf8_injective (hcontent.symm.trans hcopied)
    exact MessageFields.canonical_inj (hgroup ▸ colon_notMem_hexAddress group)
      (hgroup' ▸ colon_notMem_hexAddress group') htext htext' hnonce hnonce' hsame

end Separated

theorem synchronized_sampleMembership : Synchronized sampleLibs sampleMembership := by
  refine ⟨samplePackage, [sampleEvent "MemberAdded" sampleMemberBytes,
    sampleEvent "PermissionsGranted" samplePermissionsBytes], ?_⟩
  simp only [List.foldl_cons, List.foldl_nil, MembershipSyncService.processEvent,
    parseSuiEvent_sampleMember, parseSuiEvent_samplePermissions]
  rfl

/-- The content the client posts. -/
def samplePostFields : MessageFields :=
  ⟨samplePost.groupId, samplePost.encryptedText, samplePost.nonce, samplePost.keyVersion⟩

theorem signsMessage_samplePost :
    SignsMessage sampleLibs samplePostFields (utf8 samplePostFields.canonical) := by
  obtain ⟨encryptedMsg, hencrypted, hrest⟩ := bind_eq_ok_iff.mp decodeContent_samplePost
  obtain ⟨nonce, hnonce, hrest⟩ := bind_eq_ok_iff.mp hrest
  obtain ⟨signature, hsignature, -⟩ := bind_eq_ok_iff.mp hrest
  have hpasses : Passes sampleLibs postRequest sampleAuth :=
    ⟨900, sampleMembership, DateTime.timestamp (sampleClock 0), synchronized_sampleMembership,
      authMiddleware_postRequest (by decide)⟩
  have hdispatch : dispatch sampleLibs postRequest (some sampleAuth) =
      .ok (.createMessage sampleAuth samplePost) :=
    sampleSigner.dispatch_post (beq_self_eq_true _) length_postBody_le jsonFromSlice_postBody
      (samplePost.fromJson_toJson sampleTimestamp (by decide))
  exact ⟨postRequest, sampleAuth, _, samplePost.messageSignature, encryptedMsg, nonce, signature,
    hpasses, hdispatch, rfl, hencrypted, hnonce, hsignature, rfl⟩

/-- What the client signed as the content of its message authenticates no request. -/
theorem separated_samplePost :
    ¬ SignsBody sampleLibs (utf8 samplePostFields.canonical) ∧
      ∀ fields, ¬ SignsRequest sampleLibs fields (utf8 samplePostFields.canonical) :=
  ⟨(signedBytes_separated lawfulJson_sampleLibs).2.2.1 _ _ signsMessage_samplePost,
    fun fields hrequest ↦
      (signedBytes_separated lawfulJson_sampleLibs).1 _ fields _ hrequest signsMessage_samplePost⟩

/-! ### What a signature does not say -/

/-- The message a handler is called for, where the request names one. -/
def HandlerCall.target : HandlerCall → Option Uuid
  | .createMessage _ _ => none
  | .getMessages _ query => query.messageId
  | .updateMessage _ req => some req.messageId
  | .deleteMessage _ messageId => some messageId

/-- The request with another method, path and query. -/
def Request.redirected (request : Request) (method : Method) (route : Route) (query : String) :
    Request :=
  { request with method := method, route := route, query := query }

section SameSigned

variable {libs : Externals} {ttlSeconds now ttlSeconds' now' : Int}
  {store store' : InMemoryMembershipStore} {first second : Request} {auth other : AuthContext}
  {signed again : Signed} {call repeated : HandlerCall}

/-- The signed bytes are a body, or they are canonical and the request has none. -/
theorem body_of_extractSigned (hextract : extractSigned libs first = .ok signed) :
    first.body = some signed.message ∧ signed.message ≠ [] ∧ (∃ json,
      libs.jsonFromSlice signed.message = .ok json ∧ BodyAuthFields.fromJson json =
        .ok ⟨signed.groupId, signed.senderAddress, signed.timestamp⟩) ∨
    first.body = some [] ∧ signed.message = utf8 (BodyAuthFields.canonical
      ⟨signed.groupId, signed.senderAddress, signed.timestamp⟩) := by
  obtain ⟨-, -, body, -, -, -, -, hbody, hfields⟩ := extractSigned_eq_ok hextract
  by_cases hempty : body = []
  · subst hempty
    exact Or.inr ⟨hbody, authFields_of_nil hfields⟩
  · obtain ⟨hmessage, hread⟩ := authFields_of_body hempty hfields
    rw [hmessage]
    exact Or.inl ⟨hbody, hempty, hread⟩

/-- A body is no canonical form. -/
theorem canonical_ne_of_body (hjson : libs.LawfulJson) {bytes : List UInt8} {json : Json}
    {fields claimed : BodyAuthFields} (hread : libs.jsonFromSlice bytes = .ok json)
    (hdecode : BodyAuthFields.fromJson json = .ok claimed) : bytes ≠ utf8 fields.canonical := by
  obtain ⟨head, hhead, hdigit⟩ := fields.head?_canonical
  obtain ⟨structFields, hstruct, -⟩ := bind_eq_ok_iff.mp hdecode
  exact utf8_ne_of_head hhead hdigit (hjson bytes json hread
    (Json.obj_or_arr_of_structFields hstruct))

/-- What a request presents does not depend on its method, path and query: with others it passes as
well when the permission for its method is held. -/
theorem Authenticated.redirected {permission needed : MessagingPermission} {method : Method}
    (hauth : Authenticated libs ttlSeconds store now first permission signed auth) (route : Route)
    (query : String) (hpermission : requiredPermission method = some needed)
    (hheld : store.hasPermission signed.groupId signed.senderAddress needed = true) :
    Authenticated libs ttlSeconds store now (first.redirected method route query) needed signed
      auth where
  permission_eq := hpermission
  extract_eq := hauth.extract_eq
  timestamp_ok := hauth.timestamp_ok
  signature_ok := hauth.signature_ok
  address_ok := hauth.address_ok
  permission_held := hheld
  auth_eq := hauth.auth_eq

/-- Two requests that pass with the same signed bytes under the same key are of one sender for one
group at one time, and they have the same body. Where their method is one that has its parameters in
the body, a handler gets the same ones. The method, the path and the query are not signed: with any
others the first request presents the same signed bytes, and passes with the same context when the
sender holds the permission for the method; and as a `DELETE` it reaches the handler for any message
its path names. -/
theorem sameSigned_agree (hjson : libs.LawfulJson)
    (hfirst : authMiddleware libs ttlSeconds store now first = .ok (some auth))
    (hsecond : authMiddleware libs ttlSeconds' store' now' second = .ok (some other))
    (hsigned : extractSigned libs first = .ok signed)
    (hagain : extractSigned libs second = .ok again)
    (hmessage : signed.message = again.message)
    (hkey : signed.scheme = again.scheme ∧ signed.publicKey = again.publicKey)
    (hcall : dispatch libs first (some auth) = .ok call)
    (hrepeated : dispatch libs second (some other) = .ok repeated) :
    auth = other ∧ signed.timestamp = again.timestamp ∧ first.body = second.body ∧
      (first.method = second.method → first.method = .post ∨ first.method = .put →
        call = repeated) ∧
      (∀ method route query needed, requiredPermission method = some needed →
        store.hasPermission signed.groupId signed.senderAddress needed = true →
          extractSigned libs (first.redirected method route query) = .ok signed ∧
          authMiddleware libs ttlSeconds store now (first.redirected method route query) =
            .ok (some auth)) ∧
      ∀ query segment messageId, libs.uuidParseStr segment = .ok messageId →
        dispatch libs (first.redirected .delete (.message segment) query) (some auth) =
          .ok (.deleteMessage auth messageId) := by
  obtain ⟨permission, presented, hauth⟩ := authenticated_of_authMiddleware hfirst
  obtain rfl := Except.ok.inj (hauth.extract_eq.symm.trans hsigned)
  obtain ⟨permission', presented', hother⟩ := authenticated_of_authMiddleware hsecond
  obtain rfl := Except.ok.inj (hother.extract_eq.symm.trans hagain)
  have hsender : presented.senderAddress = presented'.senderAddress := by
    have haddress := hauth.address_ok
    rw [hkey.1, hkey.2, hother.address_ok] at haddress
    exact (Except.ok.inj haddress).symm
  have hclaims : first.body = second.body ∧
      (⟨presented.groupId, presented.senderAddress, presented.timestamp⟩ : BodyAuthFields) =
        ⟨presented'.groupId, presented'.senderAddress, presented'.timestamp⟩ := by
    rcases body_of_extractSigned hsigned with ⟨hbody, -, json, hread, hdecode⟩ | ⟨hbody, hcanonical⟩
    · rcases body_of_extractSigned hagain with ⟨hbody', -, json', hread', hdecode'⟩ |
        ⟨-, hcanonical⟩
      · rw [← hmessage, hread] at hread'
        obtain rfl := Except.ok.inj hread'
        rw [hbody, hbody', hmessage]
        exact ⟨rfl, Except.ok.inj (hdecode.symm.trans hdecode')⟩
      · exact absurd (hmessage.trans hcanonical) (canonical_ne_of_body hjson hread hdecode)
    · rcases body_of_extractSigned hagain with ⟨-, -, json, hread, hdecode⟩ | ⟨hbody', hcanonical'⟩
      · exact absurd (hmessage.symm.trans hcanonical) (canonical_ne_of_body hjson hread hdecode)
      · refine ⟨hbody.trans hbody'.symm, BodyAuthFields.canonical_inj ?_ ?_ (utf8_injective ?_)⟩
        · exact colon_notMem_of_deriveSuiAddress hauth.address_ok
        · exact colon_notMem_of_deriveSuiAddress hother.address_ok
        · exact hcanonical.symm.trans (hmessage.trans hcanonical')
  obtain ⟨hbody, hfields⟩ := hclaims
  have hgroup : presented.groupId = presented'.groupId := congrArg BodyAuthFields.groupId hfields
  have hsame : auth = other := by
    rw [hauth.auth_eq, hother.auth_eq, hsender, hgroup, hkey.1, hkey.2]
  refine ⟨hsame, congrArg BodyAuthFields.timestamp hfields, hbody, fun hmethod hwrites ↦ ?_,
    fun method route query needed hpermission hheld ↦ ?_,
    fun query segment messageId hid ↦ dispatch_delete_of_path rfl rfl hid⟩
  · obtain ⟨context, hcontext, hrouted⟩ := routed_of_dispatch hcall
    obtain ⟨context', hcontext', hrouted'⟩ := routed_of_dispatch hrepeated
    obtain rfl := Option.some.inj hcontext
    obtain rfl := Option.some.inj hcontext'
    rw [← hsame] at hrouted'
    exact hrouted.eq_of_body hrouted' hmethod hbody hwrites
  · have hredirected := hauth.redirected route query hpermission hheld
    exact ⟨hredirected.extract_eq, authMiddleware_of_authenticated hredirected⟩

end SameSigned

/-! ### A read and a deletion with one signature -/

/-- The bodyless requests of the client have one signature, over one text. -/
theorem extractSigned_canonical (method : Method) (route : Route) (query : String) :
    extractSigned sampleLibs (sampleSigner.headerRequest method route query canonicalSignature
      (hexAddress sampleAddress) sampleTimestamp (hexAddress sampleGroup)) = .ok {
        scheme := sampleSigner.scheme
        publicKey := sampleSigner.key
        signature := canonicalSignature
        groupId := hexAddress sampleGroup
        senderAddress := hexAddress sampleAddress
        timestamp := sampleTimestamp
        message := utf8 (canonicalRequest sampleTimestamp (hexAddress sampleAddress)
          (hexAddress sampleGroup)) } :=
  sampleSigner.extractSigned_headerRequest (graphic_hexAddress _) (graphic_hexAddress _) (by decide)

/-- The read and the deletion agree in what is signed, and the read passes as a deletion. -/
theorem sameSigned_getRequest : getRequest.body = deleteRequest.body ∧
    authMiddleware sampleLibs 900 sampleMembership (DateTime.timestamp (sampleClock 0))
      (getRequest.redirected .delete (.message (Uuid.toString sampleMessageId)) "") =
        .ok (some sampleAuth) := by
  have hget : authMiddleware sampleLibs 900 sampleMembership (DateTime.timestamp (sampleClock 0))
      getRequest = .ok (some sampleAuth) := authMiddleware_canonical rfl (by decide)
  have hdelete : authMiddleware sampleLibs 900 sampleMembership
      (DateTime.timestamp (sampleClock 0)) deleteRequest = .ok (some sampleAuth) :=
    authMiddleware_canonical rfl (by decide)
  obtain ⟨-, -, hbody, -, hothers, -⟩ := sameSigned_agree lawfulJson_sampleLibs hget hdelete
    (extractSigned_canonical _ _ _) (extractSigned_canonical _ _ _) rfl ⟨rfl, rfl⟩
    dispatch_getRequest dispatch_deleteRequest
  exact ⟨hbody, (hothers .delete _ "" .messagingDeleter rfl
    (hasPermission_sampleMembership .messagingDeleter)).2⟩

/-- The client signs a read of its message. The signature is good for deleting it too. -/
theorem not_oneOperation_of_canonical :
    ¬ ∀ (libs : Externals) ttlSeconds store now first second auth other signed again call repeated,
      libs.LawfulJson →
      authMiddleware libs ttlSeconds store now first = .ok (some auth) →
      authMiddleware libs ttlSeconds store now second = .ok (some other) →
      extractSigned libs first = .ok signed → extractSigned libs second = .ok again →
      signed.message = again.message → signed.signature = again.signature →
      signed.scheme = again.scheme ∧ signed.publicKey = again.publicKey →
      dispatch libs first (some auth) = .ok call →
      dispatch libs second (some other) = .ok repeated →
        first.method = second.method ∧ call.target = repeated.target := by
  intro hone
  have hget : authMiddleware sampleLibs 900 sampleMembership (DateTime.timestamp (sampleClock 0))
      getRequest = .ok (some sampleAuth) := authMiddleware_canonical rfl (by decide)
  have hdelete : authMiddleware sampleLibs 900 sampleMembership
      (DateTime.timestamp (sampleClock 0)) deleteRequest = .ok (some sampleAuth) :=
    authMiddleware_canonical rfl (by decide)
  have hmethod := (hone sampleLibs 900 sampleMembership (DateTime.timestamp (sampleClock 0))
    getRequest deleteRequest sampleAuth sampleAuth _ _ _ _ lawfulJson_sampleLibs hget hdelete
    (extractSigned_canonical _ _ _) (extractSigned_canonical _ _ _) rfl rfl ⟨rfl, rfl⟩
    dispatch_getRequest dispatch_deleteRequest).1
  exact absurd hmethod (by decide)

end MessagingRelayer
