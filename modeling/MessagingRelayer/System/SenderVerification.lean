import MessagingRelayer.System.Serving
import MessagingRelayer.System.Writes

/-!
# Sender verification

A receiver checks the response for a message by its own fields (`MessageResponse.Verifies`). The
signature of a message is over the hexadecimal texts of the request that wrote it, the storage has
the bytes, and the response spells them in lower case. So key, sender and signature of every stored
message belong together, for texts that decode to its bytes (`signedText_of_run`), and the response
verifies when those texts are the ones it has: in a run whose accepted writes are spelled in lower
case every response does (`verifies_of_writesLowerCase`). Where a signature is good for one text
alone there is no other run (`writesLowerCase_of_verifies`).
-/

set_option autoImplicit false
set_option relaxedAutoImplicit false

namespace MessagingRelayer

open Foundation

/-! ### The texts a message was signed with -/

/-- Sender, key and signature of the message belong together: the key is the sender's, and the
signature is good under it for texts that decode to the bytes of the message. -/
structure Message.SignedText (libs : Externals) (message : Message) (auth : AuthContext)
    (encryptedText nonceText : String) : Prop where
  decode_encryptedText : Hex.decode encryptedText = .ok message.encryptedMsg
  decode_nonceText : Hex.decode nonceText = .ok message.nonce
  publicKey_eq : message.publicKey = auth.publicKeyWithFlag
  address_ok : deriveSuiAddress libs auth.publicKey auth.scheme = .ok message.senderWalletAddr
  signature_ok : verifySignature libs
    (utf8 (canonicalMessage message.groupId encryptedText nonceText message.keyVersion))
    message.signature auth.publicKey auth.scheme = .ok ()

/-- A text without upper-case digits. -/
def LowerCase (text : String) : Prop :=
  ∀ symbol ∈ text.toList, Hex.IsLower symbol

instance (text : String) : Decidable (LowerCase text) :=
  List.decidableBAll Hex.IsLower text.toList

/-- A signature is good for one text at most. -/
def SignsOneText (libs : Externals) : Prop :=
  ∀ first second signature key scheme, verifySignature libs first signature key scheme = .ok () →
    verifySignature libs second signature key scheme = .ok () → first = second

section SignedText

variable {libs : Externals} {message kept : Message} {auth : AuthContext}
  {encryptedText nonceText : String}

/-- What a message was signed with depends on its content and its identity alone. -/
theorem Message.SignedText.congr
    (hsigned : message.SignedText libs auth encryptedText nonceText)
    (hcontent : message.content = kept.content) (hidentity : message.identity = kept.identity) :
    kept.SignedText libs auth encryptedText nonceText := by
  have hencrypted : message.encryptedMsg = kept.encryptedMsg :=
    congrArg MessageContent.encryptedMsg hcontent
  have hnonce : message.nonce = kept.nonce := congrArg MessageContent.nonce hcontent
  have hversion : message.keyVersion = kept.keyVersion :=
    congrArg MessageContent.keyVersion hcontent
  have hsignature : message.signature = kept.signature := congrArg MessageContent.signature hcontent
  have hkey : message.publicKey = kept.publicKey := congrArg MessageContent.publicKey hcontent
  have hgroup : message.groupId = kept.groupId := congrArg Message.Identity.groupId hidentity
  have hsender : message.senderWalletAddr = kept.senderWalletAddr :=
    congrArg Message.Identity.senderWalletAddr hidentity
  obtain ⟨hdecode, hdecodeNonce, hpublic, haddress, hverify⟩ := hsigned
  rw [hgroup, hversion, hsignature] at hverify
  exact ⟨hencrypted ▸ hdecode, hnonce ▸ hdecodeNonce, hkey.symm.trans hpublic, hsender ▸ haddress,
    hverify⟩

/-- The response for a message verifies when its signature is good for the texts of the response. -/
theorem Message.SignedText.verifies_iff
    (hsigned : message.SignedText libs auth encryptedText nonceText) :
    (MessageResponse.fromMessage message).Verifies libs ↔
      verifySignature libs (utf8 (canonicalMessage message.groupId (Hex.encode message.encryptedMsg)
        (Hex.encode message.nonce) message.keyVersion)) message.signature auth.publicKey
          auth.scheme = .ok () := by
  rw [MessageResponse.verifies_fromMessage_iff hsigned.publicKey_eq]
  exact and_iff_right hsigned.address_ok

/-- The response for a message that was signed in lower case verifies. -/
theorem Message.SignedText.verifies
    (hsigned : message.SignedText libs auth encryptedText nonceText)
    (hencrypted : LowerCase encryptedText) (hnonce : LowerCase nonceText) :
    (MessageResponse.fromMessage message).Verifies libs := by
  rw [hsigned.verifies_iff,
    (Hex.encode_eq_iff_of_decode hsigned.decode_encryptedText).mpr hencrypted,
    (Hex.encode_eq_iff_of_decode hsigned.decode_nonceText).mpr hnonce]
  exact hsigned.signature_ok

/-- Assumes: a signature is good for one text. A message whose response verifies was signed in lower
case. -/
theorem Message.SignedText.lowerCase_of_verifies (hunique : SignsOneText libs)
    (hsigned : message.SignedText libs auth encryptedText nonceText)
    (hverifies : (MessageResponse.fromMessage message).Verifies libs) :
    LowerCase encryptedText ∧ LowerCase nonceText := by
  have hserved := hsigned.verifies_iff.mp hverifies
  have hsame := utf8_injective (hunique _ _ _ _ _ hserved hsigned.signature_ok)
  obtain ⟨hencrypted, hnonce, -⟩ := canonicalMessage_inj (Hex.colon_notMem_encode _)
    (Hex.colon_notMem_of_decode hsigned.decode_encryptedText) (Hex.colon_notMem_encode _)
    (Hex.colon_notMem_of_decode hsigned.decode_nonceText) hsame
  exact ⟨(Hex.encode_eq_iff_of_decode hsigned.decode_encryptedText).mp hencrypted,
    (Hex.encode_eq_iff_of_decode hsigned.decode_nonceText).mp hnonce⟩

end SignedText

/-! ### What accepted writes sign -/

/-- The hexadecimal texts of the content that a handler is called with. -/
def HandlerCall.contentTexts : HandlerCall → Option (String × String)
  | .createMessage _ req => some (req.encryptedText, req.nonce)
  | .updateMessage _ req => some (req.encryptedText, req.nonce)
  | .getMessages _ _ => none
  | .deleteMessage _ _ => none

/-- If the step is an accepted write of a create or update request, both texts of the request are
spelled like this. -/
def WritesSpelled (relayer : Relayer) (spelling : String → Prop) (before : System)
    (action : Action) : Prop :=
  ∀ request id content, Writes request id content before action →
    ∀ auth call encryptedText nonceText, Routed relayer.libs request auth call →
      call.contentTexts = some (encryptedText, nonceText) →
        spelling encryptedText ∧ spelling nonceText

/-- A request has the same texts whichever context it is routed with. -/
theorem Routed.contentTexts_eq {libs : Externals} {request : Request} {auth other : AuthContext}
    {call again : HandlerCall} (hrouted : Routed libs request auth call)
    (hagain : Routed libs request other again) : call.contentTexts = again.contentTexts := by
  cases hrouted with
  | createMessage hpost hroute hjson hreq =>
    have hsame : Routed libs request auth _ := .createMessage hpost hroute hjson hreq
    rw [hsame.createMessage_of_body hagain rfl rfl]
    rfl
  | updateMessage hput hroute hjson hreq =>
    have hsame : Routed libs request auth _ := .updateMessage hput hroute hjson hreq
    rw [hsame.updateMessage_of_body hagain rfl rfl]
    rfl
  | getMessages hget =>
    cases hagain with
    | createMessage hpost => simp [hpost] at hget
    | updateMessage hput => simp [hput] at hget
    | _ => rfl
  | deleteMessage hdelete =>
    cases hagain with
    | createMessage hpost => simp [hpost] at hdelete
    | updateMessage hput => simp [hput] at hdelete
    | _ => rfl

section Runs

variable {relayer : Relayer} {past : List Action} {action : Action} {before after : System}
  {request : Request} {id : Uuid} {content : MessageContent} {message : Message}

/-- An accepted write leaves a message that is signed with the texts of the request. -/
theorem signedText_of_writes (hjson : relayer.libs.LawfulJson)
    (hpast : relayer.run past = some before)
    (hwrites : Writes request id content before action)
    (hstep : relayer.step before action = some after)
    (hlookup : after.storage.messages.lookup id = some message) :
    ∃ auth call encryptedText nonceText, Routed relayer.libs request auth call ∧
      call.contentTexts = some (encryptedText, nonceText) ∧
      message.SignedText relayer.libs auth encryptedText nonceText := by
  obtain ⟨task, written, hwritten, rfl, htask⟩ := lookup_of_writes hwrites hstep
  obtain rfl := Option.some.inj (hwritten.symm.trans hlookup)
  rcases htask with htask | ⟨stored, htask, hstored, hidentity⟩
  · obtain ⟨built, order, ⟨auth, req, drawn, now, hadmitted, -, hprepare⟩, rfl⟩ :=
      backed_of_run hpast _ _ htask
    obtain ⟨content, hcontent, rfl⟩ := createMessagePrepare_eq_ok hprepare
    obtain ⟨hencrypted, hnonce, hversion, hkey, hverify⟩ := decodeContent_eq_ok hcontent
    have hsender : auth.senderAddress = req.senderAddress := by
      obtain ⟨_, _, _, _, -, -, ⟨permission, signed, hpassed⟩, hrouted⟩ := hadmitted
      exact (hpassed.create_claims hjson hrouted).2
    rw [← hversion] at hverify
    exact ⟨auth, _, req.encryptedText, req.nonce, hadmitted.routed, rfl,
      ⟨hencrypted, hnonce, hkey, hsender ▸ hadmitted.address_ok, hverify⟩⟩
  · obtain ⟨auth, req, hadmitted, rfl, hcontent, owned, howned, hgroup, hsender⟩ :=
      backed_of_run hpast _ _ htask
    obtain rfl := Option.some.inj (hstored.symm.trans howned)
    obtain ⟨hencrypted, hnonce, hversion, hkey, hverify⟩ := decodeContent_eq_ok hcontent
    have hclaimed : auth.authorizedGroup = some req.groupId := by
      obtain ⟨_, _, _, _, -, -, ⟨permission, signed, hpassed⟩, hrouted⟩ := hadmitted
      exact hpassed.update_claims hjson hrouted
    have hsameGroup : written.groupId = req.groupId :=
      (congrArg Message.Identity.groupId hidentity).trans
        (Option.some.inj (hgroup.symm.trans hclaimed))
    have hsameSender : written.senderWalletAddr = auth.senderAddress :=
      (congrArg Message.Identity.senderWalletAddr hidentity).trans hsender
    rw [← hversion, ← hsameGroup] at hverify
    exact ⟨auth, _, req.encryptedText, req.nonce, hadmitted.routed, rfl,
      ⟨hencrypted, hnonce, hkey, hsameSender ▸ hadmitted.address_ok, hverify⟩⟩

/-- In a run whose accepted writes are spelled like this, sender, key and signature of every stored
message belong together for texts that are spelled like this. -/
theorem signedText_of_everyStep (hjson : relayer.libs.LawfulJson) {finish : System}
    (spelling : String → Prop) (hrun : relayer.run past = some finish)
    (hspelled : EveryStep relayer.step (WritesSpelled relayer spelling) .init past) :
    ∀ id message, finish.storage.messages.lookup id = some message →
      ∃ auth encryptedText nonceText,
        message.SignedText relayer.libs auth encryptedText nonceText ∧
          spelling encryptedText ∧ spelling nonceText := by
  refine history_induction_of_everyStep (fun _ reached ↦ ∀ id message,
    reached.storage.messages.lookup id = some message → ∃ auth encryptedText nonceText,
      message.SignedText relayer.libs auth encryptedText nonceText ∧
        spelling encryptedText ∧ spelling nonceText) ?_ ?_ hspelled hrun
  · intro id message hlookup
    simp [System.init, InMemoryStorage.new] at hlookup
  · intro past before action after hpast hbefore hcond hstep id message hlookup
    rcases writes_or_kept_of_step hstep hlookup with ⟨request, hwrites⟩ |
      ⟨stored, hstored, hcontent, hidentity⟩
    · obtain ⟨auth, call, encryptedText, nonceText, hrouted, htexts, hsigned⟩ :=
        signedText_of_writes hjson hpast hwrites hstep hlookup
      exact ⟨auth, encryptedText, nonceText, hsigned,
        hcond request id _ hwrites auth call encryptedText nonceText hrouted htexts⟩
    · obtain ⟨auth, encryptedText, nonceText, hsigned, hspelling⟩ := hbefore id stored hstored
      exact ⟨auth, encryptedText, nonceText, hsigned.congr hcontent hidentity, hspelling⟩

/-- In every state of the system sender, key and signature of every stored message
belong together. -/
theorem signedText_of_run (hjson : relayer.libs.LawfulJson) {finish : System}
    (hrun : relayer.run past = some finish)
    (hlookup : finish.storage.messages.lookup id = some message) :
    ∃ auth encryptedText nonceText,
      message.SignedText relayer.libs auth encryptedText nonceText := by
  have hspelled : EveryStep relayer.step (WritesSpelled relayer fun _ ↦ True) .init past :=
    EveryStep.of_forall fun _ _ _ _ _ _ _ _ _ _ _ _ _ ↦ ⟨trivial, trivial⟩
  obtain ⟨auth, encryptedText, nonceText, hsigned, -⟩ :=
    signedText_of_everyStep hjson _ hrun hspelled id message hlookup
  exact ⟨auth, encryptedText, nonceText, hsigned⟩

/-- In a run whose accepted writes are spelled in lower case, the response for every stored message
verifies. -/
theorem verifies_of_writesLowerCase (hjson : relayer.libs.LawfulJson) {finish : System}
    (hrun : relayer.run past = some finish)
    (hlower : EveryStep relayer.step (WritesSpelled relayer LowerCase) .init past) :
    ∀ id message, finish.storage.messages.lookup id = some message →
      (MessageResponse.fromMessage message).Verifies relayer.libs := by
  intro id message hlookup
  obtain ⟨auth, encryptedText, nonceText, hsigned, hencrypted, hnonce⟩ :=
    signedText_of_everyStep hjson LowerCase hrun hlower id message hlookup
  exact hsigned.verifies hencrypted hnonce

/-- Assumes: a signature is good for one text. Where every response verifies in every state of a
run, its accepted writes are spelled in lower case. -/
theorem writesLowerCase_of_verifies (hjson : relayer.libs.LawfulJson)
    (hunique : SignsOneText relayer.libs) {actions : List Action} {finish : System}
    (hrun : relayer.run actions = some finish)
    (hverifies : ∀ past rest reached, actions = past ++ rest → relayer.run past = some reached →
      ∀ id message, reached.storage.messages.lookup id = some message →
        (MessageResponse.fromMessage message).Verifies relayer.libs) :
    EveryStep relayer.step (WritesSpelled relayer LowerCase) .init actions := by
  refine everyStep_of_reaches hrun fun past action rest before after hsplit hpast hstep ↦ ?_
  intro request id content hwrites auth call encryptedText nonceText hrouted htexts
  obtain ⟨-, message, hlookup, -, -⟩ := lookup_of_writes hwrites hstep
  obtain ⟨other, again, otherText, otherNonce, hagain, hothers, hsigned⟩ :=
    signedText_of_writes hjson hpast hwrites hstep hlookup
  obtain ⟨rfl, rfl⟩ : otherText = encryptedText ∧ otherNonce = nonceText := by
    have hsame := hrouted.contentTexts_eq hagain
    simpa [htexts, hothers, eq_comm] using hsame
  have hafter : relayer.run (past ++ [action]) = some after :=
    runFrom_concat_eq_some.mpr ⟨before, hpast, hstep⟩
  exact hsigned.lowerCase_of_verifies hunique
    (hverifies (past ++ [action]) rest after (by simp [hsplit]) hafter id message hlookup)

/-- Where every request that arrives is spelled like this, so is every accepted write. -/
theorem writesSpelled_of_requests {spelling : String → Prop} {actions : List Action}
    (hrequests : ∀ task request now, .arrive task request now ∈ actions →
      ∀ auth call encryptedText nonceText, Routed relayer.libs request auth call →
        call.contentTexts = some (encryptedText, nonceText) →
          spelling encryptedText ∧ spelling nonceText) :
    EveryStep relayer.step (WritesSpelled relayer spelling) .init actions := by
  intro past action rest before hsplit hpast request id content hwrites
  obtain ⟨task, now, hmem⟩ := arrived_of_writes hpast hwrites
  exact hrequests task request now (hsplit ▸ List.mem_append_left _ hmem)

end Runs

/-! ### A post in lower case and an edit in upper case -/

theorem routed_postRequest (auth : AuthContext) :
    Routed sampleLibs postRequest auth (.createMessage auth samplePost) := by
  have hdispatch : dispatch sampleLibs postRequest (some auth) =
      .ok (.createMessage auth samplePost) :=
    sampleSigner.dispatch_post (beq_self_eq_true _) length_postBody_le jsonFromSlice_postBody
      (samplePost.fromJson_toJson sampleTimestamp (by decide))
  obtain ⟨found, hfound, hrouted⟩ := routed_of_dispatch hdispatch
  exact Option.some.inj hfound ▸ hrouted

/-- The client's post is spelled in lower case, and the response for its message verifies. -/
theorem verifies_samplePosting :
    samplePosted.storage.messages.lookup sampleMessageId = some sampleMessage ∧
      (MessageResponse.fromMessage sampleMessage).Verifies sampleRelayer.libs := by
  have hlower : EveryStep sampleRelayer.step (WritesSpelled sampleRelayer LowerCase) .init
      samplePosting := by
    refine writesSpelled_of_requests
      fun task request now hmem auth call text nonceText hcall htexts ↦ ?_
    obtain ⟨-, rfl, -⟩ : task = 0 ∧ request = postRequest ∧ now = sampleClock 0 := by
      simpa [samplePosting, sampleStart, serveCreate] using hmem
    have hposted := hcall.contentTexts_eq (routed_postRequest auth)
    rw [htexts] at hposted
    obtain ⟨rfl, rfl⟩ := Prod.mk.inj (Option.some.inj hposted)
    exact ⟨by decide, by decide⟩
  refine ⟨lookup_samplePostedStorage, ?_⟩
  exact verifies_of_writesLowerCase lawfulJson_sampleLibs run_samplePosting hlower sampleMessageId
    sampleMessage lookup_samplePostedStorage

/-- A client edits its message and spells the content in upper case. The edit is accepted, and the
response for the message does not verify any more. -/
theorem not_verifies_of_upperCase :
    ¬ ∀ (relayer : Relayer) actions finish, relayer.libs.LawfulJson →
      relayer.run actions = some finish →
      ∀ id message, finish.storage.messages.lookup id = some message →
        (MessageResponse.fromMessage message).Verifies relayer.libs := by
  intro hverifies
  have hlookup : (sampleEditedStorage 4).messages.lookup sampleMessageId =
      some (sampleMessage.updateContent editedContent (sampleClock 4)) := Finmap.lookup_insert _
  have hkey : (sampleMessage.updateContent editedContent (sampleClock 4)).publicKey =
      sampleSigner.scheme.flag :: sampleSigner.key := rfl
  have hserved := ((MessageResponse.verifies_fromMessage_iff hkey).mp
    (hverifies sampleRelayer _ _ lawfulJson_sampleLibs run_sampleEditing sampleMessageId _
      hlookup)).2
  have hsigned := (decodeContent_eq_ok decodeContent_samplePut).2.2.2.2
  have hsame := utf8_injective
    (eq_of_verifySignature_sampleLibs (length_signatureBytes _ _) hserved hsigned)
  obtain ⟨htext, -, -⟩ := canonicalMessage_inj (Hex.colon_notMem_encode _) (by decide)
    (Hex.colon_notMem_encode _) (by decide) hsame
  have hspelling : Hex.encode [0xf0, 0x0d] = "F00D" := htext
  exact absurd hspelling (by decide)

end MessagingRelayer
