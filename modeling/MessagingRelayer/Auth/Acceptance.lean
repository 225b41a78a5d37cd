import MessagingRelayer.Auth.Middleware
import MessagingRelayer.Services.EventParser

/-!
# What gets accepted

The other direction of the middleware's checks: a request that presents a key and a signature in the
way clients do is read as it was meant (`Signer.extractSigned_bodyRequest`,
`Signer.extractSigned_headerRequest`), and a request that has been checked for everything is passed
on (`authMiddleware_of_authenticated`).
-/

set_option autoImplicit false
set_option relaxedAutoImplicit false

namespace MessagingRelayer

open Foundation

/-! ### Header values -/

/-- The text has only visible ASCII characters and no space. -/
def Graphic (text : String) : Prop :=
  ∀ symbol ∈ text.toList, 33 ≤ symbol.toNat ∧ symbol.toNat < 127

theorem graphic_append {first second : String} (hfirst : Graphic first) (hsecond : Graphic second) :
    Graphic (first ++ second) := by
  intro symbol hmem
  rw [String.toList_append, List.mem_append] at hmem
  rcases hmem with hmem | hmem
  · exact hfirst symbol hmem
  · exact hsecond symbol hmem

theorem graphic_encode (bytes : List UInt8) : Graphic (Hex.encode bytes) := by
  intro symbol hmem
  have hdigit : ∀ value < 16, 33 ≤ value.digitChar.toNat ∧ value.digitChar.toNat < 127 := by
    decide
  obtain ⟨value, hvalue, rfl⟩ := Hex.exists_digitChar_of_mem_encode hmem
  exact hdigit value hvalue

theorem graphic_hexAddress (bytes : FixedBytes 32) : Graphic (hexAddress bytes) := by
  refine graphic_append ?_ (graphic_encode bytes.val)
  simp [Graphic]

/-- The decimal text of an integer is graphic. -/
theorem graphic_toString (number : Int) : Graphic (toString number) := by
  intro symbol hmem
  rcases isDigit_or_minus_of_mem_toString hmem with hdigit | rfl
  · have hrange : 48 ≤ symbol.toNat ∧ symbol.toNat ≤ 57 := Char.isDigit_iff_toNat.mp hdigit
    omega
  · decide

section Headers

variable {text : String}

theorem toNat_ofNat_toNat {symbol : Char} (hsymbol : symbol.toNat < 127) :
    (UInt8.ofNat symbol.toNat).toNat = symbol.toNat := by
  rw [UInt8.toNat_ofNat']
  omega

/-- Assumes: a graphic text. Its bytes are read back as the text, and nothing is trimmed. -/
theorem getHeader_of_graphic {headers : List (String × List UInt8)} {name : String}
    (hgraphic : Graphic text) (hlookup : headers.lookup name = some (utf8 text)) :
    getHeader headers name = some text := by
  have hbytes : utf8 text = text.toList.map fun symbol ↦ UInt8.ofNat symbol.toNat :=
    utf8_eq_map fun symbol hmem ↦ by have := hgraphic symbol hmem; omega
  have hvisible : ∀ byte ∈ utf8 text, 33 ≤ byte ∧ byte < 127 := by
    intro byte hbyte
    rw [hbytes] at hbyte
    obtain ⟨symbol, hmem, rfl⟩ := List.mem_map.mp hbyte
    have hcode := hgraphic symbol hmem
    rw [UInt8.le_iff_toNat_le, UInt8.lt_iff_toNat_lt, toNat_ofNat_toNat hcode.2]
    exact hcode
  have htext : (utf8 text).all isHeaderText = true := by
    rw [List.all_eq_true]
    intro byte hbyte
    obtain ⟨hlow, hhigh⟩ := hvisible byte hbyte
    have hspace : (32 : UInt8) ≤ byte := by
      rw [UInt8.le_iff_toNat_le] at hlow ⊢
      exact Nat.le_trans (by decide) hlow
    simp [isHeaderText, hspace, hhigh]
  have hkeep : ∀ bytes : List UInt8, (∀ byte ∈ bytes, 33 ≤ byte) →
      bytes.dropWhile (fun byte ↦ decide (byte = 9) || decide (byte = 32)) = bytes := by
    intro bytes hgreater
    cases bytes with
    | nil => rfl
    | cons first rest =>
      have hfirst := hgreater first List.mem_cons_self
      have hnotSpace : ¬ (first = 9 ∨ first = 32) := by
        rintro (rfl | rfl)
        · exact absurd hfirst (by decide)
        · exact absurd hfirst (by decide)
      rw [List.dropWhile_cons]
      simp [not_or.mp hnotSpace]
  have htrim : trimBytes (utf8 text) = utf8 text := by
    unfold trimBytes
    simp only
    rw [hkeep _ fun byte hbyte ↦ (hvisible byte hbyte).1,
      hkeep _ fun byte hbyte ↦ (hvisible byte (List.mem_reverse.mp hbyte)).1, List.reverse_reverse]
  have hback : asciiText (utf8 text) = text := by
    unfold asciiText
    rw [hbytes, List.map_map]
    have hsame : text.toList.map ((fun byte : UInt8 ↦ Char.ofNat byte.toNat) ∘
        fun symbol ↦ UInt8.ofNat symbol.toNat) = text.toList := by
      refine (List.map_congr_left fun symbol hmem ↦ ?_).trans (List.map_id _)
      simp only [Function.comp_apply, id_eq]
      rw [toNat_ofNat_toNat (hgraphic symbol hmem).2, Char.ofNat_toNat]
    rw [hsame, String.ofList_toList]
  unfold getHeader
  simp only [hlookup, htext, if_true]
  rw [htrim, hback]

theorem requireHeader_of_graphic {headers : List (String × List UInt8)}
    {name shown code : String} (hgraphic : Graphic text)
    (hlookup : headers.lookup name = some (utf8 text)) :
    requireHeader headers name shown code = .ok text := by
  unfold requireHeader
  rw [getHeader_of_graphic hgraphic hlookup]

end Headers

/-! ### Signers -/

/-- A client with a key for one of the schemes. -/
structure Signer where
  scheme : SignatureScheme
  key : List UInt8
  key_length : key.length = scheme.publicKeyLength

namespace Signer

variable (signer : Signer)

/-- The key with its flag byte. -/
def publicKeyWithFlag : List UInt8 :=
  signer.scheme.flag :: signer.key

/-- The address of the key. -/
def address (libs : Externals) : String :=
  hexAddress (libs.blake2b256 signer.publicKeyWithFlag)

/-- The headers that present a signature and the key. -/
def headers (signature : List UInt8) : List (String × List UInt8) :=
  [("x-signature", utf8 (Hex.encode signature)),
    ("x-public-key", utf8 (Hex.encode signer.publicKeyWithFlag))]

/-- A request with a JSON body. -/
def bodyRequest (method : Method) (signature body : List UInt8) : Request where
  method := method
  route := .messages
  query := ""
  headers := signer.headers signature ++ [("content-type", utf8 "application/json")]
  body := some body

/-- A request without a body, with the auth fields in headers. -/
def headerRequest (method : Method) (route : Route) (query : String) (signature : List UInt8)
    (senderAddress : String) (timestamp : Int) (groupId : String) : Request where
  method := method
  route := route
  query := query
  headers := signer.headers signature ++ [("x-sender-address", utf8 senderAddress),
    ("x-timestamp", utf8 (toString timestamp)), ("x-group-id", utf8 groupId)]
  body := some []

theorem presentedKey_encode :
    presentedKey (Hex.encode signer.publicKeyWithFlag) = .ok (signer.scheme, signer.key) := by
  unfold presentedKey
  rw [Hex.decode_encode]
  simp [publicKeyWithFlag, signer.key_length]

theorem presentedSignature_encode (signature : List UInt8) :
    presentedSignature (Hex.encode signature) = .ok signature := by
  unfold presentedSignature
  rw [Hex.decode_encode]

theorem deriveSuiAddress_key (libs : Externals) :
    deriveSuiAddress libs signer.key signer.scheme = .ok (signer.address libs) :=
  deriveSuiAddress_eq_ok_iff.mpr ⟨signer.key_length, rfl⟩

/-- The first four steps of the middleware read the key and the signature. -/
theorem extractSigned_of_authFields {libs : Externals} {request : Request}
    {signature body message : List UInt8} {fields : BodyAuthFields}
    (hsignature : request.headers.lookup "x-signature" = some (utf8 (Hex.encode signature)))
    (hkey : request.headers.lookup "x-public-key" =
      some (utf8 (Hex.encode signer.publicKeyWithFlag)))
    (hbody : request.body = some body)
    (hfields : authFields libs request.headers body = .ok (fields, message)) :
    extractSigned libs request = .ok {
      scheme := signer.scheme
      publicKey := signer.key
      signature := signature
      groupId := fields.groupId
      senderAddress := fields.senderAddress
      timestamp := fields.timestamp
      message := message } := by
  unfold extractSigned
  rw [requireHeader_of_graphic (graphic_encode signature) hsignature,
    requireHeader_of_graphic (graphic_encode _) hkey]
  refine bind_eq_ok_iff.mpr ⟨_, rfl, bind_eq_ok_iff.mpr ⟨_, rfl, ?_⟩⟩
  refine bind_eq_ok_iff.mpr ⟨_, signer.presentedKey_encode, ?_⟩
  refine bind_eq_ok_iff.mpr ⟨_, presentedSignature_encode signature, ?_⟩
  refine bind_eq_ok_iff.mpr ⟨body, ?_, ?_⟩
  · unfold collectBody
    rw [hbody]
  · exact bind_eq_ok_iff.mpr ⟨_, hfields, rfl⟩

/-- A body request presents what its body says, and its body as the signed bytes. -/
theorem extractSigned_bodyRequest {libs : Externals} {method : Method} {signature body : List UInt8}
    {json : Json} {fields : BodyAuthFields} (hbody : body ≠ [])
    (hjson : libs.jsonFromSlice body = .ok json)
    (hfields : BodyAuthFields.fromJson json = .ok fields) :
    extractSigned libs (signer.bodyRequest method signature body) = .ok {
      scheme := signer.scheme
      publicKey := signer.key
      signature := signature
      groupId := fields.groupId
      senderAddress := fields.senderAddress
      timestamp := fields.timestamp
      message := body } := by
  refine signer.extractSigned_of_authFields rfl rfl (rfl : _ = some body) ?_
  unfold authFields
  rw [if_pos hbody]
  refine bind_eq_ok_iff.mpr ⟨fields, ?_, rfl⟩
  have hread : libs.jsonFromSlice body >>= BodyAuthFields.fromJson = .ok fields :=
    bind_eq_ok_iff.mpr ⟨json, hjson, hfields⟩
  unfold parseBodyAuth
  rw [hread]

/-- A bodyless request presents what its headers say, and their canonical form as the signed
bytes. -/
theorem extractSigned_headerRequest {libs : Externals} {method : Method} {route : Route}
    {query senderAddress groupId : String} {signature : List UInt8} {timestamp : Int}
    (hsender : Graphic senderAddress) (hgroup : Graphic groupId)
    (hparse : parseI64 (toString timestamp) = some timestamp) :
    extractSigned libs
      (signer.headerRequest method route query signature senderAddress timestamp groupId) = .ok {
        scheme := signer.scheme
        publicKey := signer.key
        signature := signature
        groupId := groupId
        senderAddress := senderAddress
        timestamp := timestamp
        message := utf8 (canonicalRequest timestamp senderAddress groupId) } := by
  have hfields : authFields libs (signer.headerRequest method route query signature senderAddress
      timestamp groupId).headers [] = .ok (⟨groupId, senderAddress, timestamp⟩,
        utf8 (canonicalRequest timestamp senderAddress groupId)) := by
    unfold authFields
    rw [if_neg (not_not_intro rfl)]
    refine bind_eq_ok_iff.mpr ⟨senderAddress, requireHeader_of_graphic hsender rfl, ?_⟩
    refine bind_eq_ok_iff.mpr ⟨toString timestamp, ?_, ?_⟩
    · exact requireHeader_of_graphic (graphic_toString timestamp) rfl
    · refine bind_eq_ok_iff.mpr ⟨groupId, requireHeader_of_graphic hgroup rfl, ?_⟩
      refine bind_eq_ok_iff.mpr ⟨timestamp, ?_, rfl⟩
      unfold parseTimestamp
      rw [hparse]
  exact signer.extractSigned_of_authFields rfl rfl rfl hfields

end Signer

/-! ### Acceptance -/

/-- A request that has been checked for everything is passed on with its context. -/
theorem authMiddleware_of_authenticated {libs : Externals} {ttlSeconds now : Int}
    {store : InMemoryMembershipStore} {request : Request} {permission : MessagingPermission}
    {signed : Signed} {auth : AuthContext}
    (hauth : Authenticated libs ttlSeconds store now request permission signed auth) :
    authMiddleware libs ttlSeconds store now request = .ok (some auth) := by
  have hcheck : checkSigned libs ttlSeconds store now permission signed = .ok auth := by
    unfold checkSigned
    rw [hauth.timestamp_ok, hauth.signature_ok,
      verifyAddressMatchesPubkey_eq_ok_iff.mpr ⟨hauth.address_ok, rfl⟩, hauth.auth_eq]
    simp [hauth.permission_held]
  unfold authMiddleware
  rw [hauth.permission_eq]
  exact bind_eq_ok_iff.mpr ⟨signed, hauth.extract_eq, bind_eq_ok_iff.mpr ⟨auth, hcheck, rfl⟩⟩

/-- Assumes: a signature and a key of the right lengths. Libraries given by tables accept the
signature for exactly the messages their table has for it. -/
theorem verifySignature_ofTables {signed : List (List UInt8 × List UInt8)}
    {hashes : List (List UInt8 × FixedBytes 32)} {documents : List (List UInt8 × Json)}
    {queries : List (String × List (String × String))} {uuids : List (String × FixedBytes 16)}
    {memberEvents : List (List UInt8 × FixedBytes 32 × FixedBytes 32)}
    {permissionsEvents : List (List UInt8 × FixedBytes 32 × FixedBytes 32 × List String)}
    {message signature key : List UInt8} {scheme : SignatureScheme}
    (hlength : signature.length = 64)
    (hkey : key.length = scheme.publicKeyLength) :
    verifySignature (Externals.ofTables signed hashes documents queries uuids memberEvents
      permissionsEvents) message signature key scheme = .ok () ↔
        (message, serializedSignature scheme signature key) ∈ signed := by
  rw [verifySignature_eq_ok_iff, verifyPersonalMessage_ofTables]
  constructor
  · exact fun hverify ↦ hverify.2.2.2
  · exact fun hmem ↦ ⟨hlength, hkey, userSignatureFromBytes_ofTables hmem, hmem⟩

/-! ### Signers are accepted -/

namespace Signer

variable (signer : Signer) {libs : Externals} {ttlSeconds now timestamp : Int}
  {store : InMemoryMembershipStore} {method : Method} {permission : MessagingPermission}
  {groupId : String} {signature : List UInt8}

/-- The context a signer's request is passed on with. -/
def context (libs : Externals) (groupId : String) : AuthContext where
  senderAddress := signer.address libs
  publicKey := signer.key
  scheme := signer.scheme
  authorizedGroup := some groupId

/-- Assumes: a body that claims the signer's address, signed, in time, by a member of the group with
the permission for the method. The middleware passes the request on. -/
theorem authMiddleware_bodyRequest {body : List UInt8} {json : Json}
    (hpermission : requiredPermission method = some permission) (hbody : body ≠ [])
    (hjson : libs.jsonFromSlice body = .ok json)
    (hfields : BodyAuthFields.fromJson json = .ok ⟨groupId, signer.address libs, timestamp⟩)
    (htime : validateTimestamp now timestamp ttlSeconds = .ok ())
    (hsigned : verifySignature libs body signature signer.key signer.scheme = .ok ())
    (hheld : store.hasPermission groupId (signer.address libs) permission = true) :
    authMiddleware libs ttlSeconds store now (signer.bodyRequest method signature body) =
      .ok (some (signer.context libs groupId)) :=
  authMiddleware_of_authenticated {
    permission_eq := hpermission
    extract_eq := signer.extractSigned_bodyRequest hbody hjson hfields
    timestamp_ok := htime
    signature_ok := hsigned
    address_ok := signer.deriveSuiAddress_key libs
    permission_held := hheld
    auth_eq := rfl }

/-- Assumes: a time that is written and read back, and a canonical text that is signed, in time, by
a member of the group with the permission for the method. The middleware passes the request on. -/
theorem authMiddleware_headerRequest {route : Route} {query : String}
    (hpermission : requiredPermission method = some permission) (hgroup : Graphic groupId)
    (hparse : parseI64 (toString timestamp) = some timestamp)
    (htime : validateTimestamp now timestamp ttlSeconds = .ok ())
    (hsigned : verifySignature libs
      (utf8 (canonicalRequest timestamp (signer.address libs) groupId)) signature signer.key
      signer.scheme = .ok ())
    (hheld : store.hasPermission groupId (signer.address libs) permission = true) :
    authMiddleware libs ttlSeconds store now (signer.headerRequest method route query signature
      (signer.address libs) timestamp groupId) = .ok (some (signer.context libs groupId)) :=
  authMiddleware_of_authenticated {
    permission_eq := hpermission
    extract_eq :=
      signer.extractSigned_headerRequest (graphic_hexAddress _) hgroup hparse
    timestamp_ok := htime
    signature_ok := hsigned
    address_ok := signer.deriveSuiAddress_key libs
    permission_held := hheld
    auth_eq := rfl }

end Signer

end MessagingRelayer
