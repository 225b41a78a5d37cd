import MessagingRelayer.Foundation.Numerals
import MessagingRelayer.Services.Classification

/-!
# Which events pass the package check

The configured package is an address in any of its spellings: with `0x` or without, in either case,
with or without leading zeros. The check compares the front of an event's type name with the
spelling, so it takes a package for the configured one when its address starts with the digits of
the spelling (`isFromPackage_iff`). That is the right package for every event exactly when the
spelling has all 64 digits (`filtersPackage_iff`).
-/

set_option autoImplicit false
set_option relaxedAutoImplicit false

namespace MessagingRelayer

open Foundation

/-! ### Addresses -/

/-- A spelling of a Sui address. -/
structure AddressSpelling where
  withPrefix : Bool
  digits : List Char
  isDigits : Hex.IsDigits digits
  length_pos : 0 < digits.length
  length_le : digits.length ≤ 64

namespace AddressSpelling

def text (spelling : AddressSpelling) : String :=
  String.ofList (if spelling.withPrefix then '0' :: 'x' :: spelling.digits else spelling.digits)

/-- The 32 bytes of the address. -/
def bytes (spelling : AddressSpelling) : FixedBytes 32 :=
  FixedBytes.bigEndian 32 (Hex.number spelling.digits)

end AddressSpelling

/-- An address as it stands in a type name: `0x` and 64 digits. -/
structure TypeAddress where
  digits : List Char
  isDigits : Hex.IsDigits digits
  length_eq : digits.length = 64

namespace TypeAddress

/-- The 32 bytes of the address. -/
def bytes (address : TypeAddress) : FixedBytes 32 :=
  FixedBytes.bigEndian 32 (Hex.number address.digits)

theorem isWordSymbol_of_digit {symbol : Char} (hdigit : (Hex.digitValue symbol).isSome = true) :
    isWordSymbol symbol = true :=
  @Hex.of_table symbol (fun symbol ↦ isWordSymbol symbol = true) (by decide) hdigit

def word (address : TypeAddress) : Word :=
  ⟨String.ofList ('0' :: 'x' :: address.digits), by
    rw [String.toList_ofList, List.all_cons, List.all_cons, Bool.and_eq_true, Bool.and_eq_true]
    refine ⟨by decide, by decide, List.all_eq_true.mpr fun symbol hmem ↦ ?_⟩
    exact isWordSymbol_of_digit (address.isDigits symbol hmem)⟩

end TypeAddress

/-- An address is that of a spelling exactly when their digits spell the same number. -/
theorem bytes_eq_iff {address : TypeAddress} {package : AddressSpelling} :
    address.bytes = package.bytes ↔ Hex.number address.digits = Hex.number package.digits := by
  have hbound {digits : List Char} (hlength : digits.length ≤ 64) :
      Hex.number digits < 256 ^ 32 := by
    refine lt_of_lt_of_le (Hex.number_lt digits) ?_
    calc 16 ^ digits.length ≤ 16 ^ 64 := Nat.pow_le_pow_right (by decide) hlength
      _ = 256 ^ 32 := by norm_num
  constructor
  · exact FixedBytes.bigEndian_inj (hbound (le_of_eq address.length_eq)) (hbound package.length_le)
  · intro hnumber
    unfold TypeAddress.bytes AddressSpelling.bytes
    rw [hnumber]

/-! ### The check -/

section Check

variable {package : AddressSpelling} {address : TypeAddress}

theorem trimStart0x_digits {digits : List Char} (hdigits : Hex.IsDigits digits) :
    trimStart0x digits = digits := by
  unfold trimStart0x
  split
  · next rest =>
    have hx := hdigits 'x' (by simp)
    exact absurd hx (by decide)
  · rfl

theorem trimStart0x_text (package : AddressSpelling) :
    trimStart0x package.text.toList = package.digits := by
  unfold AddressSpelling.text
  rw [String.toList_ofList]
  split_ifs
  · rw [trimStart0x]
    exact trimStart0x_digits package.isDigits
  · exact trimStart0x_digits package.isDigits

/-- Among hexadecimal digits, only zero is zero in lower case, and none is an `x`. -/
theorem toLower_digit {symbol : Char} (hdigit : (Hex.digitValue symbol).isSome = true) :
    (symbol.toLower = '0' ↔ symbol = '0') ∧ symbol.toLower ≠ 'x' :=
  @Hex.of_table symbol
    (fun symbol ↦ (symbol.toLower = '0' ↔ symbol = '0') ∧ symbol.toLower ≠ 'x') (by decide) hdigit

/-- Digits in lower case start a text that starts with `0x` only when they are a single zero. -/
theorem digits_prefix_0x_iff {digits rest : List Char} (hdigits : Hex.IsDigits digits)
    (hlength : 0 < digits.length) :
    digits.map Char.toLower <+: '0' :: 'x' :: rest ↔ digits = ['0'] := by
  match digits with
  | [] => exact absurd hlength (by decide)
  | [symbol] =>
    obtain ⟨hzero, -⟩ := toLower_digit (hdigits symbol (by simp))
    simp [List.cons_prefix_cons, hzero]
  | first :: second :: others =>
    obtain ⟨-, hx⟩ := toLower_digit (hdigits second (by simp))
    simp [List.cons_prefix_cons, hx]

/-- Assumes: a type name that starts with an address. The event passes the check exactly when the
address starts with the digits of the configured package, or these are a single zero. -/
theorem isFromPackage_iff {eventType : String} {rest : List Char}
    (htype : eventType.toList = '0' :: 'x' :: (address.digits ++ rest)) :
    isFromPackage package.text eventType = true ↔
      package.digits.map Char.toLower <+: address.digits.map Char.toLower ∨
        package.digits = ['0'] := by
  have hlength : (package.digits.map Char.toLower).length ≤
      (address.digits.map Char.toLower).length := by
    rw [List.length_map, List.length_map, address.length_eq]
    exact package.length_le
  have haddress : package.digits.map Char.toLower <+:
      address.digits.map Char.toLower ++ rest.map Char.toLower ↔
        package.digits.map Char.toLower <+: address.digits.map Char.toLower :=
    ⟨fun hleads ↦ List.prefix_of_prefix_length_le hleads (List.prefix_append _ _) hlength,
      fun hleads ↦ hleads.trans (List.prefix_append _ _)⟩
  have hlower : eventType.toList.map Char.toLower =
      '0' :: 'x' :: (address.digits.map Char.toLower ++ rest.map Char.toLower) := by
    rw [htype, List.map_cons, List.map_cons, List.map_append]
    rfl
  unfold isFromPackage
  rw [trimStart0x_text, hlower]
  simp only [Bool.or_eq_true, decide_eq_true_iff]
  rw [digits_prefix_0x_iff package.isDigits package.length_pos, List.cons_prefix_cons,
    List.cons_prefix_cons, haddress]
  simp

/-- Assumes: a type name that starts with an address, and a spelling with all 64 digits. The event
passes the check exactly when its address is that of the package. -/
theorem isFromPackage_iff_of_full {eventType : String} {rest : List Char}
    (htype : eventType.toList = '0' :: 'x' :: (address.digits ++ rest))
    (hfull : package.digits.length = 64) :
    isFromPackage package.text eventType = true ↔ address.bytes = package.bytes := by
  have hsame : address.digits.length = package.digits.length := address.length_eq.trans hfull.symm
  have hzero : package.digits ≠ ['0'] := by
    intro hzero
    rw [hzero] at hfull
    exact absurd hfull (by decide)
  rw [isFromPackage_iff htype, or_iff_left hzero, bytes_eq_iff,
    Hex.number_eq_iff hsame address.isDigits package.isDigits]
  constructor
  · intro hleads
    exact (hleads.eq_of_length (by simp [hsame])).symm
  · intro hlower
    rw [hlower]

/-- Assumes: a spelling with fewer than 64 digits. Another package has an address that starts with
its digits. -/
theorem exists_foreign_of_short (hshort : package.digits.length < 64) :
    ∃ address : TypeAddress, address.bytes ≠ package.bytes ∧
      package.digits.map Char.toLower <+: address.digits.map Char.toLower := by
  obtain ⟨missing, hmissing⟩ := Nat.exists_eq_add_of_lt hshort
  have hones : Hex.IsDigits (List.replicate (missing + 1) '1') := by
    intro symbol hmem
    rw [List.eq_of_mem_replicate hmem]
    decide
  refine ⟨⟨package.digits ++ List.replicate (missing + 1) '1', ?_, ?_⟩, ?_, ?_⟩
  · intro symbol hmem
    rcases List.mem_append.mp hmem with hpackage | hone
    · exact package.isDigits symbol hpackage
    · exact hones symbol hone
  · rw [List.length_append, List.length_replicate]
    omega
  · rw [Ne, bytes_eq_iff]
    refine ne_of_gt ?_
    -- The digits after those of the spelling are not zero, so the number grows.
    have hgrows : Hex.number package.digits ≤
        16 ^ (List.replicate (missing + 1) '1').length * Hex.number package.digits :=
      Nat.le_mul_of_pos_left _ (by positivity)
    have hpositive : 0 < Hex.number (List.replicate (missing + 1) '1') := by
      rw [List.replicate_succ', Hex.number_append]
      have hone : Hex.number ['1'] = 1 := by decide
      omega
    rw [Hex.number_append]
    omega
  · rw [List.map_append]
    exact List.prefix_append _ _

end Check

/-! ### Events of other packages -/

section Foreign

/-- The type name of an event: a generic struct at an address. -/
def TypeAddress.typeName (address : TypeAddress) (separator : ArgumentSeparator)
    (moduleName name : Word) (first : MoveType) (rest : List MoveType) : String :=
  (MoveType.struct address.word moduleName name (first :: rest)).text separator

theorem TypeAddress.toList_typeName (address : TypeAddress) (separator : ArgumentSeparator)
    (moduleName name : Word) (first : MoveType) (rest : List MoveType) :
    ∃ tail, (address.typeName separator moduleName name first rest).toList =
      '0' :: 'x' :: (address.digits ++ tail) := by
  unfold typeName MoveType.text
  rw [String.toList_ofList, MoveType.symbols, structPath, word]
  simp only [String.toList_ofList, List.cons_append, List.append_assoc]
  exact ⟨_, rfl⟩

/-- An event whose type is of another package. -/
def IsForeign (package : AddressSpelling) (event : SuiEvent) : Prop :=
  ∃ (address : TypeAddress) (separator : ArgumentSeparator) (moduleName name : Word)
    (first : MoveType) (rest : List MoveType),
    event.eventType = some (address.typeName separator moduleName name first rest) ∧
      address.bytes ≠ package.bytes

/-- The checkpoint without some of its events. -/
def Checkpoint.without (dropped : SuiEvent → Bool) (checkpoint : Checkpoint) : Checkpoint where
  transactions := checkpoint.transactions.map fun transaction ↦
    transaction.map fun events ↦ events.filter fun event ↦ !dropped event

/-- The response without some of the events in its checkpoint. -/
def SubscribeCheckpointsResponse.without (dropped : SuiEvent → Bool)
    (response : SubscribeCheckpointsResponse) : SubscribeCheckpointsResponse where
  cursor := response.cursor
  checkpoint := response.checkpoint.map (Checkpoint.without dropped)

/-- The stream without some of the events it delivers. -/
def streamWithout (dropped : SuiEvent → Bool)
    (stream : List (Except String SubscribeCheckpointsResponse)) :
    List (Except String SubscribeCheckpointsResponse) :=
  stream.map fun item ↦ item.map (SubscribeCheckpointsResponse.without dropped)

variable {libs : Externals} {groupsPackageId : String} {dropped : SuiEvent → Bool}

/-- Assumes: events that are parsed to nothing. A checkpoint has the same Groups events without
them. -/
theorem groupsEvents_without
    (hdropped : ∀ event, dropped event = true → parseSuiEvent libs event groupsPackageId = none)
    (checkpoint : Checkpoint) :
    (checkpoint.without dropped).groupsEvents libs groupsPackageId =
      checkpoint.groupsEvents libs groupsPackageId := by
  have hfilter (events : List SuiEvent) :
      (events.filter fun event ↦ !dropped event).filterMap
          (fun event ↦ parseSuiEvent libs event groupsPackageId) =
        events.filterMap fun event ↦ parseSuiEvent libs event groupsPackageId := by
    induction events with
    | nil => rfl
    | cons event rest ih =>
      cases hdrop : dropped event with
      | true => simp [hdrop, hdropped event hdrop, ih]
      | false => simp [hdrop, List.filterMap_cons, ih]
  unfold Checkpoint.groupsEvents Checkpoint.without
  rw [List.flatMap_map]
  refine congrArg (List.flatMap · checkpoint.transactions) (funext fun transaction ↦ ?_)
  cases transaction with
  | none => rfl
  | some events => exact hfilter events

namespace MembershipSyncService

theorem groupsPackageId_handleResponse (service : MembershipSyncService)
    (response : SubscribeCheckpointsResponse) :
    (service.handleResponse libs response).groupsPackageId = service.groupsPackageId := by
  unfold handleResponse advance processCheckpoint
  cases service.lastCursor with
  | none => cases response.checkpoint <;> rfl
  | some last =>
    simp only
    split_ifs
    · rfl
    · cases response.checkpoint <;> rfl

/-- Assumes: events that are parsed to nothing. A response does the same without them. -/
theorem handleResponse_without {service : MembershipSyncService}
    (hdropped : ∀ event, dropped event = true →
      parseSuiEvent libs event service.groupsPackageId = none)
    (response : SubscribeCheckpointsResponse) :
    service.handleResponse libs (response.without dropped) =
      service.handleResponse libs response := by
  have hadvance (cursor : Nat) : service.advance libs cursor (response.without dropped).checkpoint =
      service.advance libs cursor response.checkpoint := by
    unfold advance SubscribeCheckpointsResponse.without
    cases response.checkpoint with
    | none => rfl
    | some checkpoint =>
      simp only [Option.map_some]
      rw [processCheckpoint_eq, processCheckpoint_eq, groupsEvents_without hdropped]
  unfold handleResponse
  simp only [hadvance]
  rfl

/-- Assumes: events that are parsed to nothing. A service makes the same of its streams without
them. -/
theorem run_without {service : MembershipSyncService}
    (hdropped : ∀ event, dropped event = true →
      parseSuiEvent libs event service.groupsPackageId = none)
    (streams : List (List (Except String SubscribeCheckpointsResponse))) :
    service.run libs (streams.map (streamWithout dropped)) = service.run libs streams := by
  have hdelivered (stream : List (Except String SubscribeCheckpointsResponse)) :
      delivered (streamWithout dropped stream) =
        (delivered stream).map (SubscribeCheckpointsResponse.without dropped) := by
    induction stream with
    | nil => rfl
    | cons item rest ih =>
      cases item with
      | error err => rfl
      | ok response => exact congrArg (response.without dropped :: ·) ih
  rw [run_eq_foldl, run_eq_foldl, List.flatMap_map]
  simp only [hdelivered]
  rw [← List.map_flatMap]
  generalize streams.flatMap delivered = responses
  induction responses generalizing service with
  | nil => rfl
  | cons response rest ih =>
    rw [List.map_cons, List.foldl_cons, List.foldl_cons, handleResponse_without hdropped]
    refine ih ?_
    rw [groupsPackageId_handleResponse]
    exact hdropped

end MembershipSyncService

end Foreign

/-! ### The filter -/

section Filter

/-- The check lets the events of the configured package past, and no others; so an event of another
package leaves every store as it is, and a service makes of its streams what it would make of them
without the events of other packages. -/
structure FiltersPackage (libs : Externals) (package : AddressSpelling) : Prop where
  exact : ∀ (address : TypeAddress) (separator : ArgumentSeparator) (moduleName name : Word)
    (first : MoveType) (rest : List MoveType),
    isFromPackage package.text (address.typeName separator moduleName name first rest) = true ↔
      address.bytes = package.bytes
  ignores : ∀ event, IsForeign package event → ∀ store,
    MembershipSyncService.processEvent libs package.text store event = store
  unaffected : ∀ dropped : SuiEvent → Bool, (∀ event, dropped event = true →
    IsForeign package event) → ∀ (service : MembershipSyncService)
      (streams : List (List (Except String SubscribeCheckpointsResponse))),
      service.groupsPackageId = package.text →
        service.run libs (streams.map (streamWithout dropped)) = service.run libs streams

variable {libs : Externals} {package : AddressSpelling}

/-- Assumes: the check is exact. An event of another package is parsed to nothing. -/
theorem parseSuiEvent_of_isForeign
    (hexact : ∀ (address : TypeAddress) (separator : ArgumentSeparator) (moduleName name : Word)
      (first : MoveType) (rest : List MoveType),
      isFromPackage package.text (address.typeName separator moduleName name first rest) = true ↔
        address.bytes = package.bytes)
    {event : SuiEvent} (hforeign : IsForeign package event) :
    parseSuiEvent libs event package.text = none := by
  obtain ⟨address, separator, moduleName, name, first, rest, htype, hother⟩ := hforeign
  have hrejected := mt (hexact address separator moduleName name first rest).mp hother
  unfold parseSuiEvent
  rw [htype]
  simp [hrejected]

/-- The filter is right for every event exactly when the package is spelled with all 64 digits. -/
theorem filtersPackage_iff : FiltersPackage libs package ↔ package.digits.length = 64 := by
  constructor
  · intro hfilters
    by_contra hlength
    have hshort : package.digits.length < 64 := lt_of_le_of_ne package.length_le hlength
    obtain ⟨address, hother, hprefix⟩ := exists_foreign_of_short hshort
    obtain ⟨tail, htail⟩ := address.toList_typeName .comma ⟨"permissioned_group", by decide⟩
      EventKind.memberAdded.name (.primitive .bool) []
    exact hother ((hfilters.exact address _ _ _ _ _).mp
      ((isFromPackage_iff htail).mpr (Or.inl hprefix)))
  · intro hfull
    have hexact : ∀ (address : TypeAddress) (separator : ArgumentSeparator)
        (moduleName name : Word) (first : MoveType) (rest : List MoveType),
        isFromPackage package.text (address.typeName separator moduleName name first rest) =
          true ↔ address.bytes = package.bytes := by
      intro address separator moduleName name first rest
      obtain ⟨tail, htail⟩ := address.toList_typeName separator moduleName name first rest
      exact isFromPackage_iff_of_full htail hfull
    refine ⟨hexact, fun event hforeign store ↦ ?_,
      fun dropped hforeign service streams hpackage ↦ ?_⟩
    · unfold MembershipSyncService.processEvent
      rw [parseSuiEvent_of_isForeign hexact hforeign]
    · refine MembershipSyncService.run_without (fun event hdrop ↦ ?_) streams
      rw [hpackage]
      exact parseSuiEvent_of_isForeign hexact (hforeign event hdrop)

end Filter

/-! ### A package whose address starts with a shortened one -/

section Shortened

/-- A package written without its leading zeros. -/
def shortenedPackage : AddressSpelling :=
  ⟨true, ['5', 'a'], by decide, by decide, by decide⟩

/-- An address that starts with the digits of the shortened one. -/
def extendingAddress : TypeAddress :=
  ⟨'5' :: 'a' :: List.replicate 62 '0', by decide, by decide⟩

/-- The other package reports that a member was added. -/
def foreignAddition : SuiEvent where
  eventType := some (extendingAddress.typeName .commaSpace ⟨"permissioned_group", by decide⟩
    EventKind.memberAdded.name (.primitive .u8) [])
  contents := some (some memberBytes)

/-- With a shortened package an event of another package adds a member. -/
theorem not_filtersPackage_shortened :
    ¬ ∀ (libs : Externals) (package : AddressSpelling), FiltersPackage libs package := by
  intro hfilters
  have hforeign : IsForeign shortenedPackage foreignAddition :=
    ⟨extendingAddress, .commaSpace, ⟨"permissioned_group", by decide⟩, EventKind.memberAdded.name,
      .primitive .u8, [], rfl, by decide +kernel⟩
  have hadded : (MembershipSyncService.processEvent sampleBcs shortenedPackage.text .new
      foreignAddition).entry (hexAddress sampleGroup) (hexAddress sampleMember) = some ∅ := by
    decide +kernel
  rw [(hfilters sampleBcs shortenedPackage).ignores foreignAddition hforeign .new] at hadded
  simp at hadded

end Shortened

end MessagingRelayer
