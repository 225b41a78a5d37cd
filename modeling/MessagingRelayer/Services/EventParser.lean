import MessagingRelayer.Auth.Scheme
import MessagingRelayer.Externals
import Mathlib.Data.List.Infix

/-!
# Parsing Sui events

`parse_sui_event` turns an event of the Groups SDK package into a `GroupsEvent`: it checks the
package by the front of the event's type name, chooses the kind of event by the first of four
markers the type name contains, and decodes the contents. Type names and package identifiers are
ASCII, so lower-casing is that of ASCII letters.

Every event it returns names its group and its member as `0x` and 64 hexadecimal digits
(`parseSuiEvent_groupId`).
-/

set_option autoImplicit false
set_option relaxedAutoImplicit false

namespace MessagingRelayer

open Foundation

/-- The fields of a Sui event that are read: the type name, and the BCS bytes inside
the contents. -/
structure SuiEvent where
  eventType : Option String
  contents : Option (Option (List UInt8))

/-- Domain events parsed from Groups SDK events. -/
inductive GroupsEvent
  | memberAdded (groupId member : String)
  | memberRemoved (groupId member : String)
  | permissionsGranted (groupId member : String) (permissions : List MessagingPermission)
  | permissionsRevoked (groupId member : String) (permissions : List MessagingPermission)
deriving DecidableEq

namespace GroupsEvent

/-- The group an event is about. -/
def groupId : GroupsEvent → String
  | memberAdded groupId _ => groupId
  | memberRemoved groupId _ => groupId
  | permissionsGranted groupId _ _ => groupId
  | permissionsRevoked groupId _ _ => groupId

/-- The address an event is about. -/
def member : GroupsEvent → String
  | memberAdded _ member => member
  | memberRemoved _ member => member
  | permissionsGranted _ member _ => member
  | permissionsRevoked _ member _ => member

end GroupsEvent

/-! ### The package check -/

/-- The text without the `0x`s it starts with. -/
def trimStart0x : List Char → List Char
  | '0' :: 'x' :: rest => trimStart0x rest
  | text => text

/-- Whether the type name of an event starts with the configured package. -/
def isFromPackage (groupsPackageId eventType : String) : Bool :=
  let normalizedPkg := (trimStart0x groupsPackageId.toList).map Char.toLower
  let eventTypeLower := eventType.toList.map Char.toLower
  decide ('0' :: 'x' :: normalizedPkg <+: eventTypeLower) ||
    decide (normalizedPkg <+: eventTypeLower)

/-- Assumes: a package written with one `0x`. A type name that starts with it is of the package. -/
theorem isFromPackage_of_prefix {groupsPackageId eventType : String}
    (hspelled : groupsPackageId.toList = '0' :: 'x' :: trimStart0x groupsPackageId.toList)
    (hleads : groupsPackageId.toList <+: eventType.toList) :
    isFromPackage groupsPackageId eventType = true := by
  have hlower : '0' :: 'x' :: (trimStart0x groupsPackageId.toList).map Char.toLower <+:
      eventType.toList.map Char.toLower := by
    have hmapped := hleads.map Char.toLower
    rw [hspelled] at hmapped
    exact hmapped
  unfold isFromPackage
  rw [Bool.or_eq_true]
  exact Or.inl (decide_eq_true hlower)

/-- Whether a text contains another. -/
def containsText (text pattern : String) : Bool :=
  decide (pattern.toList <:+: text.toList)

/-! ### The contents -/

section Contents

variable (libs : Externals)

/-- A 32-byte identifier of an event as the relayer writes it. -/
def hexAddress (bytes : FixedBytes 32) : String :=
  "0x" ++ Hex.encode bytes.val

def parsePermissionsGranted (bcsBytes : List UInt8) : Option GroupsEvent := do
  let (groupId, member, typeNames) ← libs.permissionsEventFromBcs bcsBytes
  some (.permissionsGranted (hexAddress groupId) (hexAddress member)
    (typeNames.filterMap MessagingPermission.fromTypeName))

def parsePermissionsRevoked (bcsBytes : List UInt8) : Option GroupsEvent := do
  let (groupId, member, typeNames) ← libs.permissionsEventFromBcs bcsBytes
  some (.permissionsRevoked (hexAddress groupId) (hexAddress member)
    (typeNames.filterMap MessagingPermission.fromTypeName))

def parseMemberAdded (bcsBytes : List UInt8) : Option GroupsEvent := do
  let (groupId, member) ← libs.memberEventFromBcs bcsBytes
  some (.memberAdded (hexAddress groupId) (hexAddress member))

def parseMemberRemoved (bcsBytes : List UInt8) : Option GroupsEvent := do
  let (groupId, member) ← libs.memberEventFromBcs bcsBytes
  some (.memberRemoved (hexAddress groupId) (hexAddress member))

/-- The parser for the kind of event a type name names, by the first marker it contains. -/
def parseContents (eventType : String) (bcsBytes : List UInt8) : Option GroupsEvent :=
  if containsText eventType "::PermissionsGranted<" then parsePermissionsGranted libs bcsBytes
  else if containsText eventType "::PermissionsRevoked<" then parsePermissionsRevoked libs bcsBytes
  else if containsText eventType "::MemberAdded<" then parseMemberAdded libs bcsBytes
  else if containsText eventType "::MemberRemoved<" then parseMemberRemoved libs bcsBytes
  else none

/-- Parses a Sui event if it is from the Groups SDK package. -/
def parseSuiEvent (event : SuiEvent) (groupsPackageId : String) : Option GroupsEvent := do
  let eventType ← event.eventType
  if isFromPackage groupsPackageId eventType then
    let contents ← event.contents
    let bcsBytes ← contents
    parseContents libs eventType bcsBytes
  else
    none

variable {libs}

/-- What is parsed of an event depends on the decoders of its contents alone. -/
theorem parseSuiEvent_congr {other : Externals}
    (hmember : libs.memberEventFromBcs = other.memberEventFromBcs)
    (hpermissions : libs.permissionsEventFromBcs = other.permissionsEventFromBcs)
    (event : SuiEvent) (groupsPackageId : String) :
    parseSuiEvent libs event groupsPackageId = parseSuiEvent other event groupsPackageId := by
  unfold parseSuiEvent parseContents parsePermissionsGranted parsePermissionsRevoked
    parseMemberAdded parseMemberRemoved
  rw [hmember, hpermissions]

theorem colon_notMem_hexAddress (bytes : FixedBytes 32) : ':' ∉ (hexAddress bytes).toList := by
  unfold hexAddress
  rw [String.toList_append, List.mem_append]
  rintro (hhead | hdigits)
  · simp at hhead
  · exact Hex.colon_notMem_encode _ hdigits

theorem length_hexAddress (bytes : FixedBytes 32) : (hexAddress bytes).length = 66 := by
  rw [hexAddress, String.length_append, Hex.length_encode, bytes.property]
  rfl

theorem head?_hexAddress (bytes : FixedBytes 32) : (hexAddress bytes).toList.head? = some '0' := by
  unfold hexAddress
  rw [String.toList_append]
  rfl

theorem parseContents_groupId {eventType : String} {bcsBytes : List UInt8} {parsed : GroupsEvent}
    (hparse : parseContents libs eventType bcsBytes = some parsed) :
    ∃ bytes, parsed.groupId = hexAddress bytes := by
  unfold parseContents at hparse
  split_ifs at hparse
  · obtain ⟨⟨group, member, typeNames⟩, -, hparsed⟩ := Option.bind_eq_some_iff.mp hparse
    exact ⟨group, by rw [← Option.some.inj hparsed]; rfl⟩
  · obtain ⟨⟨group, member, typeNames⟩, -, hparsed⟩ := Option.bind_eq_some_iff.mp hparse
    exact ⟨group, by rw [← Option.some.inj hparsed]; rfl⟩
  · obtain ⟨⟨group, member⟩, -, hparsed⟩ := Option.bind_eq_some_iff.mp hparse
    exact ⟨group, by rw [← Option.some.inj hparsed]; rfl⟩
  · obtain ⟨⟨group, member⟩, -, hparsed⟩ := Option.bind_eq_some_iff.mp hparse
    exact ⟨group, by rw [← Option.some.inj hparsed]; rfl⟩

/-- The group of a parsed event is the spelling of 32 bytes. -/
theorem parseSuiEvent_groupId {event : SuiEvent} {groupsPackageId : String} {parsed : GroupsEvent}
    (hparse : parseSuiEvent libs event groupsPackageId = some parsed) :
    ∃ bytes, parsed.groupId = hexAddress bytes := by
  obtain ⟨eventType, -, hrest⟩ := Option.bind_eq_some_iff.mp hparse
  split_ifs at hrest
  obtain ⟨contents, -, hcontents⟩ := Option.bind_eq_some_iff.mp hrest
  obtain ⟨bcsBytes, -, hbytes⟩ := Option.bind_eq_some_iff.mp hcontents
  exact parseContents_groupId hbytes

end Contents

end MessagingRelayer
