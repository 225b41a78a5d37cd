import MessagingRelayer.Services.MoveTypes
import MessagingRelayer.Services.Subscription

/-!
# Which kind of event a type name names

`parse_sui_event` takes an event for the first of four kinds whose marker `::Name<` occurs anywhere
in the type name. The outermost struct of the type is the kind of the event, but its type argument
is chosen by whoever made the group, and may be a generic struct with one of the four names. The
kind the code takes is `EventKind.namedFirst` (`parseSuiEvent_eq_some_iff`), and
`classifiedByName_iff` says when that is the kind the event has.
-/

set_option autoImplicit false
set_option relaxedAutoImplicit false

namespace MessagingRelayer

open Foundation

/-! ### Kinds of events -/

/-- The kinds of Groups events. -/
inductive EventKind
  | permissionsGranted
  | permissionsRevoked
  | memberAdded
  | memberRemoved
deriving DecidableEq

namespace EventKind

/-- The name of the event's struct. -/
def name : EventKind → Word
  | permissionsGranted => ⟨"PermissionsGranted", by decide⟩
  | permissionsRevoked => ⟨"PermissionsRevoked", by decide⟩
  | memberAdded => ⟨"MemberAdded", by decide⟩
  | memberRemoved => ⟨"MemberRemoved", by decide⟩

/-- The kinds in the order their markers are tested. -/
def tested : List EventKind :=
  [permissionsGranted, permissionsRevoked, memberAdded, memberRemoved]

/-- The first kind that is tested and that an event names: by its own name, or by a generic struct
in its type argument. -/
def namedFirst (eventName : Word) (typeArgument : MoveType) : Option EventKind :=
  tested.find? fun kind ↦
    decide (eventName = kind.name) || typeArgument.mentions kind.name.val

/-- Whether the contents are those of an event of this kind. -/
def decodes (libs : Externals) (bcsBytes : List UInt8) : EventKind → Bool
  | permissionsGranted => (libs.permissionsEventFromBcs bcsBytes).isSome
  | permissionsRevoked => (libs.permissionsEventFromBcs bcsBytes).isSome
  | memberAdded => (libs.memberEventFromBcs bcsBytes).isSome
  | memberRemoved => (libs.memberEventFromBcs bcsBytes).isSome

/-- The parser for a kind of event. -/
def parse (libs : Externals) (bcsBytes : List UInt8) : EventKind → Option GroupsEvent
  | permissionsGranted => parsePermissionsGranted libs bcsBytes
  | permissionsRevoked => parsePermissionsRevoked libs bcsBytes
  | memberAdded => parseMemberAdded libs bcsBytes
  | memberRemoved => parseMemberRemoved libs bcsBytes

end EventKind

/-- The kind of a parsed event. -/
def GroupsEvent.kind : GroupsEvent → EventKind
  | memberAdded _ _ => .memberAdded
  | memberRemoved _ _ => .memberRemoved
  | permissionsGranted _ _ _ => .permissionsGranted
  | permissionsRevoked _ _ _ => .permissionsRevoked

section Kinds

variable {libs : Externals} {bcsBytes : List UInt8} {kind : EventKind} {parsed : GroupsEvent}

/-- A parser makes events of its kind. -/
theorem EventKind.kind_of_parse (hparse : kind.parse libs bcsBytes = some parsed) :
    parsed.kind = kind := by
  cases kind with
  | permissionsGranted =>
    obtain ⟨⟨group, member, typeNames⟩, -, hparsed⟩ := Option.bind_eq_some_iff.mp hparse
    rw [← Option.some.inj hparsed]
    rfl
  | permissionsRevoked =>
    obtain ⟨⟨group, member, typeNames⟩, -, hparsed⟩ := Option.bind_eq_some_iff.mp hparse
    rw [← Option.some.inj hparsed]
    rfl
  | memberAdded =>
    obtain ⟨⟨group, member⟩, -, hparsed⟩ := Option.bind_eq_some_iff.mp hparse
    rw [← Option.some.inj hparsed]
    rfl
  | memberRemoved =>
    obtain ⟨⟨group, member⟩, -, hparsed⟩ := Option.bind_eq_some_iff.mp hparse
    rw [← Option.some.inj hparsed]
    rfl

/-- A parser fails only where the contents do not decode. -/
theorem EventKind.isSome_parse :
    (kind.parse libs bcsBytes).isSome = kind.decodes libs bcsBytes := by
  cases kind with
  | permissionsGranted =>
    unfold parse parsePermissionsGranted decodes
    cases libs.permissionsEventFromBcs bcsBytes <;> rfl
  | permissionsRevoked =>
    unfold parse parsePermissionsRevoked decodes
    cases libs.permissionsEventFromBcs bcsBytes <;> rfl
  | memberAdded =>
    unfold parse parseMemberAdded decodes
    cases libs.memberEventFromBcs bcsBytes <;> rfl
  | memberRemoved =>
    unfold parse parseMemberRemoved decodes
    cases libs.memberEventFromBcs bcsBytes <;> rfl

/-- Different kinds have different names. -/
theorem EventKind.name_injective : Function.Injective EventKind.name := by
  intro first second hsame
  have htext := congrArg Subtype.val hsame
  cases first <;> cases second <;> first | rfl | exact absurd htext (by decide)

end Kinds

/-! ### The kind the code takes -/

section Classification

variable (libs : Externals) (groupsPackageId : String) (separator : ArgumentSeparator)
  (address moduleName eventName : Word) (typeArgument : MoveType)

/-- The type name of an event: a struct with one type argument. -/
def eventTypeName : String :=
  (MoveType.struct address moduleName eventName [typeArgument]).text separator

/-- An event with such a type name. -/
def typedEvent (contents : Option (Option (List UInt8))) : SuiEvent where
  eventType := some (eventTypeName separator address moduleName eventName typeArgument)
  contents := contents

theorem address_prefix_eventTypeName :
    address.val.toList <+:
      (eventTypeName separator address moduleName eventName typeArgument).toList := by
  unfold eventTypeName MoveType.text
  rw [String.toList_ofList, MoveType.symbols, structPath, List.append_assoc]
  exact List.prefix_append _ _

theorem containsText_marker (kind : EventKind) (pattern : String)
    (hpattern : pattern.toList = marker kind.name) :
    containsText (eventTypeName separator address moduleName eventName typeArgument) pattern =
      (decide (eventName = kind.name) || typeArgument.mentions kind.name.val) := by
  have hinfix : marker kind.name <:+:
      (MoveType.struct address moduleName eventName [typeArgument]).symbols separator ↔
        (decide (eventName = kind.name) || typeArgument.mentions kind.name.val) = true := by
    rw [marker_infix_symbols_iff]
    simp [MoveType.mentions, mentionsAny, Subtype.ext_iff]
  unfold containsText eventTypeName MoveType.text
  rw [hpattern, String.toList_ofList, Bool.eq_iff_iff, decide_eq_true_iff]
  exact hinfix

/-- The contents are parsed as the first kind that is tested and that the type name names. -/
theorem parseContents_eventTypeName (bcsBytes : List UInt8) :
    parseContents libs (eventTypeName separator address moduleName eventName typeArgument)
        bcsBytes =
      (EventKind.namedFirst eventName typeArgument).bind (EventKind.parse libs bcsBytes) := by
  have hcontains := containsText_marker separator address moduleName eventName typeArgument
  unfold parseContents EventKind.namedFirst EventKind.tested
  rw [hcontains .permissionsGranted _ (by decide), hcontains .permissionsRevoked _ (by decide),
    hcontains .memberAdded _ (by decide), hcontains .memberRemoved _ (by decide)]
  simp only [List.find?_cons]
  split_ifs with hgranted hrevoked hadded hremoved
  · simp only [hgranted]
    rfl
  · simp only [hgranted, hrevoked]
    rfl
  · simp only [hgranted, hrevoked, hadded]
    rfl
  · simp only [hgranted, hrevoked, hadded, hremoved]
    rfl
  · simp only [hgranted, hrevoked, hadded, hremoved]
    rfl

/-- What an event with such a type name is parsed to. -/
theorem parseSuiEvent_eq_some_iff (contents : Option (Option (List UInt8)))
    (parsed : GroupsEvent) :
    parseSuiEvent libs (typedEvent separator address moduleName eventName typeArgument contents)
        groupsPackageId = some parsed ↔
      isFromPackage groupsPackageId
          (eventTypeName separator address moduleName eventName typeArgument) = true ∧
        ∃ bcsBytes kind, contents = some (some bcsBytes) ∧
          EventKind.namedFirst eventName typeArgument = some kind ∧
          kind.parse libs bcsBytes = some parsed := by
  have hparse (bcsBytes : List UInt8) := parseContents_eventTypeName libs separator address
    moduleName eventName typeArgument bcsBytes
  unfold parseSuiEvent typedEvent
  simp only [Option.bind_eq_bind, Option.bind_some]
  split_ifs with hpackage
  · rcases contents with _ | _ | bcsBytes
    · simp
    · simp
    · simp [hparse, hpackage, Option.bind_eq_some_iff]
  · simp [hpackage]

/-- Whatever the event is parsed to is of the kind its own name says, and no other name is parsed
to anything; so a revocation is not taken for a grant, nor a removal for an addition. -/
structure ClassifiedByName (contents : Option (Option (List UInt8))) : Prop where
  named : ∀ parsed,
    parseSuiEvent libs (typedEvent separator address moduleName eventName typeArgument contents)
      groupsPackageId = some parsed → parsed.kind.name = eventName
  others : (∀ kind : EventKind, kind.name ≠ eventName) →
    parseSuiEvent libs (typedEvent separator address moduleName eventName typeArgument contents)
      groupsPackageId = none
  revocation : eventName = EventKind.permissionsRevoked.name → ∀ groupId member permissions,
    parseSuiEvent libs (typedEvent separator address moduleName eventName typeArgument contents)
      groupsPackageId ≠ some (.permissionsGranted groupId member permissions)
  removal : eventName = EventKind.memberRemoved.name → ∀ groupId member,
    parseSuiEvent libs (typedEvent separator address moduleName eventName typeArgument contents)
      groupsPackageId ≠ some (.memberAdded groupId member)

variable {libs groupsPackageId separator address moduleName eventName typeArgument}
  {contents : Option (Option (List UInt8))}

theorem ClassifiedByName.of_named
    (hnamed : ∀ parsed,
      parseSuiEvent libs (typedEvent separator address moduleName eventName typeArgument contents)
        groupsPackageId = some parsed → parsed.kind.name = eventName) :
    ClassifiedByName libs groupsPackageId separator address moduleName eventName typeArgument
      contents where
  named := hnamed
  others hother := by
    rw [Option.eq_none_iff_forall_ne_some]
    exact fun parsed hparse ↦ hother parsed.kind (hnamed parsed hparse)
  revocation hrevoked groupId member permissions hparse :=
    absurd (EventKind.name_injective ((hnamed _ hparse).trans hrevoked))
      (by simp [GroupsEvent.kind])
  removal hremoved groupId member hparse :=
    absurd (EventKind.name_injective ((hnamed _ hparse).trans hremoved))
      (by simp [GroupsEvent.kind])

/-- An event is classified by its own name exactly when it is not from the package, or has no
contents, or the first kind that is tested and that it names is its own, or its contents do not
decode as those of that kind. -/
theorem classifiedByName_iff :
    ClassifiedByName libs groupsPackageId separator address moduleName eventName typeArgument
        contents ↔
      ∀ bcsBytes kind,
        isFromPackage groupsPackageId
          (eventTypeName separator address moduleName eventName typeArgument) = true →
        contents = some (some bcsBytes) →
        EventKind.namedFirst eventName typeArgument = some kind →
        kind.name ≠ eventName → kind.decodes libs bcsBytes = false := by
  constructor
  · intro hclassified bcsBytes kind hpackage hcontents hfirst hother
    rw [← EventKind.isSome_parse, Option.isSome_eq_false_iff, Option.isNone_iff_eq_none,
      Option.eq_none_iff_forall_ne_some]
    intro parsed hparse
    have hnamed := hclassified.named parsed ((parseSuiEvent_eq_some_iff libs groupsPackageId
      separator address moduleName eventName typeArgument contents parsed).mpr
        ⟨hpackage, bcsBytes, kind, hcontents, hfirst, hparse⟩)
    rw [EventKind.kind_of_parse hparse] at hnamed
    exact hother hnamed
  · intro hdecodes
    refine ClassifiedByName.of_named fun parsed hparsed ↦ ?_
    obtain ⟨hpackage, bcsBytes, kind, hcontents, hfirst, hparse⟩ :=
      (parseSuiEvent_eq_some_iff libs groupsPackageId separator address moduleName eventName
        typeArgument contents parsed).mp hparsed
    rw [EventKind.kind_of_parse hparse]
    by_contra hother
    have hfails := hdecodes bcsBytes kind hpackage hcontents hfirst hother
    rw [← EventKind.isSome_parse, hparse] at hfails
    simp at hfails

/-- Assumes: a type argument that mentions no generic struct with the name of a kind. The event is
classified by its own name. -/
theorem classifiedByName_of_notMentioned
    (hplain : ∀ kind : EventKind, typeArgument.mentions kind.name.val = false) :
    ClassifiedByName libs groupsPackageId separator address moduleName eventName typeArgument
      contents := by
  refine ClassifiedByName.of_named fun parsed hparsed ↦ ?_
  obtain ⟨-, bcsBytes, kind, -, hfirst, hparse⟩ :=
    (parseSuiEvent_eq_some_iff libs groupsPackageId separator address moduleName eventName
      typeArgument contents parsed).mp hparsed
  rw [EventKind.kind_of_parse hparse]
  have hnames := List.find?_some hfirst
  rw [hplain kind, Bool.or_false, decide_eq_true_iff] at hnames
  exact hnames.symm

end Classification

/-! ### A revocation that is taken for a grant -/

section Misclassification

/-- A package address in full. -/
def fullPackage : Word :=
  ⟨"0x000000000000000000000000000000000000000000000000000000000000005a", by decide⟩

/-- A generic struct of another package, with the name of the event that grants permissions. -/
def lookalike : MoveType :=
  .struct ⟨"0x0000000000000000000000000000000000000000000000000000000000000bad", by decide⟩
    ⟨"lookalike", by decide⟩ ⟨"PermissionsGranted", by decide⟩ [.primitive .u8]

/-- In a group over such a struct a revocation is parsed as a grant. -/
theorem not_classifiedByName_lookalike :
    ¬ ∀ (libs : Externals) (groupsPackageId : String) (separator : ArgumentSeparator)
      (address moduleName eventName : Word) (typeArgument : MoveType)
      (contents : Option (Option (List UInt8))),
      ClassifiedByName libs groupsPackageId separator address moduleName eventName typeArgument
        contents := by
  intro hclassified
  have hparse : parseSuiEvent sampleBcs
      (typedEvent .commaSpace fullPackage ⟨"permissioned_group", by decide⟩
        EventKind.permissionsRevoked.name lookalike (some (some permissionsBytes)))
      fullPackage.val =
        some (.permissionsGranted (hexAddress sampleGroup) (hexAddress sampleMember)
          [.messagingReader]) := by
    rw [parseSuiEvent_eq_some_iff]
    have hpackage : isFromPackage fullPackage.val (eventTypeName .commaSpace fullPackage
        ⟨"permissioned_group", by decide⟩ EventKind.permissionsRevoked.name lookalike) = true :=
      isFromPackage_of_prefix (by decide) (address_prefix_eventTypeName _ _ _ _ _)
    exact ⟨hpackage, permissionsBytes, .permissionsGranted, rfl, by decide, by decide +kernel⟩
  exact (hclassified sampleBcs fullPackage.val .commaSpace fullPackage
    ⟨"permissioned_group", by decide⟩ EventKind.permissionsRevoked.name lookalike
    (some (some permissionsBytes))).revocation rfl _ _ _ hparse

end Misclassification

end MessagingRelayer
