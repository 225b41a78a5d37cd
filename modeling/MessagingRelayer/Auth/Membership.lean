import MessagingRelayer.Auth.Scheme
import MessagingRelayer.Foundation.HashMap
import Mathlib.Data.Finset.Dedup
import Mathlib.Data.Finset.Erase
import Mathlib.Data.Finset.SDiff

/-!
# The in-memory membership store

The store keeps, for each group, the permissions of each of its members. `entry` is the set kept for
one group and address; every operation changes the entry of at most one pair, and the lemmas
`entry_grantPermissions`, `entry_revokePermissions`, `entry_addMember` and `entry_removeMember` say
how. Everything later modules use of the store follows from them.
-/

set_option autoImplicit false
set_option relaxedAutoImplicit false

namespace MessagingRelayer

open Foundation

/-- The permissions of the members of each group. -/
structure InMemoryMembershipStore where
  members : HashMap String (HashMap String (Finset MessagingPermission))

/-- Error of the store operations. -/
inductive MembershipError
  | memberNotFound (groupId address : String)
deriving DecidableEq

namespace InMemoryMembershipStore

def new : InMemoryMembershipStore where
  members := ∅

/-- The permission set kept for an address in a group. -/
def entry (store : InMemoryMembershipStore) (groupId address : String) :
    Option (Finset MessagingPermission) :=
  (store.members.lookup groupId).bind fun groupMembers ↦ groupMembers.lookup address

/-! ### The operations -/

/-- Whether an address has a specific permission in a group. -/
def hasPermission (store : InMemoryMembershipStore) (groupId address : String)
    (permission : MessagingPermission) : Bool :=
  ((store.entry groupId address).map fun perms ↦ decide (permission ∈ perms)).getD false

/-- Changes the permissions of a member, which must be there. -/
def modifyMember (store : InMemoryMembershipStore) (groupId address : String)
    (change : Finset MessagingPermission → Finset MessagingPermission) :
    Except MembershipError Unit × InMemoryMembershipStore :=
  match store.members.lookup groupId with
  | none => (.error (.memberNotFound groupId address), store)
  | some groupMembers =>
    match groupMembers.lookup address with
    | none => (.error (.memberNotFound groupId address), store)
    | some memberPerms =>
      (.ok (), ⟨store.members.insert groupId (groupMembers.insert address (change memberPerms))⟩)

/-- Grants permissions to a member, one after the other. -/
def grantPermissions (store : InMemoryMembershipStore) (groupId address : String)
    (permissions : List MessagingPermission) :
    Except MembershipError Unit × InMemoryMembershipStore :=
  store.modifyMember groupId address fun memberPerms ↦
    permissions.foldl (fun perms permission ↦ insert permission perms) memberPerms

/-- Revokes permissions from a member, one after the other. -/
def revokePermissions (store : InMemoryMembershipStore) (groupId address : String)
    (permissions : List MessagingPermission) :
    Except MembershipError Unit × InMemoryMembershipStore :=
  store.modifyMember groupId address fun memberPerms ↦
    permissions.foldl (fun perms permission ↦ perms.erase permission) memberPerms

/-- Adds a member with initial permissions; a member that is there already gets exactly these. -/
def addMember (store : InMemoryMembershipStore) (groupId address : String)
    (initialPermissions : List MessagingPermission) : InMemoryMembershipStore :=
  let groupMembers := (store.members.lookup groupId).getD ∅
  ⟨store.members.insert groupId (groupMembers.insert address initialPermissions.toFinset)⟩

/-- Removes a member completely from a group. -/
def removeMember (store : InMemoryMembershipStore) (groupId address : String) :
    InMemoryMembershipStore :=
  match store.members.lookup groupId with
  | none => store
  | some groupMembers => ⟨store.members.insert groupId (groupMembers.erase address)⟩

/-! ### What the operations do to an entry -/

section Entries

variable (store : InMemoryMembershipStore) (groupId address group member : String)
  (permission : MessagingPermission) (permissions : List MessagingPermission)

theorem foldl_insert (perms : Finset MessagingPermission) :
    permissions.foldl (fun perms permission ↦ insert permission perms) perms =
      perms ∪ permissions.toFinset := by
  induction permissions generalizing perms with
  | nil => simp
  | cons head rest ih =>
    rw [List.foldl_cons, ih]
    ext granted
    simp only [Finset.mem_union, Finset.mem_insert, List.mem_toFinset, List.mem_cons]
    tauto

theorem foldl_erase (perms : Finset MessagingPermission) :
    permissions.foldl (fun perms permission ↦ perms.erase permission) perms =
      perms \ permissions.toFinset := by
  induction permissions generalizing perms with
  | nil => simp
  | cons head rest ih =>
    rw [List.foldl_cons, ih]
    ext granted
    simp only [Finset.mem_sdiff, Finset.mem_erase, List.mem_toFinset, List.mem_cons]
    tauto

@[simp] theorem entry_new : new.entry groupId address = none := by
  unfold entry new
  simp

theorem hasPermission_iff :
    store.hasPermission groupId address permission = true ↔
      ∃ perms, store.entry groupId address = some perms ∧ permission ∈ perms := by
  unfold hasPermission
  cases hentry : store.entry groupId address with
  | none => simp
  | some perms => simp

/-- The entry of a pair after the members of one group are replaced. -/
theorem entry_insert (groupMembers : HashMap String (Finset MessagingPermission)) :
    entry ⟨store.members.insert groupId groupMembers⟩ group member =
      if group = groupId then groupMembers.lookup member else store.entry group member := by
  unfold entry
  rw [HashMap.lookup_insert_eq]
  split_ifs with hgroup
  · rfl
  · rfl

/-- A change of a member's permissions changes the entry of that pair, and only when
there is one. -/
theorem entry_modifyMember
    (change : Finset MessagingPermission → Finset MessagingPermission) :
    (store.modifyMember groupId address change).2.entry group member =
      if group = groupId ∧ member = address then (store.entry group member).map change
      else store.entry group member := by
  unfold modifyMember
  cases hgroup : store.members.lookup groupId with
  | none =>
    split_ifs with hpair
    · obtain ⟨rfl, rfl⟩ := hpair
      simp [entry, hgroup]
    · rfl
  | some groupMembers =>
    cases hmember : groupMembers.lookup address with
    | none =>
      split_ifs with hpair
      · obtain ⟨rfl, rfl⟩ := hpair
        simp [entry, hgroup, hmember]
      · simp [hmember]
    | some memberPerms =>
      simp only [hmember]
      rw [entry_insert, HashMap.lookup_insert_eq]
      by_cases hsame : group = groupId
      · subst hsame
        by_cases haddress : member = address
        · subst haddress
          simp [entry, hgroup, hmember]
        · simp [entry, hgroup, haddress]
      · simp [hsame]

/-- A change of a member's permissions that fails leaves the store as it was. -/
theorem modifyMember_of_error {err : MembershipError}
    (change : Finset MessagingPermission → Finset MessagingPermission)
    (herror : (store.modifyMember groupId address change).1 = .error err) :
    (store.modifyMember groupId address change).2 = store := by
  unfold modifyMember at herror ⊢
  cases hgroup : store.members.lookup groupId with
  | none => rfl
  | some groupMembers =>
    cases hmember : groupMembers.lookup address with
    | none => simp only [hmember]
    | some memberPerms => simp [hgroup, hmember] at herror

theorem entry_grantPermissions :
    (store.grantPermissions groupId address permissions).2.entry group member =
      if group = groupId ∧ member = address then
        (store.entry group member).map (· ∪ permissions.toFinset)
      else store.entry group member := by
  unfold grantPermissions
  simp only [entry_modifyMember, foldl_insert]

theorem entry_revokePermissions :
    (store.revokePermissions groupId address permissions).2.entry group member =
      if group = groupId ∧ member = address then
        (store.entry group member).map (· \ permissions.toFinset)
      else store.entry group member := by
  unfold revokePermissions
  simp only [entry_modifyMember, foldl_erase]

theorem entry_addMember :
    (store.addMember groupId address permissions).entry group member =
      if group = groupId ∧ member = address then some permissions.toFinset
      else store.entry group member := by
  unfold addMember
  rw [entry_insert, HashMap.lookup_insert_eq]
  by_cases hgroup : group = groupId
  · subst hgroup
    by_cases hmember : member = address
    · simp [hmember]
    · cases hlookup : store.members.lookup group with
      | none => simp [entry, hmember, hlookup]
      | some groupMembers => simp [entry, hmember, hlookup]
  · simp [hgroup]

theorem entry_removeMember :
    (store.removeMember groupId address).entry group member =
      if group = groupId ∧ member = address then none else store.entry group member := by
  unfold removeMember
  cases hlookup : store.members.lookup groupId with
  | none =>
    split_ifs with hpair
    · obtain ⟨rfl, rfl⟩ := hpair
      simp [entry, hlookup]
    · rfl
  | some groupMembers =>
    simp only
    rw [entry_insert]
    by_cases hgroup : group = groupId
    · subst hgroup
      by_cases hmember : member = address
      · subst hmember
        simp
      · simp [entry, hmember, hlookup, Finmap.lookup_erase_ne]
    · simp [hgroup]

end Entries

end InMemoryMembershipStore

end MessagingRelayer
