import Mathlib.Data.String.Basic
import NostrDoubleRatchet.Lib.SortedSet
import NostrDoubleRatchet.SenderKey.State
import NostrDoubleRatchet.SessionManager.Sending

/-!
The data of `group.rs` and the records of `group_manager/records.rs`: what a manager keeps
for a group and for the sender key of a device, the edits an admin may make, and their
serialised snapshots.
-/

namespace NostrDoubleRatchet

/-- The `+ 1` of an unchecked `u64` counter. -/
def u64Succ (n : Nat) : Nat := (n + 1) % 2 ^ 64

abbrev SenderEventPubkey (K : Type) := DevicePubkey K

inductive GroupStrategy where
  | pairwiseFanout
  | senderKey
  deriving DecidableEq, Repr

def GroupStrategy.debug : GroupStrategy → String
  | .pairwiseFanout => "PairwiseFanout"
  | .senderKey => "SenderKey"

structure GroupProtocol where
  strategy : GroupStrategy
  version : Nat
  deriving DecidableEq, Repr

namespace GroupProtocol

def pairwiseFanoutV1 : GroupProtocol := ⟨.pairwiseFanout, 1⟩

def senderKeyV1 : GroupProtocol := ⟨.senderKey, 1⟩

def isPairwiseFanoutV1 (protocol : GroupProtocol) : Bool := protocol = pairwiseFanoutV1

def isSenderKeyV1 (protocol : GroupProtocol) : Bool := protocol = senderKeyV1

def debug (protocol : GroupProtocol) : String :=
  s!"GroupProtocol \x7b strategy: {protocol.strategy.debug}, version: {protocol.version} \x7d"

end GroupProtocol

structure GroupSnapshot (K : Type) where
  groupId : String
  protocol : GroupProtocol
  name : String
  picture : Option String
  about : Option String
  createdBy : OwnerPubkey K
  members : List (OwnerPubkey K)
  admins : List (OwnerPubkey K)
  revision : Nat
  createdAt : UnixSeconds
  updatedAt : UnixSeconds
  deriving DecidableEq

structure SenderKeyDistribution (K : Type) where
  groupId : String
  keyId : Nat
  senderEventPubkey : SenderEventPubkey K
  chainKey : K
  iteration : Nat
  createdAt : UnixSeconds
  deriving DecidableEq

structure SenderKeyRepairRequest (K : Type) where
  groupId : String
  senderEventPubkey : SenderEventPubkey K
  keyId : Option Nat
  messageNumber : Option Nat
  requiredRevision : Option Nat
  createdAt : UnixSeconds
  deriving DecidableEq

inductive GroupPairwiseCommand (K T : Type) where
  | metadataSnapshot (snapshot : GroupSnapshot K)
  | groupMessage (groupId : String) (revision : Nat) (body : T)
  | senderKeyDistribution (distribution : SenderKeyDistribution K)
  | senderKeyRepairRequest (request : SenderKeyRepairRequest K)
  deriving DecidableEq

structure GroupSenderKeyRepairSnapshot (K : Type) where
  keyId : Nat
  distribution : SenderKeyDistribution K
  recipients : List (OwnerPubkey K)
  deriving DecidableEq

structure GroupSenderKeyDistributionRecipientsSnapshot (K : Type) where
  keyId : Nat
  recipients : List (OwnerPubkey K)
  deriving DecidableEq

section

variable {K T : Type} [LinearOrder K]

structure GroupSenderKeyRecordSnapshot (K : Type) where
  groupId : String
  senderOwner : OwnerPubkey K
  senderDevice : DevicePubkey K
  senderEventPubkey : SenderEventPubkey K
  senderEventSecretKey : Option K
  latestKeyId : Option Nat
  states : List (SenderKeyState K)
  distributionHistory : List (SenderKeyDistribution K)
  distributedTo : List (GroupSenderKeyDistributionRecipientsSnapshot K)
  repairSnapshots : List (GroupSenderKeyRepairSnapshot K)
  deriving DecidableEq

structure GroupRecord (K : Type) [LinearOrder K] where
  groupId : String
  protocol : GroupProtocol
  name : String
  picture : Option String
  about : Option String
  createdBy : OwnerPubkey K
  members : SortedSet (OwnerPubkey K)
  admins : SortedSet (OwnerPubkey K)
  revision : Nat
  createdAt : UnixSeconds
  updatedAt : UnixSeconds
  deriving DecidableEq

structure SenderKeyRecordId (K : Type) where
  groupId : String
  senderOwner : OwnerPubkey K
  senderDevice : DevicePubkey K
  deriving DecidableEq

/-- The fields in the order the derived comparison reads them. -/
def SenderKeyRecordId.key (id : SenderKeyRecordId K) :
    String ×ₗ OwnerPubkey K ×ₗ DevicePubkey K :=
  toLex (id.groupId, toLex (id.senderOwner, id.senderDevice))

omit [LinearOrder K] in
theorem SenderKeyRecordId.key_injective :
    Function.Injective (SenderKeyRecordId.key (K := K)) := by
  intro a b h
  cases a
  cases b
  obtain ⟨hgroup, hrest⟩ := Prod.mk.inj (congrArg ofLex h)
  obtain ⟨howner, hdevice⟩ := Prod.mk.inj (congrArg ofLex hrest)
  cases hgroup
  cases howner
  cases hdevice
  rfl

instance : LinearOrder (SenderKeyRecordId K) where
  __ := PartialOrder.lift (SenderKeyRecordId.key (K := K)) SenderKeyRecordId.key_injective
  le_total a b := le_total a.key b.key
  toDecidableLE a b := inferInstanceAs (Decidable (a.key ≤ b.key))
  toDecidableEq := inferInstance

structure SenderKeyRecord (K : Type) [LinearOrder K] where
  groupId : String
  senderOwner : OwnerPubkey K
  senderDevice : DevicePubkey K
  senderEventPubkey : SenderEventPubkey K
  senderEventSecretKey : Option K
  latestKeyId : Option Nat
  states : SortedMap Nat (SenderKeyState K)
  distributionHistory : SortedMap Nat (SenderKeyDistribution K)
  distributedTo : SortedMap Nat (SortedSet (OwnerPubkey K))
  repairSnapshots : List (GroupSenderKeyRepairSnapshot K)
  deriving DecidableEq

/-- `if !condition { return Err(error); }`. -/
def ensure (condition : Bool) (error : Error) : Except Error Unit :=
  if condition then .ok () else .error error

def groupError (message : String) : Error := .domain (.invalidGroupOperation message)

def pendingGroupRevisionError (groupId : String) (currentRevision requiredRevision : Nat) :
    Error :=
  .domain (.pendingGroupRevision groupId currentRevision requiredRevision)

def validateSupportedProtocol (protocol : GroupProtocol) : Except Error Unit :=
  ensure (protocol.isPairwiseFanoutV1 || protocol.isSenderKeyV1) (groupError
    s!"unsupported group protocol {protocol.strategy.debug}/{protocol.version}")

def validateUniqueOwners (values : List (OwnerPubkey K)) (label : String) :
    Except Error (SortedSet (OwnerPubkey K)) :=
  let set := SortedSet.ofList values
  if set.length ≠ values.length then .error (groupError s!"duplicate {label} are not allowed")
  else .ok set

def validateGroupInvariants (members admins : SortedSet (OwnerPubkey K)) :
    Except Error Unit := do
  ensure (!members.isEmpty) (groupError "group must have at least one member")
  ensure (!admins.isEmpty) (groupError "group must have at least one admin")
  ensure (admins.isSubset members) (groupError "all admins must also be members")

/-- Run a check on the owners of a set in order, stopping at the first that fails. -/
def checkOwners (owners : SortedSet (OwnerPubkey K)) (check : OwnerPubkey K → Except Error Unit) :
    Except Error Unit :=
  owners.toList.forM check

namespace GroupRecord

def fromSnapshot (snapshot : GroupSnapshot K) : Except Error (GroupRecord K) := do
  let members ← validateUniqueOwners snapshot.members "members"
  let admins ← validateUniqueOwners snapshot.admins "admins"
  validateSupportedProtocol snapshot.protocol
  validateGroupInvariants members admins
  pure {
    groupId := snapshot.groupId
    protocol := snapshot.protocol
    name := snapshot.name
    picture := snapshot.picture
    about := snapshot.about
    createdBy := snapshot.createdBy
    members := members
    admins := admins
    revision := snapshot.revision
    createdAt := snapshot.createdAt
    updatedAt := snapshot.updatedAt }

def fromMetadataSnapshot (snapshot : GroupSnapshot K) : Except Error (GroupRecord K) := do
  let record ← fromSnapshot snapshot
  validateSupportedProtocol record.protocol
  ensure (record.revision ≠ 0) (groupError "metadata snapshot revision must be at least 1")
  pure record

def snapshot (record : GroupRecord K) : GroupSnapshot K where
  groupId := record.groupId
  protocol := record.protocol
  name := record.name
  picture := record.picture
  about := record.about
  createdBy := record.createdBy
  members := record.members.toList
  admins := record.admins.toList
  revision := record.revision
  createdAt := record.createdAt
  updatedAt := record.updatedAt

def metadataPayload (record : GroupRecord K) : GroupPairwiseCommand K T :=
  .metadataSnapshot record.snapshot

def remoteMembers (record : GroupRecord K) (localOwnerPubkey : OwnerPubkey K) :
    List (OwnerPubkey K) :=
  record.members.toList.filter (· ≠ localOwnerPubkey)

variable [Primitives K T]

def ensureAdmin (record : GroupRecord K) (owner : OwnerPubkey K) : Except Error Unit :=
  ensure (owner ∈ record.admins) (groupError
    s!"owner {Primitives.toHex owner.bytes} is not an admin of group `{record.groupId}`")

def ensureMember (record : GroupRecord K) (owner : OwnerPubkey K) : Except Error Unit :=
  ensure (owner ∈ record.members) (groupError
    s!"owner {Primitives.toHex owner.bytes} is not a member of group `{record.groupId}`")

omit [Primitives K T] in
def ensureRevision (record : GroupRecord K) (baseRevision newRevision : Nat) :
    Except Error Unit := do
  ensure (baseRevision = record.revision) (groupError
    (s!"stale group revision for `{record.groupId}`: " ++
      s!"expected {record.revision}, got {baseRevision}"))
  ensure (newRevision = u64Succ baseRevision) (groupError
    (s!"invalid next revision for `{record.groupId}`: " ++
      s!"expected {u64Succ baseRevision}, got {newRevision}"))

/-- The shape of the `apply_*` functions: the actor must be an admin at the stored
revision, the edit is made, and the revision and time are set. -/
def applyEdit (record : GroupRecord K) (edit : GroupRecord K → Except Error (GroupRecord K))
    (actor : OwnerPubkey K) (baseRevision newRevision : Nat) (updatedAt : UnixSeconds) :
    Except Error (GroupRecord K) := do
  record.ensureAdmin actor
  record.ensureRevision baseRevision newRevision
  let record ← edit record
  pure { record with revision := newRevision, updatedAt := updatedAt }

def applyRename (record : GroupRecord K) (actor : OwnerPubkey K) (name : String)
    (baseRevision newRevision : Nat) (updatedAt : UnixSeconds) : Except Error (GroupRecord K) :=
  record.applyEdit (fun record => .ok { record with name := name }) actor baseRevision
    newRevision updatedAt

def applyPictureChange (record : GroupRecord K) (actor : OwnerPubkey K)
    (picture : Option String) (baseRevision newRevision : Nat) (updatedAt : UnixSeconds) :
    Except Error (GroupRecord K) :=
  record.applyEdit (fun record => .ok { record with picture := picture.filter (· ≠ "") }) actor
    baseRevision newRevision updatedAt

def applyAboutChange (record : GroupRecord K) (actor : OwnerPubkey K) (about : Option String)
    (baseRevision newRevision : Nat) (updatedAt : UnixSeconds) : Except Error (GroupRecord K) :=
  record.applyEdit (fun record => .ok { record with about := about.filter (· ≠ "") }) actor
    baseRevision newRevision updatedAt

def applyAddMembers (record : GroupRecord K) (actor : OwnerPubkey K)
    (additions : SortedSet (OwnerPubkey K)) (baseRevision newRevision : Nat)
    (updatedAt : UnixSeconds) : Except Error (GroupRecord K) :=
  record.applyEdit (fun record => do
    ensure (!additions.isEmpty) (groupError "members list must not be empty")
    checkOwners additions (fun owner => ensure (owner ∉ record.members)
      (groupError s!"owner {Primitives.toHex owner.bytes} is already a member"))
    pure { record with members := record.members.extend additions.toList })
    actor baseRevision newRevision updatedAt

def applyRemoveMembers (record : GroupRecord K) (actor : OwnerPubkey K)
    (removals : SortedSet (OwnerPubkey K)) (baseRevision newRevision : Nat)
    (updatedAt : UnixSeconds) : Except Error (GroupRecord K) :=
  record.applyEdit (fun record => do
    ensure (!removals.isEmpty) (groupError "members list must not be empty")
    ensure (actor ∉ removals) (groupError "self-removal is not allowed")
    checkOwners removals (fun owner => ensure (owner ∈ record.members)
      (groupError s!"owner {Primitives.toHex owner.bytes} is not a member"))
    let members := removals.toList.foldl SortedSet.erase record.members
    let admins := removals.toList.foldl SortedSet.erase record.admins
    validateGroupInvariants members admins
    pure { record with members := members, admins := admins })
    actor baseRevision newRevision updatedAt

def applyAddAdmins (record : GroupRecord K) (actor : OwnerPubkey K)
    (additions : SortedSet (OwnerPubkey K)) (baseRevision newRevision : Nat)
    (updatedAt : UnixSeconds) : Except Error (GroupRecord K) :=
  record.applyEdit (fun record => do
    ensure (!additions.isEmpty) (groupError "admins list must not be empty")
    checkOwners additions (fun owner => do
      ensure (owner ∈ record.members) (groupError
        s!"owner {Primitives.toHex owner.bytes} must be a member before promotion")
      ensure (owner ∉ record.admins)
        (groupError s!"owner {Primitives.toHex owner.bytes} is already an admin"))
    pure { record with admins := record.admins.extend additions.toList })
    actor baseRevision newRevision updatedAt

def applyRemoveAdmins (record : GroupRecord K) (actor : OwnerPubkey K)
    (removals : SortedSet (OwnerPubkey K)) (baseRevision newRevision : Nat)
    (updatedAt : UnixSeconds) : Except Error (GroupRecord K) :=
  record.applyEdit (fun record => do
    ensure (!removals.isEmpty) (groupError "admins list must not be empty")
    checkOwners removals (fun owner => ensure (owner ∈ record.admins)
      (groupError s!"owner {Primitives.toHex owner.bytes} is not an admin"))
    ensure (record.admins.length ≠ removals.length)
      (groupError "cannot remove the last admin")
    let admins := removals.toList.foldl SortedSet.erase record.admins
    validateGroupInvariants record.members admins
    pure { record with admins := admins })
    actor baseRevision newRevision updatedAt

end GroupRecord

/-- A real local sender key with its secret is kept; a remote record is kept over a copy
of it that a local sibling had forwarded. -/
def preferNewDuplicateSenderKey (localOwnerPubkey : OwnerPubkey K)
    (existing incoming : SenderKeyRecord K) : Bool :=
  match decide (existing.senderOwner = localOwnerPubkey), existing.senderEventSecretKey.isSome,
      decide (incoming.senderOwner = localOwnerPubkey),
      incoming.senderEventSecretKey.isSome with
  | true, true, _, _ => false
  | _, _, true, true => true
  | true, false, false, _ => true
  | false, _, true, false => false
  | _, _, _, _ => false

namespace SenderKeyRecord

def id (record : SenderKeyRecord K) : SenderKeyRecordId K :=
  ⟨record.groupId, record.senderOwner, record.senderDevice⟩

/-- The loop over the states of a snapshot. -/
def statesFromSnapshot : List (SenderKeyState K) → SortedMap Nat (SenderKeyState K) →
    Except Error (SortedMap Nat (SenderKeyState K))
  | [], states => .ok states
  | state :: rest, states =>
      if states.contains state.keyId then
        .error (groupError "duplicate sender-key state in snapshot")
      else statesFromSnapshot rest (states.insert state.keyId state)

def fromSnapshot (snapshot : GroupSenderKeyRecordSnapshot K) :
    Except Error (SenderKeyRecord K) := do
  let states ← statesFromSnapshot snapshot.states SortedMap.empty
  ensure (snapshot.latestKeyId.all states.contains)
    (groupError "sender-key latest key id missing from states")
  pure {
    groupId := snapshot.groupId
    senderOwner := snapshot.senderOwner
    senderDevice := snapshot.senderDevice
    senderEventPubkey := snapshot.senderEventPubkey
    senderEventSecretKey := snapshot.senderEventSecretKey
    latestKeyId := snapshot.latestKeyId
    states := states
    distributionHistory := SortedMap.ofList
      (snapshot.distributionHistory.map (fun distribution => (distribution.keyId, distribution)))
    distributedTo := SortedMap.ofList
      (snapshot.distributedTo.map (fun entry =>
        (entry.keyId, SortedSet.ofList entry.recipients)))
    repairSnapshots := snapshot.repairSnapshots }

/-- `max_by_key` on the iteration: the last of the greatest. -/
def latestSnapshot : List (GroupSenderKeyRepairSnapshot K) →
    Option (GroupSenderKeyRepairSnapshot K)
  | [] => none
  | snapshot :: rest =>
      match latestSnapshot rest with
      | none => some snapshot
      | some best =>
          if snapshot.distribution.iteration ≤ best.distribution.iteration then some best
          else some snapshot

def repairDistributionFor (record : SenderKeyRecord K) (requesterOwner : OwnerPubkey K)
    (keyId messageNumber : Nat) : Option (SenderKeyDistribution K) :=
  (latestSnapshot (record.repairSnapshots.filter (fun snapshot =>
    snapshot.keyId = keyId && snapshot.distribution.iteration ≤ messageNumber &&
      snapshot.recipients.contains requesterOwner))).map (·.distribution)

def repairDistributionsForRequester (record : SenderKeyRecord K)
    (requesterOwner : OwnerPubkey K) : List (SenderKeyDistribution K) :=
  (record.repairSnapshots.filter (fun snapshot =>
    snapshot.recipients.contains requesterOwner)).map (·.distribution)

def requesterReceivedInitialRepairSnapshot (record : SenderKeyRecord K)
    (requesterOwner : OwnerPubkey K) (distribution : SenderKeyDistribution K) : Bool :=
  let ofKey := record.repairSnapshots.filter (fun snapshot =>
    snapshot.keyId = distribution.keyId)
  match (ofKey.map (·.distribution.iteration)).min? with
  | none => false
  | some firstIteration =>
      firstIteration = distribution.iteration &&
        record.repairSnapshots.any (fun snapshot =>
          snapshot.keyId = distribution.keyId &&
            snapshot.distribution.iteration = firstIteration &&
            snapshot.recipients.contains requesterOwner)

def snapshot (record : SenderKeyRecord K) : GroupSenderKeyRecordSnapshot K where
  groupId := record.groupId
  senderOwner := record.senderOwner
  senderDevice := record.senderDevice
  senderEventPubkey := record.senderEventPubkey
  senderEventSecretKey := record.senderEventSecretKey
  latestKeyId := record.latestKeyId
  states := record.states.values
  distributionHistory := record.distributionHistory.values
  distributedTo := record.distributedTo.entries.map (fun entry => ⟨entry.1, entry.2.toList⟩)
  repairSnapshots := record.repairSnapshots

end SenderKeyRecord

end

end NostrDoubleRatchet
