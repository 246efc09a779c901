import NostrDoubleRatchet.Group.SenderKeys

/-!
Commands that arrive over pairwise sessions, as in `group_manager/incoming.rs`: group
snapshots, messages, sender-key distributions and repair requests.
-/

namespace NostrDoubleRatchet

structure GroupReceivedMessage (K T : Type) where
  groupId : String
  senderOwner : OwnerPubkey K
  senderDevice : Option (DevicePubkey K)
  body : T
  revision : Nat
  deriving DecidableEq

structure GroupSenderKeyRepairRequestEvent (K : Type) where
  requesterOwner : OwnerPubkey K
  requesterDevice : Option (DevicePubkey K)
  request : SenderKeyRepairRequest K
  deriving DecidableEq

inductive GroupIncomingEvent (K T : Type) where
  | metadataUpdated (snapshot : GroupSnapshot K)
  | message (message : GroupReceivedMessage K T)
  | senderKeyRepairRequested (event : GroupSenderKeyRepairRequestEvent K)
  deriving DecidableEq

variable {K T : Type} [LinearOrder K] [Primitives K T]

namespace GroupManager

/-- The `MetadataSnapshot` arm. A known group takes a higher revision from one of its
admins or from the local owner; an unknown one must contain the local owner. -/
def handleMetadataSnapshot (manager : GroupManager K) (senderOwner : OwnerPubkey K)
    (snapshot : GroupSnapshot K) :
    Except Error (Option (GroupIncomingEvent K T) × GroupManager K) := do
  let record ← GroupRecord.fromMetadataSnapshot snapshot
  let isSelfSync := decide (senderOwner = manager.localOwnerPubkey)
  let notAdmin : Error := groupError
    s!"owner {Primitives.toHex senderOwner.bytes} is not an admin of group `{record.groupId}`"
  match manager.groups.get? record.groupId with
  | some existing =>
      if existing.protocol ≠ record.protocol then
        throw (groupError (s!"group `{record.groupId}` protocol mismatch: " ++
          s!"expected {existing.protocol.debug}, got {record.protocol.debug}"))
      else if record.revision < existing.revision ∨ existing = record then
        pure (some (.metadataUpdated existing.snapshot), manager)
      else if record.revision = existing.revision then
        throw (groupError (s!"conflicting metadata snapshot for group `{record.groupId}` " ++
          s!"at revision {record.revision}"))
      else if !isSelfSync && senderOwner ∉ existing.admins then throw notAdmin
      else
        pure (some (.metadataUpdated record.snapshot), manager.setGroup record.groupId record)
  | none =>
      if manager.localOwnerPubkey ∉ record.members then pure (none, manager)
      else if !isSelfSync && senderOwner ∉ record.admins then throw notAdmin
      else
        pure (some (.metadataUpdated record.snapshot), manager.setGroup record.groupId record)

/-- The `GroupMessage` arm. -/
def handleGroupMessage (manager : GroupManager K) (senderOwner : OwnerPubkey K)
    (senderDevice : Option (DevicePubkey K)) (groupId : String) (revision : Nat) (body : T) :
    Except Error (Option (GroupIncomingEvent K T)) := do
  let group ← manager.groupRecord groupId
  group.ensureMember senderOwner
  if revision > group.revision then
    throw (pendingGroupRevisionError groupId group.revision revision)
  else if revision < group.revision then pure none
  else pure (some (.message ⟨groupId, senderOwner, senderDevice, body, revision⟩))

/-- The `SenderKeyDistribution` arm. -/
def handleSenderKeyDistribution (manager : GroupManager K) (senderOwner : OwnerPubkey K)
    (senderDevice : Option (DevicePubkey K)) (distribution : SenderKeyDistribution K) :
    Except Error (Option (GroupIncomingEvent K T) × GroupManager K) :=
  match senderDevice with
  | none =>
      .error (groupError "sender-key distribution requires authenticated sender device")
  | some senderDevice => do
      let groupId := distribution.groupId
      let manager ← manager.observeSenderKeyDistribution senderOwner senderDevice distribution
      let group ← manager.groupRecord groupId
      pure (some (.metadataUpdated group.snapshot), manager)

omit [Primitives K T] in
/-- The `SenderKeyRepairRequest` arm. -/
def handleSenderKeyRepairRequest (manager : GroupManager K) (senderOwner : OwnerPubkey K)
    (senderDevice : Option (DevicePubkey K)) (request : SenderKeyRepairRequest K) :
    Except Error (Option (GroupIncomingEvent K T)) := do
  let group ← manager.groupRecord request.groupId
  if !group.protocol.isSenderKeyV1 || senderOwner ∉ group.members then pure none
  else pure (some (.senderKeyRepairRequested ⟨senderOwner, senderDevice, request⟩))

def handleCommand (manager : GroupManager K) (senderOwner : OwnerPubkey K)
    (senderDevice : Option (DevicePubkey K)) :
    GroupPairwiseCommand K T → Except Error (Option (GroupIncomingEvent K T) × GroupManager K)
  | .metadataSnapshot snapshot => manager.handleMetadataSnapshot senderOwner snapshot
  | .groupMessage groupId revision body => do
      let event ← manager.handleGroupMessage senderOwner senderDevice groupId revision body
      pure (event, manager)
  | .senderKeyDistribution distribution =>
      manager.handleSenderKeyDistribution senderOwner senderDevice distribution
  | .senderKeyRepairRequest request => do
      let event ← manager.handleSenderKeyRepairRequest senderOwner senderDevice request
      pure (event, manager)

variable [GroupPayloadCodec K T]

/-- `handle_pairwise_payload_inner`. A failing call changes nothing. -/
def handlePairwisePayloadInner (manager : GroupManager K) (senderOwner : OwnerPubkey K)
    (senderDevice : Option (DevicePubkey K)) (payload : T) :
    Except Error (Option (GroupIncomingEvent K T) × GroupManager K) := do
  match ← GroupPayloadCodec.decodePairwiseCommand (K := K) payload with
  | none => pure (none, manager)
  | some command => manager.handleCommand senderOwner senderDevice command

def handleIncoming (manager : GroupManager K) (senderOwner : OwnerPubkey K) (payload : T) :
    Except Error (Option (GroupIncomingEvent K T) × GroupManager K) :=
  manager.handlePairwisePayloadInner senderOwner none payload

def handlePairwisePayload (manager : GroupManager K) (senderOwner : OwnerPubkey K)
    (senderDevice : DevicePubkey K) (payload : T) :
    Except Error (Option (GroupIncomingEvent K T) × GroupManager K) :=
  manager.handlePairwisePayloadInner senderOwner (some senderDevice) payload

/-- The manager a call leaves. -/
def after {α : Type} (manager : GroupManager K) (result : Except Error (α × GroupManager K)) :
    GroupManager K :=
  match result with
  | .ok (_, next) => next
  | .error _ => manager

end GroupManager

end NostrDoubleRatchet
