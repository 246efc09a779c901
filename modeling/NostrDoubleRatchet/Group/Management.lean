import NostrDoubleRatchet.Group.Incoming

/-!
The local operations on groups and the snapshot of a manager, as in
`group_manager/management.rs`.
-/

namespace NostrDoubleRatchet

variable {K T : Type} [LinearOrder K]

structure GroupManagerSnapshot (K : Type) where
  localOwnerPubkey : OwnerPubkey K
  groups : List (GroupSnapshot K)
  senderKeys : List (GroupSenderKeyRecordSnapshot K)
  deriving DecidableEq

namespace GroupManager

/-- The loop of `from_snapshot_with_payload_codec` over the groups. -/
def groupsFromSnapshot : List (GroupSnapshot K) → SortedMap String (GroupRecord K) →
    Except Error (SortedMap String (GroupRecord K))
  | [], groups => .ok groups
  | group :: rest, groups => do
      let record ← GroupRecord.fromSnapshot group
      ensure (!groups.contains record.groupId) (groupError "duplicate group id in snapshot")
      groupsFromSnapshot rest (groups.insert record.groupId record)

/-- One turn of the loop over the sender keys. -/
def restoreSenderKey (manager : GroupManager K) (record : SenderKeyRecord K) :
    Except Error (GroupManager K) :=
  let stored : GroupManager K := { manager with
    senderEventIndex := manager.senderEventIndex.insert record.senderEventPubkey record.id
    senderKeys := manager.senderKeys.insert record.id record }
  if manager.senderKeys.contains record.id then
    .error (groupError "duplicate sender-key record in snapshot")
  else
    match manager.senderEventIndex.get? record.senderEventPubkey with
    | none => .ok stored
    | some existingId =>
        match manager.senderKeys.get? existingId with
        | none => .error (groupError "sender-event index points to missing state")
        | some existing =>
            if preferNewDuplicateSenderKey manager.localOwnerPubkey existing record then
              .ok { stored with
                senderKeys := (manager.senderKeys.erase existingId).insert record.id record }
            else .ok manager

def senderKeysFromSnapshot : List (GroupSenderKeyRecordSnapshot K) → GroupManager K →
    Except Error (GroupManager K)
  | [], manager => .ok manager
  | snapshot :: rest, manager => do
      let record ← SenderKeyRecord.fromSnapshot snapshot
      let manager ← manager.restoreSenderKey record
      senderKeysFromSnapshot rest manager

def fromSnapshot (snapshot : GroupManagerSnapshot K) : Except Error (GroupManager K) := do
  let groups ← groupsFromSnapshot snapshot.groups SortedMap.empty
  senderKeysFromSnapshot snapshot.senderKeys
    ⟨snapshot.localOwnerPubkey, groups, SortedMap.empty, SortedMap.empty⟩

def snapshot (manager : GroupManager K) : GroupManagerSnapshot K where
  localOwnerPubkey := manager.localOwnerPubkey
  groups := manager.groups.values.map GroupRecord.snapshot
  senderKeys := manager.senderKeys.values.map SenderKeyRecord.snapshot

/-- What a repair request is answered with: distributions, and whether the group's
snapshot goes along. -/
def repairResponse (manager : GroupManager K) (record : GroupRecord K)
    (requesterOwner : OwnerPubkey K) (request : SenderKeyRepairRequest K) :
    List (SenderKeyDistribution K) × Bool :=
  let includeRequiredRevisionMetadata :=
    request.requiredRevision.any (fun required => record.revision ≥ required)
  let senderRecord :=
    (((manager.senderEventIndex.get? request.senderEventPubkey).filter (fun id =>
      id.groupId = request.groupId && id.senderOwner = manager.localOwnerPubkey)).bind
        manager.senderKeys.get?).filter (fun record => record.senderEventSecretKey.isSome)
  match senderRecord with
  | none => ([], includeRequiredRevisionMetadata)
  | some senderRecord =>
      let distributions := match request.keyId, request.messageNumber with
        | some keyId, some messageNumber =>
            (senderRecord.repairDistributionFor requesterOwner keyId messageNumber).toList
        | _, _ => senderRecord.repairDistributionsForRequester requesterOwner
      let includeContextMetadata := request.requiredRevision.isNone &&
        requesterOwner ≠ manager.localOwnerPubkey &&
        distributions.any (fun distribution =>
          senderRecord.requesterReceivedInitialRepairSnapshot requesterOwner distribution)
      (distributions, includeRequiredRevisionMetadata || includeContextMetadata)

end GroupManager

namespace GroupM

variable [DecidableEq T] [Primitives K T] [InvitePrimitives K T] [GroupPayloadCodec K T]

omit [DecidableEq T] [Primitives K T] [InvitePrimitives K T] [GroupPayloadCodec K T] in
def groupRecord (groupId : String) : GroupM K T (GroupRecord K) := do
  let manager ← manager
  Program.ofExcept (manager.groupRecord groupId)

omit [DecidableEq T] [Primitives K T] [InvitePrimitives K T] [GroupPayloadCodec K T] in
def localOwnerPubkey : GroupM K T (OwnerPubkey K) :=
  Program.read fun world => world.manager.localOwnerPubkey

/-- Fan a group's snapshot out to `recipients` and to the local siblings. -/
def publishMetadata (now : UnixSeconds) (record : GroupRecord K)
    (recipients : List (OwnerPubkey K)) : GroupM K T (GroupPreparedSend K T) := do
  let remote ← fanoutPayload now recipients record.metadataPayload
  let localSibling ← localSiblingSync now record
  pure ⟨record.groupId, remote, localSibling⟩

def syncGroupToLocalSiblings (now : UnixSeconds) (groupId : String) :
    GroupM K T (GroupPreparedPublish K T) := do
  let record ← groupRecord groupId
  localSiblingSync now record

/-- A sender-key group also distributes its key. -/
def bootstrapIfSenderKey (now : UnixSeconds) (record : GroupRecord K)
    (prepared : GroupPreparedSend K T) : GroupM K T (GroupPreparedSend K T) :=
  if record.protocol.isSenderKeyV1 then prepareSenderKeyBootstrap now record prepared
  else pure prepared

omit [DecidableEq T] [Primitives K T] [InvitePrimitives K T] [GroupPayloadCodec K T] in
/-- The record of a group its owner has just made. -/
def newGroupRecord (now : UnixSeconds) (groupId : String) (protocol : GroupProtocol)
    (name : String) (owner : OwnerPubkey K) (memberSet : SortedSet (OwnerPubkey K)) :
    GroupRecord K where
  groupId := groupId
  protocol := protocol
  name := name
  picture := none
  about := none
  createdBy := owner
  members := memberSet.insert owner
  admins := SortedSet.empty.insert owner
  revision := 1
  createdAt := now
  updatedAt := now

def createGroupWithProtocol (now : UnixSeconds) (name : String)
    (initialMembers : List (OwnerPubkey K)) (protocol : GroupProtocol) :
    GroupM K T (GroupCreateResult K T) := do
  let memberSet ← Program.ofExcept (validateUniqueOwners initialMembers "initial members")
  let owner ← localOwnerPubkey
  Program.ofExcept (ensure (owner ∉ memberSet)
    (groupError "local owner is added automatically"))
  Program.ofExcept (validateSupportedProtocol protocol)
  let groupId ← randomGroupId
  let record := newGroupRecord now groupId protocol name owner memberSet
  let prepared ← publishMetadata now record (record.remoteMembers owner)
  let prepared ← bootstrapIfSenderKey now record prepared
  updateManager (·.setGroup groupId record)
  pure ⟨record.snapshot, prepared⟩

def createGroup (now : UnixSeconds) (name : String) (initialMembers : List (OwnerPubkey K)) :
    GroupM K T (GroupCreateResult K T) :=
  createGroupWithProtocol now name initialMembers GroupProtocol.pairwiseFanoutV1

def retryCreateGroup (now : UnixSeconds) (groupId : String)
    (recipients : List (OwnerPubkey K)) : GroupM K T (GroupPreparedSend K T) := do
  let record ← groupRecord groupId
  let owner ← localOwnerPubkey
  Program.ofExcept (record.ensureAdmin owner)
  let recipients ← Program.ofExcept (validateUniqueOwners recipients "recipients")
  let recipients := recipients.toList.filter (· ≠ owner)
  Program.ofExcept (recipients.forM record.ensureMember)
  let prepared ← publishMetadata now record recipients
  bootstrapIfSenderKey now record prepared

def sendMessage (now : UnixSeconds) (groupId : String) (body : T) :
    GroupM K T (GroupPreparedSend K T) := do
  let record ← groupRecord groupId
  let owner ← localOwnerPubkey
  Program.ofExcept (record.ensureMember owner)
  if record.protocol.isSenderKeyV1 then sendSenderKeyMessage now record body
  else
    let payload : GroupPairwiseCommand K T :=
      .groupMessage record.groupId record.revision body
    let localSibling ← localSiblingSync now record
    let siblingMessage ← localSiblingPayload now payload
    let localSibling := mergeGroupPreparedPublish localSibling siblingMessage
    let remote ← fanoutPayload now (record.remoteMembers owner) payload
    pure ⟨record.groupId, remote, localSibling⟩

def requestSenderKeyRepair (now : UnixSeconds) (request : SenderKeyRepairRequest K) :
    GroupM K T (GroupPreparedSend K T) := do
  let record ← groupRecord request.groupId
  let owner ← localOwnerPubkey
  if !record.protocol.isSenderKeyV1 || owner ∉ record.members then
    pure (emptyGroupPreparedSend request.groupId)
  else
    let command : GroupPairwiseCommand K T := .senderKeyRepairRequest request
    let remote ← fanoutPayload now (record.remoteMembers owner) command
    let localSibling ← localSiblingPayload now command
    pure ⟨request.groupId, remote, localSibling⟩

/-- Answer with the commands one after another. -/
def repairPayloads (now : UnixSeconds) (requesterOwner : OwnerPubkey K) :
    List (GroupPairwiseCommand K T) → GroupPreparedSend K T → GroupM K T (GroupPreparedSend K T)
  | [], prepared => pure prepared
  | command :: rest, prepared => do
      let next ← repairPayloadToOwner now requesterOwner command
      repairPayloads now requesterOwner rest { prepared with
        remote := mergeGroupPreparedPublish prepared.remote next.remote
        localSibling := mergeGroupPreparedPublish prepared.localSibling next.localSibling }

def respondToSenderKeyRepairRequest (now : UnixSeconds) (requesterOwner : OwnerPubkey K)
    (request : SenderKeyRepairRequest K) : GroupM K T (GroupPreparedSend K T) := do
  let manager ← manager
  match manager.groups.get? request.groupId with
  | none => pure (emptyGroupPreparedSend request.groupId)
  | some record =>
      if !record.protocol.isSenderKeyV1 || requesterOwner ∉ record.members then
        pure (emptyGroupPreparedSend request.groupId)
      else
        let (distributions, includeMetadata) :=
          manager.repairResponse record requesterOwner request
        repairPayloads now requesterOwner
          (distributions.map .senderKeyDistribution ++
            if includeMetadata then [record.metadataPayload] else [])
          (emptyGroupPreparedSend request.groupId)

def updateMetadataWith (now : UnixSeconds) (groupId : String)
    (apply : GroupRecord K → OwnerPubkey K → Nat → Nat → UnixSeconds →
      Except Error (GroupRecord K)) : GroupM K T (GroupPreparedSend K T) := do
  let current ← groupRecord groupId
  let owner ← localOwnerPubkey
  let next ← Program.ofExcept
    (apply current owner current.revision (u64Succ current.revision) now)
  let prepared ← publishMetadata now next (next.remoteMembers owner)
  updateManager (·.setGroup current.groupId next)
  pure prepared

def updateName (now : UnixSeconds) (groupId name : String) :
    GroupM K T (GroupPreparedSend K T) :=
  updateMetadataWith now groupId fun next actor base newRevision now =>
    next.applyRename actor name base newRevision now

def updatePicture (now : UnixSeconds) (groupId : String) (picture : Option String) :
    GroupM K T (GroupPreparedSend K T) :=
  updateMetadataWith now groupId fun next actor base newRevision now =>
    next.applyPictureChange actor picture base newRevision now

def updateAbout (now : UnixSeconds) (groupId : String) (about : Option String) :
    GroupM K T (GroupPreparedSend K T) :=
  updateMetadataWith now groupId fun next actor base newRevision now =>
    next.applyAboutChange actor about base newRevision now

def retryUpdateName (now : UnixSeconds) (groupId : String) :
    GroupM K T (GroupPreparedSend K T) := do
  let current ← groupRecord groupId
  let owner ← localOwnerPubkey
  Program.ofExcept (current.ensureAdmin owner)
  publishMetadata now current (current.remoteMembers owner)

def addMembers (now : UnixSeconds) (groupId : String) (members : List (OwnerPubkey K)) :
    GroupM K T (GroupPreparedSend K T) := do
  let additions ← Program.ofExcept (validateUniqueOwners members "members")
  let current ← groupRecord groupId
  let owner ← localOwnerPubkey
  let next ← Program.ofExcept (current.applyAddMembers owner additions current.revision
    (u64Succ current.revision) now)
  let prepared ← publishMetadata now next (next.remoteMembers owner)
  let prepared ← bootstrapIfSenderKey now next prepared
  updateManager (·.setGroup current.groupId next)
  pure prepared

def retryAddMembers (now : UnixSeconds) (groupId : String) (members : List (OwnerPubkey K)) :
    GroupM K T (GroupPreparedSend K T) := do
  let additions ← Program.ofExcept (validateUniqueOwners members "members")
  let current ← groupRecord groupId
  let owner ← localOwnerPubkey
  Program.ofExcept (current.ensureAdmin owner)
  Program.ofExcept (additions.toList.forM current.ensureMember)
  let prepared ← publishMetadata now current (current.remoteMembers owner)
  bootstrapIfSenderKey now current prepared

/-- A sender-key group also starts a new chain. -/
def rotateIfSenderKey (now : UnixSeconds) (record : GroupRecord K)
    (prepared : GroupPreparedSend K T) : GroupM K T (GroupPreparedSend K T) :=
  if record.protocol.isSenderKeyV1 then prepareSenderKeyRotation now record prepared
  else pure prepared

/-- The removed members still get the snapshot that removes them. -/
def removeMembers (now : UnixSeconds) (groupId : String) (members : List (OwnerPubkey K)) :
    GroupM K T (GroupPreparedSend K T) := do
  let removals ← Program.ofExcept (validateUniqueOwners members "members")
  let current ← groupRecord groupId
  let owner ← localOwnerPubkey
  let next ← Program.ofExcept (current.applyRemoveMembers owner removals current.revision
    (u64Succ current.revision) now)
  let prepared ← publishMetadata now next (current.remoteMembers owner)
  let prepared ← rotateIfSenderKey now next prepared
  updateManager (·.setGroup current.groupId next)
  pure prepared

def retryRemoveMembers (now : UnixSeconds) (groupId : String)
    (members : List (OwnerPubkey K)) : GroupM K T (GroupPreparedSend K T) := do
  let removals ← Program.ofExcept (validateUniqueOwners members "members")
  let current ← groupRecord groupId
  let owner ← localOwnerPubkey
  Program.ofExcept (current.ensureAdmin owner)
  Program.ofExcept (checkOwners removals (fun removed => ensure (removed ∉ current.members)
    (groupError (s!"owner {Primitives.toHex removed.bytes} should already be " ++
      "removed before retrying removal"))))
  let recipients := (SortedSet.ofList (current.remoteMembers owner)).extend
    (removals.toList.filter (· ≠ owner))
  let prepared ← publishMetadata now current recipients.toList
  bootstrapIfSenderKey now current prepared

def addAdmins (now : UnixSeconds) (groupId : String) (admins : List (OwnerPubkey K)) :
    GroupM K T (GroupPreparedSend K T) := do
  let additions ← Program.ofExcept (validateUniqueOwners admins "admins")
  updateMetadataWith now groupId fun next actor base newRevision now =>
    next.applyAddAdmins actor additions base newRevision now

def removeAdmins (now : UnixSeconds) (groupId : String) (admins : List (OwnerPubkey K)) :
    GroupM K T (GroupPreparedSend K T) := do
  let removals ← Program.ofExcept (validateUniqueOwners admins "admins")
  updateMetadataWith now groupId fun next actor base newRevision now =>
    next.applyRemoveAdmins actor removals base newRevision now

end GroupM

end NostrDoubleRatchet
