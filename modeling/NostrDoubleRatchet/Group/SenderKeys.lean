import NostrDoubleRatchet.Group.Publish

/-!
Local sender keys, their distribution to the members of a group and the observation of
remote ones, as in `group_manager/sender_keys.rs`.
-/

namespace NostrDoubleRatchet

variable {K T : Type} [LinearOrder K]

namespace SenderKeyRecord

/-- A record without chains. -/
def fresh (id : SenderKeyRecordId K) (senderEventPubkey : SenderEventPubkey K)
    (senderEventSecretKey : Option K) (latestKeyId : Option Nat) : SenderKeyRecord K where
  groupId := id.groupId
  senderOwner := id.senderOwner
  senderDevice := id.senderDevice
  senderEventPubkey := senderEventPubkey
  senderEventSecretKey := senderEventSecretKey
  latestKeyId := latestKeyId
  states := SortedMap.empty
  distributionHistory := SortedMap.empty
  distributedTo := SortedMap.empty
  repairSnapshots := []

def startChain (record : SenderKeyRecord K) (keyId : Nat) (chainKey : K) : SenderKeyRecord K :=
  { record with
    states := record.states.insert keyId (SenderKeyState.new keyId chainKey 0)
    latestKeyId := some keyId }

/-- What `observe_sender_key_distribution` writes to the record of the sender. The first
state and distribution seen under a key id are kept. -/
def observe (record : SenderKeyRecord K) (distribution : SenderKeyDistribution K) :
    SenderKeyRecord K :=
  { record with
    senderEventPubkey := distribution.senderEventPubkey
    latestKeyId := some distribution.keyId
    distributionHistory :=
      if record.distributionHistory.contains distribution.keyId then record.distributionHistory
      else record.distributionHistory.insert distribution.keyId distribution
    states :=
      if record.states.contains distribution.keyId then record.states
      else record.states.insert distribution.keyId
        (SenderKeyState.new distribution.keyId distribution.chainKey distribution.iteration) }

def markDistributed (record : SenderKeyRecord K) (keyId : Nat)
    (recipients : List (OwnerPubkey K)) : SenderKeyRecord K :=
  { record with
    distributedTo := record.distributedTo.insert keyId
      (((record.distributedTo.get? keyId).getD SortedSet.empty).extend recipients) }

/-- `sort_unstable` and `dedup` give the sorted list of the recipients. -/
def recordRepairSnapshot (record : SenderKeyRecord K) (distribution : SenderKeyDistribution K)
    (recipients : List (OwnerPubkey K)) : SenderKeyRecord K :=
  let recipients := (SortedSet.ofList recipients).toList
  if record.repairSnapshots.any (fun snapshot =>
      snapshot.keyId = distribution.keyId &&
        snapshot.distribution.iteration = distribution.iteration &&
        snapshot.recipients = recipients) then record
  else { record with
    repairSnapshots := record.repairSnapshots ++ [⟨distribution.keyId, distribution, recipients⟩] }

end SenderKeyRecord

namespace GroupManager

def setSenderKey (manager : GroupManager K) (id : SenderKeyRecordId K)
    (record : SenderKeyRecord K) : GroupManager K :=
  { manager with senderKeys := manager.senderKeys.insert id record }

theorem setSenderKey_setSenderKey (manager : GroupManager K) (id : SenderKeyRecordId K)
    (record record' : SenderKeyRecord K) :
    (manager.setSenderKey id record).setSenderKey id record' =
      manager.setSenderKey id record' := by
  simp only [setSenderKey, SortedMap.insert_insert]

def addSenderKey (manager : GroupManager K) (id : SenderKeyRecordId K)
    (record : SenderKeyRecord K) : GroupManager K :=
  { manager with
    senderEventIndex := manager.senderEventIndex.insert record.senderEventPubkey id
    senderKeys := manager.senderKeys.insert id record }

def setGroup (manager : GroupManager K) (groupId : String) (record : GroupRecord K) :
    GroupManager K :=
  { manager with groups := manager.groups.insert groupId record }

/-- Change the record under `id`, when there is one. -/
def modifySenderKey (manager : GroupManager K) (id : SenderKeyRecordId K)
    (f : SenderKeyRecord K → SenderKeyRecord K) : GroupManager K :=
  match manager.senderKeys.get? id with
  | none => manager
  | some record => manager.setSenderKey id (f record)

def localSenderKeyId (manager : GroupManager K) (groupId : String)
    (localDevice : DevicePubkey K) : SenderKeyRecordId K :=
  ⟨groupId, manager.localOwnerPubkey, localDevice⟩

def groupRecord (manager : GroupManager K) (groupId : String) : Except Error (GroupRecord K) :=
  match manager.groups.get? groupId with
  | none => .error (groupError s!"unknown group `{groupId}`")
  | some record => .ok record

def senderKeyDistributionRecipients (manager : GroupManager K) (group : GroupRecord K)
    (localDevice : DevicePubkey K) (keyId : Nat) (candidates : List (OwnerPubkey K)) :
    List (OwnerPubkey K) :=
  match manager.senderKeys.get? (manager.localSenderKeyId group.groupId localDevice) with
  | none => candidates
  | some record =>
      let distributed := record.distributedTo.get? keyId
      candidates.filter (fun recipient =>
        group.members.contains recipient &&
          distributed.all (fun owners => !owners.contains recipient))

def localSenderKeyHasRemovedRecipients (manager : GroupManager K) (group : GroupRecord K)
    (localDevice : DevicePubkey K) : Bool :=
  match manager.senderKeys.get? (manager.localSenderKeyId group.groupId localDevice) with
  | none => false
  | some record =>
      match record.latestKeyId with
      | none => false
      | some keyId => (record.distributedTo.get? keyId).any (fun recipients =>
          recipients.toList.any (fun owner => !group.members.contains owner))

def markSenderKeyDistributionRecipients (manager : GroupManager K) (groupId : String)
    (localDevice : DevicePubkey K) (keyId : Nat) (recipients : List (OwnerPubkey K)) :
    GroupManager K :=
  if recipients.isEmpty then manager
  else manager.modifySenderKey (manager.localSenderKeyId groupId localDevice)
    (fun record => record.markDistributed keyId recipients)

def recordSenderKeyRepairSnapshot (manager : GroupManager K) (groupId : String)
    (localDevice : DevicePubkey K) (distribution : SenderKeyDistribution K)
    (recipients : List (OwnerPubkey K)) : GroupManager K :=
  if recipients.isEmpty then manager
  else manager.modifySenderKey (manager.localSenderKeyId groupId localDevice)
    (fun record => record.recordRepairSnapshot distribution recipients)

/-- The record of another sender under the same sender-event key gives way or keeps its
place; in the second case the distribution is dropped. -/
def resolveDuplicate (manager : GroupManager K) (id : SenderKeyRecordId K)
    (distribution : SenderKeyDistribution K) : Option (GroupManager K) :=
  match (manager.senderEventIndex.get? distribution.senderEventPubkey).filter (· ≠ id) with
  | none => some manager
  | some existingId =>
      let incoming := SenderKeyRecord.fresh id distribution.senderEventPubkey none
        (some distribution.keyId)
      let preferNew := ((manager.senderKeys.get? existingId).map (fun existing =>
        preferNewDuplicateSenderKey manager.localOwnerPubkey existing incoming)).getD true
      if preferNew then
        some { manager with senderKeys := manager.senderKeys.erase existingId }
      else none

/-- The record and the index entry of the sender after the distribution. -/
def storeDistribution (manager : GroupManager K) (id : SenderKeyRecordId K)
    (distribution : SenderKeyDistribution K) : GroupManager K :=
  let record := (manager.senderKeys.get? id).getD
    (SenderKeyRecord.fresh id distribution.senderEventPubkey none none)
  let index :=
    if record.senderEventPubkey ≠ distribution.senderEventPubkey then
      manager.senderEventIndex.erase record.senderEventPubkey
    else manager.senderEventIndex
  { manager with
    senderKeys := manager.senderKeys.insert id (record.observe distribution)
    senderEventIndex := index.insert distribution.senderEventPubkey id }

variable [Primitives K T]

def observeSenderKeyDistribution (manager : GroupManager K) (senderOwner : OwnerPubkey K)
    (senderDevice : DevicePubkey K) (distribution : SenderKeyDistribution K) :
    Except Error (GroupManager K) := do
  let group ← manager.groupRecord distribution.groupId
  if !group.protocol.isSenderKeyV1 then pure manager
  else
    group.ensureMember senderOwner
    let id : SenderKeyRecordId K := ⟨distribution.groupId, senderOwner, senderDevice⟩
    pure (match manager.resolveDuplicate id distribution with
      | none => manager
      | some manager => manager.storeDistribution id distribution)

end GroupManager

namespace GroupM

variable [Primitives K T]

def createLocalSenderKeyRecord (id : SenderKeyRecordId K) : GroupM K T Unit := do
  let senderEventSecretKey ← draw randomSecretKeyBytes
  let senderEventPubkey ← Program.ofExcept (devicePubkeyFromSecretBytes senderEventSecretKey)
  updateManager (·.addSenderKey id
    (SenderKeyRecord.fresh id senderEventPubkey (some senderEventSecretKey) none))
  log [.created id senderEventPubkey]

omit [Primitives K T] in
/-- Start a new chain in the record and give its first distribution. -/
def rotateLocalSenderKey (now : UnixSeconds) (id : SenderKeyRecordId K)
    (senderRecord : SenderKeyRecord K) : GroupM K T (SenderKeyDistribution K) := do
  let keyId ← randomKeyId
  let chainKey ← randomChainKey
  updateManager (·.setSenderKey id (senderRecord.startChain keyId chainKey))
  log [.started id keyId]
  pure {
    groupId := id.groupId
    keyId := keyId
    senderEventPubkey := senderRecord.senderEventPubkey
    chainKey := chainKey
    iteration := 0
    createdAt := now }

omit [Primitives K T] in
def senderRecordAt (id : SenderKeyRecordId K) : GroupM K T (SenderKeyRecord K) := do
  let manager ← manager
  okOr (manager.senderKeys.get? id) (groupError "missing local sender-key record")

omit [Primitives K T] in
/-- The chain a local record sends on. -/
def latestState (senderRecord : SenderKeyRecord K) : GroupM K T (Nat × SenderKeyState K) := do
  let keyId ← okOr senderRecord.latestKeyId (groupError "missing local sender-key id")
  let state ← okOr (senderRecord.states.get? keyId) (groupError "missing local sender-key state")
  pure (keyId, state)

/-- Whether the record had to be made. -/
def openLocalSenderKeyRecord (id : SenderKeyRecordId K) : GroupM K T Bool := do
  let manager ← manager
  if manager.senderKeys.contains id then pure false
  else
    createLocalSenderKeyRecord id
    pure true

omit [Primitives K T] in
/-- The first distribution of a new chain, when one is forced or there is none yet. -/
def rotateIfNeeded (now : UnixSeconds) (id : SenderKeyRecordId K) (forceRotate : Bool) :
    GroupM K T (Option (SenderKeyDistribution K)) := do
  let senderRecord ← senderRecordAt id
  if forceRotate || senderRecord.latestKeyId.isNone then
    some <$> rotateLocalSenderKey now id senderRecord
  else pure none

omit [Primitives K T] in
def insertHistory (id : SenderKeyRecordId K) (senderRecord : SenderKeyRecord K)
    (distribution : SenderKeyDistribution K) : GroupM K T Unit :=
  updateManager (·.setSenderKey id { senderRecord with
    distributionHistory :=
      senderRecord.distributionHistory.insert distribution.keyId distribution })

def ensureLocalSenderKeyRecord (now : UnixSeconds) (record : GroupRecord K)
    (localDevice : DevicePubkey K) (forceRotate : Bool) :
    GroupM K T (SenderKeyDistribution K × Bool) := do
  let manager ← manager
  let id := manager.localSenderKeyId record.groupId localDevice
  let isNew ← openLocalSenderKeyRecord id
  let newDistribution ← rotateIfNeeded now id forceRotate
  let senderRecord ← senderRecordAt id
  let (keyId, state) ← latestState senderRecord
  let distribution := newDistribution.getD {
    groupId := id.groupId
    keyId := keyId
    senderEventPubkey := senderRecord.senderEventPubkey
    chainKey := state.chainKey
    iteration := state.iteration
    createdAt := now }
  let createdOrRotated := isNew || newDistribution.isSome
  if createdOrRotated then
    insertHistory id senderRecord distribution
    pure (distribution, true)
  else pure (distribution, false)

variable [GroupPayloadCodec K T] [DecidableEq T] [InvitePrimitives K T]

def fanoutSenderKeyDistribution (now : UnixSeconds) (recipients : List (OwnerPubkey K))
    (distribution : SenderKeyDistribution K) : GroupM K T (GroupPreparedPublish K T) := do
  let prepared ← fanoutPayload now recipients (.senderKeyDistribution distribution)
  let localDevice ← localDevicePubkey
  updateManager (·.recordSenderKeyRepairSnapshot distribution.groupId localDevice distribution
    recipients)
  updateManager (·.markSenderKeyDistributionRecipients distribution.groupId localDevice
    distribution.keyId recipients)
  pure prepared

def localSiblingSenderKeyDistribution (now : UnixSeconds)
    (distribution : SenderKeyDistribution K) : GroupM K T (GroupPreparedPublish K T) := do
  let prepared ← localSiblingPayload now (.senderKeyDistribution distribution)
  let intendedForLocalSibling := !prepared.deliveries.isEmpty ||
    !prepared.inviteResponses.isEmpty || !prepared.relayGaps.isEmpty ||
    !prepared.pendingFanouts.isEmpty
  let localDevice ← localDevicePubkey
  updateManager fun manager =>
    if intendedForLocalSibling then manager.recordSenderKeyRepairSnapshot distribution.groupId
      localDevice distribution [manager.localOwnerPubkey]
    else manager
  pure prepared

/-- The encryption at the end of `send_sender_key_message`, on the latest chain. -/
def emitSenderKeyMessage (now : UnixSeconds) (record : GroupRecord K)
    (localDevice : DevicePubkey K) (body : T) :
    GroupM K T (GroupSenderKeyMessageEnvelope K T) := do
  let manager ← manager
  let id := manager.localSenderKeyId record.groupId localDevice
  let senderRecord ← senderRecordAt id
  let (keyId, state) ← latestState senderRecord
  let context ← encodeContext now
  let plaintext ← Program.ofExcept (GroupPayloadCodec.encodeSenderKeyPlaintext context
    ⟨record.groupId, record.revision, body⟩)
  let nonce ← draw randomNonce
  let plan ← Program.ofExcept (state.planEncrypt nonce plaintext)
  updateManager (·.setSenderKey id { senderRecord with
    states := senderRecord.states.insert keyId (state.applyEncrypt plan) })
  let signerSecretKey ← okOr senderRecord.senderEventSecretKey
    (groupError "missing local sender-event secret key")
  pure {
    groupId := record.groupId
    senderEventPubkey := senderRecord.senderEventPubkey
    signerSecretKey := signerSecretKey
    keyId := keyId
    messageNumber := plan.messageNumber
    encryptedHeader := none
    createdAt := now
    ciphertext := plan.ciphertext }

/-- The distribution goes to the members that do not have it yet. -/
def distributeMissing (now : UnixSeconds) (recipients : List (OwnerPubkey K))
    (distribution : SenderKeyDistribution K) : GroupM K T (GroupPreparedPublish K T) :=
  if recipients.isEmpty then pure GroupPreparedPublish.empty
  else fanoutSenderKeyDistribution now recipients distribution

def sendSenderKeyMessage (now : UnixSeconds) (record : GroupRecord K) (body : T) :
    GroupM K T (GroupPreparedSend K T) := do
  let localSibling ← localSiblingSync now record
  let localDevice ← localDevicePubkey
  let managerBefore ← manager
  let forceRotate := managerBefore.localSenderKeyHasRemovedRecipients record localDevice
  let (distribution, _) ← ensureLocalSenderKeyRecord now record localDevice forceRotate
  let managerAfter ← manager
  let recipients := managerAfter.senderKeyDistributionRecipients record localDevice
    distribution.keyId (record.remoteMembers managerAfter.localOwnerPubkey)
  let remote ← distributeMissing now recipients distribution
  let siblingDistribution ← localSiblingSenderKeyDistribution now distribution
  let localSibling := mergeGroupPreparedPublish localSibling siblingDistribution
  let senderKeyMessage ← emitSenderKeyMessage now record localDevice body
  let sessions ← Program.read GroupWorld.sessions
  pure {
    groupId := record.groupId
    remote := { remote with
      senderKeyMessages := remote.senderKeyMessages ++ [senderKeyMessage] }
    localSibling :=
      if sessions.hasAuthorizedLocalSiblings then { localSibling with
        senderKeyMessages := localSibling.senderKeyMessages ++ [senderKeyMessage] }
      else localSibling }

/-- `prepare_sender_key_bootstrap` and `prepare_sender_key_rotation`, which differ in
whether a new chain is forced. -/
def prepareSenderKey (now : UnixSeconds) (record : GroupRecord K) (forceRotate : Bool)
    (prepared : GroupPreparedSend K T) : GroupM K T (GroupPreparedSend K T) := do
  let localDevice ← localDevicePubkey
  let (distribution, _) ← ensureLocalSenderKeyRecord now record localDevice forceRotate
  let manager ← manager
  let remote ← fanoutSenderKeyDistribution now (record.remoteMembers manager.localOwnerPubkey)
    distribution
  let localSibling ← localSiblingSenderKeyDistribution now distribution
  pure { prepared with
    remote := mergeGroupPreparedPublish prepared.remote remote
    localSibling := mergeGroupPreparedPublish prepared.localSibling localSibling }

def prepareSenderKeyBootstrap (now : UnixSeconds) (record : GroupRecord K)
    (prepared : GroupPreparedSend K T) : GroupM K T (GroupPreparedSend K T) :=
  prepareSenderKey now record false prepared

def prepareSenderKeyRotation (now : UnixSeconds) (record : GroupRecord K)
    (prepared : GroupPreparedSend K T) : GroupM K T (GroupPreparedSend K T) :=
  prepareSenderKey now record true prepared

end GroupM

end NostrDoubleRatchet
