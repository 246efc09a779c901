import Mathlib.Data.List.Destutter
import NostrDoubleRatchet.Lib.Program
import NostrDoubleRatchet.Group.Records

/-!
A group manager and the ways it hands payloads to a session manager, as in
`group_manager.rs` and the sending half of `group_manager/incoming.rs`. The programs run on
both managers and a generator. They keep a log of the keys and chains they make and of the
owners they address, which only statements about runs read.
-/

namespace NostrDoubleRatchet

structure GroupSenderKeyMessageEnvelope (K T : Type) where
  groupId : String
  senderEventPubkey : SenderEventPubkey K
  signerSecretKey : K
  keyId : Nat
  messageNumber : Nat
  encryptedHeader : Option String
  createdAt : UnixSeconds
  ciphertext : T

inductive GroupPendingFanout (K T : Type) where
  | remote (recipientOwner : OwnerPubkey K) (payload : T)
  | localSiblings (payload : T)
  deriving DecidableEq

structure GroupPreparedPublish (K T : Type) where
  deliveries : List (Delivery K T)
  inviteResponses : List (InviteResponseEnvelope K T)
  senderKeyMessages : List (GroupSenderKeyMessageEnvelope K T)
  relayGaps : List (RelayGap K)
  pendingFanouts : List (GroupPendingFanout K T)

def GroupPreparedPublish.empty {K T : Type} : GroupPreparedPublish K T := ⟨[], [], [], [], []⟩

structure GroupPreparedSend (K T : Type) where
  groupId : String
  remote : GroupPreparedPublish K T
  localSibling : GroupPreparedPublish K T

structure GroupCreateResult (K T : Type) where
  group : GroupSnapshot K
  prepared : GroupPreparedSend K T

structure GroupPayloadEncodeContext (K : Type) where
  localDevicePubkey : DevicePubkey K
  createdAt : UnixSeconds

structure GroupSenderKeyPlaintext (T : Type) where
  groupId : String
  revision : Nat
  body : T
  deriving DecidableEq

structure GroupSenderKeyPlaintextDecodeContext where
  groupId : String
  currentRevision : Nat

/-- The payload codec a manager is built with. -/
class GroupPayloadCodec (K : Type) (T : outParam Type) where
  encodePairwiseCommand :
    GroupPayloadEncodeContext K → GroupPairwiseCommand K T → Except Error T
  decodePairwiseCommand : T → Except Error (Option (GroupPairwiseCommand K T))
  encodeSenderKeyPlaintext :
    GroupPayloadEncodeContext K → GroupSenderKeyPlaintext T → Except Error T
  decodeSenderKeyPlaintext :
    GroupSenderKeyPlaintextDecodeContext → T → Except Error (Option (GroupSenderKeyPlaintext T))

structure GroupManager (K : Type) [LinearOrder K] where
  localOwnerPubkey : OwnerPubkey K
  groups : SortedMap String (GroupRecord K)
  senderKeys : SortedMap (SenderKeyRecordId K) (SenderKeyRecord K)
  senderEventIndex : SortedMap (SenderEventPubkey K) (SenderKeyRecordId K)
  deriving DecidableEq

/-- A generator that also gives the group ids, the nonzero words of `random_key_id` and the
chain keys a group manager draws. -/
structure GroupRng (K : Type) extends Rng K where
  groupIds : Stream' String
  keyIds : Stream' Nat
  chainKeys : Stream' K

/-- What a run has done: generated a sender-event key, started a sender-key chain, or
addressed a command to an owner. -/
inductive GroupLogEntry (K T : Type) where
  | created (id : SenderKeyRecordId K) (senderEventPubkey : SenderEventPubkey K)
  | started (id : SenderKeyRecordId K) (keyId : Nat)
  | addressed (owner : OwnerPubkey K) (command : GroupPairwiseCommand K T)

/-- A manager and what it has done. -/
structure GroupTrail (K T : Type) [LinearOrder K] where
  manager : GroupManager K
  log : List (GroupLogEntry K T)

structure GroupWorld (K T : Type) [LinearOrder K] extends GroupTrail K T where
  sessions : SessionManager K T
  rng : GroupRng K

abbrev GroupM (K T : Type) [LinearOrder K] := Program Error (GroupWorld K T)

variable {K T : Type} [LinearOrder K]

def GroupManager.new (localOwnerPubkey : OwnerPubkey K) : GroupManager K :=
  ⟨localOwnerPubkey, SortedMap.empty, SortedMap.empty, SortedMap.empty⟩

def SessionManager.hasAuthorizedLocalSiblings (manager : SessionManager K T) : Bool :=
  match manager.users.get? manager.localOwnerPubkey with
  | none => false
  | some user =>
      if user.roster.isNone then false
      else user.authorizedNonStaleDevices.any (· ≠ manager.localDevicePubkey)

/-- `sort` and `dedup` of relay gaps. -/
def sortDedup (gaps : List (RelayGap K)) : List (RelayGap K) :=
  (gaps.insertionSort (fun a b => RelayGap.le a b)).destutter (· ≠ ·)

def mergeGroupPreparedPublish [DecidableEq T] (into next : GroupPreparedPublish K T) :
    GroupPreparedPublish K T where
  deliveries := into.deliveries ++ next.deliveries
  inviteResponses := into.inviteResponses ++ next.inviteResponses
  senderKeyMessages := into.senderKeyMessages ++ next.senderKeyMessages
  relayGaps := sortDedup (into.relayGaps ++ next.relayGaps)
  pendingFanouts := next.pendingFanouts.foldl (fun fanouts fanout =>
    if fanout ∈ fanouts then fanouts else fanouts ++ [fanout]) into.pendingFanouts

def emptyGroupPreparedSend (groupId : String) : GroupPreparedSend K T :=
  ⟨groupId, GroupPreparedPublish.empty, GroupPreparedPublish.empty⟩

namespace GroupM

def manager : GroupM K T (GroupManager K) := Program.read fun world => world.manager

def updateManager (f : GroupManager K → GroupManager K) : GroupM K T Unit :=
  Program.update fun world => { world with manager := f world.manager }

def localDevicePubkey : GroupM K T (DevicePubkey K) :=
  Program.read fun world => world.sessions.localDevicePubkey

def log (entries : List (GroupLogEntry K T)) : GroupM K T Unit :=
  Program.update fun world => { world with log := world.log ++ entries }

def okOr {α : Type} (value : Option α) (error : Error) : GroupM K T α :=
  Program.ofExcept (value.elim (.error error) .ok)

/-- Run code that only draws from the generator. -/
def draw {α : Type} (x : RandM K α) : GroupM K T α := fun world =>
  let (result, rng) := x world.rng.toRng
  (result, { world with rng := { world.rng with toRng := rng } })

/-- Call the session manager. -/
def callSessions {α : Type} (call : SessionManager K T → Rng K → Outcome K T α) :
    GroupM K T α := fun world =>
  let (result, sessions, rng) := call world.sessions world.rng.toRng
  (result, { world with sessions := sessions, rng := { world.rng with toRng := rng } })

def randomGroupId : GroupM K T String := fun world =>
  (.ok world.rng.groupIds.head,
    { world with rng := { world.rng with groupIds := world.rng.groupIds.tail } })

def randomKeyId : GroupM K T Nat := fun world =>
  (.ok world.rng.keyIds.head,
    { world with rng := { world.rng with keyIds := world.rng.keyIds.tail } })

def randomChainKey : GroupM K T K := fun world =>
  (.ok world.rng.chainKeys.head,
    { world with rng := { world.rng with chainKeys := world.rng.chainKeys.tail } })

def encodeContext (now : UnixSeconds) : GroupM K T (GroupPayloadEncodeContext K) :=
  Program.read fun world => ⟨world.sessions.localDevicePubkey, now⟩

variable [GroupPayloadCodec K T]

def encodePairwiseCommand (now : UnixSeconds) (command : GroupPairwiseCommand K T) :
    GroupM K T T := do
  let context ← encodeContext now
  Program.ofExcept (GroupPayloadCodec.encodePairwiseCommand context command)

variable [DecidableEq T] [Primitives K T] [InvitePrimitives K T]

omit [GroupPayloadCodec K T] in
def localSiblingPayloadBytes (now : UnixSeconds) (payload : T) :
    GroupM K T (GroupPreparedPublish K T) := do
  let prepared ← callSessions (fun sessions rng =>
    sessions.prepareLocalSiblingSendReusingAllSessions payload now rng)
  pure {
    deliveries := prepared.deliveries
    inviteResponses := prepared.inviteResponses
    senderKeyMessages := []
    relayGaps := prepared.relayGaps
    pendingFanouts := if prepared.relayGaps.isEmpty then [] else [.localSiblings payload] }

def localSiblingPayload (now : UnixSeconds) (payload : GroupPairwiseCommand K T) :
    GroupM K T (GroupPreparedPublish K T) := do
  let sessions ← Program.read GroupWorld.sessions
  if !sessions.hasAuthorizedLocalSiblings then pure GroupPreparedPublish.empty
  else
    let bytes ← encodePairwiseCommand now payload
    let prepared ← localSiblingPayloadBytes now bytes
    log [.addressed sessions.localOwnerPubkey payload]
    pure prepared

def localSiblingSync (now : UnixSeconds) (record : GroupRecord K) :
    GroupM K T (GroupPreparedPublish K T) :=
  localSiblingPayload now record.metadataPayload

omit [GroupPayloadCodec K T] in
/-- The loop of `fanout_payload`. -/
def fanoutRecipients (now : UnixSeconds) (payloadBytes : T) :
    List (OwnerPubkey K) → GroupPreparedPublish K T → GroupM K T (GroupPreparedPublish K T)
  | [], prepared => pure prepared
  | recipient :: rest, prepared => do
      let next ← callSessions (fun sessions rng =>
        sessions.prepareRemoteSend recipient payloadBytes now rng)
      fanoutRecipients now payloadBytes rest { prepared with
        deliveries := prepared.deliveries ++ next.deliveries
        inviteResponses := prepared.inviteResponses ++ next.inviteResponses
        pendingFanouts :=
          if next.relayGaps.isEmpty then prepared.pendingFanouts
          else prepared.pendingFanouts ++ [.remote recipient payloadBytes]
        relayGaps := prepared.relayGaps ++ next.relayGaps }

def fanoutPayload (now : UnixSeconds) (recipients : List (OwnerPubkey K))
    (payload : GroupPairwiseCommand K T) : GroupM K T (GroupPreparedPublish K T) := do
  let payloadBytes ← encodePairwiseCommand now payload
  let prepared ← fanoutRecipients now payloadBytes recipients GroupPreparedPublish.empty
  log (recipients.map (.addressed · payload))
  pure { prepared with relayGaps := sortDedup prepared.relayGaps }

/-- The group a command is about. -/
def commandGroupId : GroupPairwiseCommand K T → String
  | .metadataSnapshot snapshot => snapshot.groupId
  | .groupMessage groupId _ _ => groupId
  | .senderKeyDistribution distribution => distribution.groupId
  | .senderKeyRepairRequest request => request.groupId

def repairPayloadToOwner (now : UnixSeconds) (requesterOwner : OwnerPubkey K)
    (payload : GroupPairwiseCommand K T) : GroupM K T (GroupPreparedSend K T) := do
  let groupId := commandGroupId payload
  let manager ← manager
  if requesterOwner = manager.localOwnerPubkey then
    let localSibling ← localSiblingPayload now payload
    pure ⟨groupId, GroupPreparedPublish.empty, localSibling⟩
  else
    let remote ← fanoutPayload now [requesterOwner] payload
    pure ⟨groupId, remote, GroupPreparedPublish.empty⟩

end GroupM

end NostrDoubleRatchet
