import NostrDoubleRatchet.AppKeys
import NostrDoubleRatchet.Group.Publish

/-!
The JSON codec of group payloads, as in `group_wire.rs` and `group_wire/codec.rs`. A group
record travels as the tags of an unsigned roster event, a sender-key distribution or repair
request as the JSON content of one, and a message as a versioned envelope. The contents of
these events are texts of the type `T`; their JSON and event ids come from `serde_json` and
`nostr`.
-/

namespace NostrDoubleRatchet

namespace GroupWire

def GROUP_ROSTER_FACT_KIND : Nat := 37368
def GROUP_ROSTER_FACT_TYPE : String := "group_roster"
def GROUP_ROSTER_FACT_SCHEMA : Nat := 1
def GROUP_SENDER_KEY_DISTRIBUTION_KIND : Nat := 10446
def GROUP_SENDER_KEY_REPAIR_REQUEST_KIND : Nat := 10447

def GROUP_WIRE_FORMAT_VERSION_V1 : Nat := 1
def CHAT_MESSAGE_KIND : Nat := 14
def GROUP_LABEL_TAG : String := "l"
def KEY_TAG : String := "key"
def SENDER_TAG : String := "sender"
def MESSAGE_TAG : String := "message"
def MS_TAG : String := "ms"
def REVISION_TAG : String := "revision"

structure UnsignedEvent (K T : Type) where
  id : Option K
  pubkey : K
  createdAt : UnixSeconds
  kind : Nat
  tags : List (List String)
  content : T

inductive GroupPairwisePayloadV1 (K T : Type) where
  | metadataSnapshot (snapshot : GroupSnapshot K)
  | createGroup (groupId : String) (protocol : GroupProtocol) (baseRevision newRevision : Nat)
      (name : String) (picture about : Option String) (createdBy : OwnerPubkey K)
      (members admins : List (OwnerPubkey K)) (createdAt updatedAt : UnixSeconds)
  | syncGroup (groupId : String) (protocol : GroupProtocol) (revision : Nat) (name : String)
      (picture about : Option String) (createdBy : OwnerPubkey K)
      (members admins : List (OwnerPubkey K)) (createdAt updatedAt : UnixSeconds)
  | groupMessage (groupId : String) (revision : Nat) (body : T)
  | senderKeyDistribution (distribution : SenderKeyDistribution K)

structure GroupWireEnvelopeV1 (K T : Type) where
  wireFormatVersion : Nat
  payload : GroupPairwisePayloadV1 K T

structure SenderKeyDistributionContent where
  groupId : String
  keyId : Nat
  chainKey : String
  iteration : Nat
  createdAt : UnixSeconds
  senderEventPubkey : String

structure SenderKeyRepairRequestContent where
  groupId : String
  senderEventPubkey : String
  keyId : Option Nat
  messageNumber : Option Nat
  requiredRevision : Option Nat
  createdAt : UnixSeconds

/-- Event ids, tags, JSON and UTF-8. `stringFromUtf8` gives a body back as text. -/
class WirePrimitives (K : Type) (T : outParam Type) where
  eventId : K → UnixSeconds → Nat → List (List String) → T → K
  parseTag : List String → Except String (List String)
  eventToJson : UnsignedEvent K T → Except String T
  eventFromJson : T → Except String (UnsignedEvent K T)
  envelopeToJson : GroupWireEnvelopeV1 K T → Except String T
  envelopeFromJson : T → Except String (GroupWireEnvelopeV1 K T)
  distributionToJson : SenderKeyDistributionContent → Except String T
  distributionFromJson : T → Except String SenderKeyDistributionContent
  repairRequestToJson : SenderKeyRepairRequestContent → Except String T
  repairRequestFromJson : T → Except String SenderKeyRepairRequestContent
  stringFromUtf8 : T → Except String T
  emptyText : T

/-! Numbers, as the standard library reads them. -/

/-- The loop of `parse` over the digits. -/
def parseDigits (max : Nat) : List Char → Nat → Except String Nat
  | [], value => .ok value
  | c :: rest, value =>
      if !c.isDigit then .error "invalid digit found in string"
      else
        let next := 10 * value + (c.toNat - '0'.toNat)
        if max < next then .error "number too large to fit in target type"
        else parseDigits max rest next

/-- `parse` at an unsigned type whose greatest value is `max`. -/
def parseUnsigned (max : Nat) (text : String) : Except String Nat :=
  match text.toList with
  | [] => .error "cannot parse integer from empty string"
  | ['+'] => .error "invalid digit found in string"
  | '+' :: digits => parseDigits max digits 0
  | digits => parseDigits max digits 0

def saturatingMul (a b : Nat) : Nat := min (a * b) u64Max

/-! Tags. -/

def tagValues (tags : List (List String)) (key : String) : List String :=
  (tags.filterMap (fun values =>
    if values.head? ≠ some key then none else values[1]?.map trim)).filter (· ≠ "")

def canonicalizeRawTags (tags : List (List String)) : List (List String) :=
  (SortedSet.ofList tags).toList

def groupIdFromTags (tags : List (List String)) : Except Error String :=
  let subjects := (tags.filterMap (fun values =>
    if values.head? = some "i" ∧ values[2]? = some "subject" then values[1]?.map trim
    else none)).filter (· ≠ "")
  match subjects with
  | [groupId] =>
      match (tagValues tags "d").head? with
      | none => .error (.invalidEvent "GroupRoster fact missing d tag")
      | some d =>
          if d ≠ groupId then .error (.invalidEvent "GroupRoster d/subject tag mismatch")
          else .ok groupId
  | _ => .error (.invalidEvent "GroupRoster fact must have exactly one subject i tag")

def requireNonEmpty (value label : String) : Except Error String :=
  let value := trim value
  if value = "" then .error (.invalidEvent s!"GroupRoster {label} must not be empty")
  else .ok value

def groupProtocolToTag (protocol : GroupProtocol) : Except Error String :=
  if protocol.isPairwiseFanoutV1 then .ok "pairwise_fanout_v1"
  else if protocol.isSenderKeyV1 then .ok "sender_key_v1"
  else .error (.invalidEvent "Unsupported GroupRoster protocol")

def groupProtocolFromTag (value : String) : Except Error GroupProtocol :=
  if value = "pairwise_fanout_v1" then .ok GroupProtocol.pairwiseFanoutV1
  else if value = "sender_key_v1" then .ok GroupProtocol.senderKeyV1
  else .error (.invalidEvent s!"Unsupported GroupRoster protocol {value}")

section

variable {K T : Type} [LinearOrder K]

def canonicalOwnerPubkeys (pubkeys : List (OwnerPubkey K)) : List (OwnerPubkey K) :=
  (SortedSet.ofList pubkeys).toList

def requireAdminsAreMembers (admins members : List (OwnerPubkey K)) : Except Error Unit := do
  ensure (!admins.isEmpty) (.invalidEvent "GroupRoster admins must not be empty")
  ensure (admins.all (members.contains ·))
    (.invalidEvent "GroupRoster admins must also be members")

variable [Primitives K T]

/-- The tags before they are sorted. -/
def rosterTags (snapshot : GroupSnapshot K) (groupId name protocol : String)
    (members admins : List (OwnerPubkey K)) : List (List String) :=
  [["d", groupId],
    ["i", groupId, "subject"],
    ["type", GROUP_ROSTER_FACT_TYPE],
    ["schema", toString GROUP_ROSTER_FACT_SCHEMA],
    ["group_id", groupId],
    ["revision", toString snapshot.revision],
    ["name", name],
    ["created_at", toString snapshot.createdAt],
    ["updated_at", toString snapshot.updatedAt],
    ["created_by", Primitives.toHex snapshot.createdBy.bytes],
    ["protocol", protocol]] ++
  ((snapshot.about.filter (· ≠ "")).toList.map (fun about => ["about", about])) ++
  ((snapshot.picture.filter (· ≠ "")).toList.map (fun picture => ["picture", picture])) ++
  members.map (fun member => ["member", Primitives.toHex member.bytes]) ++
  admins.map (fun admin => ["admin", Primitives.toHex admin.bytes])

variable [WirePrimitives K T]

variable (K) in
def tag (parts : List String) : Except Error (List String) :=
  (WirePrimitives.parseTag K parts).mapError Error.parse

def groupRosterFactTags (snapshot : GroupSnapshot K) : Except Error (List (List String)) := do
  let groupId ← requireNonEmpty snapshot.groupId "group id"
  let name ← requireNonEmpty snapshot.name "name"
  let members := canonicalOwnerPubkeys snapshot.members
  let admins := canonicalOwnerPubkeys snapshot.admins
  requireAdminsAreMembers admins members
  let protocol ← groupProtocolToTag snapshot.protocol
  (canonicalizeRawTags (rosterTags snapshot groupId name protocol members admins)).mapM (tag K)

namespace UnsignedEvent

def computedId (event : UnsignedEvent K T) : K :=
  WirePrimitives.eventId event.pubkey event.createdAt event.kind event.tags event.content

def ensureId (event : UnsignedEvent K T) : UnsignedEvent K T :=
  { event with id := some (event.id.getD event.computedId) }

def verifyId (event : UnsignedEvent K T) : Except Error Unit :=
  ensure (event.id = some event.computedId) (.parse "invalid event id")

end UnsignedEvent

/-- `EventBuilder`, with the kind, content and tags, built for the local device and
written as JSON. -/
def encodeEvent (context : GroupPayloadEncodeContext K) (kind : Nat) (content : T)
    (tags : List (List String)) : Except Error T := do
  let pubkey ← context.localDevicePubkey.toNostr
  let event := UnsignedEvent.ensureId
    { id := none, pubkey, createdAt := context.createdAt, kind, tags, content }
  (WirePrimitives.eventToJson event).mapError Error.json

def encodeMasterMetadataSnapshot (context : GroupPayloadEncodeContext K)
    (snapshot : GroupSnapshot K) : Except Error T := do
  let tags ← groupRosterFactTags snapshot
  encodeEvent context GROUP_ROSTER_FACT_KIND (WirePrimitives.emptyText K) tags

def encodeSenderKeyDistribution (context : GroupPayloadEncodeContext K)
    (distribution : SenderKeyDistribution K) : Except Error T := do
  let content ← (WirePrimitives.distributionToJson K {
    groupId := distribution.groupId
    keyId := distribution.keyId
    chainKey := Primitives.toHex distribution.chainKey
    iteration := distribution.iteration
    createdAt := distribution.createdAt
    senderEventPubkey := Primitives.toHex distribution.senderEventPubkey.bytes }).mapError
      Error.json
  let label ← tag K [GROUP_LABEL_TAG, distribution.groupId]
  let key ← tag K [KEY_TAG, toString distribution.keyId]
  let millis ← tag K [MS_TAG, toString (saturatingMul context.createdAt 1000)]
  encodeEvent context GROUP_SENDER_KEY_DISTRIBUTION_KIND content [label, key, millis]

variable (K) in
/-- The tag of a field that may be absent. -/
def optionalTag (key : String) (value : Option Nat) : Except Error (List (List String)) :=
  value.toList.mapM (fun value => tag K [key, toString value])

def encodeSenderKeyRepairRequest (context : GroupPayloadEncodeContext K)
    (request : SenderKeyRepairRequest K) : Except Error T := do
  let content ← (WirePrimitives.repairRequestToJson K {
    groupId := request.groupId
    senderEventPubkey := Primitives.toHex request.senderEventPubkey.bytes
    keyId := request.keyId
    messageNumber := request.messageNumber
    requiredRevision := request.requiredRevision
    createdAt := request.createdAt }).mapError Error.json
  let label ← tag K [GROUP_LABEL_TAG, request.groupId]
  let sender ← tag K [SENDER_TAG, Primitives.toHex request.senderEventPubkey.bytes]
  let millis ← tag K [MS_TAG, toString (saturatingMul context.createdAt 1000)]
  let key ← optionalTag K KEY_TAG request.keyId
  let message ← optionalTag K MESSAGE_TAG request.messageNumber
  let revision ← optionalTag K REVISION_TAG request.requiredRevision
  encodeEvent context GROUP_SENDER_KEY_REPAIR_REQUEST_KIND content
    ([label, sender, millis] ++ key ++ message ++ revision)

def encodeEnvelope (payload : GroupPairwisePayloadV1 K T) : Except Error T :=
  (WirePrimitives.envelopeToJson ⟨GROUP_WIRE_FORMAT_VERSION_V1, payload⟩).mapError Error.json

def encodePairwiseCommand (context : GroupPayloadEncodeContext K) :
    GroupPairwiseCommand K T → Except Error T
  | .metadataSnapshot snapshot => encodeMasterMetadataSnapshot context snapshot
  | .groupMessage groupId revision body =>
      encodeEnvelope (K := K) (.groupMessage groupId revision body)
  | .senderKeyDistribution distribution => encodeSenderKeyDistribution context distribution
  | .senderKeyRepairRequest request => encodeSenderKeyRepairRequest context request

/-! Decoding. -/

variable [EventPrimitives K] [DecidableEq T]

def decodeVerifiedUnsignedEvent (payload : T) : Except Error (Option (UnsignedEvent K T)) :=
  match WirePrimitives.eventFromJson payload with
  | .error _ => .ok none
  | .ok event => do
      let event := event.ensureId
      event.verifyId
      pure (some event)

def firstTagValue (event : UnsignedEvent K T) (key : String) : Option String :=
  event.tags.findSome? (fun values => if values.head? ≠ some key then none else values[1]?)

def requiredValue (event : UnsignedEvent K T) (key : String) : Except Error String :=
  match (tagValues event.tags key).head? with
  | some value => .ok value
  | none => .error (.invalidEvent s!"GroupRoster fact missing {key}")

def requiredU64 (event : UnsignedEvent K T) (key : String) : Except Error Nat := do
  let value ← requiredValue event key
  match parseUnsigned u64Max value with
  | .ok number => .ok number
  | .error _ => .error (.invalidEvent s!"GroupRoster {key} must be an integer")

variable (K) in
/-- The shape of `parse_device_pubkey_hex`, `parse_owner_pubkey_hex` and the chain key of a
distribution: hexadecimal text of 32 bytes. -/
def parseBytesHex (value wrongLength : String) : Except Error K :=
  match EventPrimitives.hexDecode value with
  | .error error => .error (.parse error)
  | .ok none => .error (.parse wrongLength)
  | .ok (some bytes) => .ok bytes

def parseDevicePubkeyHex (value : String) : Except Error (DevicePubkey K) := do
  pure ⟨← parseBytesHex K value "expected 32-byte public key"⟩

def parseOwnerPubkeyHex (value : String) : Except Error (OwnerPubkey K) := do
  pure ⟨← parseBytesHex K value "expected 32-byte public key"⟩

def ownerPubkeys (event : UnsignedEvent K T) (key : String) :
    Except Error (List (OwnerPubkey K)) :=
  (tagValues event.tags key).mapM parseOwnerPubkeyHex

def isGroupRosterFactEvent (event : UnsignedEvent K T) : Bool :=
  event.kind = GROUP_ROSTER_FACT_KIND &&
    (tagValues event.tags "type").any (· = GROUP_ROSTER_FACT_TYPE)

def rosterProtocol (event : UnsignedEvent K T) : Except Error GroupProtocol :=
  match (tagValues event.tags "protocol").head? with
  | none => .ok GroupProtocol.senderKeyV1
  | some value => groupProtocolFromTag value

def groupRosterSnapshotFromUnsignedEvent (event : UnsignedEvent K T) :
    Except Error (GroupSnapshot K) := do
  ensure (isGroupRosterFactEvent event) (.invalidEvent "Event is not a GroupRoster fact")
  ensure (event.content = WirePrimitives.emptyText K)
    (.invalidEvent "GroupRoster fact event content must be empty")
  let schema ← requiredU64 event "schema"
  ensure (schema = GROUP_ROSTER_FACT_SCHEMA)
    (.invalidEvent s!"Unsupported GroupRoster fact schema {schema}")
  let groupId ← groupIdFromTags event.tags
  ensure ((tagValues event.tags "group_id").head?.all (· = groupId))
    (.invalidEvent "GroupRoster group_id/subject tag mismatch")
  let members ← ownerPubkeys event "member"
  let admins ← ownerPubkeys event "admin"
  let members := canonicalOwnerPubkeys members
  let admins := canonicalOwnerPubkeys admins
  requireAdminsAreMembers admins members
  let protocol ← rosterProtocol event
  let name ← requiredValue event "name"
  let createdBy ← requiredValue event "created_by"
  let createdBy ← parseOwnerPubkeyHex createdBy
  let revision ← requiredU64 event "revision"
  let createdAt ← requiredU64 event "created_at"
  let updatedAt ← requiredU64 event "updated_at"
  pure {
    groupId, protocol, name
    picture := (tagValues event.tags "picture").head?
    about := (tagValues event.tags "about").head?.or (tagValues event.tags "description").head?
    createdBy, members, admins, revision, createdAt, updatedAt }

def decodeMasterMetadataSnapshot (payload : T) :
    Except Error (Option (GroupPairwiseCommand K T)) := do
  match ← decodeVerifiedUnsignedEvent payload with
  | none => pure none
  | some event =>
      if event.kind ≠ GROUP_ROSTER_FACT_KIND ∨ !isGroupRosterFactEvent event then pure none
      else
        let snapshot ← groupRosterSnapshotFromUnsignedEvent event
        pure (some (.metadataSnapshot snapshot))

/-- A tag that, where it is present, must hold the number of the content. -/
def checkKeyTag (event : UnsignedEvent K T) (keyId : Nat) : Except Error Unit :=
  match firstTagValue event KEY_TAG with
  | none => .ok ()
  | some text =>
      match parseUnsigned u32Max text with
      | .error error => .error (.parse error)
      | .ok tagged =>
          ensure (tagged = keyId) (.parse "sender-key distribution key id/tag mismatch")

def distributionFromEvent (event : UnsignedEvent K T) :
    Except Error (Option (GroupPairwiseCommand K T)) := do
  let content ← (WirePrimitives.distributionFromJson K event.content).mapError Error.json
  if content.groupId = "" then pure none
  else
    ensure ((firstTagValue event GROUP_LABEL_TAG).all (· = content.groupId))
      (.parse "sender-key distribution group id/tag mismatch")
    checkKeyTag event content.keyId
    let chainKey ← parseBytesHex K content.chainKey
      "sender-key distribution chain key must be 32 bytes"
    let senderEventPubkey ← parseDevicePubkeyHex content.senderEventPubkey
    pure (some (.senderKeyDistribution {
      groupId := content.groupId
      keyId := content.keyId
      senderEventPubkey
      chainKey
      iteration := content.iteration
      createdAt := content.createdAt }))

def decodeSenderKeyDistribution (payload : T) :
    Except Error (Option (GroupPairwiseCommand K T)) := do
  match ← decodeVerifiedUnsignedEvent payload with
  | none => pure none
  | some event =>
      if event.kind ≠ GROUP_SENDER_KEY_DISTRIBUTION_KIND then pure none
      else distributionFromEvent event

def requireTagString (event : UnsignedEvent K T) (key expected : String) : Except Error Unit :=
  match firstTagValue event key with
  | none => .error (.parse s!"missing {key} tag")
  | some value => ensure (value = expected) (.parse s!"{key} tag mismatch")

/-- The shape of `require_tag_u32` and `require_tag_u64`. -/
def requireTagNumber (max : Nat) (event : UnsignedEvent K T) (key : String) (expected : Nat) :
    Except Error Unit :=
  match firstTagValue event key with
  | none => .error (.parse s!"missing {key} tag")
  | some value =>
      match parseUnsigned max value with
      | .error error => .error (.parse error)
      | .ok number => ensure (number = expected) (.parse s!"{key} tag mismatch")

/-- A field of the content and its tag are both present, with one value, or both absent. -/
def requireOptionalTag (max : Nat) (event : UnsignedEvent K T) (key : String)
    (expected : Option Nat) : Except Error Unit :=
  match expected with
  | some number => requireTagNumber max event key number
  | none =>
      ensure (firstTagValue event key).isNone (.parse s!"{key} tag mismatch")

def repairRequestFromEvent (event : UnsignedEvent K T) :
    Except Error (Option (GroupPairwiseCommand K T)) := do
  let content ← (WirePrimitives.repairRequestFromJson K event.content).mapError Error.json
  if content.groupId = "" then pure none
  else
    requireTagString event GROUP_LABEL_TAG content.groupId
    requireTagString event SENDER_TAG content.senderEventPubkey
    requireOptionalTag u32Max event KEY_TAG content.keyId
    requireOptionalTag u32Max event MESSAGE_TAG content.messageNumber
    requireOptionalTag u64Max event REVISION_TAG content.requiredRevision
    let senderEventPubkey ← parseDevicePubkeyHex content.senderEventPubkey
    pure (some (.senderKeyRepairRequest {
      groupId := content.groupId
      senderEventPubkey
      keyId := content.keyId
      messageNumber := content.messageNumber
      requiredRevision := content.requiredRevision
      createdAt := content.createdAt }))

def decodeSenderKeyRepairRequest (payload : T) :
    Except Error (Option (GroupPairwiseCommand K T)) := do
  match ← decodeVerifiedUnsignedEvent payload with
  | none => pure none
  | some event =>
      if event.kind ≠ GROUP_SENDER_KEY_REPAIR_REQUEST_KIND then pure none
      else repairRequestFromEvent event

def commandFromV1Payload :
    GroupPairwisePayloadV1 K T → Except Error (Option (GroupPairwiseCommand K T))
  | .metadataSnapshot snapshot => .ok (some (.metadataSnapshot snapshot))
  | .createGroup groupId protocol baseRevision revision name picture about createdBy members
      admins createdAt updatedAt =>
      if baseRevision ≠ 0 then .error (.parse "create group base revision must be 0")
      else .ok (some (.metadataSnapshot {
        groupId, protocol, name, picture, about, createdBy, members, admins, revision,
        createdAt, updatedAt }))
  | .syncGroup groupId protocol revision name picture about createdBy members admins createdAt
      updatedAt =>
      .ok (some (.metadataSnapshot {
        groupId, protocol, name, picture, about, createdBy, members, admins, revision,
        createdAt, updatedAt }))
  | .groupMessage groupId revision body => .ok (some (.groupMessage groupId revision body))
  | .senderKeyDistribution _ => .ok none

def decodeEnvelope (payload : T) : Except Error (Option (GroupPairwiseCommand K T)) :=
  match WirePrimitives.envelopeFromJson payload with
  | .error _ => .ok none
  | .ok envelope =>
      if envelope.wireFormatVersion ≠ GROUP_WIRE_FORMAT_VERSION_V1 then .ok none
      else commandFromV1Payload envelope.payload

/-- The four shapes of a payload are tried in turn. -/
def decodePairwiseCommand (payload : T) : Except Error (Option (GroupPairwiseCommand K T)) := do
  match ← decodeMasterMetadataSnapshot payload with
  | some command => pure (some command)
  | none =>
      match ← decodeSenderKeyDistribution payload with
      | some command => pure (some command)
      | none =>
          match ← decodeSenderKeyRepairRequest payload with
          | some command => pure (some command)
          | none => decodeEnvelope payload

def encodeSenderKeyPlaintext (context : GroupPayloadEncodeContext K)
    (plaintext : GroupSenderKeyPlaintext T) : Except Error T := do
  let content ← (WirePrimitives.stringFromUtf8 K plaintext.body).mapError Error.parse
  let label ← tag K [GROUP_LABEL_TAG, plaintext.groupId]
  let millis ← tag K [MS_TAG, toString (saturatingMul context.createdAt 1000)]
  let revision ← tag K [REVISION_TAG, toString plaintext.revision]
  encodeEvent context CHAT_MESSAGE_KIND content [label, millis, revision]

variable (K) in
def decodeSenderKeyPlaintext (context : GroupSenderKeyPlaintextDecodeContext) (payload : T) :
    Except Error (Option (GroupSenderKeyPlaintext T)) := do
  match ← decodeVerifiedUnsignedEvent (K := K) payload with
  | none => pure none
  | some event =>
      if event.kind ≠ CHAT_MESSAGE_KIND then pure none
      else
        match firstTagValue event GROUP_LABEL_TAG with
        | none => pure none
        | some groupId =>
            if groupId ≠ context.groupId then pure none
            else
              let revision := ((firstTagValue event REVISION_TAG).bind (fun value =>
                (parseUnsigned u64Max value).toOption)).getD context.currentRevision
              pure (some ⟨groupId, revision, event.content⟩)

/-- `JsonGroupPayloadCodecV1`. -/
instance jsonGroupPayloadCodecV1 : GroupPayloadCodec K T where
  encodePairwiseCommand := encodePairwiseCommand
  decodePairwiseCommand := decodePairwiseCommand
  encodeSenderKeyPlaintext := encodeSenderKeyPlaintext
  decodeSenderKeyPlaintext := decodeSenderKeyPlaintext K

end

/-! Signed roster facts. -/

section Signed

variable {K T : Type} [LinearOrder K] [Primitives K T] [EventPrimitives K]

structure GroupRosterFact (K : Type) where
  eventId : K
  signerPubkey : K
  groupId : String
  revision : Nat
  snapshot : GroupSnapshot K

/-- The helpers read the tags of a signed event like those of an unsigned one. -/
def unsignedView (event : Event K) : UnsignedEvent K String :=
  ⟨some event.id, event.pubkey, event.createdAt, event.kind, event.tags, event.content⟩

def parseGroupRosterFactEvent (event : Event K) : Except Error (GroupRosterFact K) := do
  ensure (EventPrimitives.verifyEvent event)
    (.invalidEvent "GroupRoster fact signature is invalid")
  ensure (isGroupRosterFactEvent (unsignedView event))
    (.invalidEvent "Event is not a GroupRoster fact")
  ensure event.content.isEmpty (.invalidEvent "GroupRoster fact event content must be empty")
  let schema ← requiredU64 (unsignedView event) "schema"
  ensure (schema = GROUP_ROSTER_FACT_SCHEMA)
    (.invalidEvent s!"Unsupported GroupRoster fact schema {schema}")
  let groupId ← groupIdFromTags event.tags
  ensure ((tagValues event.tags "group_id").head?.all (· = groupId))
    (.invalidEvent "GroupRoster group_id/subject tag mismatch")
  let members ← ownerPubkeys (unsignedView event) "member"
  let admins ← ownerPubkeys (unsignedView event) "admin"
  let members := canonicalOwnerPubkeys members
  let admins := canonicalOwnerPubkeys admins
  requireAdminsAreMembers admins members
  ensure (admins.contains ⟨event.pubkey⟩) (.invalidEvent "GroupRoster signer must be an admin")
  let protocol ← rosterProtocol (unsignedView event)
  let revision ← requiredU64 (unsignedView event) "revision"
  let name ← requiredValue (unsignedView event) "name"
  let createdBy ← requiredValue (unsignedView event) "created_by"
  let createdBy ← parseOwnerPubkeyHex createdBy
  let createdAt ← requiredU64 (unsignedView event) "created_at"
  let updatedAt ← requiredU64 (unsignedView event) "updated_at"
  pure {
    eventId := event.id
    signerPubkey := event.pubkey
    groupId := groupId
    revision := revision
    snapshot := {
      groupId, protocol, name
      picture := (tagValues event.tags "picture").head?
      about := (tagValues event.tags "about").head?.or (tagValues event.tags "description").head?
      createdBy, members, admins, revision, createdAt, updatedAt } }

def compareGroupRosterFacts (left right : GroupRosterFact K) : Ordering :=
  (compare left.revision right.revision).then
    ((compare left.snapshot.updatedAt right.snapshot.updatedAt).then
      (compare (Primitives.toHex left.eventId) (Primitives.toHex right.eventId)))

/-- One turn of the loop of `project_group_roster_fact_events`. -/
def keepRosterFact (byGroup : SortedMap String (GroupRosterFact K)) (fact : GroupRosterFact K) :
    SortedMap String (GroupRosterFact K) :=
  let shouldReplace := match byGroup.get? fact.groupId with
    | some existing => (compareGroupRosterFacts fact existing).isGT
    | none => true
  if shouldReplace then byGroup.insert fact.groupId fact else byGroup

def groupRosterFactsByGroup (events : List (Event K)) : SortedMap String (GroupRosterFact K) :=
  (events.filterMap (fun event => (parseGroupRosterFactEvent event).toOption)).foldl
    keepRosterFact SortedMap.empty

def projectGroupRosterFactEvents (events : List (Event K)) : List (GroupSnapshot K) :=
  (groupRosterFactsByGroup events).values.map GroupRosterFact.snapshot

end Signed

end GroupWire

end NostrDoubleRatchet
