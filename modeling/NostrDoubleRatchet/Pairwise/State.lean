import Mathlib.Data.Prod.Lex
import NostrDoubleRatchet.Lib.SortedSet
import NostrDoubleRatchet.Pairwise.Wire

/-!
The persisted state of a pairwise manager, as in `state.rs` and `action.rs`: the sessions
of each peer, the replay windows and the journal of actions the host still has to carry
out, with the validation every commit passes. The hexadecimal text of a key, an event id
or a digest is the value itself, so its order is the order of the bytes.
-/

namespace NostrDoubleRatchet

def STATE_SCHEMA_VERSION : Nat := 1
def MAX_PERSISTED_STATE_BYTES : Nat := 32 * 1024 * 1024

/-- The errors of the crate. One made from another error keeps that error in place of its
text: `wire` and `rumor` are `InvalidEvent`. -/
inductive PairwiseError (K : Type) where
  | invalidKey (message : String)
  | invalidEvent (message : String)
  | wire (source : Error)
  | rumor (source : PairwiseCodec.Error)
  | peerMismatch (expected actual : K)
  | ownerDeviceMismatch
  | sessionNotReady (peer : Option K)
  | queueFull (queue : String)
  | invalidLimits
  | inputTooLarge (input : String) (limit : Nat)
  | identityMismatch (expected actual : K)
  | unsupportedSchema (version : Nat)
  | corruptState (message : String)
  | storage (message : String)
  | crypto (source : Error)
  | serialization (message : String)
  deriving DecidableEq

/-- `From<nostr_double_ratchet::Error>`. -/
def PairwiseError.fromCore {K : Type} : Error → PairwiseError K
  | .domain .cannotSendYet => .sessionNotReady none
  | .domain .sessionNotReady => .sessionNotReady none
  | source => .crypto source

structure RuntimeLimits where
  maxPeers : Nat
  maxPendingOutbound : Nat
  maxPendingDeliveries : Nat
  maxSeenEventIds : Nat
  maxSeenInnerEventIds : Nat
  maxSessionsPerPeer : Nat
  maxEventBytes : Nat
  maxInnerEventBytes : Nat
  maxTextBytes : Nat
  maxPersistedStateBytes : Nat
  maxTotalTrackedSenderKeys : Nat
  maxTotalSkippedMessageKeys : Nat
  maxSubscriptionAuthors : Nat
  deriving DecidableEq

namespace RuntimeLimits

/-- `RuntimeLimits::default`. -/
def standard : RuntimeLimits where
  maxPeers := 2048
  maxPendingOutbound := 128
  maxPendingDeliveries := 128
  maxSeenEventIds := 8192
  maxSeenInnerEventIds := 8192
  maxSessionsPerPeer := 8
  maxEventBytes := 65536
  maxInnerEventBytes := 65536
  maxTextBytes := 32768
  maxPersistedStateBytes := MAX_PERSISTED_STATE_BYTES
  maxTotalTrackedSenderKeys := 8192
  maxTotalSkippedMessageKeys := 32768
  maxSubscriptionAuthors := 4096

def validate {K : Type} (limits : RuntimeLimits) : Except (PairwiseError K) Unit :=
  if limits.maxSessionsPerPeer = 0 ∨ limits.maxSeenEventIds = 0 ∨
      limits.maxSeenInnerEventIds = 0 ∨ limits.maxPendingOutbound > MAX_SKIP ∨
      limits.maxPersistedStateBytes = 0 ∨
      limits.maxPersistedStateBytes > MAX_PERSISTED_STATE_BYTES ∨
      limits.maxTotalTrackedSenderKeys = 0 ∨ limits.maxTotalSkippedMessageKeys = 0 ∨
      limits.maxSubscriptionAuthors = 0 ∨
      limits.maxSubscriptionAuthors > limits.maxTotalTrackedSenderKeys then
    .error .invalidLimits
  else .ok ()

end RuntimeLimits

inductive PairwiseActionKind (K T J : Type) where
  | publish (sessionId : K) (eventJson : J) (innerEventId : Option K)
  | outOfBand (peerPubkey : K) (sessionId : K) (eventJson : J)
  | subscribe (subscriptionId : String) (filterJson : T)
  | unsubscribe (subscriptionId : String)
  | delivery (peerPubkey : K) (innerEventJson : T) (innerEventId outerEventId : K)
      (expiresAtSeconds : Option UInt64)
  deriving DecidableEq

/-- `pairwise-action:{local_pubkey_hex}:{uuid}`. -/
structure PairwiseActionId (K : Type) where
  localPubkey : K
  uuid : String
  deriving DecidableEq

instance {K : Type} [LinearOrder K] : LawfulBEq (PairwiseActionId K) := inferInstance

structure PairwiseAction (K T J : Type) where
  id : PairwiseActionId K
  kind : PairwiseActionKind K T J
  deriving DecidableEq

structure SessionRecord (K T J : Type) [LinearOrder K] where
  handshakeId : K
  handshakeCreatedAt : UnixSeconds
  state : SessionState K
  inviteResponseEventJson : Option J
  bootstrapEventJson : Option J
  acceptedResponseEventId : Option K
  deriving DecidableEq

structure PeerState (K T J : Type) [LinearOrder K] where
  peerPubkey : K
  sessions : List (SessionRecord K T J)
  deriving DecidableEq

structure PairwiseState (K T J : Type) [LinearOrder K] where
  schemaVersion : Nat
  generation : Nat
  localPubkey : K
  localInvite : Invite K T
  peers : SortedMap K (PeerState K T J)
  seenEventIds : List K
  seenInnerEventIds : List K
  responseEventPeers : SortedMap K K
  pendingActions : List (PairwiseAction K T J)
  lastMessageMillis : UInt64
  messageSubscriptionId : String
  deriving DecidableEq

section

variable {K T J : Type} [LinearOrder K]

attribute [local instance] SortedMap.lawfulBEq

/-- Ranks are compared by creation time, then by handshake. -/
abbrev HandshakeRank (K : Type) := Lex (UnixSeconds × K)

namespace SessionRecord

def rank (record : SessionRecord K T J) : HandshakeRank K :=
  toLex (record.handshakeCreatedAt, record.handshakeId)

end SessionRecord

def sessionSenderKeys (state : SessionState K) : List (DevicePubkey K) :=
  if state.metadataPrivacyVersion ≠ METADATA_PRIVACY_VERSION then []
  else (SortedSet.ofList (state.theirCurrentNostrPublicKey.toList ++
    state.theirNextNostrPublicKey.toList ++ state.skippedKeys.keys)).toList

def pairwiseOwnerClaimIsValid (invite : Invite K T) : Bool :=
  invite.inviterOwnerPubkey.all (fun owner => owner.bytes = invite.inviterDevicePubkey.bytes) &&
    invite.ownerPublicKey.all (fun owner => owner = invite.inviterDevicePubkey.bytes)

namespace PeerState

def winningRank (peer : PeerState K T J) : Option (HandshakeRank K) :=
  peer.sessions.getLast?.map SessionRecord.rank

/-- The new session replaces every other one; the replaced ones are returned. -/
def installSession (peer : PeerState K T J) (record : SessionRecord K T J)
    (maxSessions : Nat) :
    Except (PairwiseError K) (PeerState K T J × Bool × List (SessionRecord K T J)) :=
  if peer.winningRank.any (fun winningRank => winningRank > record.rank) then
    .error (.invalidEvent "handshake is older than the active pairwise session")
  else
    let existing := peer.sessions.find? (fun session => session.handshakeId = record.handshakeId)
    if existing.any (fun session => session.handshakeCreatedAt ≠ record.handshakeCreatedAt) then
      .error (.corruptState "matching handshake ids have different timestamps")
    else if [record].length > maxSessions then .error (.queueFull "sessions")
    else .ok ({ peer with sessions := [record] }, existing.isNone, peer.sessions)

end PeerState

variable [Primitives K T] [DecidableEq T] [InvitePrimitives K T] [EventCodec K T J]

namespace PeerState

/-- The last session that can send. -/
def preferredSendSessionIndex (peer : PeerState K T J) : Option Nat :=
  peer.sessions.reverse.findIdx? (fun record => (Session.fromState record.state).canSend) |>.map
    (fun index => peer.sessions.length - 1 - index)

def trackedSenderPubkeys (peer : PeerState K T J) : List K :=
  (SortedSet.ofList ((peer.sessions.flatMap (fun record =>
    sessionSenderKeys record.state)).filterMap (fun device => device.toNostr.toOption))).toList

end PeerState

namespace PairwiseState

def new (localPubkey : K) (localInvite : Invite K T) (uuid : String) : PairwiseState K T J where
  schemaVersion := STATE_SCHEMA_VERSION
  generation := 0
  localPubkey := localPubkey
  localInvite := localInvite
  peers := SortedMap.empty
  seenEventIds := []
  seenInnerEventIds := []
  responseEventPeers := SortedMap.empty
  pendingActions := []
  lastMessageMillis := 0
  messageSubscriptionId := "ndr-pairwise-" ++ String.ofList (uuid.toList.filter (· ≠ '-'))

/-- Every session of every peer, in the order of the map. -/
def allSessions (state : PairwiseState K T J) : List (SessionRecord K T J) :=
  state.peers.values.flatMap PeerState.sessions

def session (state : PairwiseState K T J) (sessionId : K) : Option (SessionRecord K T J) :=
  state.allSessions.find? (fun session => session.handshakeId = sessionId)

variable (K) in
/-- The JSON of an event that carries the current protocol version. -/
def isPrivateEventJson (eventJson : J) : Bool :=
  match (EventCodec.eventFromJson eventJson : Except String (SignedEvent K T)) with
  | .ok event => event.hasMetadataPrivacyVersion
  | .error _ => false

def pendingOutboundCount (state : PairwiseState K T J) : Nat :=
  (state.pendingActions.filter (fun action => match action.kind with
    | .publish _ eventJson _ => isPrivateEventJson K eventJson
    | .outOfBand _ _ eventJson => isPrivateEventJson K eventJson
    | _ => false)).length

def pendingDeliveryCount (state : PairwiseState K T J) : Nat :=
  (state.pendingActions.filter (fun action => match action.kind with
    | .delivery .. => true
    | _ => false)).length

def trackedSenderKeys (state : PairwiseState K T J) : SortedSet (DevicePubkey K) :=
  SortedSet.ofList (state.allSessions.flatMap (fun session => sessionSenderKeys session.state))

def skippedMessageKeys (state : PairwiseState K T J) : Nat :=
  (state.allSessions.map (fun session =>
    (session.state.skippedKeys.values.map (fun entry => entry.messageKeys.length)).sum)).sum

/-! Validation. -/

variable [DecidableEq J]

def validateAction (state : PairwiseState K T J) (limits : RuntimeLimits)
    (kind : PairwiseActionKind K T J) : Except (PairwiseError K) Unit :=
  match kind with
  | .publish sessionId eventJson innerEventId =>
      match state.session sessionId with
      | none => .error (.corruptState "publish action references a retired session")
      | some session =>
          if EventCodec.jsonLength K eventJson > limits.maxEventBytes ∨
              (innerEventId = none ∧ session.bootstrapEventJson ≠ some eventJson) then
            .error (.corruptState "pending publish does not match its session")
          else .ok ()
  | .outOfBand peerPubkey sessionId eventJson =>
      if EventCodec.jsonLength K eventJson > limits.maxEventBytes then
        .error (.corruptState "pending event exceeds configured size limit")
      else
        match state.peers.get? peerPubkey with
        | none => .error (.corruptState "out-of-band action references an unknown peer")
        | some peer =>
            if !peer.sessions.any (fun session => session.handshakeId = sessionId ∧
                session.inviteResponseEventJson = some eventJson) then
              .error (.corruptState "out-of-band action does not match its authenticated peer")
            else .ok ()
  | .delivery _ innerEventJson _ _ _ =>
      if EventCodec.textLength K innerEventJson > limits.maxInnerEventBytes then
        .error (.corruptState "pending inner event exceeds configured size limit")
      else .ok ()
  | .subscribe subscriptionId filterJson =>
      if subscriptionId ≠ state.messageSubscriptionId ∨
          EventCodec.textLength K filterJson > limits.maxEventBytes then
        .error (.corruptState "pending subscription action is invalid")
      else .ok ()
  | .unsubscribe subscriptionId =>
      if subscriptionId ≠ state.messageSubscriptionId then
        .error (.corruptState "pending unsubscription action is invalid")
      else .ok ()

/-- The loop over the journal, with the action ids it has met. -/
def validateActions (state : PairwiseState K T J) (limits : RuntimeLimits) :
    List (PairwiseAction K T J) → List (PairwiseActionId K) → Except (PairwiseError K) Unit
  | [], _ => .ok ()
  | action :: rest, actionIds =>
      if action.id.localPubkey ≠ state.localPubkey ∨ action.id ∈ actionIds then
        .error (.corruptState "pending action id is invalid or duplicated")
      else do
        state.validateAction limits action.kind
        state.validateActions limits rest (action.id :: actionIds)

/-- Where a session came from: an invite this side accepted, or a response it bound to
the peer. -/
def sessionIsBound (state : PairwiseState K T J) (limits : RuntimeLimits) (peerPubkey : K)
    (session : SessionRecord K T J) : Bool :=
  match session.inviteResponseEventJson, session.bootstrapEventJson,
      session.acceptedResponseEventId with
  | some response, some bootstrap, none =>
      EventCodec.jsonLength K response ≤ limits.maxEventBytes &&
        EventCodec.jsonLength K bootstrap ≤ limits.maxEventBytes
  | none, none, some eventId => state.responseEventPeers.get? eventId = some peerPubkey
  | _, _, _ => false

/-- The loop over one peer's sessions, with the handshake ids met so far. -/
def validateSessions (state : PairwiseState K T J) (limits : RuntimeLimits) (peerPubkey : K) :
    List (SessionRecord K T J) → List K → Except (PairwiseError K) (List K)
  | [], handshakeIds => .ok handshakeIds
  | session :: rest, handshakeIds =>
      if !state.sessionIsBound limits peerPubkey session then
        .error (.corruptState "session has incomplete or oversized bootstrap events")
      else if session.handshakeId ∈ handshakeIds then
        .error (.corruptState "session handshake identity is invalid")
      else state.validateSessions limits peerPubkey rest (session.handshakeId :: handshakeIds)

def validatePeers (state : PairwiseState K T J) (limits : RuntimeLimits) :
    List (K × PeerState K T J) → List K → Except (PairwiseError K) Unit
  | [], _ => .ok ()
  | (peerPubkey, peer) :: rest, handshakeIds =>
      if peerPubkey ≠ peer.peerPubkey then
        .error (.corruptState "peer map key does not match peer identity")
      else if peer.sessions = [] ∨ peer.sessions.length > limits.maxSessionsPerPeer then
        .error (.corruptState "peer has an invalid number of sessions")
      else if !(peer.sessions.zip peer.sessions.tail).all (fun (a, b) => a.rank < b.rank) then
        .error (.corruptState "peer sessions are not in deterministic handshake order")
      else do
        let handshakeIds ← state.validateSessions limits peerPubkey peer.sessions handshakeIds
        state.validatePeers limits rest handshakeIds

def subscriptionIdIsValid (state : PairwiseState K T J) : Bool :=
  state.messageSubscriptionId ≠ "" && state.messageSubscriptionId.utf8ByteSize ≤ 64 &&
    !decide ((Primitives.toHex state.localPubkey).toList <:+: state.messageSubscriptionId.toList)

def responseBindingsAreValid (state : PairwiseState K T J) : Bool :=
  state.responseEventPeers.keys.all (fun eventId => eventId ∈ state.seenEventIds)

def validate (state : PairwiseState K T J) (expectedPubkey : K) (limits : RuntimeLimits) :
    Except (PairwiseError K) Unit :=
  if state.schemaVersion ≠ STATE_SCHEMA_VERSION then
    .error (.unsupportedSchema state.schemaVersion)
  else if state.localPubkey ≠ expectedPubkey then
    .error (.identityMismatch expectedPubkey state.localPubkey)
  else if state.localInvite.inviter ≠ expectedPubkey ∨
      state.localInvite.inviterDevicePubkey.bytes ≠ expectedPubkey then
    .error (.corruptState "local invite identity does not match state identity")
  else if !pairwiseOwnerClaimIsValid state.localInvite then
    .error (.corruptState "local invite contains a non-pairwise owner claim")
  else if state.pendingOutboundCount > limits.maxPendingOutbound then
    .error (.corruptState "pending outbound queue exceeds configured limit")
  else if state.pendingDeliveryCount > limits.maxPendingDeliveries then
    .error (.corruptState "pending delivery queue exceeds configured limit")
  else if state.seenEventIds.length > limits.maxSeenEventIds then
    .error (.corruptState "seen-event set exceeds configured limit")
  else if state.seenInnerEventIds.length > limits.maxSeenInnerEventIds then
    .error (.corruptState "seen-inner-event set exceeds configured limit")
  else if !state.subscriptionIdIsValid then
    .error (.corruptState "message subscription id is invalid")
  else if state.responseEventPeers.length > limits.maxSeenEventIds then
    .error (.corruptState "response-peer bindings exceed configured limit")
  else if !state.responseBindingsAreValid then
    .error (.corruptState "response-peer binding is invalid")
  else if state.peers.length > limits.maxPeers ∨
      state.localInvite.usedBy.length > limits.maxPeers ∨
      state.localInvite.usedResponseContents.length > limits.maxPeers then
    .error (.corruptState "peer or invite replay metadata exceeds configured limit")
  else do
    state.validateActions limits state.pendingActions []
    state.validatePeers limits state.peers.entries []
    if state.trackedSenderKeys.length > limits.maxTotalTrackedSenderKeys ∨
        state.trackedSenderKeys.length > limits.maxSubscriptionAuthors ∨
        state.skippedMessageKeys > limits.maxTotalSkippedMessageKeys then
      .error (.corruptState "global ratchet-key limits exceeded")
    else .ok ()

/-! The replay windows. -/

def hasSeenEvent (state : PairwiseState K T J) (eventId : K) : Bool :=
  eventId ∈ state.seenEventIds

def hasSeenInnerEvent (state : PairwiseState K T J) (eventId : K) : Bool :=
  eventId ∈ state.seenInnerEventIds

def activeResponses (state : PairwiseState K T J) : List K :=
  state.allSessions.filterMap SessionRecord.acceptedResponseEventId

/-- The `retain` of `push_seen_event`: the oldest ids that no session is bound to go
first, with their peer bindings. -/
def expireSeen (activeResponses : List K) : List K → Nat → SortedMap K K → List K × SortedMap K K
  | [], _, bindings => ([], bindings)
  | seen :: rest, excess, bindings =>
      if excess = 0 ∨ seen ∈ activeResponses then
        let (kept, bindings) := expireSeen activeResponses rest excess bindings
        (seen :: kept, bindings)
      else expireSeen activeResponses rest (excess - 1) (bindings.erase seen)

def pushSeenEvent (state : PairwiseState K T J) (eventId : K) (limit : Nat) :
    PairwiseState K T J :=
  if eventId ∈ state.seenEventIds then state
  else
    let seen := state.seenEventIds ++ [eventId]
    if seen.length > limit then
      let (kept, bindings) := expireSeen state.activeResponses seen (seen.length - limit)
        state.responseEventPeers
      { state with seenEventIds := kept, responseEventPeers := bindings }
    else { state with seenEventIds := seen }

def pushSeenInnerEvent (state : PairwiseState K T J) (eventId : K) (limit : Nat) :
    PairwiseState K T J :=
  if eventId ∈ state.seenInnerEventIds then state
  else
    let seen := state.seenInnerEventIds ++ [eventId]
    { state with seenInnerEventIds := seen.drop (seen.length - limit) }

end PairwiseState

end

end NostrDoubleRatchet
