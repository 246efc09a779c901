import NostrDoubleRatchet.Pairwise.Manager

/-!
The public operations of the pairwise manager. Each one reads the manager, computes the
next state aside, and commits it at its end.
-/

namespace NostrDoubleRatchet

section

variable {K T J P : Type} [LinearOrder K] [DecidableEq T] [DecidableEq J] [Primitives K T]
  [InvitePrimitives K T] [PairwiseCodec.RumorPrimitives K T] [EventCodec K T J]
  [StateSeal K T J P]

open Program PairwiseM PairwiseCodec

namespace PairwiseState

def peerOrNew (state : PairwiseState K T J) (peerPubkey : K) : PeerState K T J :=
  (state.peers.get? peerPubkey).getD ⟨peerPubkey, []⟩

/-- The events of a handshake this side already answered, when its session is current. -/
def answeredHandshake (state : PairwiseState K T J) (peerPubkey handshakeId : K) :
    Option (J × J) := do
  let peer ← state.peers.get? peerPubkey
  let session ← peer.sessions.find? (fun session => session.handshakeId = handshakeId ∧
    session.state.metadataPrivacyVersion = METADATA_PRIVACY_VERSION)
  let response ← session.inviteResponseEventJson
  let bootstrap ← session.bootstrapEventJson
  pure (response, bootstrap)

/-- Put the peer's new session in place of the others and drop their queued events. -/
def install (state : PairwiseState K T J) (limits : RuntimeLimits) (peerPubkey : K)
    (record : SessionRecord K T J) : Except (PairwiseError K) (PairwiseState K T J × Bool) := do
  let (peer, created, retired) ←
    (state.peerOrNew peerPubkey).installSession record limits.maxSessionsPerPeer
  pure (retireSessions { state with peers := state.peers.insert peerPubkey peer } retired,
    created)

def setSessionState (state : PairwiseState K T J) (peerPubkey : K) (index : Nat)
    (sessionState : SessionState K) : Except (PairwiseError K) (PairwiseState K T J) :=
  match state.peers.get? peerPubkey with
  | none => .error (.corruptState "selected session disappeared")
  | some peer =>
      match peer.sessions[index]? with
      | none => .error (.corruptState "selected session disappeared")
      | some record => .ok { state with
          peers := state.peers.insert peerPubkey { peer with
            sessions := peer.sessions.set index { record with state := sessionState } } }

/-- The sessions in the order the receive loop tries them, with their places. -/
def sessionPlaces (state : PairwiseState K T J) : List (K × Nat × SessionRecord K T J) :=
  state.peers.entries.flatMap (fun (peerPubkey, peer) =>
    peer.sessions.zipIdx.map (fun (record, index) => (peerPubkey, index, record)))

end PairwiseState

/-- The receive loop: the first session that knows the sender and decrypts. -/
def decryptWithSession (envelope : MessageEnvelope K T) :
    List (K × Nat × SessionRecord K T J) → StateM (Rng K) (Option (K × Nat × ReceivePlan K T))
  | [] => pure none
  | (peerPubkey, index, record) :: rest => do
      let session := Session.fromState record.state
      if !session.matchesSender envelope.sender then decryptWithSession envelope rest
      else
        match ← (session.planReceive envelope).run with
        | .ok plan => pure (some (peerPubkey, index, plan))
        | .error _ => decryptWithSession envelope rest

namespace PairwiseManager

/-- Answer an invite: the session, its response and the first message on it. -/
def openHandshake (invite : Invite K T) (now : UInt64) :
    PairwiseM K T J P (SessionRecord K T J × J × J) := do
  let manager ← PairwiseM.manager
  let (session, response) ← liftRand (invite.acceptWithOwnerContext now.toNat
    ⟨manager.publicKey⟩ manager.identityKeys (some ⟨manager.publicKey⟩))
  let responseEvent ← wire (inviteResponseEvent response (← liftRand randomAux))
  let responseJson ← json (EventCodec.eventToJson responseEvent)
  let bootstrap ← rumor (typingEvent manager.publicKey
    ⟨now, saturatingMulU64 now 1000, some 1⟩)
  let bootstrapPayload ← json (RumorPrimitives.eventToJson bootstrap.ensureId)
  let plan ← core (session.planSend (← liftRand randomNonce) (← liftRand randomNonce)
    bootstrapPayload now.toNat)
  let bootstrapEvent ← wire (NostrDoubleRatchet.messageEvent plan.envelope
    (← liftRand randomAux))
  check (validateRelayPublish bootstrapEvent)
  check (ensureEventSize bootstrapEvent manager.limits.maxEventBytes "bootstrap event")
  let bootstrapJson ← json (EventCodec.eventToJson bootstrapEvent)
  pure ({
    handshakeId := handshakeId invite manager.publicKey
    handshakeCreatedAt := invite.createdAt
    state := (session.applySend plan).state
    inviteResponseEventJson := some responseJson
    bootstrapEventJson := some bootstrapJson
    acceptedResponseEventId := none }, responseJson, bootstrapJson)

/-- Queue the events of an answered handshake again, those that are no longer queued. -/
def requeueHandshake (peerPubkey handshakeId : K) (responseJson bootstrapJson : J) :
    PairwiseM K T J P Unit := do
  let manager ← PairwiseM.manager
  let responseMissing :=
    !hasPendingOutOfBandEvent manager.state peerPubkey handshakeId responseJson
  let bootstrapMissing := !hasPendingPublishEvent manager.state handshakeId bootstrapJson
  let missing := responseMissing.toNat + bootstrapMissing.toNat
  if missing > 0 then do
    check (ensureOutboundCapacity manager.state manager.limits missing)
    let next ← (if responseMissing then
        pushAction manager.state (.outOfBand peerPubkey handshakeId responseJson)
      else pure manager.state)
    let next ← (if bootstrapMissing then
        pushAction next (.publish handshakeId bootstrapJson none)
      else pure next)
    commitNext next manager.installedMessageAuthors
  else pure ()

/-- Install the session of a newly answered invite and queue its two events. -/
def answerInvite (invite : Invite K T) (peerPubkey : K) (now : UInt64) :
    PairwiseM K T J P Bool := do
  let manager ← PairwiseM.manager
  let handshakeId := handshakeId invite manager.publicKey
  check (ensureWinningHandshake manager.state peerPubkey invite.createdAt handshakeId)
  let (record, responseJson, bootstrapJson) ← openHandshake invite now
  let (next, created) ← check (manager.state.install manager.limits peerPubkey record)
  check (ensureOutboundCapacity next manager.limits 2)
  let next ← pushAction next (.outOfBand peerPubkey handshakeId responseJson)
  let next ← pushAction next (.publish handshakeId bootstrapJson none)
  refreshAndCommit next
  pure created

def acceptInvite (invite : Invite K T) (authenticatedPeer : K) (now : UInt64) :
    PairwiseM K T J P (PairwiseAcceptResult K) := do
  let manager ← PairwiseM.manager
  let encodedInvite ← json (EventCodec.inviteToJson invite)
  check (ensureSize (EventCodec.jsonLength K encodedInvite) manager.limits.maxEventBytes
    "invite")
  check (validateInvitePeer invite authenticatedPeer)
  if invite.createdAt > saturatingAddU64 now.toNat MAX_INVITE_FUTURE_SKEW_SECONDS then
    throw (.invalidEvent "invite timestamp is unreasonably far in the future")
  else do
    check (ensurePeerCapacity manager.state manager.limits authenticatedPeer)
    let handshakeId := handshakeId invite manager.publicKey
    match manager.state.answeredHandshake authenticatedPeer handshakeId with
    | some (responseJson, bootstrapJson) => do
        requeueHandshake authenticatedPeer handshakeId responseJson bootstrapJson
        pure ⟨authenticatedPeer, false⟩
    | none => do
        let created ← answerInvite invite authenticatedPeer now
        pure ⟨authenticatedPeer, created⟩

/-- Turn a new response into the session of the peer it authenticates. -/
def bindResponse (event : SignedEvent K T) (envelope : InviteResponseEnvelope K T)
    (authenticatedPeer : K) : PairwiseM K T J P Unit := do
  let manager ← PairwiseM.manager
  let (response, invite) ← liftRand (manager.state.localInvite.processResponse envelope
    manager.identityKeys)
  check (validateResponsePeer response authenticatedPeer)
  let responseHandshakeId := handshakeId invite authenticatedPeer
  check (ensurePeerCapacity manager.state manager.limits authenticatedPeer)
  check (ensureWinningHandshake manager.state authenticatedPeer invite.createdAt
    responseHandshakeId)
  let (next, _) ← check (({ manager.state with localInvite := invite }).install manager.limits
    authenticatedPeer {
      handshakeId := responseHandshakeId
      handshakeCreatedAt := invite.createdAt
      state := response.session.state
      inviteResponseEventJson := none
      bootstrapEventJson := none
      acceptedResponseEventId := some event.id })
  let bound := { next with
    responseEventPeers := next.responseEventPeers.insert event.id authenticatedPeer }
  refreshAndCommit (bound.pushSeenEvent event.id manager.limits.maxSeenEventIds)

def processOutOfBandResponse (event : SignedEvent K T) (authenticatedPeer : K) :
    PairwiseM K T J P Unit := do
  let manager ← PairwiseM.manager
  check (ensureEventSize event manager.limits.maxEventBytes "invite response event")
  if event.kind ≠ INVITE_RESPONSE_KIND then
    throw (.invalidEvent "out-of-band response must be kind 1059")
  else do
    let envelope ← wire (parseInviteResponseEvent event)
    if envelope.recipient ≠ manager.state.localInvite.inviterEphemeralPublicKey then
      throw (.invalidEvent "invite response recipient does not match local invite")
    else if manager.state.hasSeenEvent event.id then
      match manager.state.responseEventPeers.get? event.id with
      | some boundPeer =>
          if boundPeer = authenticatedPeer then pure ()
          else throw (.peerMismatch boundPeer authenticatedPeer)
      | none => throw (.invalidEvent "seen response is missing authenticated peer binding")
    else bindResponse event envelope authenticatedPeer

def sendInnerEvent (peerPubkey : K) (inner : UnsignedEvent K) (now : UInt64)
    (messageMillis : Option UInt64) : PairwiseM K T J P (PairwiseSendResult K) := do
  let manager ← PairwiseM.manager
  if inner.pubkey ≠ manager.publicKey then
    throw (.peerMismatch manager.publicKey inner.pubkey)
  else do
    let inner := inner.ensureId
    rumor inner.verifyId
    match inner.id with
    | none => throw (.invalidEvent "inner event is missing id")
    | some innerEventId =>
        match manager.state.peers.get? peerPubkey with
        | none => throw (.sessionNotReady (some peerPubkey))
        | some peerState =>
            match peerState.preferredSendSessionIndex.bind (fun index =>
                (peerState.sessions[index]?).map (fun record => (index, record))) with
            | none => throw (.sessionNotReady (some peerPubkey))
            | some (index, record) => do
                let payload ← json (RumorPrimitives.eventToJson inner)
                let plan ← core ((Session.fromState record.state).planSend
                  (← liftRand randomNonce) (← liftRand randomNonce) payload now.toNat)
                let event ← wire (NostrDoubleRatchet.messageEvent plan.envelope
                  (← liftRand randomAux))
                check (validateRelayPublish event)
                check (ensureEventSize event manager.limits.maxEventBytes "relay event")
                let next ← check (manager.state.setSessionState peerPubkey index plan.nextState)
                let stamped := { next with
                  lastMessageMillis := messageMillis.elim next.lastMessageMillis
                    (fun millis => max next.lastMessageMillis millis) }
                let eventJson ← json (EventCodec.eventToJson event)
                let queued ← pushAction stamped
                  (.publish record.handshakeId eventJson (some innerEventId))
                commitNext queued manager.installedMessageAuthors
                pure ⟨innerEventId, event.id⟩

def validateAndSendUnsignedEvent (peerPubkey : K) (inner : UnsignedEvent K) (now : UInt64)
    (messageMillis : Option UInt64) : PairwiseM K T J P (PairwiseSendResult K) := do
  let manager ← PairwiseM.manager
  check (ensureOutboundCapacity manager.state manager.limits 1)
  let encoded ← json (RumorPrimitives.eventToJson inner)
  check (ensureSize (EventCodec.textLength K encoded) manager.limits.maxInnerEventBytes
    "inner event")
  let decoded ← rumor (decodeStrict encoded)
  sendInnerEvent peerPubkey decoded.event now (messageMillis.or decoded.millis)

def sendText (peerPubkey : K) (text : String) (expiresAt : Option UInt64)
    (now millis : UInt64) : PairwiseM K T J P (PairwiseSendResult K) := do
  let manager ← PairwiseM.manager
  check (ensureSize text.utf8ByteSize manager.limits.maxTextBytes "message text")
  if manager.state.lastMessageMillis.toNat = u64Max then
    throw (.invalidEvent "message timestamp exhausted")
  else do
    let messageMillis := max millis (manager.state.lastMessageMillis + 1)
    let inner ← rumor (PairwiseCodec.messageEvent manager.publicKey text
      ⟨now, messageMillis, expiresAt⟩)
    validateAndSendUnsignedEvent peerPubkey inner.ensureId now (some messageMillis)

def sendUnsignedEvent (peerPubkey : K) (inner : UnsignedEvent K) (now : UInt64) :
    PairwiseM K T J P (PairwiseSendResult K) :=
  validateAndSendUnsignedEvent peerPubkey inner now none

/-- What a decrypted message does: advance its session, note its ids and, when it is new
and alive, queue its delivery. -/
def deliverPlan (event : SignedEvent K T) (now : UInt64) (peerPubkey : K) (index : Nat)
    (plan : ReceivePlan K T) : PairwiseM K T J P Unit := do
  let manager ← PairwiseM.manager
  let decoded ← rumor (decodeStrict plan.payload)
  check (ensureSize (EventCodec.textLength K plan.payload) manager.limits.maxInnerEventBytes
    "decrypted inner event")
  if decoded.event.pubkey ≠ peerPubkey then
    throw (.peerMismatch peerPubkey decoded.event.pubkey)
  else
    match decoded.event.id with
    | none => throw (.invalidEvent "inner event is missing id")
    | some innerEventId =>
        let shouldDeliver := decoded.expiration.all (fun expiration => expiration > now)
        let innerWasSeen := manager.state.hasSeenInnerEvent innerEventId
        if shouldDeliver ∧ !innerWasSeen ∧
            manager.state.pendingDeliveryCount ≥ manager.limits.maxPendingDeliveries then
          throw (.queueFull "delivery")
        else do
          let advanced ← check (manager.state.setSessionState peerPubkey index plan.nextState)
          let noted := (advanced.pushSeenEvent event.id
            manager.limits.maxSeenEventIds).pushSeenInnerEvent innerEventId
              manager.limits.maxSeenInnerEventIds
          let next ← (if shouldDeliver ∧ !innerWasSeen then do
              let innerEventJson ← json (RumorPrimitives.eventToJson decoded.event)
              pushAction noted (.delivery peerPubkey innerEventJson innerEventId event.id
                decoded.expiration)
            else pure noted)
          refreshAndCommit next

def processEventAt (event : SignedEvent K T) (now : UInt64) : PairwiseM K T J P Unit := do
  let manager ← PairwiseM.manager
  check (ensureEventSize event manager.limits.maxEventBytes "relay event")
  if event.kind ≠ MESSAGE_EVENT_KIND then
    throw (.invalidEvent "pairwise relay input must be kind 1060")
  else do
    wire event.verify
    if manager.state.hasSeenEvent event.id then pure ()
    else do
      let envelope ← wire (parseMessageEvent event)
      if envelope.recipient.isSome then
        throw (.invalidEvent "pairwise relay input must not reveal a recipient key")
      else do
        match ← liftRng (decryptWithSession envelope manager.state.sessionPlaces) with
        | none => throw (.invalidEvent
            "message does not match an authenticated pairwise session")
        | some (peerPubkey, index, plan) => deliverPlan event now peerPubkey index plan

/-- A delivery whose message has expired. -/
def isExpiredDelivery (now : UInt64) : PairwiseActionKind K T J → Bool
  | .delivery _ _ _ _ (some expiration) => expiration ≤ now
  | _ => false

/-- Whether the host is shown the action. -/
def isExposed : PairwiseActionKind K T J → Bool
  | .publish _ eventJson _ => PairwiseState.isPrivateEventJson K eventJson
  | .outOfBand _ _ eventJson => PairwiseState.isPrivateEventJson K eventJson
  | _ => true

def pendingActionsAt (now : UInt64) : PairwiseM K T J P (List (PairwiseAction K T J)) := do
  let manager ← PairwiseM.manager
  let next := { manager.state with
    pendingActions := manager.state.pendingActions.filter (fun action =>
      !isExpiredDelivery now action.kind) }
  (if next.pendingActions.length ≠ manager.state.pendingActions.length then
      commitNext next manager.installedMessageAuthors
    else pure ())
  let current ← PairwiseM.manager
  pure (current.state.pendingActions.filter (fun action => isExposed action.kind))

def ackActions (actionIds : List (PairwiseActionId K)) : PairwiseM K T J P Unit := do
  let manager ← PairwiseM.manager
  let next := { manager.state with
    pendingActions := manager.state.pendingActions.filter (fun action =>
      action.id ∉ actionIds) }
  if actionIds = [] ∨ next.pendingActions.length = manager.state.pendingActions.length then
    pure ()
  else commitNext next manager.installedMessageAuthors

def isDeliveryFrom (peerPubkey : K) : PairwiseActionKind K T J → Bool
  | .delivery sender _ _ _ _ => sender = peerPubkey
  | _ => false

def retirePeer (peerPubkey : K) : PairwiseM K T J P Bool := do
  let manager ← PairwiseM.manager
  match manager.state.peers.get? peerPubkey with
  | none => pure false
  | some retiredPeer => do
      let retired := retireSessions
        { manager.state with peers := manager.state.peers.erase peerPubkey }
        retiredPeer.sessions
      refreshAndCommit { retired with
        pendingActions := retired.pendingActions.filter (fun action =>
          !isDeliveryFrom peerPubkey action.kind) }
      pure true

/-! Opening. -/

/-- `PairwiseStore::load`. -/
def storeLoad (world : PairwiseWorld K P) :
    Except (PairwiseError K) (Option P) × PairwiseWorld K P :=
  (if world.faults.head then .error (.storage "store unavailable") else .ok world.store.payload,
    { world with faults := world.faults.tail })

/-- A new identity's state, with its invite. -/
def freshState (identityKeys : K) (now : UnixSeconds) (uuid : String) :
    RandM K (PairwiseState K T J) := do
  let invite ← Invite.createNewWithContext now ⟨Primitives.publicKey identityKeys⟩ none none
  pure (PairwiseState.new (Primitives.publicKey identityKeys) { invite with
    inviterOwnerPubkey := some ⟨Primitives.publicKey identityKeys⟩
    ownerPublicKey := some (Primitives.publicKey identityKeys) } uuid)

/-- Bring an invite of an older protocol version up to date. -/
def upgradeInvite (now : UnixSeconds) (state : PairwiseState K T J) : PairwiseState K T J :=
  if state.localInvite.metadataPrivacyVersion ≠ METADATA_PRIVACY_VERSION then
    { state with localInvite := { state.localInvite with
        metadataPrivacyVersion := METADATA_PRIVACY_VERSION
        createdAt := max now (saturatingAddU64 state.localInvite.createdAt 1) } }
  else state

/-- What `open` does once it holds a state. -/
def start (needsStorageCommit : Bool) : PairwiseM K T J P Unit := do
  let manager ← PairwiseM.manager
  (if needsStorageCommit then commitNext manager.state [] else pure ())
  refreshMessageSubscription true

/-- The state `open` starts from, and whether it has to be stored. -/
def startingState (identityKeys : K) (limits : RuntimeLimits) (now : UnixSeconds)
    (payload : Option P) (world : PairwiseWorld K P) :
    Except (PairwiseError K) (PairwiseState K T J × Bool) × PairwiseWorld K P :=
  match payload with
  | some payload =>
      (do
        let state ← openState payload identityKeys limits
        pure (state, StateSeal.isLegacyStatePayload K T J payload), world)
  | none =>
      match freshState identityKeys now world.uuids.head world.rng with
      | (.error error, rng) => (.error (.fromCore error), { world with rng := rng })
      | (.ok state, rng) => (.ok (state, true), { world with
          rng := rng
          uuids := world.uuids.tail })

/-- `PairwiseManager::open`, at the clock time `now`. -/
def openManager (identityKeys : K) (limits : RuntimeLimits) (now : UnixSeconds)
    (world : PairwiseWorld K P) :
    Except (PairwiseError K) (PairwiseManager K T J) × PairwiseWorld K P :=
  match limits.validate with
  | .error error => (.error error, world)
  | .ok () =>
      match storeLoad world with
      | (.error error, world) => (.error error, world)
      | (.ok payload, world) =>
          match startingState identityKeys limits now payload world with
          | (.error error, world) => (.error error, world)
          | (.ok (state, needsStorageCommit), world) =>
              let upgraded := upgradeInvite now state
              let needsUpgrade : Bool :=
                state.localInvite.metadataPrivacyVersion ≠ METADATA_PRIVACY_VERSION
              match exec (start (needsStorageCommit || needsUpgrade))
                  ⟨⟨identityKeys, upgraded, limits, []⟩, world⟩ with
              | (.error error, cell) => (.error error, cell.world)
              | (.ok (), cell) => (.ok cell.manager, cell.world)

end PairwiseManager

end

end NostrDoubleRatchet
