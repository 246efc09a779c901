import NostrDoubleRatchet.Lib.Program
import NostrDoubleRatchet.Pairwise.State

/-!
The pairwise manager, as in `manager.rs` and `manager/subscriptions.rs`. An operation runs
on its manager and on the world around it: the random generator, the identifiers it draws
and the store. The store keeps one generation and one payload as `MemoryStore` does, and
any call of it may fail for reasons of its own and then changes nothing. Sealing a state
into a payload is given.
-/

namespace NostrDoubleRatchet

def MAX_INVITE_FUTURE_SKEW_SECONDS : Nat := 10 * 60

/-- Encryption of the state under the identity key, with the nonce it draws, and the
bytes it takes. -/
class StateSeal (K T J : Type) [LinearOrder K] (P : outParam Type) where
  sealBytes : K → K → PairwiseState K T J → Except (PairwiseError K) P
  openBytes : K → P → Except (PairwiseError K) (PairwiseState K T J)
  payloadLength : P → Nat
  isLegacyStatePayload : P → Bool

/-- `MemoryValue`. -/
structure StoredValue (P : Type) where
  generation : Nat
  payload : Option P

namespace StoredValue

variable {K P : Type}

def empty : StoredValue P := ⟨0, none⟩

def commit (value : StoredValue P) (generation : Nat) (payload : P) :
    Except (PairwiseError K) (StoredValue P) :=
  if generation = 0 then .error (.storage "state generation zero cannot be committed")
  else if value.generation ≠ generation - 1 then
    .error (.storage (s!"stale state commit for generation {generation}: expected durable " ++
      s!"generation {generation - 1}, found {value.generation}"))
  else .ok ⟨generation, some payload⟩

end StoredValue

/-- What a manager meets outside itself. The next of `faults` says whether the next call
of the store fails. -/
structure PairwiseWorld (K P : Type) where
  rng : Rng K
  uuids : Stream' String
  store : StoredValue P
  faults : Stream' Bool

structure PairwiseManager (K T J : Type) [LinearOrder K] where
  identityKeys : K
  state : PairwiseState K T J
  limits : RuntimeLimits
  installedMessageAuthors : List K

structure PairwiseCell (K T J P : Type) [LinearOrder K] where
  manager : PairwiseManager K T J
  world : PairwiseWorld K P

structure PairwiseAcceptResult (K : Type) where
  peerPubkey : K
  createdNewSession : Bool
  deriving DecidableEq

structure PairwiseSendResult (K : Type) where
  innerEventId : K
  outerEventId : K
  deriving DecidableEq

abbrev PairwiseM (K T J P : Type) [LinearOrder K] :=
  Program (PairwiseError K) (PairwiseCell K T J P)

/-- `saturating_mul` on a `u64`. -/
def saturatingMulU64 (a b : UInt64) : UInt64 :=
  if a.toNat * b.toNat ≤ u64Max then a * b else UInt64.ofNat u64Max

/-- `saturating_add` on a `u64`. -/
def saturatingAddU64 (a b : Nat) : Nat := min (a + b) u64Max

section

variable {K T J P : Type} [LinearOrder K] [DecidableEq T] [DecidableEq J] [Primitives K T]
  [InvitePrimitives K T] [PairwiseCodec.RumorPrimitives K T] [EventCodec K T J]
  [StateSeal K T J P]

attribute [local instance] SortedMap.lawfulBEq

namespace PairwiseManager

def publicKey (manager : PairwiseManager K T J) : K :=
  Primitives.publicKey manager.identityKeys

end PairwiseManager

namespace PairwiseM

open Program

def manager : PairwiseM K T J P (PairwiseManager K T J) := read (·.manager)

/-- Run code that draws from the generator. -/
def liftRand {α : Type} (x : RandM K α) : PairwiseM K T J P α := fun cell =>
  let world := { cell.world with rng := (x cell.world.rng).2 }
  ((x cell.world.rng).1.mapError PairwiseError.fromCore, { cell with world := world })

/-- Run code that draws from the generator and cannot fail. -/
def liftRng {α : Type} (x : StateM (Rng K) α) : PairwiseM K T J P α := fun cell =>
  let world := { cell.world with rng := (x cell.world.rng).2 }
  (.ok (x cell.world.rng).1, { cell with world := world })

/-- `Uuid::new_v4`. -/
def newUuid : PairwiseM K T J P String := fun cell =>
  let world := { cell.world with uuids := cell.world.uuids.tail }
  (.ok cell.world.uuids.head, { cell with world := world })

/-- `PairwiseStore::commit`. -/
def storeCommit (generation : Nat) (payload : P) : PairwiseM K T J P Unit := fun cell =>
  let world := { cell.world with faults := cell.world.faults.tail }
  if cell.world.faults.head then
    (.error (.storage "store unavailable"), { cell with world := world })
  else
    match cell.world.store.commit generation payload with
    | .error error => (.error error, { cell with world := world })
    | .ok store => (.ok (), { cell with world := { world with store := store } })

/-- The `?` on a result of the crate's own errors. -/
def check {α : Type} (x : Except (PairwiseError K) α) : PairwiseM K T J P α :=
  Program.ofExcept x

def wire {α : Type} (x : Except Error α) : PairwiseM K T J P α :=
  check (x.mapError PairwiseError.wire)

def core {α : Type} (x : Except Error α) : PairwiseM K T J P α :=
  check (x.mapError PairwiseError.fromCore)

def rumor {α : Type} (x : Except PairwiseCodec.Error α) : PairwiseM K T J P α :=
  check (x.mapError PairwiseError.rumor)

def json {α : Type} (x : Except String α) : PairwiseM K T J P α :=
  check (x.mapError PairwiseError.serialization)

end PairwiseM

open Program PairwiseM

/-! Sealing and checking. -/

def ensureStateSize (size maxBytes : Nat) : Except (PairwiseError K) Unit :=
  if size > maxBytes then
    .error (.corruptState "persisted pairwise state exceeds configured size limit")
  else .ok ()

def sealState (state : PairwiseState K T J) (identityKeys nonce : K) (maxBytes : Nat) :
    Except (PairwiseError K) P := do
  let payload ← StateSeal.sealBytes identityKeys nonce state
  ensureStateSize (StateSeal.payloadLength K T J payload) maxBytes
  pure payload

def openState (payload : P) (identityKeys : K) (limits : RuntimeLimits) :
    Except (PairwiseError K) (PairwiseState K T J) := do
  ensureStateSize (StateSeal.payloadLength K T J payload) limits.maxPersistedStateBytes
  let state ← StateSeal.openBytes identityKeys payload
  state.validate (Primitives.publicKey identityKeys) limits
  pure state

def ensureSize (size limit : Nat) (input : String) : Except (PairwiseError K) Unit :=
  if size > limit then .error (.inputTooLarge input limit) else .ok ()

def ensureEventSize (event : SignedEvent K T) (limit : Nat) (input : String) :
    Except (PairwiseError K) Unit := do
  let encoded ← (EventCodec.eventToJson event).mapError PairwiseError.serialization
  ensureSize (EventCodec.jsonLength K encoded) limit input

def handshakeId (invite : Invite K T) (invitee : K) : K :=
  EventCodec.handshakeDigest invite.inviterDevicePubkey.bytes
    invite.inviterEphemeralPublicKey.bytes invite.sharedSecret invite.createdAt invitee

def validateInvitePeer (invite : Invite K T) (authenticatedPeer : K) :
    Except (PairwiseError K) Unit := do
  let actual ← invite.inviterDevicePubkey.toNostr.mapError PairwiseError.fromCore
  if actual ≠ authenticatedPeer then .error (.peerMismatch authenticatedPeer actual)
  else if !pairwiseOwnerClaimIsValid invite then .error .ownerDeviceMismatch
  else .ok ()

def validateResponsePeer (response : InviteResponse K) (authenticatedPeer : K) :
    Except (PairwiseError K) Unit :=
  if response.inviteeIdentity ≠ authenticatedPeer then
    .error (.peerMismatch authenticatedPeer response.inviteeIdentity)
  else if response.inviteeDevicePubkey.bytes ≠ authenticatedPeer ∨
      response.inviteeOwnerPubkey.any (fun owner =>
        owner.bytes ≠ response.inviteeDevicePubkey.bytes) ∨
      response.ownerPublicKey.any (fun owner => owner ≠ authenticatedPeer) then
    .error .ownerDeviceMismatch
  else .ok ()

def validateRelayPublish (event : SignedEvent K T) : Except (PairwiseError K) Unit := do
  if !event.hasMetadataPrivacyVersion then
    .error (.invalidEvent "publication requires a new private handshake")
  else if event.kind ≠ MESSAGE_EVENT_KIND then
    .error (.invalidEvent "relay publish must be kind 1060")
  else do
    event.verify.mapError PairwiseError.wire
    if event.tags.any (fun tag => tag.head? = some (EventCodec.text K "p")) then
      .error (.invalidEvent "pairwise relay publish must not reveal a recipient key")
    else .ok ()

def ensureOutboundCapacity (state : PairwiseState K T J) (limits : RuntimeLimits)
    (additional : Nat) : Except (PairwiseError K) Unit :=
  if state.pendingOutboundCount + additional > limits.maxPendingOutbound then
    .error (.queueFull "outbound")
  else .ok ()

def ensurePeerCapacity (state : PairwiseState K T J) (limits : RuntimeLimits)
    (peerPubkey : K) : Except (PairwiseError K) Unit :=
  if !state.peers.contains peerPubkey ∧ state.peers.length ≥ limits.maxPeers then
    .error (.queueFull "peers")
  else .ok ()

def ensureWinningHandshake (state : PairwiseState K T J) (peerPubkey : K)
    (incomingCreatedAt : UnixSeconds) (incomingSessionId : K) :
    Except (PairwiseError K) Unit :=
  match state.peers.get? peerPubkey with
  | none => .ok ()
  | some peer =>
      if peer.winningRank.any (fun winningRank =>
          winningRank > toLex (incomingCreatedAt, incomingSessionId)) then
        .error (.invalidEvent "handshake is older than the active pairwise session")
      else .ok ()

def actionSessionId : PairwiseActionKind K T J → Option K
  | .publish sessionId _ _ => some sessionId
  | .outOfBand _ sessionId _ => some sessionId
  | _ => none

def retireSessions (state : PairwiseState K T J) (retired : List (SessionRecord K T J)) :
    PairwiseState K T J :=
  let sessionIds := retired.map SessionRecord.handshakeId
  { state with
    pendingActions := state.pendingActions.filter (fun action =>
      (actionSessionId action.kind).all (fun sessionId => sessionId ∉ sessionIds)) }

def pushAction (state : PairwiseState K T J) (kind : PairwiseActionKind K T J) :
    PairwiseM K T J P (PairwiseState K T J) := do
  let uuid ← newUuid
  pure { state with
    pendingActions := state.pendingActions ++ [⟨⟨state.localPubkey, uuid⟩, kind⟩] }

def hasPendingOutOfBandEvent (state : PairwiseState K T J) (peerPubkey sessionId : K)
    (eventJson : J) : Bool :=
  state.pendingActions.any (fun action =>
    action.kind = .outOfBand peerPubkey sessionId eventJson)

def hasPendingPublishEvent (state : PairwiseState K T J) (sessionId : K) (eventJson : J) :
    Bool :=
  state.pendingActions.any (fun action => match action.kind with
    | .publish pendingSession pending _ => pendingSession = sessionId && pending = eventJson
    | _ => false)

/-! The message subscription. -/

/-- The loop over the peers, with the authors collected so far. -/
def collectAuthors (limits : RuntimeLimits) :
    List (PeerState K T J) → SortedSet K → Except (PairwiseError K) (SortedSet K)
  | [], authors => .ok authors
  | peer :: rest, authors =>
      let authors := authors.extend peer.trackedSenderPubkeys
      if authors.length > limits.maxSubscriptionAuthors then
        .error (.queueFull "subscription-authors")
      else collectAuthors limits rest authors

def messageAuthors (state : PairwiseState K T J) (limits : RuntimeLimits) :
    Except (PairwiseError K) (List K) :=
  SortedSet.toList <$> collectAuthors limits state.peers.values SortedSet.empty

/-- An action on the message subscription. -/
def isSubscriptionAction (subscriptionId : String) : PairwiseActionKind K T J → Bool
  | .subscribe pending _ => pending = subscriptionId
  | .unsubscribe pending => pending = subscriptionId
  | _ => false

def refreshSubscriptionActions (state : PairwiseState K T J) (installedAuthors : List K)
    (force : Bool) (limits : RuntimeLimits) :
    PairwiseM K T J P (PairwiseState K T J × List K) := do
  let authors ← check (messageAuthors state limits)
  let subscriptionId := state.messageSubscriptionId
  let expectedFilter ← json (EventCodec.filterToJson MESSAGE_EVENT_KIND authors)
  let hasPendingSubscribe := state.pendingActions.any (fun action =>
    action.kind = .subscribe subscriptionId expectedFilter)
  let hasPendingUnsubscribe := state.pendingActions.any (fun action =>
    action.kind = .unsubscribe subscriptionId)
  if installedAuthors = [] ∧
      (hasPendingSubscribe ∨ (authors = [] ∧ hasPendingUnsubscribe)) then
    pure (state, authors)
  else if !force ∧ authors = installedAuthors then pure (state, authors)
  else do
    let cleared := { state with
      pendingActions := state.pendingActions.filter (fun action =>
        !isSubscriptionAction subscriptionId action.kind) }
    let closed ← (if authors = [] ∧ installedAuthors ≠ [] then
        pushAction cleared (.unsubscribe subscriptionId)
      else pure cleared)
    let opened ← (if authors ≠ [] then
        pushAction closed (.subscribe subscriptionId expectedFilter)
      else pure closed)
    pure (opened, authors)

/-! Committing. -/

def commitNext (next : PairwiseState K T J) (installedMessageAuthors : List K) :
    PairwiseM K T J P Unit := do
  let manager ← manager
  if manager.state.generation ≥ u64Max then throw (.storage "state generation overflow")
  else do
    let next := { next with generation := manager.state.generation + 1 }
    check (next.validate manager.publicKey manager.limits)
    let nonce ← liftRand randomNonce
    let payload ← check (sealState next manager.identityKeys nonce
      manager.limits.maxPersistedStateBytes)
    storeCommit next.generation payload
    update (fun cell => { cell with
      manager := { cell.manager with
        state := next
        installedMessageAuthors := installedMessageAuthors } })

def refreshMessageSubscription (force : Bool) : PairwiseM K T J P Unit := do
  let manager ← manager
  let (next, authors) ← refreshSubscriptionActions manager.state
    manager.installedMessageAuthors force manager.limits
  if next.pendingActions = manager.state.pendingActions then
    update (fun cell => { cell with
      manager := { cell.manager with installedMessageAuthors := authors } })
  else commitNext next authors

/-- Refresh the subscription of the next state, then commit it. -/
def refreshAndCommit (next : PairwiseState K T J) : PairwiseM K T J P Unit := do
  let manager ← manager
  let (next, authors) ← refreshSubscriptionActions next manager.installedMessageAuthors false
    manager.limits
  commitNext next authors

end

end NostrDoubleRatchet
