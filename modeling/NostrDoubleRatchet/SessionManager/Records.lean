import Mathlib.Data.Prod.Lex
import NostrDoubleRatchet.AppKeys
import NostrDoubleRatchet.Invite
import NostrDoubleRatchet.Roster

/-!
The records a session manager keeps for each owner and device, as in
`session_manager.rs` and `session_manager/records.rs`.
-/

namespace NostrDoubleRatchet

def MAX_INACTIVE_SESSIONS : Nat := 10

structure DeviceRecord (K T : Type) [LinearOrder K] where
  devicePubkey : DevicePubkey K
  authorized : Bool
  isStale : Bool
  staleSince : Option UnixSeconds
  claimedOwnerPubkey : Option (OwnerPubkey K)
  publicInvite : Option (Invite K T)
  inviteResponseGenerated : Bool
  activeSession : Option (Session K)
  inactiveSessions : List (Session K)
  lastActivity : Option UnixSeconds
  createdAt : UnixSeconds
  deriving DecidableEq

structure UserRecord (K T : Type) [LinearOrder K] where
  ownerPubkey : OwnerPubkey K
  roster : Option (DeviceRoster K)
  devices : SortedMap (DevicePubkey K) (DeviceRecord K T)
  deriving DecidableEq

structure SessionManager (K T : Type) [LinearOrder K] where
  localOwnerPubkey : OwnerPubkey K
  localDevicePubkey : DevicePubkey K
  localDeviceSecretKey : K
  localInvite : Option (Invite K T)
  verifiedPeerAppKeys : VerifiedAppKeysIndex K
  users : SortedMap (OwnerPubkey K) (UserRecord K T)
  deriving DecidableEq

structure DeviceRecordSnapshot (K T : Type) [LinearOrder K] where
  devicePubkey : DevicePubkey K
  authorized : Bool
  isStale : Bool
  staleSince : Option UnixSeconds
  claimedOwnerPubkey : Option (OwnerPubkey K)
  publicInvite : Option (Invite K T)
  inviteResponseGenerated : Bool
  activeSession : Option (SessionState K)
  inactiveSessions : List (SessionState K)
  lastActivity : Option UnixSeconds
  createdAt : UnixSeconds
  deriving DecidableEq

structure UserRecordSnapshot (K T : Type) [LinearOrder K] where
  ownerPubkey : OwnerPubkey K
  roster : Option (DeviceRoster K)
  devices : List (DeviceRecordSnapshot K T)
  deriving DecidableEq

structure SessionManagerSnapshot (K T : Type) [LinearOrder K] where
  localOwnerPubkey : OwnerPubkey K
  localDevicePubkey : DevicePubkey K
  localInvite : Option (Invite K T)
  verifiedPeerAppKeysEvents : List (Event K)
  users : List (UserRecordSnapshot K T)
  deriving DecidableEq

inductive SendSessionSource where
  | active
  | inactive (index : Nat)
  deriving DecidableEq

section

variable {K T : Type} [LinearOrder K]

/-- Priorities are compared by direction first, then by the two counters. -/
abbrev SessionPriority := Nat ×ₗ Nat ×ₗ Nat

def sessionPriority (session : Session K) : SessionPriority :=
  let canReceive := session.state.receivingChainKey.isSome ||
    session.state.theirCurrentNostrPublicKey.isSome ||
    decide (session.state.receivingChainMessageNumber > 0)
  let directionality := match session.canSend, canReceive with
    | true, true => 3
    | true, false => 2
    | false, true => 1
    | false, false => 0
  toLex (directionality, toLex (session.state.receivingChainMessageNumber,
    session.state.sendingChainMessageNumber))

def isOneWayBootstrapSession (session : Session K) : Bool :=
  session.state.receivingChainKey.isNone && session.state.theirCurrentNostrPublicKey.isNone

namespace DeviceRecord

def new (devicePubkey : DevicePubkey K) (createdAt : UnixSeconds) : DeviceRecord K T where
  devicePubkey := devicePubkey
  authorized := false
  isStale := false
  staleSince := none
  claimedOwnerPubkey := none
  publicInvite := none
  inviteResponseGenerated := false
  activeSession := none
  inactiveSessions := []
  lastActivity := none
  createdAt := createdAt

def fromSnapshot (snapshot : DeviceRecordSnapshot K T) : DeviceRecord K T where
  devicePubkey := snapshot.devicePubkey
  authorized := snapshot.authorized
  isStale := snapshot.isStale
  staleSince := snapshot.staleSince
  claimedOwnerPubkey := snapshot.claimedOwnerPubkey
  publicInvite := snapshot.publicInvite.filter (fun invite =>
    invite.metadataPrivacyVersion = METADATA_PRIVACY_VERSION)
  inviteResponseGenerated := snapshot.inviteResponseGenerated
  activeSession := (snapshot.activeSession.filter (fun state =>
    state.metadataPrivacyVersion = METADATA_PRIVACY_VERSION)).map Session.fromState
  inactiveSessions := (snapshot.inactiveSessions.filter (fun state =>
    state.metadataPrivacyVersion = METADATA_PRIVACY_VERSION)).map Session.fromState
  lastActivity := snapshot.lastActivity
  createdAt := snapshot.createdAt

def snapshot (record : DeviceRecord K T) : DeviceRecordSnapshot K T where
  devicePubkey := record.devicePubkey
  authorized := record.authorized
  isStale := record.isStale
  staleSince := record.staleSince
  claimedOwnerPubkey := record.claimedOwnerPubkey
  publicInvite := record.publicInvite
  inviteResponseGenerated := record.inviteResponseGenerated
  activeSession := record.activeSession.map Session.state
  inactiveSessions := record.inactiveSessions.map Session.state
  lastActivity := record.lastActivity
  createdAt := record.createdAt

/-- The loop of `best_send_session_source` over the inactive sessions. -/
def bestInactiveSource : Nat → List (Session K) →
    Option (SendSessionSource × SessionPriority) → Option (SendSessionSource × SessionPriority)
  | _, [], best => best
  | index, session :: rest, best =>
      if session.canSend && best.all (fun current => current.2 < sessionPriority session) then
        bestInactiveSource (index + 1) rest (some (.inactive index, sessionPriority session))
      else bestInactiveSource (index + 1) rest best

def bestSendSessionSource (record : DeviceRecord K T) : Option SendSessionSource :=
  let active := (record.activeSession.filter Session.canSend).map (fun session =>
    (SendSessionSource.active, sessionPriority session))
  (bestInactiveSource 0 record.inactiveSessions active).map Prod.fst

def sessionForSendSource (record : DeviceRecord K T) : SendSessionSource → Option (Session K)
  | .active => record.activeSession
  | .inactive index => record.inactiveSessions[index]?

def containsState (record : DeviceRecord K T) (state : SessionState K) : Bool :=
  record.activeSession.any (fun session => session.state = state) ||
    record.inactiveSessions.any (fun session => session.state = state)

/-- The loop of `compact_duplicate_sessions`, with the states seen so far. -/
def compactSessions (activeState : Option (SessionState K)) :
    List (SessionState K) → List (Session K) → List (Session K)
  | _, [] => []
  | uniqueStates, session :: rest =>
      if activeState = some session.state ∨ session.state ∈ uniqueStates then
        compactSessions activeState uniqueStates rest
      else session :: compactSessions activeState (uniqueStates ++ [session.state]) rest

def compactDuplicateSessions (record : DeviceRecord K T) : DeviceRecord K T :=
  { record with
    inactiveSessions := compactSessions (record.activeSession.map Session.state) []
      record.inactiveSessions }

/-- `truncate(MAX_INACTIVE_SESSIONS)`. -/
def truncateInactive (record : DeviceRecord K T) : DeviceRecord K T :=
  { record with inactiveSessions := record.inactiveSessions.take MAX_INACTIVE_SESSIONS }

/-- Put a new session next to the active one, the one of higher priority active. -/
def placeSession (record : DeviceRecord K T) (session : Session K) : DeviceRecord K T :=
  match record.activeSession with
  | none => { record with activeSession := some session }
  | some oldActive =>
      if sessionPriority oldActive ≥ sessionPriority session then
        { record with inactiveSessions := record.inactiveSessions ++ [session] }
      else { record with
        inactiveSessions := record.inactiveSessions ++ [oldActive]
        activeSession := some session }

def upsertSession (record : DeviceRecord K T) (session : Session K) (now : UnixSeconds) :
    DeviceRecord K T :=
  if record.containsState session.state then
    { record.compactDuplicateSessions with lastActivity := some now }
  else
    { (record.placeSession session).compactDuplicateSessions.truncateInactive with
      lastActivity := some now }

def promoteInactiveSession (record : DeviceRecord K T) (session : Session K) :
    DeviceRecord K T :=
  let placed := match record.activeSession with
    | none => { record with activeSession := some session }
    | some oldActive =>
        if sessionPriority session > sessionPriority oldActive then
          { record with
            inactiveSessions :=
              if oldActive.state ≠ session.state then record.inactiveSessions ++ [oldActive]
              else record.inactiveSessions
            activeSession := some session }
        else { record with inactiveSessions := record.inactiveSessions ++ [session] }
  placed.compactDuplicateSessions.truncateInactive

/-- The later of two optional times, or the earlier, as `combine` says. -/
def mergeTimes (combine : UnixSeconds → UnixSeconds → UnixSeconds) :
    Option UnixSeconds → Option UnixSeconds → Option UnixSeconds
  | some existing, some incoming => some (combine existing incoming)
  | none, incoming => incoming
  | existing, none => existing

/-- The invite to keep when a record with one is observed or absorbed. -/
def newerInvite (current : Option (Invite K T)) (incoming : Invite K T) : Option (Invite K T) :=
  if current.all (fun existing => incoming.createdAt ≥ existing.createdAt) then some incoming
  else current

def absorb (record other : DeviceRecord K T) (now : UnixSeconds) : DeviceRecord K T :=
  let merged := { record with
    authorized := record.authorized || other.authorized
    isStale := record.isStale && other.isStale
    staleSince := mergeTimes min record.staleSince other.staleSince
    claimedOwnerPubkey := record.claimedOwnerPubkey.or other.claimedOwnerPubkey
    createdAt := mergeCreatedAt record.createdAt other.createdAt
    publicInvite := match other.publicInvite with
      | none => record.publicInvite
      | some publicInvite => newerInvite record.publicInvite publicInvite
    inviteResponseGenerated := record.inviteResponseGenerated || other.inviteResponseGenerated }
  let withActive := match other.activeSession with
    | none => merged
    | some session => merged.upsertSession session now
  let absorbed := other.inactiveSessions.foldl
    (fun record session => record.upsertSession session now) withActive
  { absorbed with lastActivity := mergeTimes max absorbed.lastActivity other.lastActivity }

end DeviceRecord

namespace UserRecord

def new (ownerPubkey : OwnerPubkey K) : UserRecord K T :=
  ⟨ownerPubkey, none, SortedMap.empty⟩

def fromSnapshot (snapshot : UserRecordSnapshot K T) : UserRecord K T where
  ownerPubkey := snapshot.ownerPubkey
  roster := snapshot.roster
  devices := SortedMap.ofList ((snapshot.devices.map DeviceRecord.fromSnapshot).map
    (fun record => (record.devicePubkey, record)))

def snapshot (user : UserRecord K T) : UserRecordSnapshot K T where
  ownerPubkey := user.ownerPubkey
  roster := user.roster
  devices := user.devices.values.map DeviceRecord.snapshot

/-- The record of a device, new if there is none. -/
def deviceRecord (user : UserRecord K T) (device : DevicePubkey K) (createdAt : UnixSeconds) :
    DeviceRecord K T :=
  (user.devices.get? device).getD (DeviceRecord.new device createdAt)

def setDevice (user : UserRecord K T) (device : DevicePubkey K) (record : DeviceRecord K T) :
    UserRecord K T :=
  { user with devices := user.devices.insert device record }

/-- The flags of an existing record under the devices that are authorized now. -/
def refreshRecord (ownerPubkey : OwnerPubkey K) (rosterCreatedAt : Option UnixSeconds)
    (authorizedDevices : List (DevicePubkey K)) (record : DeviceRecord K T) :
    DeviceRecord K T :=
  let selfOwned := ownerPubkeyFromDevicePubkey record.devicePubkey = ownerPubkey
  if selfOwned ∨ record.devicePubkey ∈ authorizedDevices then
    { record with authorized := true, isStale := false, staleSince := none }
  else
    match rosterCreatedAt with
    | some rosterCreatedAt => { record with
        authorized := false
        isStale := true
        staleSince := record.staleSince.or (some rosterCreatedAt) }
    | none => { record with authorized := false, isStale := false, staleSince := none }

/-- The record of a device the roster names. -/
def rosterRecord (ownerPubkey : OwnerPubkey K) (authorizedDevices : List (DevicePubkey K))
    (device : AuthorizedDevice K) (record : DeviceRecord K T) : DeviceRecord K T :=
  let createdAt := mergeCreatedAt record.createdAt device.createdAt
  if device.devicePubkey ∈ authorizedDevices ∨
      ownerPubkeyFromDevicePubkey device.devicePubkey = ownerPubkey then
    { record with
      authorized := true, isStale := false, staleSince := none, createdAt := createdAt }
  else { record with authorized := false, createdAt := createdAt }

def addRosterDevice (authorizedDevices : List (DevicePubkey K)) (user : UserRecord K T)
    (device : AuthorizedDevice K) : UserRecord K T :=
  user.setDevice device.devicePubkey (rosterRecord user.ownerPubkey authorizedDevices device
    (user.deviceRecord device.devicePubkey device.createdAt))

def recomputeAuthorization (user : UserRecord K T) (authorizedDevices : List (DevicePubkey K)) :
    UserRecord K T :=
  let refreshed := { user with
    devices := user.devices.mapValues (fun _ => refreshRecord user.ownerPubkey
      (user.roster.map DeviceRoster.createdAt) authorizedDevices) }
  ((user.roster.map DeviceRoster.devices).getD []).foldl (addRosterDevice authorizedDevices)
    refreshed

def authorizedNonStaleDevices (user : UserRecord K T) : List (DevicePubkey K) :=
  (user.devices.values.filter (fun record => record.authorized && !record.isStale)).map
    DeviceRecord.devicePubkey

end UserRecord

end

end NostrDoubleRatchet
