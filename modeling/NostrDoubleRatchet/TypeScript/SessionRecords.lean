import NostrDoubleRatchet.Lib.HexText
import NostrDoubleRatchet.TypeScript.AppKeysEvents

/-!
The user records of the TypeScript session manager: the sessions of a device
(`DeviceRecordActor.ts`), the record of a user, the object that `storeUserRecord` writes and the
record that `hydrateUserRecord` makes of it. The two methods of a session are parameters. A JSON
text is given by the value it stands for.
-/

namespace NostrDoubleRatchet.TypeScript.SessionRecords

def METADATA_PRIVACY_VERSION : Nat := 2

abbrev Bytes := List UInt8

structure KeyPair where
  publicKey : String
  privateKey : Bytes
  deriving DecidableEq

structure SkippedKeys where
  headerKeys : List Bytes
  messageKeys : InsertionMap String Bytes

structure SessionState where
  metadataPrivacyVersion : Option Nat
  rootKey : Bytes
  theirCurrentNostrPublicKey : Option String
  theirNextNostrPublicKey : String
  ourCurrentNostrKey : Option KeyPair
  ourNextNostrKey : KeyPair
  receivingChainKey : Option Bytes
  sendingChainKey : Option Bytes
  sendingChainMessageNumber : Nat
  receivingChainMessageNumber : Nat
  previousSendingChainMessageCount : Nat
  skippedKeys : InsertionMap String SkippedKeys

structure Session where
  name : String
  state : SessionState

/-- The session is at the version that private handshakes have. -/
def Session.Current (session : Session) : Prop :=
  session.state.metadataPrivacyVersion = some METADATA_PRIVACY_VERSION

/-- `receiveEvent` and `sendEvent` of `Session.ts`. Either may change the state also where it
throws, or where nothing is decrypted. -/
structure Ratchet where
  receiveEvent : SessionState → VerifiedEvent → SessionState × Option Rumor
  sendEvent : SessionState → Rumor → String → SessionState × Option VerifiedEvent

/-! `sessionSelection.ts`. -/

def sessionCanSend (session : Session) : Bool :=
  session.state.metadataPrivacyVersion = some METADATA_PRIVACY_VERSION &&
    session.state.theirNextNostrPublicKey ≠ "" && session.state.ourCurrentNostrKey.isSome

def sessionCanReceive (session : Session) : Bool :=
  session.state.metadataPrivacyVersion = some METADATA_PRIVACY_VERSION &&
    (session.state.receivingChainKey.isSome ||
      (truthy session.state.theirCurrentNostrPublicKey).isSome ||
      session.state.receivingChainMessageNumber > 0)

def sessionHasActivity (session : Session) : Bool :=
  session.state.sendingChainMessageNumber > 0 || session.state.receivingChainMessageNumber > 0

def sessionPriority (session : Session) : List Nat :=
  let canSend := sessionCanSend session
  let canReceive := sessionCanReceive session
  let directionality :=
    if canSend && canReceive then 3 else if canSend then 2 else if canReceive then 1 else 0
  [directionality, session.state.receivingChainMessageNumber,
    session.state.previousSendingChainMessageCount, session.state.sendingChainMessageNumber]

def sendSessionPriority (session : Session) (active : Bool) : List Nat :=
  match sessionPriority session with
  | directionality :: rest =>
      directionality :: (if active && sessionCanReceive session then 1 else 0) :: rest
  | [] => []

def compareSessionPriority : List Nat → List Nat → Int
  | left :: lefts, right :: rights =>
      if left = right then compareSessionPriority lefts rights else (left : Int) - right
  | _, _ => 0

structure SendCandidate where
  session : Session
  active : Bool

def sortedSendableSessionCandidates (activeSession : Option Session)
    (inactiveSessions : List Session) : List SendCandidate :=
  let candidates := (activeSession.toList.map (fun session => SendCandidate.mk session true) ++
    inactiveSessions.map (fun session => SendCandidate.mk session false)).filter
      (fun candidate => sessionCanSend candidate.session)
  candidates.mergeSort (fun left right => decide (compareSessionPriority
    (sendSessionPriority right.session right.active)
    (sendSessionPriority left.session left.active) ≤ 0))

/-! `DeviceRecordActor.ts`. -/

inductive DeviceSetupState where
  | new
  | waitingForInvite
  | acceptingInvite
  | sessionReady
  | stale
  | revoked
  deriving DecidableEq

structure DeviceRecordActor where
  deviceId : String
  activeSession : Option Session
  inactiveSessions : List Session
  state : DeviceSetupState
  createdAt : Nat

def MAX_INACTIVE_SESSIONS : Nat := 10

namespace DeviceRecordActor

def new (deviceId : String) (createdAt : Nat) : DeviceRecordActor :=
  ⟨deviceId, none, [], .new, createdAt⟩

def sessions (device : DeviceRecordActor) : List Session :=
  device.activeSession.toList ++ device.inactiveSessions

def trimInactiveSessions (device : DeviceRecordActor) : DeviceRecordActor :=
  { device with inactiveSessions := device.inactiveSessions.take MAX_INACTIVE_SESSIONS }

def hasEstablishedActiveSession (device : DeviceRecordActor) : Bool :=
  device.activeSession.any (fun session =>
    sessionCanSend session && (sessionCanReceive session || sessionHasActivity session))

/-- `pruneDuplicateSessions` for a session that is a new object. -/
def pruneDuplicateSessions (device : DeviceRecordActor) (session : Session) : DeviceRecordActor :=
  { device with
    activeSession := device.activeSession.filter (·.name ≠ session.name)
    inactiveSessions := device.inactiveSessions.filter (·.name ≠ session.name) }

def promoteToActive (device : DeviceRecordActor) (nextSession : Session)
    (force preferActive : Bool) : DeviceRecordActor :=
  let rest := device.inactiveSessions.filter (·.name ≠ nextSession.name)
  match device.activeSession with
  | none =>
      { device with activeSession := some nextSession, inactiveSessions := rest }.trimInactiveSessions
  | some current =>
      if current.name = nextSession.name then
        { device with activeSession := some nextSession, inactiveSessions := rest }
      else if force || (preferActive && !device.hasEstablishedActiveSession) ||
          !decide (compareSessionPriority (sessionPriority current)
            (sessionPriority nextSession) ≥ 0) then
        { device with
          activeSession := some nextSession
          inactiveSessions := current :: rest }.trimInactiveSessions
      else
        { device with inactiveSessions := nextSession :: rest }.trimInactiveSessions

/-- `installSession` for a session that is a new object. -/
def installSession (device : DeviceRecordActor) (session : Session)
    (inactive preferActive : Bool) : DeviceRecordActor :=
  let device := device.pruneDuplicateSessions session
  let device :=
    if inactive then
      { device with inactiveSessions := session :: device.inactiveSessions }.trimInactiveSessions
    else device.promoteToActive session false preferActive
  if device.activeSession.isSome then { device with state := .sessionReady } else device

/-- A session object has a new state, wherever it is listed. -/
def setSession (device : DeviceRecordActor) (session : Session) : DeviceRecordActor :=
  let update (old : Session) := if old.name = session.name then session else old
  { device with
    activeSession := device.activeSession.map update
    inactiveSessions := device.inactiveSessions.map update }

/-- The loop of `processReceivedEvent` over the sessions that are left. `skipped` are those that
the memo of failed attempts passes over. -/
def receiveFrom (ratchet : Ratchet) (event : VerifiedEvent) (skipped : List String) :
    List String → List Session → DeviceRecordActor → DeviceRecordActor × Option Rumor
  | _, [], device => (device, none)
  | seen, session :: rest, device =>
      if session.name ∈ seen then receiveFrom ratchet event skipped seen rest device
      else if session.name ∈ skipped then
        receiveFrom ratchet event skipped (session.name :: seen) rest device
      else
        let (state, rumor) := ratchet.receiveEvent session.state event
        let received := Session.mk session.name state
        let device := device.setSession received
        match rumor with
        | none => receiveFrom ratchet event skipped (session.name :: seen) rest device
        | some rumor =>
            ({ device.promoteToActive received true false with state := .sessionReady },
              some rumor)

/-- `processReceivedEvent`. A session of the lists is an installed one, so that its rumor is
always authorized. -/
def processReceivedEvent (ratchet : Ratchet) (device : DeviceRecordActor) (event : VerifiedEvent)
    (skipped : List String) : DeviceRecordActor × Option Rumor :=
  device.receiveFrom ratchet event skipped [] device.sessions

/-- The loop of `sendEventWithBestSession`. -/
def sendWith (ratchet : Ratchet) (rumor : Rumor) :
    List SendCandidate → DeviceRecordActor → DeviceRecordActor × Option VerifiedEvent
  | [], device => (device, none)
  | candidate :: rest, device =>
      let (state, event) := ratchet.sendEvent candidate.session.state rumor device.deviceId
      let sent := Session.mk candidate.session.name state
      let device := device.setSession sent
      match event with
      | none => sendWith ratchet rumor rest device
      | some event =>
          (if candidate.active then device else device.promoteToActive sent true false, some event)

def prepareOutboundEvent (ratchet : Ratchet) (device : DeviceRecordActor) (rumor : Rumor) :
    DeviceRecordActor × Option VerifiedEvent :=
  if device.state = .revoked then (device, none)
  else sendWith ratchet rumor
    (sortedSendableSessionCandidates device.activeSession device.inactiveSessions) device

def deactivateCurrentSession (device : DeviceRecordActor) : DeviceRecordActor :=
  match device.activeSession with
  | none => device
  | some session =>
      { device with
        activeSession := none
        inactiveSessions := device.inactiveSessions ++ [session]
        state := .waitingForInvite }

/-- `revoke` up to its await. -/
def revoke (device : DeviceRecordActor) : DeviceRecordActor :=
  { device with state := .revoked, activeSession := none, inactiveSessions := [] }

end DeviceRecordActor

/-! The roster of a record. A `createdAt` that is `none` is the `null` of a stored infinity. -/

@[ext]
structure RosterDevice where
  identityPubkey : String
  createdAt : Option JsNumber
  deriving DecidableEq

@[ext]
structure DeviceLabels where
  deviceLabel : Option String
  clientLabel : Option String
  updatedAt : Option JsNumber
  deriving DecidableEq

structure AppKeys where
  devices : InsertionMap String RosterDevice
  deviceLabels : InsertionMap String DeviceLabels
  keyed : ∀ entry ∈ devices.entries, entry.1 = entry.2.identityPubkey

/-- `Map.set` for one device after the other. -/
def setDevices (devices : List RosterDevice) (map : InsertionMap String RosterDevice) :
    InsertionMap String RosterDevice :=
  devices.foldl (fun map device => map.set device.identityPubkey device) map

theorem keyed_setDevices (devices : List RosterDevice) {map : InsertionMap String RosterDevice}
    (h : ∀ entry ∈ map.entries, entry.1 = entry.2.identityPubkey) :
    ∀ entry ∈ (setDevices devices map).entries, entry.1 = entry.2.identityPubkey := by
  induction devices generalizing map with
  | nil => exact h
  | cons device rest ih => exact ih (InsertionMap.forall_entries_set h rfl)

namespace AppKeys

def new (devices : List RosterDevice) (deviceLabels : List (String × DeviceLabels)) : AppKeys where
  devices := setDevices devices InsertionMap.empty
  deviceLabels := deviceLabels.foldl (fun map labels => map.set labels.1 labels.2)
    InsertionMap.empty
  keyed := keyed_setDevices devices (by
    intro entry hmem
    cases hmem)

def getAllDevices (appKeys : AppKeys) : List RosterDevice := appKeys.devices.values

end AppKeys

/-! What is stored. -/

structure StoredKeyPair where
  publicKey : String
  privateKey : String

structure StoredSkippedKeys where
  headerKeys : List String
  messageKeys : List (String × String)

structure StoredSessionState where
  version : Nat
  metadataPrivacyVersion : Option Nat
  rootKey : String
  theirCurrentNostrPublicKey : Option String
  theirNextNostrPublicKey : String
  ourCurrentNostrKey : Option StoredKeyPair
  ourNextNostrKey : StoredKeyPair
  receivingChainKey : Option String
  sendingChainKey : Option String
  sendingChainMessageNumber : Nat
  receivingChainMessageNumber : Nat
  previousSendingChainMessageCount : Nat
  skippedKeys : List (String × StoredSkippedKeys)

def VERSION_NUMBER : Nat := 1

def serializeSessionState (state : SessionState) : StoredSessionState :=
  let keyPair (key : KeyPair) : StoredKeyPair := ⟨key.publicKey, HexText.encode key.privateKey⟩
  { version := VERSION_NUMBER
    metadataPrivacyVersion := state.metadataPrivacyVersion
    rootKey := HexText.encode state.rootKey
    theirCurrentNostrPublicKey := state.theirCurrentNostrPublicKey
    theirNextNostrPublicKey := state.theirNextNostrPublicKey
    ourCurrentNostrKey := state.ourCurrentNostrKey.map keyPair
    ourNextNostrKey := keyPair state.ourNextNostrKey
    receivingChainKey := state.receivingChainKey.map HexText.encode
    sendingChainKey := state.sendingChainKey.map HexText.encode
    sendingChainMessageNumber := state.sendingChainMessageNumber
    receivingChainMessageNumber := state.receivingChainMessageNumber
    previousSendingChainMessageCount := state.previousSendingChainMessageCount
    skippedKeys := state.skippedKeys.entries.map (fun entry =>
      (entry.1, ⟨entry.2.headerKeys.map HexText.encode,
        entry.2.messageKeys.entries.map (fun key => (key.1, HexText.encode key.2))⟩)) }

/-- `Object.fromEntries`. -/
def fromEntries {α : Type} (entries : List (String × α)) : InsertionMap String α :=
  entries.foldl (fun map entry => map.set entry.1 entry.2) InsertionMap.empty

def deserializeKeyPair (key : StoredKeyPair) : Option KeyPair := do
  pure ⟨key.publicKey, ← HexText.decode key.privateKey⟩

def deserializeSkippedKeys (keys : StoredSkippedKeys) : Option SkippedKeys := do
  let headerKeys ← keys.headerKeys.mapM HexText.decode
  let messageKeys ← keys.messageKeys.mapM (fun key => do pure (key.1, ← HexText.decode key.2))
  pure ⟨headerKeys, fromEntries messageKeys⟩

/-- An optional field, which is read where it is there. -/
def optionally {α β : Type} (read : α → Option β) : Option α → Option (Option β)
  | none => some none
  | some value => (read value).map some

/-- The branch of the current version. -/
def deserializeSessionState (stored : StoredSessionState) : Option SessionState := do
  let rootKey ← HexText.decode stored.rootKey
  let ourCurrentNostrKey ← optionally deserializeKeyPair stored.ourCurrentNostrKey
  let ourNextNostrKey ← deserializeKeyPair stored.ourNextNostrKey
  let receivingChainKey ← optionally HexText.decode stored.receivingChainKey
  let sendingChainKey ← optionally HexText.decode stored.sendingChainKey
  let skippedKeys ← stored.skippedKeys.mapM (fun entry => do
    pure (entry.1, ← deserializeSkippedKeys entry.2))
  pure
    { metadataPrivacyVersion := stored.metadataPrivacyVersion
      rootKey
      theirCurrentNostrPublicKey := stored.theirCurrentNostrPublicKey
      theirNextNostrPublicKey := stored.theirNextNostrPublicKey
      ourCurrentNostrKey
      ourNextNostrKey
      receivingChainKey
      sendingChainKey
      sendingChainMessageNumber := stored.sendingChainMessageNumber
      receivingChainMessageNumber := stored.receivingChainMessageNumber
      previousSendingChainMessageCount := stored.previousSendingChainMessageCount
      skippedKeys := fromEntries skippedKeys }

structure StoredSessionEntry where
  name : String
  state : StoredSessionState

def serializeSession (session : Session) : StoredSessionEntry :=
  ⟨session.name, serializeSessionState session.state⟩

def deserializeStoredSession (entry : StoredSessionEntry) : Option Session := do
  let state ← deserializeSessionState entry.state
  if state.metadataPrivacyVersion ≠ some METADATA_PRIVACY_VERSION then none
  else pure ⟨entry.name, state⟩

/-- A number as `JSON.stringify` writes it: what is not finite becomes `null`. -/
def jsonNumber : Option JsNumber → Option Int
  | some (.integer value) => some value
  | _ => none

structure StoredLabels where
  identityPubkey : String
  deviceLabel : Option String
  clientLabel : Option String
  updatedAt : Option Int

structure StoredAppKeys where
  devices : List (String × Option Int)
  deviceLabels : List StoredLabels

def AppKeys.serialize (appKeys : AppKeys) : StoredAppKeys where
  devices := appKeys.getAllDevices.map (fun device =>
    (device.identityPubkey, jsonNumber device.createdAt))
  deviceLabels := appKeys.deviceLabels.entries.map (fun entry =>
    ⟨entry.1, entry.2.deviceLabel, entry.2.clientLabel, jsonNumber entry.2.updatedAt⟩)

def AppKeys.deserialize (stored : StoredAppKeys) : AppKeys :=
  AppKeys.new (stored.devices.map (fun device => ⟨device.1, device.2.map .integer⟩))
    (stored.deviceLabels.map (fun labels =>
      (labels.identityPubkey,
        ⟨labels.deviceLabel, labels.clientLabel, labels.updatedAt.map .integer⟩)))

structure OnEventMeta where
  fromDeviceId : Option String
  outerEventId : Option String
  senderOwnerPubkey : Option String
  senderDevicePubkey : Option String
  origin : MessageOrigin
  isSelf : Bool
  isCrossDeviceSelf : Bool
  deriving DecidableEq

structure StoredDurableSessionEvent where
  id : String
  event : Rumor
  sender : String
  eventMeta : OnEventMeta
  deriving DecidableEq

structure StoredDeviceRecord where
  deviceId : String
  activeSession : Option StoredSessionEntry
  inactiveSessions : List StoredSessionEntry
  createdAt : Nat

structure StoredUserRecord where
  publicKey : String
  pendingDurableEvents : List StoredDurableSessionEvent
  devices : List StoredDeviceRecord
  appKeys : Option StoredAppKeys
  appKeysCreatedAt : JsNumber
  appKeysEvent : Option VerifiedEvent

/-! `UserRecordActor.ts`. -/

structure UserRecordActor where
  publicKey : String
  appKeys : Option AppKeys
  appKeysEvent : Option VerifiedEvent
  latestAppKeysCreatedAt : JsNumber
  devices : InsertionMap String DeviceRecordActor
  pendingDurableEvents : InsertionMap String StoredDurableSessionEvent

namespace UserRecordActor

def new (publicKey : String) : UserRecordActor :=
  ⟨publicKey, none, none, .integer 0, InsertionMap.empty, InsertionMap.empty⟩

/-- `ensureDevice`, which throws without a device id. -/
def ensureDevice (record : UserRecordActor) (deviceId : String) (createdAt : Nat) :
    Option UserRecordActor :=
  if deviceId = "" then none
  else if (record.devices.get? deviceId).isSome then some record
  else some { record with
    devices := record.devices.set deviceId (DeviceRecordActor.new deviceId createdAt) }

/-- One device of the record does something. -/
def onDevice (record : UserRecordActor) (deviceId : String)
    (act : DeviceRecordActor → DeviceRecordActor) : UserRecordActor :=
  match record.devices.get? deviceId with
  | none => record
  | some device => { record with devices := record.devices.set deviceId (act device) }

/-- `enqueue` of the durable events. -/
def enqueue (record : UserRecordActor) (entry : StoredDurableSessionEvent) : UserRecordActor :=
  if (record.pendingDurableEvents.get? entry.id).isSome then record
  else { record with pendingDurableEvents := record.pendingDurableEvents.set entry.id entry }

/-- The object that `storeUserRecord` writes. -/
def stored (record : UserRecordActor) : StoredUserRecord :=
  { publicKey := record.publicKey
    pendingDurableEvents := record.pendingDurableEvents.values
    devices := record.devices.values.map (fun device =>
      ⟨device.deviceId, device.activeSession.map serializeSession,
        device.inactiveSessions.map serializeSession, device.createdAt⟩)
    appKeys := record.appKeys.map AppKeys.serialize
    appKeysCreatedAt := record.latestAppKeysCreatedAt
    appKeysEvent := record.appKeysEvent }

end UserRecordActor

/-! `userRecordHydration.ts`. -/

def validTimestamp : JsNumber → JsNumber
  | .integer value => if 0 ≤ value ∧ value ≤ maxSafeInteger then .integer value else .integer 0
  | .infinity _ => .integer 0

/-- The test of a stored durable event. -/
def keepsEntry (publicKey : String) (entry : StoredDurableSessionEvent) : Bool :=
  entry.sender = publicKey && entry.event.id ≠ "" && entry.eventMeta.senderOwnerPubkey = some publicKey

def hydrateSessions (deviceData : StoredDeviceRecord) (device : DeviceRecordActor) :
    DeviceRecordActor :=
  let device := (deviceData.inactiveSessions.filterMap deserializeStoredSession).reverse.foldl
    (fun device session => device.installSession session true false) device
  match deviceData.activeSession.bind deserializeStoredSession with
  | some session => device.installSession session false false
  | none => device

def hydrateDevice (record : UserRecordActor) (deviceData : StoredDeviceRecord) : UserRecordActor :=
  match record.ensureDevice deviceData.deviceId deviceData.createdAt with
  | none => record
  | some record => record.onDevice deviceData.deviceId (hydrateSessions deviceData)

def hydrateUserRecord (record : UserRecordActor) (data : StoredUserRecord) : UserRecordActor :=
  let pending := (data.pendingDurableEvents.filter (keepsEntry record.publicKey)).foldl
    (fun map entry => map.set entry.id entry) InsertionMap.empty
  data.devices.foldl hydrateDevice { record with
    devices := InsertionMap.empty
    pendingDurableEvents := pending
    appKeys := data.appKeys.map AppKeys.deserialize
    latestAppKeysCreatedAt := validTimestamp data.appKeysCreatedAt
    appKeysEvent := data.appKeysEvent }

/-! The operations on a record. -/

/-- The owner and the device that the manager runs for. -/
structure ManagerKeys where
  ownerPublicKey : String
  deviceId : String

/-- The entry that `handleDeviceRumor` makes of a rumor of a durable kind. -/
def durableEntry (keys : ManagerKeys) (ownerPubkey deviceId : String) (rumor : Rumor)
    (outerEvent : VerifiedEvent) : StoredDurableSessionEvent :=
  let origin := classifyMessageOrigin keys.ownerPublicKey keys.deviceId (some ownerPubkey) deviceId
  { id := deviceId ++ ":" ++ rumor.id
    event := rumor
    sender := ownerPubkey
    eventMeta :=
      { fromDeviceId := some deviceId
        outerEventId := some outerEvent.id
        senderOwnerPubkey := some ownerPubkey
        senderDevicePubkey := some deviceId
        origin
        isSelf := isSelfOrigin origin
        isCrossDeviceSelf := isCrossDeviceSelfOrigin origin } }

/-- A record, and the durable events that a drain has taken out of it while their removal is
being stored. -/
structure RecordRun where
  record : UserRecordActor
  acknowledging : List StoredDurableSessionEvent

inductive RecordAction where
  | ensureDevice (deviceId : String) (createdAt : Nat)
  | install (deviceId : String) (session : Session) (inactive preferActive : Bool)
  | receive (deviceId : String) (event : VerifiedEvent) (skipped : List String)
      (durableKinds : List Nat)
  | send (deviceId : String) (rumor : Rumor)
  | deactivateCurrentSessions
  | setState (deviceId : String) (state : DeviceSetupState)
  | revoke (deviceId : String)
  | deleteDevice (deviceId : String)
  | setAppKeys (appKeys : Option AppKeys) (createdAt : JsNumber) (event : Option VerifiedEvent)
  | acknowledge (id : String)
  | acknowledged (entry : Nat)
  /-- The removal could not be stored: the entry is set again. -/
  | restore (entry : Nat)

namespace RecordRun

def new (publicKey : String) : RecordRun := ⟨UserRecordActor.new publicKey, []⟩

def onDevice (run : RecordRun) (deviceId : String)
    (act : DeviceRecordActor → DeviceRecordActor) : RecordRun :=
  { run with record := run.record.onDevice deviceId act }

/-- `processReceivedEvent` of a device, with the durable entry of its rumor. -/
def receive (ratchet : Ratchet) (keys : ManagerKeys) (run : RecordRun) (deviceId : String)
    (event : VerifiedEvent) (skipped : List String) (durableKinds : List Nat) : RecordRun :=
  match run.record.devices.get? deviceId with
  | none => run
  | some device =>
      let (device, rumor) := device.processReceivedEvent ratchet event skipped
      let record := { run.record with devices := run.record.devices.set deviceId device }
      match rumor with
      | none => { run with record }
      | some rumor =>
          if rumor.kind ∈ durableKinds then
            { run with record :=
                record.enqueue (durableEntry keys record.publicKey deviceId rumor event) }
          else { run with record }

def deactivateCurrentSessions (run : RecordRun) : RecordRun :=
  run.record.devices.keys.foldl
    (fun run deviceId => run.onDevice deviceId DeviceRecordActor.deactivateCurrentSession) run

def acknowledge (run : RecordRun) (id : String) : RecordRun :=
  match run.record.pendingDurableEvents.get? id with
  | none => run
  | some entry =>
      { record := { run.record with
          pendingDurableEvents := run.record.pendingDurableEvents.erase id }
        acknowledging := run.acknowledging ++ [entry] }

def restore (run : RecordRun) (index : Nat) : RecordRun :=
  match run.acknowledging[index]? with
  | none => run
  | some entry =>
      { record := { run.record with
          pendingDurableEvents := run.record.pendingDurableEvents.set entry.id entry }
        acknowledging := run.acknowledging.eraseIdx index }

def step (ratchet : Ratchet) (keys : ManagerKeys) (run : RecordRun) : RecordAction → RecordRun
  | .ensureDevice deviceId createdAt =>
      { run with record := (run.record.ensureDevice deviceId createdAt).getD run.record }
  | .install deviceId session inactive preferActive =>
      run.onDevice deviceId (·.installSession session inactive preferActive)
  | .receive deviceId event skipped durableKinds =>
      run.receive ratchet keys deviceId event skipped durableKinds
  | .send deviceId rumor =>
      run.onDevice deviceId (fun device => (device.prepareOutboundEvent ratchet rumor).1)
  | .deactivateCurrentSessions => run.deactivateCurrentSessions
  | .setState deviceId state => run.onDevice deviceId (fun device => { device with state })
  | .revoke deviceId => run.onDevice deviceId DeviceRecordActor.revoke
  | .deleteDevice deviceId =>
      { run with record := { run.record with devices := run.record.devices.erase deviceId } }
  | .setAppKeys appKeys createdAt event =>
      { run with record := { run.record with
          appKeys, latestAppKeysCreatedAt := createdAt, appKeysEvent := event } }
  | .acknowledge id => run.acknowledge id
  | .acknowledged index => { run with acknowledging := run.acknowledging.eraseIdx index }
  | .restore index => run.restore index

def steps (ratchet : Ratchet) (keys : ManagerKeys) (run : RecordRun)
    (actions : List RecordAction) : RecordRun :=
  actions.foldl (step ratchet keys) run

end RecordRun

end NostrDoubleRatchet.TypeScript.SessionRecords
