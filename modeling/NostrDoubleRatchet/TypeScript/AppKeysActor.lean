import NostrDoubleRatchet.RosterFolding
import NostrDoubleRatchet.TypeScript.Events

/-!
How a user record takes over AppKeys: the part of `UserRecordActor.ts` that installs a roster and
removes the devices it no longer lists, with the two callers that compare times
(`processAppKeysEvent`, `applyTrustedAppKeysSnapshot`) and the one that does not, `doAcceptInvite`
of `SessionManagerInvites.ts`. Code between two awaits runs undisturbed; at an await any other
task may run. Storage operations succeed, and labels are left out.
-/

namespace NostrDoubleRatchet.TypeScript

/-- What the roster code reads of a device record. `uid` numbers the records as they are made, so
the list of a user's records is the order in which the JavaScript map yields them. -/
structure DeviceRecordActor where
  uid : Nat
  deviceId : String
  createdAt : Nat
  activeSession : Bool
  revoked : Bool
  deriving DecidableEq

structure UserRecordActor where
  publicKey : String
  ourOwnerPubkey : String
  ourDeviceId : String
  appKeys : Option (AppKeys String)
  latestAppKeysCreatedAt : Nat
  devices : List DeviceRecordActor
  nextUid : Nat

def RECENT_OWN_DEVICE_SESSION_GRACE_MS : Nat := 5 * 60 * 1000

/-- `applyAppKeysSnapshotPreservingLabels`, without the labels. -/
def applyAppKeysSnapshotPreservingLabels (currentAppKeys : Option (AppKeys String))
    (currentCreatedAt : Nat) (incomingAppKeys : AppKeys String) (incomingCreatedAt : Nat) :
    AppKeysSnapshotUpdate (AppKeys String) :=
  let update := applyAppKeysSnapshot AppKeys.merge currentAppKeys currentCreatedAt incomingAppKeys
    incomingCreatedAt
  match update.decision, currentAppKeys with
  | .advanced, some _ => { update with appKeys := AppKeys.new update.appKeys.devices.values }
  | _, _ => update

/-- The identity keys a roster lists, without empty ones. -/
def AppKeys.activeIds (appKeys : AppKeys String) : List String :=
  (appKeys.devices.values.map DeviceEntry.identityPubkey).filter (· ≠ "")

namespace UserRecordActor

def new (publicKey ourOwnerPubkey ourDeviceId : String) : UserRecordActor :=
  ⟨publicKey, ourOwnerPubkey, ourDeviceId, none, 0, [], 0⟩

def ensureDevice (now : Nat) (actor : UserRecordActor) (deviceId : String) : UserRecordActor :=
  if deviceId ∈ actor.devices.map DeviceRecordActor.deviceId then actor
  else { actor with
    devices := actor.devices ++ [⟨actor.nextUid, deviceId, now, false, false⟩]
    nextUid := actor.nextUid + 1 }

/-- `setAppKeys` with its default time. -/
def setAppKeys (actor : UserRecordActor) (appKeys : AppKeys String) : UserRecordActor :=
  { actor with appKeys := some appKeys }

def getTargetDeviceIds (actor : UserRecordActor) : List String :=
  match actor.appKeys with
  | none => []
  | some appKeys => appKeys.activeIds.filter (· ≠ actor.ourDeviceId)

/-- The rule that keeps a device of the local owner although the roster does not list it: its
session is newer than the roster, or recent. Times of records are in milliseconds. -/
def keepsOwnDevice (actor : UserRecordActor) (record : DeviceRecordActor) (createdAt now : Nat) :
    Bool :=
  actor.publicKey = actor.ourOwnerPubkey && record.activeSession &&
    (decide (record.createdAt / 1000 ≥ createdAt) ||
      decide (now ≤ record.createdAt + RECENT_OWN_DEVICE_SESSION_GRACE_MS))

/-- The loop of `onAppKeys` over the records that are left, up to its next await: the records
that the rule keeps, and the record to be revoked. -/
def scan (actor : UserRecordActor) (activeIds : List String) (createdAt now : Nat) :
    List DeviceRecordActor → List Nat × Option DeviceRecordActor
  | [] => ([], none)
  | record :: rest =>
      if record.deviceId ∈ activeIds then scan actor activeIds createdAt now rest
      else if actor.keepsOwnDevice record createdAt now then
        let (kept, found) := scan actor activeIds createdAt now rest
        (record.uid :: kept, found)
      else ([], some record)

/-- `device.revoke()` up to its await. -/
def revoke (actor : UserRecordActor) (uid : Nat) : UserRecordActor :=
  { actor with devices := actor.devices.map (fun record =>
      if record.uid = uid then { record with revoked := true, activeSession := false }
      else record) }

def deleteDevice (actor : UserRecordActor) (deviceId : String) : UserRecordActor :=
  { actor with devices := actor.devices.filter (·.deviceId ≠ deviceId) }

/-- `installSession` of an outgoing session, which makes the record ready. -/
def installSession (actor : UserRecordActor) (deviceId : String) : UserRecordActor :=
  { actor with devices := actor.devices.map (fun record =>
      if record.deviceId = deviceId then { record with revoked := false, activeSession := true }
      else record) }

/-- A session of a record comes or goes. -/
def changeSession (actor : UserRecordActor) (uid : Nat) (active : Bool) : UserRecordActor :=
  { actor with devices := actor.devices.map (fun record =>
      if record.uid = uid then { record with activeSession := active } else record) }

end UserRecordActor

/-- The await at which an `onAppKeys` is suspended. -/
inductive HandlerPoint where
  | migrating (uid : Nat) (deviceId : String)
  | revoking (uid : Nat) (deviceId : String)
  | expanding
  | settling

/-- An `onAppKeys` in flight, with what it captured when it began. -/
structure AppKeysHandler where
  activeIds : List String
  createdAt : Nat
  point : HandlerPoint

/-- A `doAcceptInvite` in flight: while it fetches a roster, and with the roster it holds. -/
inductive InviteTask where
  | fetching (deviceId : String)
  | preloaded (appKeys : AppKeys String) (deviceId : String)

/-- A user record with the tasks that work on it. `offered`, the snapshots handed in so far, and
`kept`, the records that the rule has kept in the latest `onAppKeys`, are not part of the code. -/
structure AppKeysWorld where
  actor : UserRecordActor
  handlers : List AppKeysHandler
  invites : List InviteTask
  offered : List (List (DeviceEntry String) × Nat)
  kept : List Nat

inductive AppKeysAction where
  /-- A signed event of the owner or a trusted snapshot is compared with the record. -/
  | offer (devices : List (DeviceEntry String)) (createdAt now : Nat)
  /-- An invite of `deviceId` is accepted for this owner. -/
  | accept (deviceId : String)
  | fetched (task : Nat) (devices : List (DeviceEntry String))
  | connect (task now : Nat)
  | applyPreloaded (task now : Nat)
  /-- Another task of the manager. -/
  | ensureSetup (now : Nat)
  | session (uid : Nat) (active : Bool)
  | resume (handler now : Nat)

namespace AppKeysWorld

def new (publicKey ourOwnerPubkey ourDeviceId : String) : AppKeysWorld :=
  ⟨UserRecordActor.new publicKey ourOwnerPubkey ourDeviceId, [], [], [], []⟩

/-- The loop of `onAppKeys` from the record number `first` on; behind the loop the listed devices
get their records. -/
def loop (world : AppKeysWorld) (activeIds : List String) (createdAt first now : Nat) :
    AppKeysWorld × HandlerPoint :=
  let (kept, found) := world.actor.scan activeIds createdAt now
    (world.actor.devices.filter (fun record => first ≤ record.uid))
  match found with
  | some record =>
      ({ world with kept := world.kept ++ kept }, .migrating record.uid record.deviceId)
  | none =>
      ({ world with
        kept := world.kept ++ kept
        actor := activeIds.foldl (UserRecordActor.ensureDevice now) world.actor }, .expanding)

def onAppKeys (world : AppKeysWorld) (appKeys : AppKeys String) (createdAt now : Nat) :
    AppKeysWorld :=
  let world := { world with
    actor := { world.actor with
      appKeys := some appKeys
      latestAppKeysCreatedAt := max world.actor.latestAppKeysCreatedAt createdAt }
    kept := [] }
  let (next, point) := world.loop appKeys.activeIds createdAt 0 now
  { next with handlers := next.handlers ++ [⟨appKeys.activeIds, createdAt, point⟩] }

/-- The comparison that `processAppKeysEvent` and `applyTrustedAppKeysSnapshot` make before they
call `onAppKeys`. -/
def offer (world : AppKeysWorld) (devices : List (DeviceEntry String)) (createdAt now : Nat) :
    AppKeysWorld :=
  let world := { world with offered := world.offered ++ [(devices, createdAt)] }
  let next := applyAppKeysSnapshotPreservingLabels world.actor.appKeys
    world.actor.latestAppKeysCreatedAt (AppKeys.new devices) createdAt
  match next.decision with
  | .stale => world
  | _ => world.onAppKeys next.appKeys next.createdAt now

/-- The first part of `doAcceptInvite`: a roster that lists the device is taken along. -/
def accept (world : AppKeysWorld) (deviceId : String) : AppKeysWorld :=
  match world.actor.appKeys with
  | none => { world with invites := world.invites ++ [.fetching deviceId] }
  | some appKeys =>
      if deviceId ∈ appKeys.activeIds then
        { world with
          actor := world.actor.setAppKeys appKeys
          invites := world.invites ++ [.preloaded appKeys deviceId] }
      else world

/-- `fetchAppKeys` has answered; its roster is installed as it is. -/
def fetched (world : AppKeysWorld) (task : Nat) (devices : List (DeviceEntry String)) :
    AppKeysWorld :=
  match world.invites[task]? with
  | some (.fetching deviceId) =>
      if deviceId ∈ (AppKeys.new devices).activeIds then
        { world with
          actor := world.actor.setAppKeys (AppKeys.new devices)
          invites := world.invites.set task (.preloaded (AppKeys.new devices) deviceId) }
      else { world with invites := world.invites.eraseIdx task }
  | _ => world

def connect (world : AppKeysWorld) (task now : Nat) : AppKeysWorld :=
  match world.invites[task]? with
  | some (.preloaded _ deviceId) =>
      { world with
        actor := (UserRecordActor.ensureDevice now world.actor deviceId).installSession deviceId }
  | _ => world

/-- `applyPreloadedRoster`, the last thing `doAcceptInvite` does: no time is compared. -/
def applyPreloaded (world : AppKeysWorld) (task now : Nat) : AppKeysWorld :=
  match world.invites[task]? with
  | some (.preloaded appKeys _) =>
      { world with invites := world.invites.eraseIdx task }.onAppKeys appKeys 0 now
  | _ => world

def ensureSetup (world : AppKeysWorld) (now : Nat) : AppKeysWorld :=
  { world with actor :=
      world.actor.getTargetDeviceIds.foldl (UserRecordActor.ensureDevice now) world.actor }

/-- A suspended `onAppKeys` goes on to its next await. -/
def resume (world : AppKeysWorld) (index now : Nat) : AppKeysWorld :=
  match world.handlers[index]? with
  | none => world
  | some handler =>
      match handler.point with
      | .migrating uid deviceId =>
          { world with
            actor := world.actor.revoke uid
            handlers := world.handlers.set index { handler with point := .revoking uid deviceId } }
      | .revoking uid deviceId =>
          let (next, point) := { world with actor := world.actor.deleteDevice deviceId }.loop
            handler.activeIds handler.createdAt (uid + 1) now
          { next with handlers := next.handlers.set index { handler with point := point } }
      | .expanding =>
          { world with handlers := world.handlers.set index { handler with point := .settling } }
      | .settling => { world with handlers := world.handlers.eraseIdx index }

def step (world : AppKeysWorld) : AppKeysAction → AppKeysWorld
  | .offer devices createdAt now => world.offer devices createdAt now
  | .accept deviceId => world.accept deviceId
  | .fetched task devices => world.fetched task devices
  | .connect task now => world.connect task now
  | .applyPreloaded task now => world.applyPreloaded task now
  | .ensureSetup now => world.ensureSetup now
  | .session uid active => { world with actor := world.actor.changeSession uid active }
  | .resume handler now => world.resume handler now

def run (world : AppKeysWorld) (actions : List AppKeysAction) : AppKeysWorld :=
  actions.foldl step world

end AppKeysWorld

end NostrDoubleRatchet.TypeScript
