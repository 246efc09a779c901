import NostrDoubleRatchet.SessionManager.Records

/-!
Rosters, owner evidence and the authorization of devices, as in
`session_manager/rosters.rs`.
-/

namespace NostrDoubleRatchet

variable {K T : Type} [LinearOrder K]

namespace SessionManager

/-- The record of an owner, new if there is none. -/
def userRecord (manager : SessionManager K T) (owner : OwnerPubkey K) : UserRecord K T :=
  (manager.users.get? owner).getD (UserRecord.new owner)

def setUser (manager : SessionManager K T) (owner : OwnerPubkey K) (user : UserRecord K T) :
    SessionManager K T :=
  { manager with users := manager.users.insert owner user }

/-- The record `device_record_mut` borrows. -/
def deviceRecord (manager : SessionManager K T) (owner : OwnerPubkey K) (device : DevicePubkey K)
    (createdAt : UnixSeconds) : DeviceRecord K T :=
  (manager.userRecord owner).deviceRecord device createdAt

def setDevice (manager : SessionManager K T) (owner : OwnerPubkey K) (device : DevicePubkey K)
    (record : DeviceRecord K T) : SessionManager K T :=
  manager.setUser owner ((manager.userRecord owner).setDevice device record)

def roster (manager : SessionManager K T) (owner : OwnerPubkey K) : Option (DeviceRoster K) :=
  (manager.users.get? owner).bind UserRecord.roster

def observePublicInvite [Primitives K T] (manager : SessionManager K T) (owner : OwnerPubkey K)
    (invite : Invite K T) : Except Error Unit × SessionManager K T :=
  match invite.inviterOwnerPubkey.filter (fun inviterOwner => inviterOwner ≠ owner) with
  | some inviterOwner =>
      let expected := Primitives.toHex owner.bytes
      let got := Primitives.toHex inviterOwner.bytes
      (.error (.domain (.invalidState
        s!"invite owner mismatch: expected {expected}, got {got}")), manager)
  | none =>
      let device := invite.inviterDevicePubkey
      let publicInvite := { invite with inviterEphemeralPrivateKey := none }
      let record := manager.deviceRecord owner device publicInvite.createdAt
      (.ok (), manager.setDevice owner device { record with
        createdAt := mergeCreatedAt record.createdAt publicInvite.createdAt
        publicInvite := DeviceRecord.newerInvite record.publicInvite publicInvite })

def ownerDeviceIsAuthorized [Primitives K T] (manager : SessionManager K T)
    (owner : OwnerPubkey K) (device : DevicePubkey K) : Bool :=
  if ownerPubkeyFromDevicePubkey device = owner then true
  else if owner = manager.localOwnerPubkey then
    ((manager.roster owner).bind (fun roster => roster.getDevice device)).isSome
  else
    match owner.toNostr, device.toNostr with
    | .ok owner, .ok device => manager.verifiedPeerAppKeys.membership owner device = .authorized
    | _, _ => false

def authorizedDevicesForOwner [Primitives K T] (manager : SessionManager K T)
    (owner : OwnerPubkey K) : List (DevicePubkey K) :=
  match manager.roster owner with
  | none => []
  | some roster => (SortedMap.ofList ((roster.devices.filter (fun device =>
      manager.ownerDeviceIsAuthorized owner device.devicePubkey)).map (fun device =>
        (device.devicePubkey, ())))).keys

def recomputeAuthorizationForOwner [Primitives K T] (manager : SessionManager K T)
    (owner : OwnerPubkey K) : SessionManager K T :=
  match manager.users.get? owner with
  | none => manager
  | some user => manager.setUser owner
      (user.recomputeAuthorization (manager.authorizedDevicesForOwner owner))

/-! Migration of the devices an owner is proven to have. -/

/-- The devices of another owner's record that belong to `owner`. -/
def matchingDevices [Primitives K T] (manager : SessionManager K T) (owner : OwnerPubkey K)
    (user : UserRecord K T) : List (DevicePubkey K) :=
  (user.devices.values.filter (fun record =>
    manager.ownerDeviceIsAuthorized owner record.devicePubkey &&
      (record.claimedOwnerPubkey = some owner ||
        (user.roster.bind (fun roster => roster.getDevice record.devicePubkey)).isNone))).map
    DeviceRecord.devicePubkey

def sourceRosterIsProvisional (source : OwnerPubkey K) (matching : List (DevicePubkey K))
    (user : UserRecord K T) : Bool :=
  user.roster.any (fun roster => roster.devices.all (fun device =>
    matching.contains device.devicePubkey &&
      ownerPubkeyFromDevicePubkey device.devicePubkey = source))

/-- Take the devices out of a record, each without its provisional claim. -/
def removeDevices : List (DevicePubkey K) → UserRecord K T →
    List (DeviceRecord K T) × UserRecord K T
  | [], user => ([], user)
  | device :: rest, user =>
      match user.devices.get? device with
      | none => removeDevices rest user
      | some record =>
          let (migrated, user) :=
            removeDevices rest { user with devices := user.devices.erase device }
          ({ record with claimedOwnerPubkey := none } :: migrated, user)

/-- The loop over the source owners, with what was migrated and the sources left
empty. -/
def migrateFrom [Primitives K T] (owner : OwnerPubkey K) : List (OwnerPubkey K) →
    SessionManager K T → List (DeviceRecord K T) × List (OwnerPubkey K) × SessionManager K T
  | [], manager => ([], [], manager)
  | source :: rest, manager =>
      match manager.users.get? source with
      | none => migrateFrom owner rest manager
      | some user =>
          let matching := manager.matchingDevices owner user
          if matching = [] then migrateFrom owner rest manager
          else
            let (migrated, user') := removeDevices matching user
            let isEmpty := user'.devices.length = 0 ∧
              (user.roster.isNone ∨ sourceRosterIsProvisional source matching user)
            let (restMigrated, emptySources, manager) :=
              migrateFrom owner rest (manager.setUser source user')
            (migrated ++ restMigrated,
              if isEmpty then source :: emptySources else emptySources, manager)

def absorbMigrated (now : UnixSeconds) (user : UserRecord K T) (record : DeviceRecord K T) :
    UserRecord K T :=
  user.setDevice record.devicePubkey
    ((user.deviceRecord record.devicePubkey record.createdAt).absorb record now)

def reconcileVerifiedClaimedDevices [Primitives K T] (manager : SessionManager K T)
    (owner : OwnerPubkey K) (now : UnixSeconds) : SessionManager K T :=
  let sources := manager.users.keys.filter (fun candidate => candidate ≠ owner)
  let (migrated, emptySources, manager) := migrateFrom owner sources manager
  let manager := { manager with users := emptySources.foldl SortedMap.erase manager.users }
  if migrated = [] then manager
  else manager.setUser owner (migrated.foldl (absorbMigrated now) (manager.userRecord owner))

def applyRosterForOwnerInner [Primitives K T] (manager : SessionManager K T)
    (owner : OwnerPubkey K) (incomingRoster : DeviceRoster K) (replaceExisting : Bool) :
    RosterSnapshotDecision × SessionManager K T :=
  let user := manager.userRecord owner
  let (decision, nextRoster) :=
    if replaceExisting then (RosterSnapshotDecision.advanced, incomingRoster)
    else applyRosterSnapshot user.roster incomingRoster
  let manager := manager.setUser owner { user with roster := some nextRoster }
  let manager := manager.recomputeAuthorizationForOwner owner
  let manager := manager.reconcileVerifiedClaimedDevices owner nextRoster.createdAt
  (decision, manager.recomputeAuthorizationForOwner owner)

def applyRosterForOwner [Primitives K T] (manager : SessionManager K T) (owner : OwnerPubkey K)
    (incomingRoster : DeviceRoster K) : RosterSnapshotDecision × SessionManager K T :=
  manager.applyRosterForOwnerInner owner incomingRoster false

end SessionManager

end NostrDoubleRatchet
