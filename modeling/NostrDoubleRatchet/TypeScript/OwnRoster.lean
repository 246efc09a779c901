import NostrDoubleRatchet.TypeScript.AppKeysActor

/-!
How `NdrRuntime` keeps and publishes the owner's own roster: the queue of
`applyIncomingAppKeys`, the registrations and revocations that are prepared, and later published,
from a roster captured before an await, and the start-up that loads the stored roster. Every
promise is settled in one step and its caller goes on in a later one; calls of the storage may
fail. Labels are left out.
-/

namespace NostrDoubleRatchet.TypeScript

namespace AppKeys

variable {K : Type} [LinearOrder K]

def getAllDevices (appKeys : AppKeys K) : List (DeviceEntry K) := appKeys.devices.values

def addDevice (appKeys : AppKeys K) (device : DeviceEntry K) : AppKeys K :=
  if (appKeys.getDevice device.identityPubkey).isSome then appKeys
  else ⟨appKeys.devices.insert device.identityPubkey device⟩

def removeDevice (appKeys : AppKeys K) (identityPubkey : K) : AppKeys K :=
  ⟨appKeys.devices.erase identityPubkey⟩

/-- `cloneAppKeys`. -/
def clone (appKeys : AppKeys K) : AppKeys K := AppKeys.new appKeys.getAllDevices

def lists (appKeys : AppKeys K) (identityPubkey : K) : Bool :=
  (appKeys.getDevice identityPubkey).isSome

/-- The two rosters have the same device set, up to one device. -/
def SameApart (target : K) (appKeys other : AppKeys K) : Prop :=
  ∀ device, device ≠ target → appKeys.lists device = other.lists device

theorem lists_addDevice (appKeys : AppKeys K) (device : DeviceEntry K) (identityPubkey : K) :
    (appKeys.addDevice device).lists identityPubkey =
      (appKeys.lists identityPubkey || identityPubkey = device.identityPubkey) := by
  unfold addDevice lists getDevice
  by_cases hid : identityPubkey = device.identityPubkey
  · subst hid
    split
    · rename_i hhas
      simp [hhas]
    · simp
  · split
    · simp [hid]
    · rw [SortedMap.get?_insert_ne _ _ (Ne.symm hid)]
      simp [hid]

theorem lists_removeDevice (appKeys : AppKeys K) (revoked identityPubkey : K) :
    (appKeys.removeDevice revoked).lists identityPubkey =
      (appKeys.lists identityPubkey && identityPubkey ≠ revoked) := by
  unfold removeDevice lists getDevice
  by_cases hid : identityPubkey = revoked
  · subst hid
    simp
  · rw [SortedMap.get?_erase_ne _ (Ne.symm hid)]
    simp [hid]

theorem Keyed.clone_eq {appKeys : AppKeys K} (h : appKeys.Keyed) : appKeys.clone = appKeys :=
  congrArg AppKeys.mk (LatestMerge.Keyed.foldl_insert_values h)

theorem keyed_addDevice {appKeys : AppKeys K} (h : appKeys.Keyed) (device : DeviceEntry K) :
    (appKeys.addDevice device).Keyed := by
  unfold addDevice
  split
  · exact h
  · exact SortedMap.forall_get?_insert h rfl

theorem keyed_removeDevice {appKeys : AppKeys K} (h : appKeys.Keyed) (revoked : K) :
    (appKeys.removeDevice revoked).Keyed :=
  SortedMap.forall_get?_erase h

end AppKeys

/-- The manager object that a call captures, told apart by `uid`, with the roster it holds. -/
structure AppKeysManager where
  uid : Nat
  appKeys : AppKeys String

/-- A call of `applyIncomingAppKeys` behind the queue. `floor`, the newest time that had been
applied or published when an incoming event was handed in, is not part of the code. -/
structure ApplyJob where
  id : Nat
  manager : Nat
  incoming : AppKeys String
  incomingCreatedAt : Nat
  canonical : Bool
  floor : Nat

/-- The job that waits for its `manager.setAppKeys`. -/
structure RunningApply where
  job : ApplyJob
  appKeys : AppKeys String
  createdAt : Nat
  saved : Bool

/-- What `waitForRegistrationSnapshot` resolves to. -/
structure RosterSnapshot where
  createdAt : Nat
  devices : List (DeviceEntry String)
  ambiguous : Bool
  commonDevices : List (DeviceEntry String)

def RosterSnapshot.base (snapshot : RosterSnapshot) : AppKeys String :=
  if snapshot.ambiguous then AppKeys.new snapshot.commonDevices else AppKeys.new snapshot.devices

structure PreparedRegistration where
  appKeys : AppKeys String
  baseDevices : List (DeviceEntry String)
  newDeviceIdentity : String

/-- `seen`, the manager's roster when the base was taken, is not part of the code. -/
structure PreparedRevocation where
  appKeys : AppKeys String
  revokedIdentity : String
  seen : Option (AppKeys String)

/-- Who waits in `resolveRegistrationBase`. -/
inductive BasePurpose where
  | prepare (identityPubkey : String)
  | publish (prepared : PreparedRegistration)

inductive BasePoint where
  | waiting
  | applying (job : Nat) (base : AppKeys String)

structure BaseTask where
  purpose : BasePurpose
  point : BasePoint

/-- A `prepareRevocation` in `resolveBaseAppKeys`. `longer` says that a second wait is allowed for,
`second` that it has begun, `failed` that a fetch has failed. -/
structure RevocationTask where
  identityPubkey : String
  longer : Bool
  second : Bool
  failed : Bool

inductive FetchResult where
  | found (devices : List (DeviceEntry String)) (createdAt : Nat)
  | nothing
  | failed

def FetchResult.isFailed : FetchResult → Bool
  | .failed => true
  | _ => false

inductive RosterChange where
  | register (identityPubkey : String)
  | revoke (identityPubkey : String)

/-- Where a publication stands: at the profile id, at the transport, behind it, and for a
revocation at the storage (`save` unless there is no manager) and behind it. -/
inductive PublicationPoint where
  | profile
  | publishing
  | published (createdAt : Nat)
  | saving (createdAt : Nat) (save : Bool)
  | saved (createdAt : Nat)

structure Publication where
  change : RosterChange
  appKeys : AppKeys String
  seen : Option (AppKeys String)
  point : PublicationPoint

/-- A roster event as `publishAppKeys` builds it, with the state it is built in. -/
structure BuiltRoster where
  change : RosterChange
  appKeys : AppKeys String
  createdAt : Nat
  manager : Option (AppKeys String)
  lastAppKeysCreatedAt : Nat

/-- The runtime of one owner over its storage. `built` and `highest`, the newest time applied or
published so far, are not part of the code. -/
structure RosterWorld where
  manager : Option AppKeysManager
  initializing : Bool
  inits : List (Option (AppKeys String))
  stored : Option (AppKeys String)
  registeredDevices : List (DeviceEntry String)
  lastAppKeysCreatedAt : Nat
  appKeysApplyQueue : List ApplyJob
  applying : Option RunningApply
  bases : List BaseTask
  revocationBases : List RevocationTask
  publications : List Publication
  preparedRegistrations : List PreparedRegistration
  preparedRevocations : List PreparedRevocation
  nextManager : Nat
  nextJob : Nat
  built : List BuiltRoster
  highest : Nat

inductive RosterAction where
  /-- `initAppKeysManager` begins and reads the storage. -/
  | readRoster
  | finishInit (init : Nat)
  /-- An incoming event reaches `applyIncomingAppKeys`. -/
  | deliver (devices : List (DeviceEntry String)) (createdAt : Nat) (canonical : Bool)
  | decide
  | saveApplied
  | finishApply
  | failApply
  | prepareRegistration (identityPubkey : String)
  | publishRegistration (prepared : Nat)
  | snapshot (base : Nat) (snapshot : Option RosterSnapshot) (now : Nat)
  | applied (base : Nat) (now : Nat)
  | failBase (base : Nat)
  | prepareRevocation (identityPubkey : String) (longer : Bool)
  | fetched (revocation : Nat) (result : FetchResult)
  | publishRevocation (prepared : Nat)
  | build (publication : Nat) (now : Nat)
  | published (publication : Nat) (createdAt : Nat)
  | record (publication : Nat)
  | saveRevocation (publication : Nat)
  | finishRevocation (publication : Nat)
  | failPublication (publication : Nat)

namespace RosterWorld

/-- A runtime before its start, over a storage. -/
def new (stored : Option (AppKeys String)) : RosterWorld :=
  { manager := none
    initializing := false
    inits := []
    stored
    registeredDevices := []
    lastAppKeysCreatedAt := 0
    appKeysApplyQueue := []
    applying := none
    bases := []
    revocationBases := []
    publications := []
    preparedRegistrations := []
    preparedRevocations := []
    nextManager := 0
    nextJob := 0
    built := []
    highest := 0 }

def roster (world : RosterWorld) : Option (AppKeys String) := world.manager.map (·.appKeys)

def readRoster (world : RosterWorld) : RosterWorld :=
  if world.manager.isSome || world.initializing then world
  else { world with initializing := true, inits := world.inits ++ [world.stored] }

def finishInit (world : RosterWorld) (init : Nat) : RosterWorld :=
  match world.inits[init]? with
  | none => world
  | some stored =>
      let appKeys := stored.getD (AppKeys.new [])
      { world with
        manager := some ⟨world.nextManager, appKeys⟩
        nextManager := world.nextManager + 1
        initializing := false
        inits := world.inits.eraseIdx init
        registeredDevices := appKeys.getAllDevices }

/-- `applyIncomingAppKeys` up to the queue, once the manager is there. -/
def enqueue (world : RosterWorld) (incoming : AppKeys String) (incomingCreatedAt : Nat)
    (canonical : Bool) (floor : Nat) : RosterWorld :=
  match world.manager with
  | none => world
  | some manager =>
      { world with
        nextJob := world.nextJob + 1
        appKeysApplyQueue := world.appKeysApplyQueue ++
          [⟨world.nextJob, manager.uid, incoming, incomingCreatedAt, canonical, floor⟩] }

/-- The first job of the queue, up to its call of `setAppKeys`. -/
def decide (world : RosterWorld) : RosterWorld :=
  match world.applying, world.appKeysApplyQueue with
  | none, job :: rest =>
      let world := { world with appKeysApplyQueue := rest }
      match world.manager with
      | none => world
      | some manager =>
          if manager.uid ≠ job.manager then world
          else
            let update := applyAppKeysSnapshotPreservingLabels (some manager.appKeys)
              world.lastAppKeysCreatedAt job.incoming job.incomingCreatedAt
            match update.decision with
            | .stale => world
            | _ =>
                let appKeys := if job.canonical then AppKeys.new job.incoming.getAllDevices
                  else update.appKeys
                { world with
                  manager := some { manager with appKeys }
                  applying := some ⟨job, appKeys, update.createdAt, false⟩ }
  | _, _ => world

def saveApplied (world : RosterWorld) : RosterWorld :=
  match world.applying with
  | none => world
  | some running => { world with
      stored := some running.appKeys, applying := some { running with saved := true } }

def finishApply (world : RosterWorld) : RosterWorld :=
  match world.applying with
  | some ⟨job, appKeys, createdAt, true⟩ =>
      let world := { world with applying := none }
      if world.manager.map (·.uid) = some job.manager then
        { world with
          registeredDevices := appKeys.getAllDevices
          lastAppKeysCreatedAt := createdAt
          highest := max world.highest createdAt }
      else world
  | _ => world

/-- `setAppKeys` is refused by the storage; the roster in memory stays. -/
def failApply (world : RosterWorld) : RosterWorld :=
  match world.applying with
  | some ⟨_, _, _, false⟩ => { world with applying := none }
  | _ => world

/-- What `prepareRegistration` and `publishPreparedRegistration` do with their base. -/
def finishBase (world : RosterWorld) (purpose : BasePurpose) (base : AppKeys String) (now : Nat) :
    RosterWorld :=
  match purpose with
  | .prepare identityPubkey =>
      { world with preparedRegistrations := world.preparedRegistrations ++
          [⟨base.clone.addDevice ⟨identityPubkey, now⟩, base.getAllDevices,
            identityPubkey⟩] }
  | .publish prepared =>
      match prepared.appKeys.getAllDevices.find?
          (fun device => device.identityPubkey = prepared.newDeviceIdentity) with
      | none => world
      | some target =>
          if prepared.baseDevices.any
                (fun device => device.identityPubkey = prepared.newDeviceIdentity) ∧
              ¬ base.getAllDevices.any
                (fun device => device.identityPubkey = prepared.newDeviceIdentity) then world
          else
            { world with publications := world.publications ++
                [⟨.register prepared.newDeviceIdentity, base.addDevice target, world.roster,
                  .profile⟩] }

/-- `resolveRegistrationBase` once its snapshot has settled. -/
def snapshot (world : RosterWorld) (index : Nat) (snapshot : Option RosterSnapshot) (now : Nat) :
    RosterWorld :=
  match world.bases[index]? with
  | some ⟨purpose, .waiting⟩ =>
      match snapshot.filter (fun snapshot =>
          snapshot.createdAt ≥ world.lastAppKeysCreatedAt) with
      | some snapshot =>
          { world with
            bases := world.bases.set index
              (BaseTask.mk purpose (.applying world.nextJob snapshot.base)) }.enqueue
            snapshot.base snapshot.createdAt true world.highest
      | none =>
          { world with bases := world.bases.eraseIdx index }.finishBase purpose
            (world.roster.getD (AppKeys.new [])).clone now
  | _ => world

/-- Whether the job has been applied, or dropped. -/
def jobDone (world : RosterWorld) (job : Nat) : Bool :=
  world.appKeysApplyQueue.all (·.id ≠ job) && world.applying.all (·.job.id ≠ job)

def applied (world : RosterWorld) (index now : Nat) : RosterWorld :=
  match world.bases[index]? with
  | some ⟨purpose, .applying job base⟩ =>
      if world.jobDone job then
        { world with bases := world.bases.eraseIdx index }.finishBase purpose
          (world.roster.getD base).clone now
      else world
  | _ => world

/-- `prepareRevocation` with its base. -/
def finishRevocationBase (world : RosterWorld) (index : Nat) (identityPubkey : String)
    (base : AppKeys String) : RosterWorld :=
  { world with
    revocationBases := world.revocationBases.eraseIdx index
    preparedRevocations := world.preparedRevocations ++
      [⟨base.clone.removeDevice identityPubkey, identityPubkey, world.roster⟩] }

/-- `resolveSnapshot` of `resolveBaseAppKeys`: the roster is read after the wait. -/
def resolveSnapshot (world : RosterWorld) (devices : List (DeviceEntry String)) (createdAt : Nat) :
    AppKeys String :=
  (applyAppKeysSnapshotPreservingLabels world.roster world.lastAppKeysCreatedAt
    (AppKeys.new devices) createdAt).appKeys.clone

/-- The base that `resolveBaseAppKeys` comes to when a fetch settles, if it is not to go on
waiting or to fail. -/
def resolveBaseAppKeys (world : RosterWorld) (task : RevocationTask) (result : FetchResult) :
    Option (AppKeys String) :=
  match result with
  | .found devices createdAt => some (world.resolveSnapshot devices createdAt)
  | _ =>
      match world.roster.filter (fun localKeys =>
          !task.second && !localKeys.getAllDevices.isEmpty) with
      | some localKeys => some localKeys.clone
      | none =>
          if (task.longer && !task.second) || task.failed || result.isFailed then none
          else some (AppKeys.new [])

def fetched (world : RosterWorld) (index : Nat) (result : FetchResult) : RosterWorld :=
  match world.revocationBases[index]? with
  | none => world
  | some task =>
      match world.resolveBaseAppKeys task result with
      | some base => world.finishRevocationBase index task.identityPubkey base
      | none =>
          if task.longer && !task.second then
            let waiting := { task with second := true, failed := task.failed || result.isFailed }
            { world with revocationBases := world.revocationBases.set index waiting }
          else { world with revocationBases := world.revocationBases.eraseIdx index }

def publishRevocation (world : RosterWorld) (index : Nat) : RosterWorld :=
  match world.preparedRevocations[index]?, world.manager with
  | some prepared, some _ =>
      { world with publications := world.publications ++
          [⟨.revoke prepared.revokedIdentity, prepared.appKeys, prepared.seen, .profile⟩] }
  | _, _ => world

def publishRegistration (world : RosterWorld) (index : Nat) : RosterWorld :=
  match world.preparedRegistrations[index]?, world.manager with
  | some prepared, some _ =>
      { world with bases := world.bases ++ [⟨.publish prepared, .waiting⟩] }
  | _, _ => world

/-- The roster event of `publishAppKeys`. -/
def builtRoster (world : RosterWorld) (publication : Publication) (now : Nat) : BuiltRoster :=
  { change := publication.change
    appKeys := publication.appKeys
    createdAt := max now (world.lastAppKeysCreatedAt + 1)
    manager := world.roster
    lastAppKeysCreatedAt := world.lastAppKeysCreatedAt }

/-- `publishAppKeys` once it has the profile id. -/
def build (world : RosterWorld) (index now : Nat) : RosterWorld :=
  match world.publications[index]? with
  | some publication =>
      match publication.point with
      | .profile =>
          { world with
            publications := world.publications.set index
              { publication with point := .publishing }
            built := world.built ++ [world.builtRoster publication now] }
      | _ => world
  | none => world

/-- The transport hands the published event back. -/
def published (world : RosterWorld) (index createdAt : Nat) : RosterWorld :=
  match world.publications[index]? with
  | some publication =>
      match publication.point with
      | .publishing =>
          { world with
            publications := world.publications.set index
              { publication with point := .published createdAt }
            highest := max world.highest createdAt }
      | _ => world
  | none => world

/-- What follows a publication: a registration goes through the queue, a revocation sets the
roster itself. -/
def record (world : RosterWorld) (index : Nat) : RosterWorld :=
  match world.publications[index]? with
  | some publication =>
      match publication.point, publication.change with
      | .published createdAt, .register _ =>
          if world.manager.isSome then
            { world with publications := world.publications.eraseIdx index }.enqueue
              publication.appKeys createdAt false 0
          else world
      | .published createdAt, .revoke _ =>
          { world with
            manager := world.manager.map (fun manager =>
              { manager with appKeys := publication.appKeys })
            publications := world.publications.set index
              { publication with point := .saving createdAt world.manager.isSome } }
      | _, _ => world
  | none => world

def saveRevocation (world : RosterWorld) (index : Nat) : RosterWorld :=
  match world.publications[index]? with
  | some publication =>
      match publication.point with
      | .saving createdAt save =>
          { world with
            stored := if save then some publication.appKeys else world.stored
            publications := world.publications.set index
              { publication with point := .saved createdAt } }
      | _ => world
  | none => world

def finishRevocation (world : RosterWorld) (index : Nat) : RosterWorld :=
  match world.publications[index]? with
  | some publication =>
      match publication.point with
      | .saved createdAt =>
          { world with
            publications := world.publications.eraseIdx index
            registeredDevices := publication.appKeys.getAllDevices
            lastAppKeysCreatedAt := createdAt }
      | _ => world
  | none => world

def step (world : RosterWorld) : RosterAction → RosterWorld
  | .readRoster => world.readRoster
  | .finishInit init => world.finishInit init
  | .deliver devices createdAt canonical =>
      world.enqueue (AppKeys.new devices) createdAt canonical world.highest
  | .decide => world.decide
  | .saveApplied => world.saveApplied
  | .finishApply => world.finishApply
  | .failApply => world.failApply
  | .prepareRegistration identityPubkey =>
      if world.manager.isSome then
        { world with bases := world.bases ++ [⟨.prepare identityPubkey, .waiting⟩] }
      else world
  | .publishRegistration prepared => world.publishRegistration prepared
  | .snapshot base snapshot now => world.snapshot base snapshot now
  | .applied base now => world.applied base now
  | .failBase base => { world with bases := world.bases.eraseIdx base }
  | .prepareRevocation identityPubkey longer =>
      { world with revocationBases := world.revocationBases ++
          [⟨identityPubkey, longer, false, false⟩] }
  | .fetched revocation result => world.fetched revocation result
  | .publishRevocation prepared => world.publishRevocation prepared
  | .build publication now => world.build publication now
  | .published publication createdAt => world.published publication createdAt
  | .record publication => world.record publication
  | .saveRevocation publication => world.saveRevocation publication
  | .finishRevocation publication => world.finishRevocation publication
  | .failPublication publication =>
      { world with publications := world.publications.eraseIdx publication }

def run (world : RosterWorld) (actions : List RosterAction) : RosterWorld :=
  actions.foldl step world

end RosterWorld

end NostrDoubleRatchet.TypeScript
