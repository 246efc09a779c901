import NostrDoubleRatchet.SessionManager.Sending

/-!
Creating, restoring and driving a session manager, as in
`session_manager/lifecycle.rs`. `Operation` lists the calls a program can make on a
manager, and `perform` runs one of them.
-/

namespace NostrDoubleRatchet

structure ProcessedInviteResponse (K : Type) where
  ownerPubkey : OwnerPubkey K
  devicePubkey : DevicePubkey K
  claimedOwnerPubkey : Option (OwnerPubkey K)

structure ReceivedMessage (K T : Type) where
  ownerPubkey : OwnerPubkey K
  devicePubkey : DevicePubkey K
  payload : T

structure PruneReport (K : Type) where
  removedDevices : List (OwnerPubkey K × DevicePubkey K)
  removedUsers : List (OwnerPubkey K)

variable {K T : Type} [LinearOrder K]

namespace DeviceRecord

variable [Primitives K T]

/-- The loop of `receive` over the inactive sessions: the index and plan of the first
session that takes the envelope, with the first error otherwise. -/
def receiveInactive (envelope : MessageEnvelope K T) : Nat → List (Session K) →
    Option Error → Rng K → Option (Nat × ReceivePlan K T) × Option Error × Rng K
  | _, [], firstError, rng => (none, firstError, rng)
  | index, session :: rest, firstError, rng =>
      if session.matchesSender envelope.sender then
        match session.planReceive envelope rng with
        | (.ok plan, rng) => (some (index, plan), firstError, rng)
        | (.error e, rng) =>
            receiveInactive envelope (index + 1) rest (firstError.or (some e)) rng
      else receiveInactive envelope (index + 1) rest firstError rng

/-- What `receive` does with the record of an authorized device: the payload and the
record once a session took the envelope. -/
def receive (record : DeviceRecord K T) (envelope : MessageEnvelope K T) (now : UnixSeconds)
    (firstError : Option Error) (rng : Rng K) :
    Option (T × DeviceRecord K T) × Option Error × Rng K :=
  match tryActive with
  | (some (session, plan), firstError, rng) =>
      (some (plan.payload, { record with
        activeSession := some (session.applyReceive plan)
        lastActivity := some now }), firstError, rng)
  | (none, firstError, rng) =>
      match receiveInactive envelope 0 record.inactiveSessions firstError rng with
      | (none, firstError, rng) => (none, firstError, rng)
      | (some (index, plan), firstError, rng) =>
          match record.inactiveSessions[index]? with
          | none => (none, firstError, rng)
          | some session =>
              let removed := { record with
                inactiveSessions := record.inactiveSessions.eraseIdx index }
              (some (plan.payload, { removed.promoteInactiveSession
                (session.applyReceive plan) with lastActivity := some now }), firstError, rng)
where
  /-- The active session, when it matches the sender. -/
  tryActive : Option (Session K × ReceivePlan K T) × Option Error × Rng K :=
    match record.activeSession.filter (fun session => session.matchesSender envelope.sender) with
    | none => (none, firstError, rng)
    | some session =>
        match session.planReceive envelope rng with
        | (.ok plan, rng) => (some (session, plan), firstError, rng)
        | (.error e, rng) => (none, firstError.or (some e), rng)

end DeviceRecord

namespace SessionManager

variable [DecidableEq T] [Primitives K T] [EventPrimitives K] [InvitePrimitives K T]

def new (localOwnerPubkey : OwnerPubkey K) (localDeviceSecretKey : K) :
    Except Error (SessionManager K T) := do
  let localDevicePubkey ← devicePubkeyFromSecretBytes localDeviceSecretKey
  pure {
    localOwnerPubkey := localOwnerPubkey
    localDevicePubkey := localDevicePubkey
    localDeviceSecretKey := localDeviceSecretKey
    localInvite := none
    verifiedPeerAppKeys := VerifiedAppKeysIndex.default
    users := SortedMap.empty }

/-- The owner of a verified head, whose claimed devices are promoted on restore. -/
def restoreVerifiedOwner (manager : SessionManager K T) (ownerKey : K) : SessionManager K T :=
  let owner : OwnerPubkey K := ⟨ownerKey⟩
  let now := match owner.toNostr with
    | .ok key => (manager.verifiedPeerAppKeys.headCreatedAt key).getD 0
    | .error _ => 0
  (manager.reconcileVerifiedClaimedDevices owner now).recomputeAuthorizationForOwner owner

/-- Evidence is checked again at its own time; what does not pass is dropped. -/
def restoreEvidence (events : List (Event K)) : VerifiedAppKeysIndex K :=
  events.foldl (fun index event => (index.ingest event event.createdAt).2)
    VerifiedAppKeysIndex.default

def restoreUsers (snapshots : List (UserRecordSnapshot K T)) :
    SortedMap (OwnerPubkey K) (UserRecord K T) :=
  SortedMap.ofList ((snapshots.map UserRecord.fromSnapshot).map
    (fun user => (user.ownerPubkey, user)))

def fromSnapshot (snapshot : SessionManagerSnapshot K T) (localDeviceSecretKey : K) :
    Except Error (SessionManager K T) := do
  let derived ← devicePubkeyFromSecretBytes localDeviceSecretKey
  if derived ≠ snapshot.localDevicePubkey then
    .error (.domain (.invalidState
      "snapshot local device pubkey does not match provided secret key"))
  else
    let manager : SessionManager K T := {
      localOwnerPubkey := snapshot.localOwnerPubkey
      localDevicePubkey := snapshot.localDevicePubkey
      localDeviceSecretKey := localDeviceSecretKey
      localInvite := snapshot.localInvite
      verifiedPeerAppKeys := restoreEvidence snapshot.verifiedPeerAppKeysEvents
      users := restoreUsers snapshot.users }
    let manager := manager.users.keys.foldl recomputeAuthorizationForOwner manager
    pure (manager.verifiedPeerAppKeys.owners.foldl restoreVerifiedOwner manager)

def snapshot (manager : SessionManager K T) : SessionManagerSnapshot K T where
  localOwnerPubkey := manager.localOwnerPubkey
  localDevicePubkey := manager.localDevicePubkey
  localInvite := manager.localInvite
  verifiedPeerAppKeysEvents := manager.verifiedPeerAppKeys.events
  users := manager.users.values.map UserRecord.snapshot

def replaceLocalInvite (manager : SessionManager K T) (invite : Invite K T) :
    SessionManager K T :=
  { manager with localInvite := some invite }

/-- An invite of an older version is upgraded in place. -/
def upgradeInvite (now : UnixSeconds) (invite : Invite K T) : Invite K T :=
  if invite.metadataPrivacyVersion ≠ METADATA_PRIVACY_VERSION then
    { invite with
      metadataPrivacyVersion := METADATA_PRIVACY_VERSION
      createdAt := max now (min (invite.createdAt + 1) u64Max) }
  else invite

def ensureLocalInvite (manager : SessionManager K T) (now : UnixSeconds) (rng : Rng K) :
    Outcome K T (Invite K T) :=
  match manager.localInvite with
  | some invite =>
      let invite := upgradeInvite now invite
      (.ok invite, { manager with localInvite := some invite }, rng)
  | none =>
      match Invite.createNewWithContext now manager.localDevicePubkey
          (some manager.localOwnerPubkey) none rng with
      | (.error e, rng) => (.error e, manager, rng)
      | (.ok invite, rng) =>
          match manager.observePublicInvite manager.localOwnerPubkey invite with
          | (.error e, manager) => (.error e, manager, rng)
          | (.ok _, manager) => (.ok invite, { manager with localInvite := some invite }, rng)

def applyLocalRoster (manager : SessionManager K T) (roster : DeviceRoster K) :
    RosterSnapshotDecision × SessionManager K T :=
  manager.applyRosterForOwner manager.localOwnerPubkey roster

def replaceLocalRoster (manager : SessionManager K T) (roster : DeviceRoster K) :
    RosterSnapshotDecision × SessionManager K T :=
  manager.applyRosterForOwnerInner manager.localOwnerPubkey roster true

def observePeerRoster (manager : SessionManager K T) (owner : OwnerPubkey K)
    (roster : DeviceRoster K) : RosterSnapshotDecision × SessionManager K T :=
  if owner = manager.localOwnerPubkey then (.stale, manager)
  else manager.applyRosterForOwner owner roster

/-- The roster an AppKeys event states. -/
def eventRoster (createdAt : UnixSeconds) (appKeys : AppKeys K) : DeviceRoster K :=
  DeviceRoster.new createdAt (appKeys.getAllDevices.map (fun device =>
    ⟨⟨device.identityPubkey⟩, device.createdAt⟩))

def observePeerAppKeysEvent (manager : SessionManager K T) (event : Event K)
    (observedAt : UnixSeconds) : Except Error Bool × SessionManager K T :=
  match manager.verifiedPeerAppKeys.ingest event observedAt with
  | (.error e, index) => (.error e, { manager with verifiedPeerAppKeys := index })
  | (.ok false, index) => (.ok false, { manager with verifiedPeerAppKeys := index })
  | (.ok true, index) =>
      let manager := { manager with verifiedPeerAppKeys := index }
      match index.appKeysForEvent event.pubkey event.id with
      | none => (.ok true, manager)
      | some appKeys =>
          (.ok true, (manager.applyRosterForOwner ⟨event.pubkey⟩
            (eventRoster event.createdAt appKeys)).2)

def observeDeviceInvite (manager : SessionManager K T) (owner : OwnerPubkey K)
    (invite : Invite K T) : Except Error Unit × SessionManager K T :=
  manager.observePublicInvite owner invite

/-- The owner record a session is stored under: the claimed owner once the claim is
verified, else the device's own identity. -/
def claimTarget (manager : SessionManager K T) (claimedOwner : OwnerPubkey K)
    (device : DevicePubkey K) : OwnerPubkey K :=
  if manager.ownerDeviceIsAuthorized claimedOwner device then claimedOwner
  else ownerPubkeyFromDevicePubkey device

def storeClaimedSession (manager : SessionManager K T) (claimedOwner : OwnerPubkey K)
    (device : DevicePubkey K) (session : Session K) (now : UnixSeconds) :
    ProcessedInviteResponse K × SessionManager K T :=
  let owner := manager.claimTarget claimedOwner device
  let provisionalClaim := if claimedOwner ≠ owner then some claimedOwner else none
  let user := manager.userRecord owner
  let user :=
    if owner = ownerPubkeyFromDevicePubkey device ∧ (manager.roster owner).isNone then
      { user with roster := some (DeviceRoster.new now [⟨device, now⟩]) }
    else user
  let record := { user.deviceRecord device now with
    claimedOwnerPubkey := provisionalClaim
    inviteResponseGenerated := true }
  let manager := manager.setUser owner (user.setDevice device (record.upsertSession session now))
  (⟨owner, device, provisionalClaim⟩, manager.recomputeAuthorizationForOwner owner)

def importClaimedSessionState (manager : SessionManager K T) (claimedOwner : OwnerPubkey K)
    (device : DevicePubkey K) (state : SessionState K) (now : UnixSeconds) :
    ProcessedInviteResponse K × SessionManager K T :=
  manager.storeClaimedSession claimedOwner device (Session.fromState state) now

def importSessionState (manager : SessionManager K T) (owner : OwnerPubkey K)
    (device : DevicePubkey K) (state : SessionState K) (now : UnixSeconds) :
    SessionManager K T :=
  (manager.importClaimedSessionState owner device state now).2

def observeInviteResponse (manager : SessionManager K T) (envelope : InviteResponseEnvelope K T)
    (now : UnixSeconds) (rng : Rng K) : Outcome K T (Option (ProcessedInviteResponse K)) :=
  match manager.localInvite with
  | none => (.ok none, manager, rng)
  | some invite =>
      match invite.processResponse envelope manager.localDeviceSecretKey rng with
      | (.error e, rng) => (.error e, manager, rng)
      | (.ok (response, ownedInvite), rng) =>
          let manager := { manager with localInvite := some ownedInvite }
          match response.inviteeOwnerPubkey with
          | none =>
              (.error (.domain (.invalidState "invite response missing owner claim")),
                manager, rng)
          | some owner =>
              let (processed, manager) := manager.storeClaimedSession owner
                response.inviteeDevicePubkey response.session now
              (.ok (some processed), manager, rng)

/-- The loop of `receive` over the devices of the sender. -/
def receiveFrom (owner : OwnerPubkey K) (authorizedDevices : List (DevicePubkey K))
    (envelope : MessageEnvelope K T) (now : UnixSeconds) : List (DevicePubkey K) →
    Option Error → UserRecord K T → Rng K →
    Except Error (Option (ReceivedMessage K T)) × UserRecord K T × Rng K
  | [], firstError, user, rng =>
      match firstError with
      | some e => (.error e, user, rng)
      | none => (.ok none, user, rng)
  | device :: rest, firstError, user, rng =>
      match user.devices.get? device with
      | none => receiveFrom owner authorizedDevices envelope now rest firstError user rng
      | some record =>
          let hasOwnerBinding := ownerPubkeyFromDevicePubkey device = owner ∨
            device ∈ authorizedDevices
          if ¬ hasOwnerBinding ∨ !record.authorized ∨ record.isStale then
            receiveFrom owner authorizedDevices envelope now rest firstError user rng
          else
            match record.receive envelope now firstError rng with
            | (some (payload, record), _, rng) =>
                (.ok (some ⟨owner, device, payload⟩), user.setDevice device record, rng)
            | (none, firstError, rng) =>
                receiveFrom owner authorizedDevices envelope now rest firstError user rng

def receive (manager : SessionManager K T) (senderOwner : OwnerPubkey K)
    (envelope : MessageEnvelope K T) (now : UnixSeconds) (rng : Rng K) :
    Outcome K T (Option (ReceivedMessage K T)) :=
  match manager.users.get? senderOwner with
  | none => (.ok none, manager, rng)
  | some user =>
      let (result, user, rng) := receiveFrom senderOwner
        (manager.authorizedDevicesForOwner senderOwner) envelope now user.devices.keys none user
        rng
      (result, manager.setUser senderOwner user, rng)

/-- What is left of an owner's record once its stale devices are gone. -/
def pruneUser (user : UserRecord K T) : UserRecord K T :=
  { user with devices := user.devices.filter (fun _ record => !record.isStale) }

def pruneStale (manager : SessionManager K T) : PruneReport K × SessionManager K T :=
  let pruned := manager.users.mapValues (fun _ => pruneUser)
  let keep := fun (_ : OwnerPubkey K) (user : UserRecord K T) =>
    decide (user.devices.length ≠ 0) || user.roster.isSome
  ({ removedDevices := manager.users.entries.flatMap (fun (owner, user) =>
      (user.devices.filter (fun _ record => record.isStale)).keys.map (owner, ·))
     removedUsers := (pruned.filter (fun owner user => !keep owner user)).keys },
    { manager with users := pruned.filter keep })

def deleteUser (manager : SessionManager K T) (owner : OwnerPubkey K) : SessionManager K T :=
  if owner ≠ manager.localOwnerPubkey then { manager with users := manager.users.erase owner }
  else manager

end SessionManager

/-! Runs. -/

inductive Operation (K T : Type) [LinearOrder K] where
  | replaceLocalInvite (invite : Invite K T)
  | ensureLocalInvite (now : UnixSeconds)
  | applyLocalRoster (roster : DeviceRoster K)
  | replaceLocalRoster (roster : DeviceRoster K)
  | observePeerRoster (owner : OwnerPubkey K) (roster : DeviceRoster K)
  | observePeerAppKeysEvent (event : Event K) (observedAt : UnixSeconds)
  | observeDeviceInvite (owner : OwnerPubkey K) (invite : Invite K T)
  | observeInviteResponse (envelope : InviteResponseEnvelope K T) (now : UnixSeconds)
  | prepareSend (recipientOwner : OwnerPubkey K) (payload : T) (now : UnixSeconds)
  | prepareRemoteSend (recipientOwner : OwnerPubkey K) (payload : T) (now : UnixSeconds)
  | prepareRemoteSendToDevices (recipientOwner : OwnerPubkey K)
      (devices : List (DevicePubkey K)) (payload : T) (now : UnixSeconds)
  | prepareLocalSiblingSend (payload : T) (now : UnixSeconds)
  | prepareLocalSiblingSendToDevices (devices : List (DevicePubkey K)) (payload : T)
      (now : UnixSeconds)
  | prepareLocalSiblingSendReusingSessions (payload : T) (now : UnixSeconds)
  | prepareLocalSiblingSendRefreshingOneWaySessions (payload : T) (now : UnixSeconds)
  | prepareLocalSiblingSendReusingAllSessions (payload : T) (now : UnixSeconds)
  | receive (senderOwner : OwnerPubkey K) (envelope : MessageEnvelope K T) (now : UnixSeconds)
  | pruneStale
  | deleteUser (owner : OwnerPubkey K)
  | importSessionState (owner : OwnerPubkey K) (device : DevicePubkey K)
      (state : SessionState K) (now : UnixSeconds)
  | importClaimedSessionState (claimedOwner : OwnerPubkey K) (device : DevicePubkey K)
      (state : SessionState K) (now : UnixSeconds)

/-- What a call hands to the caller: the deliveries it prepared or the message it
received. -/
structure Output (K T : Type) where
  deliveries : List (Delivery K T)
  received : Option (ReceivedMessage K T)

def Output.none {K T : Type} : Output K T := ⟨[], .none⟩

namespace SessionManager

variable [DecidableEq T] [Primitives K T] [EventPrimitives K] [InvitePrimitives K T]

/-- The output of a call of each kind. -/
def silent {α : Type} : Outcome K T α → Outcome K T (Output K T)
  | (.error e, manager, rng) => (.error e, manager, rng)
  | (.ok _, manager, rng) => (.ok .none, manager, rng)

def prepared : Outcome K T (PreparedSend K T) → Outcome K T (Output K T)
  | (.error e, manager, rng) => (.error e, manager, rng)
  | (.ok send, manager, rng) => (.ok ⟨send.deliveries, none⟩, manager, rng)

def delivered : Outcome K T (Option (ReceivedMessage K T)) → Outcome K T (Output K T)
  | (.error e, manager, rng) => (.error e, manager, rng)
  | (.ok received, manager, rng) => (.ok ⟨[], received⟩, manager, rng)

def perform (manager : SessionManager K T) (rng : Rng K) :
    Operation K T → Outcome K T (Output K T)
  | .replaceLocalInvite invite => (.ok .none, manager.replaceLocalInvite invite, rng)
  | .ensureLocalInvite now => silent (manager.ensureLocalInvite now rng)
  | .applyLocalRoster roster => (.ok .none, (manager.applyLocalRoster roster).2, rng)
  | .replaceLocalRoster roster => (.ok .none, (manager.replaceLocalRoster roster).2, rng)
  | .observePeerRoster owner roster =>
      (.ok .none, (manager.observePeerRoster owner roster).2, rng)
  | .observePeerAppKeysEvent event observedAt =>
      let (result, manager) := manager.observePeerAppKeysEvent event observedAt
      silent (result, manager, rng)
  | .observeDeviceInvite owner invite =>
      let (result, manager) := manager.observeDeviceInvite owner invite
      silent (result, manager, rng)
  | .observeInviteResponse envelope now => silent (manager.observeInviteResponse envelope now rng)
  | .prepareSend recipientOwner payload now =>
      prepared (manager.prepareSend recipientOwner payload now rng)
  | .prepareRemoteSend recipientOwner payload now =>
      prepared (manager.prepareRemoteSend recipientOwner payload now rng)
  | .prepareRemoteSendToDevices recipientOwner devices payload now =>
      prepared (manager.prepareRemoteSendToDevices recipientOwner devices payload now rng)
  | .prepareLocalSiblingSend payload now =>
      prepared (manager.prepareLocalSiblingSend payload now rng)
  | .prepareLocalSiblingSendToDevices devices payload now =>
      prepared (manager.prepareLocalSiblingSendToDevices devices payload now rng)
  | .prepareLocalSiblingSendReusingSessions payload now =>
      prepared (manager.prepareLocalSiblingSendReusingSessions payload now rng)
  | .prepareLocalSiblingSendRefreshingOneWaySessions payload now =>
      prepared (manager.prepareLocalSiblingSendRefreshingOneWaySessions payload now rng)
  | .prepareLocalSiblingSendReusingAllSessions payload now =>
      prepared (manager.prepareLocalSiblingSendReusingAllSessions payload now rng)
  | .receive senderOwner envelope now =>
      delivered (manager.receive senderOwner envelope now rng)
  | .pruneStale => (.ok .none, manager.pruneStale.2, rng)
  | .deleteUser owner => (.ok .none, manager.deleteUser owner, rng)
  | .importSessionState owner device state now =>
      (.ok .none, manager.importSessionState owner device state now, rng)
  | .importClaimedSessionState claimedOwner device state now =>
      (.ok .none, (manager.importClaimedSessionState claimedOwner device state now).2, rng)

/-- The manager after a sequence of calls, whatever they return. -/
def run (manager : SessionManager K T) (rng : Rng K) :
    List (Operation K T) → SessionManager K T × Rng K
  | [] => (manager, rng)
  | operation :: rest =>
      let (_, manager, rng) := manager.perform rng operation
      manager.run rng rest

end SessionManager

end NostrDoubleRatchet
