import NostrDoubleRatchet.SessionManager.Rosters

/-!
Preparing the deliveries of a message, as in `session_manager/sending.rs`. A failing
call keeps what the devices before the failing one were given, so every function
returns the manager with its result.
-/

namespace NostrDoubleRatchet

structure Delivery (K T : Type) where
  ownerPubkey : OwnerPubkey K
  devicePubkey : DevicePubkey K
  envelope : MessageEnvelope K T

inductive RelayGap (K : Type) where
  | missingRoster (ownerPubkey : OwnerPubkey K)
  | missingDeviceInvite (ownerPubkey : OwnerPubkey K) (devicePubkey : DevicePubkey K)
  deriving DecidableEq

structure PreparedSend (K T : Type) where
  recipientOwner : OwnerPubkey K
  payload : T
  deliveries : List (Delivery K T)
  inviteResponses : List (InviteResponseEnvelope K T)
  relayGaps : List (RelayGap K)

structure TargetDevice (K : Type) where
  ownerPubkey : OwnerPubkey K
  devicePubkey : DevicePubkey K
  deriving DecidableEq

variable {K T : Type} [LinearOrder K]

/-- The derived order: a missing roster first, then by owner and device. -/
def RelayGap.le : RelayGap K → RelayGap K → Bool
  | .missingRoster a, .missingRoster b => a ≤ b
  | .missingRoster _, .missingDeviceInvite _ _ => true
  | .missingDeviceInvite _ _, .missingRoster _ => false
  | .missingDeviceInvite a d, .missingDeviceInvite b e => a < b || (a = b && d ≤ e)

def TargetDevice.key (target : TargetDevice K) : OwnerPubkey K ×ₗ DevicePubkey K :=
  toLex (target.ownerPubkey, target.devicePubkey)

/-- A `BTreeSet` of targets, walked in order. -/
def targetSet (targets : List (TargetDevice K)) : List (TargetDevice K) :=
  (SortedMap.ofList (targets.map (fun target => (target.key, target)))).values

/-- The outcome of a call on a manager. -/
abbrev Outcome (K T α : Type) [LinearOrder K] := Except Error α × SessionManager K T × Rng K

section

variable [DecidableEq T] [Primitives K T] [InvitePrimitives K T]

/-- `session.apply_send(session.plan_send(payload, now)?)`, addressed to `device`. -/
def sendWithSession (session : Session K) (payload : T) (now : UnixSeconds)
    (device : DevicePubkey K) : RandM K (Session K × MessageEnvelope K T) := do
  let bodyNonce ← randomNonce
  let headerNonce ← randomNonce
  let plan ← session.planSend bodyNonce headerNonce payload now
  pure (session.applySend plan, { plan.envelope with recipient := some device })

/-- The identity a manager accepts invites with. -/
structure LocalIdentity (K : Type) where
  ownerPubkey : OwnerPubkey K
  devicePubkey : DevicePubkey K
  deviceSecretKey : K

def SessionManager.localIdentity (manager : SessionManager K T) : LocalIdentity K :=
  ⟨manager.localOwnerPubkey, manager.localDevicePubkey, manager.localDeviceSecretKey⟩

namespace DeviceRecord

/-- Accept the record's invite and send on the new session. The invite being used up
or exhausted is not an error. -/
def bootstrapDelivery (record : DeviceRecord K T) (identity : LocalIdentity K)
    (invite : Invite K T) (owner : OwnerPubkey K) (device : DevicePubkey K) (payload : T)
    (now : UnixSeconds) :
    RandM K (Option ((Delivery K T × Option (InviteResponseEnvelope K T)) × DeviceRecord K T)) :=
  fun rng =>
    match invite.acceptWithOwnerContext now identity.devicePubkey identity.deviceSecretKey
        (some identity.ownerPubkey) rng with
    | (.error (.domain .inviteAlreadyUsed), rng) => (.ok none, rng)
    | (.error (.domain .inviteExhausted), rng) => (.ok none, rng)
    | (.error e, rng) => (.error e, rng)
    | (.ok (session, inviteResponse), rng) =>
        match sendWithSession session payload now device rng with
        | (.error e, rng) => (.error e, rng)
        | (.ok (session, envelope), rng) =>
            (.ok (some ((⟨owner, device, envelope⟩, some inviteResponse),
              { record with inviteResponseGenerated := true }.upsertSession session now)), rng)

/-- Send on the session `source` names. -/
def sourceDelivery (record : DeviceRecord K T) (source : SendSessionSource)
    (owner : OwnerPubkey K) (device : DevicePubkey K) (payload : T) (now : UnixSeconds) :
    RandM K ((Delivery K T × Option (InviteResponseEnvelope K T)) × DeviceRecord K T) :=
  match record.sessionForSendSource source with
  | none => throw (.domain .sessionNotReady)
  | some session => do
      let (session, envelope) ← sendWithSession session payload now device
      let record := match source with
        | .active => { record with activeSession := some session }
        | .inactive index =>
            { record with inactiveSessions := record.inactiveSessions.eraseIdx index
              }.upsertSession session now
      pure ((⟨owner, device, envelope⟩, none), { record with lastActivity := some now })

/-- The new one-way session a local sibling asks for, when its invite is known and
only a one-way session is left. -/
def shouldRefresh (record : DeviceRecord K T) (identity : LocalIdentity K)
    (owner : OwnerPubkey K) (device : DevicePubkey K) (refreshOneWayBootstrap : Bool) : Bool :=
  refreshOneWayBootstrap && owner = identity.ownerPubkey && device ≠ identity.devicePubkey &&
    record.publicInvite.isSome &&
    (record.bestSendSessionSource.bind record.sessionForSendSource).any isOneWayBootstrapSession

/-- What `prepare_device_delivery` does with the record of an authorized device. It
fails before it changes the record. -/
def deliver (record : DeviceRecord K T) (identity : LocalIdentity K) (owner : OwnerPubkey K)
    (device : DevicePubkey K) (payload : T) (now : UnixSeconds) (refreshOneWayBootstrap : Bool) :
    RandM K (Option ((Delivery K T × Option (InviteResponseEnvelope K T)) ×
      DeviceRecord K T)) := do
  let refreshed ← (match record.publicInvite with
    | some invite =>
        if record.shouldRefresh identity owner device refreshOneWayBootstrap then
          record.bootstrapDelivery identity invite owner device payload now
        else pure none
    | none => pure none)
  match refreshed with
  | some result => pure (some result)
  | none =>
      match record.bestSendSessionSource with
      | some source => some <$> record.sourceDelivery source owner device payload now
      | none =>
          match record.publicInvite with
          | none => pure none
          | some invite => record.bootstrapDelivery identity invite owner device payload now

/-- The loop of `prepare_device_deliveries_for_all_send_sessions` over the inactive
sessions, which were taken out of the record. -/
def deliverInactive (owner : OwnerPubkey K) (device : DevicePubkey K) (payload : T)
    (now : UnixSeconds) : List (Session K) → List (Delivery K T) → DeviceRecord K T → Rng K →
    Except Error (List (Delivery K T)) × DeviceRecord K T × Rng K
  | [], deliveries, record, rng => (.ok deliveries, record, rng)
  | session :: rest, deliveries, record, rng =>
      if session.canSend then
        match sendWithSession session payload now device rng with
        | (.error e, rng) => (.error e, record, rng)
        | (.ok (session, envelope), rng) =>
            deliverInactive owner device payload now rest
              (deliveries ++ [⟨owner, device, envelope⟩]) (record.upsertSession session now) rng
      else
        deliverInactive owner device payload now rest deliveries
          (record.upsertSession session now) rng

/-- `prepare_device_deliveries_for_all_send_sessions` on the record. -/
def deliverAll (record : DeviceRecord K T) (owner : OwnerPubkey K) (device : DevicePubkey K)
    (payload : T) (now : UnixSeconds) (rng : Rng K) :
    Except Error (List (Delivery K T)) × DeviceRecord K T × Rng K :=
  match record.activeSession.filter Session.canSend with
  | none => finish (deliverInactive owner device payload now record.inactiveSessions []
      { record with inactiveSessions := [] } rng)
  | some active =>
      match sendWithSession active payload now device rng with
      | (.error e, rng) => (.error e, record, rng)
      | (.ok (session, envelope), rng) =>
          finish (deliverInactive owner device payload now record.inactiveSessions
            [⟨owner, device, envelope⟩]
            { record with activeSession := some session, inactiveSessions := [] } rng)
where
  /-- The activity time is set when something was sent. -/
  finish : Except Error (List (Delivery K T)) × DeviceRecord K T × Rng K →
      Except Error (List (Delivery K T)) × DeviceRecord K T × Rng K
    | (.ok [], record, rng) => (.ok [], record, rng)
    | (.ok deliveries, record, rng) =>
        (.ok deliveries, { record with lastActivity := some now }, rng)
    | (.error e, record, rng) => (.error e, record, rng)

end DeviceRecord

namespace SessionManager

def prepareDeviceDelivery (manager : SessionManager K T) (owner : OwnerPubkey K)
    (device : DevicePubkey K) (payload : T) (now : UnixSeconds) (refreshOneWayBootstrap : Bool)
    (rng : Rng K) : Outcome K T (Option (Delivery K T × Option (InviteResponseEnvelope K T))) :=
  let record := manager.deviceRecord owner device now
  let manager := manager.setDevice owner device record
  if !record.authorized || record.isStale then (.ok none, manager, rng)
  else
    match record.deliver manager.localIdentity owner device payload now refreshOneWayBootstrap
        rng with
    | (.error e, rng) => (.error e, manager, rng)
    | (.ok none, rng) => (.ok none, manager, rng)
    | (.ok (some (result, record)), rng) =>
        (.ok (some result), manager.setDevice owner device record, rng)

def prepareDeviceDeliveriesForAllSendSessions (manager : SessionManager K T)
    (owner : OwnerPubkey K) (device : DevicePubkey K) (payload : T) (now : UnixSeconds)
    (rng : Rng K) : Outcome K T (List (Delivery K T)) :=
  let record := manager.deviceRecord owner device now
  if !record.authorized || record.isStale then
    (.ok [], manager.setDevice owner device record, rng)
  else
    let (result, record, rng) := record.deliverAll owner device payload now rng
    (result, manager.setDevice owner device record, rng)

/-- What the fan-out loops collect. -/
structure Collected (K T : Type) where
  deliveries : List (Delivery K T)
  inviteResponses : List (InviteResponseEnvelope K T)
  relayGaps : List (RelayGap K)

def Collected.add (collected : Collected K T) (target : TargetDevice K) :
    Option (Delivery K T × Option (InviteResponseEnvelope K T)) → Collected K T
  | some (delivery, response) => { collected with
      deliveries := collected.deliveries ++ [delivery]
      inviteResponses := collected.inviteResponses ++ response.toList }
  | none => { collected with
      relayGaps := collected.relayGaps ++
        [.missingDeviceInvite target.ownerPubkey target.devicePubkey] }

def Collected.prepared (collected : Collected K T) (recipientOwner : OwnerPubkey K)
    (payload : T) : PreparedSend K T where
  recipientOwner := recipientOwner
  payload := payload
  deliveries := collected.deliveries
  inviteResponses := collected.inviteResponses
  relayGaps := collected.relayGaps.mergeSort RelayGap.le

/-- A fan-out loop over the targets; it stops at the first error. -/
def fanOut (prepare : SessionManager K T → TargetDevice K → Collected K T → Rng K →
    Outcome K T (Collected K T)) :
    List (TargetDevice K) → Collected K T → SessionManager K T → Rng K →
    Outcome K T (Collected K T)
  | [], collected, manager, rng => (.ok collected, manager, rng)
  | target :: rest, collected, manager, rng =>
      match prepare manager target collected rng with
      | (.error e, manager, rng) => (.error e, manager, rng)
      | (.ok collected, manager, rng) => fanOut prepare rest collected manager rng

def prepareTarget (payload : T) (now : UnixSeconds) (refreshOneWayBootstrap : Bool)
    (manager : SessionManager K T) (target : TargetDevice K) (collected : Collected K T)
    (rng : Rng K) : Outcome K T (Collected K T) :=
  match manager.prepareDeviceDelivery target.ownerPubkey target.devicePubkey payload now
      refreshOneWayBootstrap rng with
  | (.error e, manager, rng) => (.error e, manager, rng)
  | (.ok result, manager, rng) => (.ok (collected.add target result), manager, rng)

/-- The body of the loop of `prepare_local_sibling_send_reusing_all_sessions`. -/
def prepareTargetAllSessions (payload : T) (now : UnixSeconds) (manager : SessionManager K T)
    (target : TargetDevice K) (collected : Collected K T) (rng : Rng K) :
    Outcome K T (Collected K T) :=
  match manager.prepareDeviceDeliveriesForAllSendSessions target.ownerPubkey
      target.devicePubkey payload now rng with
  | (.error e, manager, rng) => (.error e, manager, rng)
  | (.ok [], manager, rng) => prepareTarget payload now false manager target collected rng
  | (.ok deliveries, manager, rng) =>
      (.ok { collected with deliveries := collected.deliveries ++ deliveries }, manager, rng)

def prepareExplicitSend (manager : SessionManager K T) (recipientOwner : OwnerPubkey K)
    (targets : List (TargetDevice K)) (payload : T) (relayGaps : List (RelayGap K))
    (refreshOneWayBootstrap : Bool) (now : UnixSeconds) (rng : Rng K) :
    Outcome K T (PreparedSend K T) :=
  match fanOut (prepareTarget payload now refreshOneWayBootstrap) (targetSet targets)
      ⟨[], [], relayGaps⟩ manager rng with
  | (.error e, manager, rng) => (.error e, manager, rng)
  | (.ok collected, manager, rng) =>
      (.ok (collected.prepared recipientOwner payload), manager, rng)

def collectRecipientTargets (manager : SessionManager K T) (recipientOwner : OwnerPubkey K) :
    List (TargetDevice K) × List (RelayGap K) :=
  match manager.users.get? recipientOwner with
  | none => ([], [.missingRoster recipientOwner])
  | some user =>
      if user.roster.all (fun roster => roster.devices.isEmpty) then
        ([], [.missingRoster recipientOwner])
      else (user.authorizedNonStaleDevices.map (⟨recipientOwner, ·⟩), [])

def collectLocalSiblingTargets (manager : SessionManager K T) : List (TargetDevice K) :=
  match manager.users.get? manager.localOwnerPubkey with
  | none => []
  | some user =>
      if user.roster.isNone then []
      else (user.authorizedNonStaleDevices.filter (· ≠ manager.localDevicePubkey)).map
        (⟨manager.localOwnerPubkey, ·⟩)

def prepareSendInner (manager : SessionManager K T) (recipientOwner : OwnerPubkey K)
    (payload : T) (includeLocalSiblings : Bool) (now : UnixSeconds) (rng : Rng K) :
    Outcome K T (PreparedSend K T) :=
  let (targets, relayGaps) := manager.collectRecipientTargets recipientOwner
  let targets :=
    if includeLocalSiblings then targets ++ manager.collectLocalSiblingTargets else targets
  manager.prepareExplicitSend recipientOwner targets payload relayGaps false now rng

def prepareSend (manager : SessionManager K T) (recipientOwner : OwnerPubkey K) (payload : T)
    (now : UnixSeconds) (rng : Rng K) : Outcome K T (PreparedSend K T) :=
  manager.prepareSendInner recipientOwner payload true now rng

def prepareRemoteSend (manager : SessionManager K T) (recipientOwner : OwnerPubkey K)
    (payload : T) (now : UnixSeconds) (rng : Rng K) : Outcome K T (PreparedSend K T) :=
  manager.prepareSendInner recipientOwner payload false now rng

def prepareRemoteSendToDevices (manager : SessionManager K T) (recipientOwner : OwnerPubkey K)
    (devices : List (DevicePubkey K)) (payload : T) (now : UnixSeconds) (rng : Rng K) :
    Outcome K T (PreparedSend K T) :=
  manager.prepareExplicitSend recipientOwner (devices.map (⟨recipientOwner, ·⟩)) payload []
    false now rng

def prepareLocalSiblingSendInner (manager : SessionManager K T) (payload : T)
    (refreshOneWayBootstrap : Bool) (now : UnixSeconds) (rng : Rng K) :
    Outcome K T (PreparedSend K T) :=
  manager.prepareExplicitSend manager.localOwnerPubkey manager.collectLocalSiblingTargets payload
    [] refreshOneWayBootstrap now rng

def prepareLocalSiblingSend (manager : SessionManager K T) (payload : T) (now : UnixSeconds)
    (rng : Rng K) : Outcome K T (PreparedSend K T) :=
  manager.prepareLocalSiblingSendInner payload false now rng

def prepareLocalSiblingSendToDevices (manager : SessionManager K T)
    (devices : List (DevicePubkey K)) (payload : T) (now : UnixSeconds) (rng : Rng K) :
    Outcome K T (PreparedSend K T) :=
  manager.prepareExplicitSend manager.localOwnerPubkey
    (devices.map (⟨manager.localOwnerPubkey, ·⟩)) payload [] false now rng

def prepareLocalSiblingSendReusingSessions (manager : SessionManager K T) (payload : T)
    (now : UnixSeconds) (rng : Rng K) : Outcome K T (PreparedSend K T) :=
  manager.prepareLocalSiblingSendInner payload false now rng

def prepareLocalSiblingSendRefreshingOneWaySessions (manager : SessionManager K T) (payload : T)
    (now : UnixSeconds) (rng : Rng K) : Outcome K T (PreparedSend K T) :=
  manager.prepareLocalSiblingSendInner payload true now rng

def prepareLocalSiblingSendReusingAllSessions (manager : SessionManager K T) (payload : T)
    (now : UnixSeconds) (rng : Rng K) : Outcome K T (PreparedSend K T) :=
  match fanOut (prepareTargetAllSessions payload now)
      (targetSet manager.collectLocalSiblingTargets) ⟨[], [], []⟩ manager rng with
  | (.error e, manager, rng) => (.error e, manager, rng)
  | (.ok collected, manager, rng) =>
      (.ok (collected.prepared manager.localOwnerPubkey payload), manager, rng)

end SessionManager

end

end NostrDoubleRatchet
