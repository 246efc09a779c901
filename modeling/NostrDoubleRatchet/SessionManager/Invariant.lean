import NostrDoubleRatchet.SessionManager.Migration

/-!
Invariants of the device records of a manager. An invariant that survives each edit of
one record holds of every record after any sequence of calls.
-/

namespace NostrDoubleRatchet

variable {K T : Type} [LinearOrder K]

/-- A property of a device's record that the edits of a record keep. It speaks of the
device and the sessions only. -/
structure RecordInvariant (P : DevicePubkey K → DeviceRecord K T → Prop) : Prop where
  new : ∀ device createdAt, P device (DeviceRecord.new device createdAt)
  edit : ∀ {device record record'}, P device record →
    record'.devicePubkey = record.devicePubkey →
    record'.activeSession = record.activeSession →
    record'.inactiveSessions = record.inactiveSessions → P device record'
  activate : ∀ {device record} session, P device record →
    P device { record with activeSession := some session }
  drop : ∀ {device record} {sessions : List (Session K)}, P device record →
    sessions.Sublist record.inactiveSessions →
    P device { record with inactiveSessions := sessions }
  upsert : ∀ {device record} session now, P device record →
    P device (record.upsertSession session now)
  promote : ∀ {device record} session, P device record →
    P device (record.promoteInactiveSession session)

/-- Every user is stored under its owner, and every record satisfies `P`. -/
def UserRecord.All (P : DevicePubkey K → DeviceRecord K T → Prop) (owner : OwnerPubkey K)
    (user : UserRecord K T) : Prop :=
  user.ownerPubkey = owner ∧ ∀ device record, user.devices.get? device = some record →
    P device record

def SessionManager.All (P : DevicePubkey K → DeviceRecord K T → Prop)
    (manager : SessionManager K T) : Prop :=
  ∀ owner user, manager.users.get? owner = some user → user.All P owner

namespace RecordInvariant

variable {P : DevicePubkey K → DeviceRecord K T → Prop} (hP : RecordInvariant P)

include hP

theorem sameContent {device : DevicePubkey K} {record record' : DeviceRecord K T}
    (h : P device record) (hsame : record.SameContent record') : P device record' :=
  hP.edit h hsame.devicePubkey hsame.activeSession hsame.inactiveSessions

theorem foldl_upsert {device : DevicePubkey K} {record : DeviceRecord K T}
    (sessions : List (Session K)) (now : UnixSeconds) (h : P device record) :
    P device (sessions.foldl (fun record session => record.upsertSession session now) record) := by
  induction sessions generalizing record with
  | nil => exact h
  | cons session rest ih => exact ih (hP.upsert session now h)

theorem absorb {device : DevicePubkey K} {record : DeviceRecord K T}
    (other : DeviceRecord K T) (now : UnixSeconds) (h : P device record) :
    P device (record.absorb other now) := by
  unfold DeviceRecord.absorb
  refine hP.edit (hP.foldl_upsert other.inactiveSessions now ?_) rfl rfl rfl
  cases other.activeSession with
  | none => exact hP.edit h rfl rfl rfl
  | some session => exact hP.upsert session now (hP.edit h rfl rfl rfl)

omit hP in
theorem all_setUser {manager : SessionManager K T} {owner : OwnerPubkey K}
    {user : UserRecord K T} (hmanager : manager.All P) (huser : user.All P owner) :
    (manager.setUser owner user).All P := by
  intro owner' user' hget
  rw [SessionManager.get?_setUser] at hget
  split at hget
  · rename_i howner
    cases hget
    rw [← howner]
    exact huser
  · exact hmanager owner' user' hget

omit hP in
theorem all_userRecord {manager : SessionManager K T} (hmanager : manager.All P)
    (owner : OwnerPubkey K) : (manager.userRecord owner).All P owner := by
  unfold SessionManager.userRecord
  cases hget : manager.users.get? owner with
  | none => exact ⟨rfl, fun device record h => by cases h⟩
  | some user => exact hmanager owner user hget

omit hP in
theorem all_userSetDevice {owner : OwnerPubkey K} {user : UserRecord K T}
    {device : DevicePubkey K} {record : DeviceRecord K T} (huser : user.All P owner)
    (hrecord : P device record) : (user.setDevice device record).All P owner := by
  refine ⟨huser.1, fun device' record' hget => ?_⟩
  simp only [UserRecord.setDevice, SortedMap.get?_insert] at hget
  split at hget
  · rename_i hdevice
    cases hget
    rw [← hdevice]
    exact hrecord
  · exact huser.2 device' record' hget

omit hP in
theorem all_setDevice {manager : SessionManager K T} {owner : OwnerPubkey K}
    {device : DevicePubkey K} {record : DeviceRecord K T} (hmanager : manager.All P)
    (hrecord : P device record) : (manager.setDevice owner device record).All P :=
  all_setUser hmanager (all_userSetDevice (all_userRecord hmanager owner) hrecord)

theorem userDeviceRecord {owner : OwnerPubkey K} {user : UserRecord K T}
    (huser : user.All P owner) (device : DevicePubkey K) (createdAt : UnixSeconds) :
    P device (user.deviceRecord device createdAt) := by
  unfold UserRecord.deviceRecord
  cases hget : user.devices.get? device with
  | none => exact hP.new device createdAt
  | some record => exact huser.2 device record hget

theorem deviceRecord {manager : SessionManager K T} (hmanager : manager.All P)
    (owner : OwnerPubkey K) (device : DevicePubkey K) (createdAt : UnixSeconds) :
    P device (manager.deviceRecord owner device createdAt) :=
  hP.userDeviceRecord (all_userRecord hmanager owner) device createdAt

theorem rosterEntries {owner : OwnerPubkey K} {authorizedDevices : List (DevicePubkey K)}
    {device : DevicePubkey K} (entries : List (AuthorizedDevice K))
    {record : Option (DeviceRecord K T)} (hrecord : ∀ r, record = some r → P device r)
    {record' : DeviceRecord K T}
    (h : UserRecord.rosterEntries owner authorizedDevices device entries record =
      some record') : P device record' := by
  by_cases hlisted : ∃ entry ∈ entries, entry.devicePubkey = device
  · obtain ⟨createdAt, record'', hrecord'', hsame, -⟩ :=
      UserRecord.rosterEntries_of_listed owner authorizedDevices record hlisted
    rw [hrecord''] at h
    cases h
    refine hP.sameContent ?_ hsame
    cases record with
    | none => exact hP.new device createdAt
    | some record => exact hrecord record rfl
  · rw [UserRecord.rosterEntries_of_not_listed _ (fun entry hmem hdevice =>
      hlisted ⟨entry, hmem, hdevice⟩)] at h
    exact hrecord record' h

theorem all_recompute [Primitives K T] {manager : SessionManager K T}
    (hmanager : manager.All P) (owner : OwnerPubkey K) :
    (manager.recomputeAuthorizationForOwner owner).All P := by
  unfold SessionManager.recomputeAuthorizationForOwner
  cases hget : manager.users.get? owner with
  | none => exact hmanager
  | some user =>
      obtain ⟨howner, hrecords⟩ := hmanager owner user hget
      refine all_setUser hmanager
        ⟨(user.recomputeAuthorization_ownerPubkey _).trans howner, fun device record h => ?_⟩
      rw [UserRecord.get?_recomputeAuthorization] at h
      refine hP.rosterEntries _ (fun r hr => ?_) h
      obtain ⟨stored, hstored, rfl⟩ := Option.map_eq_some_iff.mp hr
      exact hP.sameContent (hrecords device stored hstored)
        (UserRecord.refreshRecord_sameContent _ _ _ stored)

theorem all_reconcile [Primitives K T] {manager : SessionManager K T}
    (hmanager : manager.All P) (owner : OwnerPubkey K) (now : UnixSeconds) :
    (manager.reconcileVerifiedClaimedDevices owner now).All P := by
  intro owner' user' hget
  by_cases howner : owner' = owner
  · subst howner
    rw [SessionManager.get?_reconcile_self] at hget
    split at hget
    · exact hmanager owner' user' hget
    · cases hget
      have huser := all_userRecord hmanager owner'
      refine ⟨(SessionManager.foldl_absorbMigrated_ownerPubkey _ _ _).trans huser.1,
        fun device record h => ?_⟩
      rw [SessionManager.get?_foldl_absorbMigrated] at h
      have hfold : ∀ (records : List (DeviceRecord K T)) (stored : Option (DeviceRecord K T)),
          (∀ r ∈ records, r.devicePubkey = device) → (∀ r, stored = some r → P device r) →
          records.foldl (fun stored record => some ((stored.getD
            (DeviceRecord.new record.devicePubkey record.createdAt)).absorb record now)) stored =
            some record → P device record := by
        intro records
        induction records with
        | nil => exact fun stored _ hstored heq => hstored record heq
        | cons first rest ih =>
            intro stored hdevices hstored heq
            refine ih _ (fun r hr => hdevices r (List.mem_cons_of_mem _ hr)) ?_ heq
            rintro r hr
            cases hr
            apply hP.absorb
            cases stored with
            | none =>
                rw [Option.getD_none, hdevices first List.mem_cons_self]
                exact hP.new device first.createdAt
            | some stored => exact hstored stored rfl
      refine hfold _ _ (fun r hr => ?_) (fun r hr => huser.2 device r hr) h
      exact of_decide_eq_true (List.mem_filter.mp hr).2
  · rw [SessionManager.get?_reconcile_of_ne manager now howner] at hget
    obtain ⟨user, huser, hrest⟩ := Option.bind_eq_some_iff.mp hget
    split at hrest
    · cases hrest
    · cases hrest
      obtain ⟨hkey, hrecords⟩ := hmanager owner' user huser
      refine ⟨(SessionManager.removeDevices_ownerPubkey _ user).trans hkey,
        fun device record h => ?_⟩
      rw [SessionManager.remainder, SessionManager.get?_removeDevices] at h
      split at h
      · cases h
      · exact hrecords device record h

end RecordInvariant

end NostrDoubleRatchet
