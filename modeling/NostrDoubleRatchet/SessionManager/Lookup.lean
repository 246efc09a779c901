import NostrDoubleRatchet.SessionManager.Lifecycle

/-!
Where the operations of a session manager write: what each of them leaves at an owner
and device. Later modules look records up through these rules and do not open the
operations again.
-/

namespace NostrDoubleRatchet

variable {K T : Type} [LinearOrder K]

namespace SessionManager

/-- The record stored for a device of an owner. -/
def record? (manager : SessionManager K T) (owner : OwnerPubkey K) (device : DevicePubkey K) :
    Option (DeviceRecord K T) :=
  (manager.users.get? owner).bind (fun user => user.devices.get? device)

@[simp] theorem get?_setUser (manager : SessionManager K T) (owner owner' : OwnerPubkey K)
    (user : UserRecord K T) :
    (manager.setUser owner user).users.get? owner' =
      if owner = owner' then some user else manager.users.get? owner' :=
  SortedMap.get?_insert _ _ _ _

theorem get?_setUser_self (manager : SessionManager K T) (owner : OwnerPubkey K)
    (user : UserRecord K T) : (manager.setUser owner user).users.get? owner = some user := by
  simp

@[simp] theorem get?_setDevice (manager : SessionManager K T) (owner owner' : OwnerPubkey K)
    (device : DevicePubkey K) (record : DeviceRecord K T) :
    (manager.setDevice owner device record).users.get? owner' =
      if owner = owner' then some ((manager.userRecord owner).setDevice device record)
      else manager.users.get? owner' :=
  get?_setUser _ _ _ _

theorem record?_setUser (manager : SessionManager K T) (owner owner' : OwnerPubkey K)
    (device : DevicePubkey K) (user : UserRecord K T) :
    (manager.setUser owner user).record? owner' device =
      if owner = owner' then user.devices.get? device else manager.record? owner' device := by
  unfold record?
  rw [get?_setUser]
  split <;> rfl

theorem get?_userRecord (manager : SessionManager K T) (owner : OwnerPubkey K)
    (device : DevicePubkey K) :
    (manager.userRecord owner).devices.get? device = manager.record? owner device := by
  unfold userRecord record?
  cases manager.users.get? owner with
  | none => rfl
  | some user => rfl

theorem roster_userRecord (manager : SessionManager K T) (owner : OwnerPubkey K) :
    (manager.userRecord owner).roster = manager.roster owner := by
  unfold userRecord roster
  cases manager.users.get? owner with
  | none => rfl
  | some user => rfl

theorem deviceRecord_eq (manager : SessionManager K T) (owner : OwnerPubkey K)
    (device : DevicePubkey K) (createdAt : UnixSeconds) :
    manager.deviceRecord owner device createdAt =
      (manager.record? owner device).getD (DeviceRecord.new device createdAt) := by
  unfold deviceRecord UserRecord.deviceRecord
  rw [get?_userRecord]

theorem record?_setDevice (manager : SessionManager K T) (owner owner' : OwnerPubkey K)
    (device device' : DevicePubkey K) (record : DeviceRecord K T) :
    (manager.setDevice owner device record).record? owner' device' =
      if owner = owner' ∧ device = device' then some record
      else manager.record? owner' device' := by
  unfold setDevice
  rw [record?_setUser]
  by_cases howner : owner = owner'
  · rw [if_pos howner]
    unfold UserRecord.setDevice
    simp only [SortedMap.get?_insert, get?_userRecord, howner, true_and]
  · simp only [howner, false_and, if_false]

@[simp] theorem record?_setDevice_self (manager : SessionManager K T) (owner : OwnerPubkey K)
    (device : DevicePubkey K) (record : DeviceRecord K T) :
    (manager.setDevice owner device record).record? owner device = some record := by
  simp [record?_setDevice]

theorem roster_setUser (manager : SessionManager K T) (owner owner' : OwnerPubkey K)
    (user : UserRecord K T) :
    (manager.setUser owner user).roster owner' =
      if owner = owner' then user.roster else manager.roster owner' := by
  unfold roster
  rw [get?_setUser]
  split <;> rfl

@[simp] theorem roster_setDevice (manager : SessionManager K T) (owner owner' : OwnerPubkey K)
    (device : DevicePubkey K) (record : DeviceRecord K T) :
    (manager.setDevice owner device record).roster owner' = manager.roster owner' := by
  unfold setDevice
  rw [roster_setUser]
  split
  · rename_i howner
    rw [← howner]
    exact manager.roster_userRecord owner
  · rfl

theorem setDevice_setDevice (manager : SessionManager K T) (owner : OwnerPubkey K)
    (device : DevicePubkey K) (record record' : DeviceRecord K T) :
    (manager.setDevice owner device record).setDevice owner device record' =
      manager.setDevice owner device record' := by
  have huser : (manager.setDevice owner device record).userRecord owner =
      (manager.userRecord owner).setDevice device record := by
    simp [userRecord]
  unfold setDevice at huser ⊢
  rw [huser]
  unfold setUser UserRecord.setDevice
  simp only [SortedMap.insert_insert]

end SessionManager

/-! Recomputing the flags of an owner's devices, one device at a time. -/

namespace DeviceRecord

/-- Two records that differ at most in their flags and their creation time. -/
structure SameContent (record record' : DeviceRecord K T) : Prop where
  devicePubkey : record'.devicePubkey = record.devicePubkey
  claimedOwnerPubkey : record'.claimedOwnerPubkey = record.claimedOwnerPubkey
  publicInvite : record'.publicInvite = record.publicInvite
  inviteResponseGenerated :
    record'.inviteResponseGenerated = record.inviteResponseGenerated
  activeSession : record'.activeSession = record.activeSession
  inactiveSessions : record'.inactiveSessions = record.inactiveSessions
  lastActivity : record'.lastActivity = record.lastActivity

theorem SameContent.refl (record : DeviceRecord K T) : record.SameContent record :=
  ⟨rfl, rfl, rfl, rfl, rfl, rfl, rfl⟩

theorem SameContent.trans {a b c : DeviceRecord K T} (hab : a.SameContent b)
    (hbc : b.SameContent c) : a.SameContent c where
  devicePubkey := hbc.devicePubkey.trans hab.devicePubkey
  claimedOwnerPubkey := hbc.claimedOwnerPubkey.trans hab.claimedOwnerPubkey
  publicInvite := hbc.publicInvite.trans hab.publicInvite
  inviteResponseGenerated := hbc.inviteResponseGenerated.trans hab.inviteResponseGenerated
  activeSession := hbc.activeSession.trans hab.activeSession
  inactiveSessions := hbc.inactiveSessions.trans hab.inactiveSessions
  lastActivity := hbc.lastActivity.trans hab.lastActivity

end DeviceRecord

namespace UserRecord

theorem refreshRecord_of_bound {owner : OwnerPubkey K} {authorizedDevices : List (DevicePubkey K)}
    {record : DeviceRecord K T} (createdAt : Option UnixSeconds)
    (h : ownerPubkeyFromDevicePubkey record.devicePubkey = owner ∨
      record.devicePubkey ∈ authorizedDevices) :
    refreshRecord owner createdAt authorizedDevices record =
      { record with authorized := true, isStale := false, staleSince := none } := by
  simp only [refreshRecord, if_pos h]

theorem refreshRecord_of_unbound {owner : OwnerPubkey K}
    {authorizedDevices : List (DevicePubkey K)} {record : DeviceRecord K T}
    (createdAt : Option UnixSeconds)
    (h : ¬ (ownerPubkeyFromDevicePubkey record.devicePubkey = owner ∨
      record.devicePubkey ∈ authorizedDevices)) :
    refreshRecord owner createdAt authorizedDevices record = { record with
      authorized := false
      isStale := createdAt.isSome
      staleSince := if createdAt.isSome then record.staleSince.or createdAt else none } := by
  cases createdAt with
  | none => simp [refreshRecord, if_neg h]
  | some createdAt => simp [refreshRecord, if_neg h]

theorem refreshRecord_sameContent (owner : OwnerPubkey K) (createdAt : Option UnixSeconds)
    (authorizedDevices : List (DevicePubkey K)) (record : DeviceRecord K T) :
    record.SameContent (refreshRecord owner createdAt authorizedDevices record) := by
  by_cases h : ownerPubkeyFromDevicePubkey record.devicePubkey = owner ∨
      record.devicePubkey ∈ authorizedDevices
  · rw [refreshRecord_of_bound createdAt h]
    exact ⟨rfl, rfl, rfl, rfl, rfl, rfl, rfl⟩
  · rw [refreshRecord_of_unbound createdAt h]
    exact ⟨rfl, rfl, rfl, rfl, rfl, rfl, rfl⟩

theorem refreshRecord_authorized (owner : OwnerPubkey K) (createdAt : Option UnixSeconds)
    (authorizedDevices : List (DevicePubkey K)) (record : DeviceRecord K T) :
    (refreshRecord owner createdAt authorizedDevices record).authorized = true ↔
      ownerPubkeyFromDevicePubkey record.devicePubkey = owner ∨
        record.devicePubkey ∈ authorizedDevices := by
  by_cases h : ownerPubkeyFromDevicePubkey record.devicePubkey = owner ∨
      record.devicePubkey ∈ authorizedDevices
  · simp only [refreshRecord_of_bound createdAt h, h]
  · simp only [refreshRecord_of_unbound createdAt h, h, Bool.false_eq_true]

theorem rosterRecord_sameContent (owner : OwnerPubkey K)
    (authorizedDevices : List (DevicePubkey K)) (device : AuthorizedDevice K)
    (record : DeviceRecord K T) :
    record.SameContent (rosterRecord owner authorizedDevices device record) := by
  unfold rosterRecord
  split
  · exact ⟨rfl, rfl, rfl, rfl, rfl, rfl, rfl⟩
  · exact ⟨rfl, rfl, rfl, rfl, rfl, rfl, rfl⟩

theorem rosterRecord_authorized (owner : OwnerPubkey K)
    (authorizedDevices : List (DevicePubkey K)) (device : AuthorizedDevice K)
    (record : DeviceRecord K T) :
    (rosterRecord owner authorizedDevices device record).authorized = true ↔
      ownerPubkeyFromDevicePubkey device.devicePubkey = owner ∨
        device.devicePubkey ∈ authorizedDevices := by
  unfold rosterRecord
  split
  · rename_i hdevice
    simp only [true_iff]
    exact hdevice.symm
  · rename_i hdevice
    simp only [Bool.false_eq_true, false_iff]
    exact fun h => hdevice h.symm

/-- The entries of a roster for one device, applied to its record in turn. -/
def rosterEntries (owner : OwnerPubkey K) (authorizedDevices : List (DevicePubkey K))
    (device : DevicePubkey K) (entries : List (AuthorizedDevice K))
    (record : Option (DeviceRecord K T)) : Option (DeviceRecord K T) :=
  (entries.filter (fun entry => entry.devicePubkey = device)).foldl
    (fun record entry => some (rosterRecord owner authorizedDevices entry
      (record.getD (DeviceRecord.new device entry.createdAt)))) record

/-- What `recompute_authorization` leaves of the record of one device. -/
def recomputedRecord (owner : OwnerPubkey K) (roster : Option (DeviceRoster K))
    (authorizedDevices : List (DevicePubkey K)) (device : DevicePubkey K)
    (record : Option (DeviceRecord K T)) : Option (DeviceRecord K T) :=
  rosterEntries owner authorizedDevices device ((roster.map DeviceRoster.devices).getD [])
    (record.map (refreshRecord owner (roster.map DeviceRoster.createdAt) authorizedDevices))

private theorem foldl_addRosterDevice (authorizedDevices : List (DevicePubkey K))
    (entries : List (AuthorizedDevice K)) (user : UserRecord K T) :
    entries.foldl (addRosterDevice authorizedDevices) user = { user with
      devices := entries.foldl (fun devices entry => devices.insert entry.devicePubkey
        (rosterRecord user.ownerPubkey authorizedDevices entry
          ((devices.get? entry.devicePubkey).getD
            (DeviceRecord.new entry.devicePubkey entry.createdAt)))) user.devices } := by
  induction entries generalizing user with
  | nil => rfl
  | cons entry rest ih =>
      rw [List.foldl_cons, List.foldl_cons, ih]
      rfl

theorem recomputeAuthorization_ownerPubkey (user : UserRecord K T)
    (authorizedDevices : List (DevicePubkey K)) :
    (user.recomputeAuthorization authorizedDevices).ownerPubkey = user.ownerPubkey := by
  unfold recomputeAuthorization
  rw [foldl_addRosterDevice]

theorem recomputeAuthorization_roster (user : UserRecord K T)
    (authorizedDevices : List (DevicePubkey K)) :
    (user.recomputeAuthorization authorizedDevices).roster = user.roster := by
  unfold recomputeAuthorization
  rw [foldl_addRosterDevice]

theorem get?_recomputeAuthorization (user : UserRecord K T)
    (authorizedDevices : List (DevicePubkey K)) (device : DevicePubkey K) :
    (user.recomputeAuthorization authorizedDevices).devices.get? device =
      recomputedRecord user.ownerPubkey user.roster authorizedDevices device
        (user.devices.get? device) := by
  unfold recomputeAuthorization recomputedRecord rosterEntries
  rw [foldl_addRosterDevice, SortedMap.get?_foldl_update AuthorizedDevice.devicePubkey
    (fun entry record => rosterRecord user.ownerPubkey authorizedDevices entry
      (record.getD (DeviceRecord.new entry.devicePubkey entry.createdAt))),
    SortedMap.get?_mapValues]
  apply List.foldl_ext
  intro record entry hmem
  rw [of_decide_eq_true (List.mem_filter.mp hmem).2]

theorem rosterEntries_of_not_listed {owner : OwnerPubkey K}
    {authorizedDevices : List (DevicePubkey K)} {device : DevicePubkey K}
    {entries : List (AuthorizedDevice K)} (record : Option (DeviceRecord K T))
    (h : ∀ entry ∈ entries, entry.devicePubkey ≠ device) :
    rosterEntries owner authorizedDevices device entries record = record := by
  have hnil : entries.filter (fun entry => entry.devicePubkey = device) = [] := by
    simpa using h
  rw [rosterEntries, hnil, List.foldl_nil]

private theorem foldl_rosterRecord {owner : OwnerPubkey K}
    {authorizedDevices : List (DevicePubkey K)} {device : DevicePubkey K}
    {entries : List (AuthorizedDevice K)} {record record' : DeviceRecord K T}
    (hentries : ∀ entry ∈ entries, entry.devicePubkey = device)
    (h : entries.foldl (fun record entry => some (rosterRecord owner authorizedDevices entry
      (record.getD (DeviceRecord.new device entry.createdAt)))) (some record) = some record') :
    record.SameContent record' ∧ (entries ≠ [] → (record'.authorized = true ↔
      ownerPubkeyFromDevicePubkey device = owner ∨ device ∈ authorizedDevices)) := by
  induction entries generalizing record with
  | nil =>
      cases h
      exact ⟨DeviceRecord.SameContent.refl _, fun hne => absurd rfl hne⟩
  | cons entry rest ih =>
      obtain ⟨hsame, hauthorized⟩ :=
        ih (fun entry hmem => hentries entry (List.mem_cons_of_mem _ hmem)) h
      have hfirst := rosterRecord_sameContent owner authorizedDevices entry record
      refine ⟨hfirst.trans hsame, fun _ => ?_⟩
      by_cases hrest : rest = []
      · subst hrest
        cases h
        rw [Option.getD_some, rosterRecord_authorized, hentries entry List.mem_cons_self]
      · exact hauthorized hrest

theorem rosterEntries_of_listed (owner : OwnerPubkey K)
    (authorizedDevices : List (DevicePubkey K)) {device : DevicePubkey K}
    {entries : List (AuthorizedDevice K)} (record : Option (DeviceRecord K T))
    (h : ∃ entry ∈ entries, entry.devicePubkey = device) :
    ∃ createdAt record', rosterEntries owner authorizedDevices device entries record =
        some record' ∧
      (record.getD (DeviceRecord.new device createdAt)).SameContent record' ∧
      (record'.authorized = true ↔
        ownerPubkeyFromDevicePubkey device = owner ∨ device ∈ authorizedDevices) := by
  have hfilter : ∀ entry ∈ entries.filter (fun entry => entry.devicePubkey = device),
      entry.devicePubkey = device := by
    intro entry hmem
    simpa using (List.mem_filter.mp hmem).2
  unfold rosterEntries
  obtain ⟨entry, hmem, hdevice⟩ := h
  have hin : entry ∈ entries.filter (fun entry => entry.devicePubkey = device) :=
    List.mem_filter.mpr ⟨hmem, decide_eq_true hdevice⟩
  cases hlist : entries.filter (fun entry => entry.devicePubkey = device) with
  | nil =>
      rw [hlist] at hin
      cases hin
  | cons first rest =>
      rw [hlist] at hfilter
      have hsome : ∀ (entries : List (AuthorizedDevice K)) (record : DeviceRecord K T),
          ∃ record', entries.foldl (fun record entry =>
            some (rosterRecord owner authorizedDevices entry
              (record.getD (DeviceRecord.new device entry.createdAt)))) (some record) =
              some record' := by
        intro entries
        induction entries with
        | nil => exact fun record => ⟨record, rfl⟩
        | cons entry rest ih => exact fun record => ih _
      obtain ⟨record', hrecord'⟩ := hsome (first :: rest)
        (record.getD (DeviceRecord.new device first.createdAt))
      obtain ⟨hsame, hauthorized⟩ := foldl_rosterRecord hfilter hrecord'
      exact ⟨first.createdAt, record', hrecord', hsame, hauthorized (List.cons_ne_nil _ _)⟩

theorem recomputedRecord_sameContent {owner : OwnerPubkey K} {roster : Option (DeviceRoster K)}
    {authorizedDevices : List (DevicePubkey K)} {device : DevicePubkey K}
    {record : Option (DeviceRecord K T)} {record' : DeviceRecord K T}
    (h : recomputedRecord owner roster authorizedDevices device record = some record') :
    ∃ createdAt, (record.getD (DeviceRecord.new device createdAt)).SameContent record' := by
  unfold recomputedRecord at h
  by_cases hlisted : ∃ entry ∈ (roster.map DeviceRoster.devices).getD [],
      entry.devicePubkey = device
  · obtain ⟨createdAt, record'', hrecord'', hsame, -⟩ :=
      rosterEntries_of_listed owner authorizedDevices (record.map (refreshRecord owner
        (roster.map DeviceRoster.createdAt) authorizedDevices)) hlisted
    rw [hrecord''] at h
    cases h
    refine ⟨createdAt, ?_⟩
    cases record with
    | none => exact hsame
    | some record => exact (refreshRecord_sameContent _ _ _ record).trans hsame
  · rw [rosterEntries_of_not_listed _ (fun entry hmem hdevice =>
      hlisted ⟨entry, hmem, hdevice⟩)] at h
    obtain ⟨record, rfl, hrecord⟩ := Option.map_eq_some_iff.mp h
    subst hrecord
    exact ⟨0, refreshRecord_sameContent _ _ _ record⟩

/-- A recomputed record is authorized exactly when the device is the owner itself or
among the authorized devices. -/
theorem recomputedRecord_authorized {owner : OwnerPubkey K} {roster : Option (DeviceRoster K)}
    {authorizedDevices : List (DevicePubkey K)} {device : DevicePubkey K}
    {record : Option (DeviceRecord K T)} {record' : DeviceRecord K T}
    (hkey : ∀ r, record = some r → r.devicePubkey = device)
    (h : recomputedRecord owner roster authorizedDevices device record = some record') :
    record'.authorized = true ↔
      ownerPubkeyFromDevicePubkey device = owner ∨ device ∈ authorizedDevices := by
  unfold recomputedRecord at h
  by_cases hlisted : ∃ entry ∈ (roster.map DeviceRoster.devices).getD [],
      entry.devicePubkey = device
  · obtain ⟨createdAt, record'', hrecord'', -, hauthorized⟩ :=
      rosterEntries_of_listed owner authorizedDevices (record.map (refreshRecord owner
        (roster.map DeviceRoster.createdAt) authorizedDevices)) hlisted
    rw [hrecord''] at h
    cases h
    exact hauthorized
  · rw [rosterEntries_of_not_listed _ (fun entry hmem hdevice =>
      hlisted ⟨entry, hmem, hdevice⟩)] at h
    obtain ⟨record, rfl, hrecord⟩ := Option.map_eq_some_iff.mp h
    subst hrecord
    rw [refreshRecord_authorized, hkey record rfl]

theorem recomputedRecord_isSome (owner : OwnerPubkey K) (roster : Option (DeviceRoster K))
    (authorizedDevices : List (DevicePubkey K)) (device : DevicePubkey K)
    (record : Option (DeviceRecord K T)) :
    (recomputedRecord owner roster authorizedDevices device record).isSome = true ↔
      record.isSome = true ∨ ∃ r, roster = some r ∧ r.Lists device := by
  have hentries : (∃ entry ∈ (roster.map DeviceRoster.devices).getD [],
      entry.devicePubkey = device) ↔ ∃ r, roster = some r ∧ r.Lists device := by
    cases roster with
    | none => simp
    | some roster => simp [DeviceRoster.Lists]
  unfold recomputedRecord
  by_cases hlisted : ∃ entry ∈ (roster.map DeviceRoster.devices).getD [],
      entry.devicePubkey = device
  · obtain ⟨createdAt, record', hrecord', -⟩ :=
      rosterEntries_of_listed owner authorizedDevices (record.map (refreshRecord owner
        (roster.map DeviceRoster.createdAt) authorizedDevices)) hlisted
    simp [hrecord', hentries.mp hlisted]
  · rw [rosterEntries_of_not_listed _ (fun entry hmem hdevice =>
      hlisted ⟨entry, hmem, hdevice⟩), ← hentries]
    simp [hlisted]

/-- What depends on the content only is not changed by recomputing. -/
theorem exists_recomputedRecord_some {owner : OwnerPubkey K} {roster : Option (DeviceRoster K)}
    {authorizedDevices : List (DevicePubkey K)} {device : DevicePubkey K}
    {record : DeviceRecord K T} {p : DeviceRecord K T → Prop}
    (hp : ∀ record', record.SameContent record' → (p record' ↔ p record)) :
    (∃ record', recomputedRecord owner roster authorizedDevices device (some record) =
      some record' ∧ p record') ↔ p record := by
  have hsome := (recomputedRecord_isSome owner roster authorizedDevices device
    (some record)).mpr (Or.inl rfl)
  obtain ⟨record', hrecord'⟩ := Option.isSome_iff_exists.mp hsome
  obtain ⟨createdAt, hsame⟩ := recomputedRecord_sameContent hrecord'
  simp only [hrecord', Option.some.injEq, exists_eq_left']
  exact hp record' hsame

end UserRecord

end NostrDoubleRatchet
