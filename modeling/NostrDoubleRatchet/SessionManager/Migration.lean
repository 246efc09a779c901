import NostrDoubleRatchet.SessionManager.Lookup

/-!
What recomputing an owner's authorization and reconciling its claimed devices leave
at every owner. A device moves from a source owner to the owner it is proven to
belong to; the sources are treated one by one, and none of them changes what is
proven about the owner.
-/

namespace NostrDoubleRatchet

variable {K T : Type} [LinearOrder K]

namespace SessionManager

/-- Two managers that differ at most in their users. -/
structure SameOutside (manager manager' : SessionManager K T) : Prop where
  localOwnerPubkey : manager'.localOwnerPubkey = manager.localOwnerPubkey
  localDevicePubkey : manager'.localDevicePubkey = manager.localDevicePubkey
  localDeviceSecretKey : manager'.localDeviceSecretKey = manager.localDeviceSecretKey
  localInvite : manager'.localInvite = manager.localInvite
  verifiedPeerAppKeys : manager'.verifiedPeerAppKeys = manager.verifiedPeerAppKeys

theorem SameOutside.refl (manager : SessionManager K T) : manager.SameOutside manager :=
  ⟨rfl, rfl, rfl, rfl, rfl⟩

theorem SameOutside.trans {a b c : SessionManager K T} (hab : a.SameOutside b)
    (hbc : b.SameOutside c) : a.SameOutside c where
  localOwnerPubkey := hbc.localOwnerPubkey.trans hab.localOwnerPubkey
  localDevicePubkey := hbc.localDevicePubkey.trans hab.localDevicePubkey
  localDeviceSecretKey := hbc.localDeviceSecretKey.trans hab.localDeviceSecretKey
  localInvite := hbc.localInvite.trans hab.localInvite
  verifiedPeerAppKeys := hbc.verifiedPeerAppKeys.trans hab.verifiedPeerAppKeys

theorem sameOutside_setUser (manager : SessionManager K T) (owner : OwnerPubkey K)
    (user : UserRecord K T) : manager.SameOutside (manager.setUser owner user) :=
  ⟨rfl, rfl, rfl, rfl, rfl⟩

theorem sameOutside_setDevice (manager : SessionManager K T) (owner : OwnerPubkey K)
    (device : DevicePubkey K) (record : DeviceRecord K T) :
    manager.SameOutside (manager.setDevice owner device record) :=
  ⟨rfl, rfl, rfl, rfl, rfl⟩

section

variable [Primitives K T]

/-- What is proven about an owner depends on the evidence and on that owner's own
roster only. -/
theorem ownerDeviceIsAuthorized_congr {manager manager' : SessionManager K T}
    {owner : OwnerPubkey K} (hsame : manager.SameOutside manager')
    (hroster : manager'.roster owner = manager.roster owner) (device : DevicePubkey K) :
    manager'.ownerDeviceIsAuthorized owner device =
      manager.ownerDeviceIsAuthorized owner device := by
  unfold ownerDeviceIsAuthorized
  rw [hsame.localOwnerPubkey, hsame.verifiedPeerAppKeys, hroster]

theorem authorizedDevicesForOwner_congr {manager manager' : SessionManager K T}
    {owner : OwnerPubkey K} (hsame : manager.SameOutside manager')
    (hroster : manager'.roster owner = manager.roster owner) :
    manager'.authorizedDevicesForOwner owner = manager.authorizedDevicesForOwner owner := by
  unfold authorizedDevicesForOwner
  simp only [hroster, ownerDeviceIsAuthorized_congr hsame hroster]

theorem mem_authorizedDevicesForOwner {manager : SessionManager K T} {owner : OwnerPubkey K}
    {device : DevicePubkey K} :
    device ∈ manager.authorizedDevicesForOwner owner ↔
      (∃ roster, manager.roster owner = some roster ∧ roster.Lists device) ∧
        manager.ownerDeviceIsAuthorized owner device = true := by
  unfold authorizedDevicesForOwner
  cases hroster : manager.roster owner with
  | none => simp
  | some roster =>
      simp only [SortedMap.mem_keys_ofList, List.map_map, List.mem_map, List.mem_filter,
        Function.comp_apply, Option.some.injEq, exists_eq_left', DeviceRoster.Lists]
      constructor
      · rintro ⟨entry, ⟨hmem, hauthorized⟩, rfl⟩
        exact ⟨⟨entry, hmem, rfl⟩, hauthorized⟩
      · rintro ⟨⟨entry, hmem, rfl⟩, hauthorized⟩
        exact ⟨entry, ⟨hmem, hauthorized⟩, rfl⟩

/-! Recomputing. -/

theorem sameOutside_recompute (manager : SessionManager K T) (owner : OwnerPubkey K) :
    manager.SameOutside (manager.recomputeAuthorizationForOwner owner) := by
  unfold recomputeAuthorizationForOwner
  cases manager.users.get? owner with
  | none => exact SameOutside.refl manager
  | some user => exact manager.sameOutside_setUser owner _

theorem get?_recompute (manager : SessionManager K T) (owner owner' : OwnerPubkey K) :
    (manager.recomputeAuthorizationForOwner owner).users.get? owner' =
      if owner = owner' then (manager.users.get? owner).map (fun user =>
        user.recomputeAuthorization (manager.authorizedDevicesForOwner owner))
      else manager.users.get? owner' := by
  unfold recomputeAuthorizationForOwner
  cases huser : manager.users.get? owner with
  | none =>
      by_cases howner : owner = owner'
      · subst howner
        simp [huser]
      · simp [howner]
  | some user => exact manager.get?_setUser owner owner' _

theorem roster_recompute (manager : SessionManager K T) (owner owner' : OwnerPubkey K) :
    (manager.recomputeAuthorizationForOwner owner).roster owner' = manager.roster owner' := by
  unfold roster
  rw [get?_recompute]
  split
  · rename_i howner
    rw [← howner]
    cases manager.users.get? owner with
    | none => rfl
    | some user => exact user.recomputeAuthorization_roster _
  · rfl

theorem record?_recompute_of_ne (manager : SessionManager K T) {owner owner' : OwnerPubkey K}
    (h : owner ≠ owner') (device : DevicePubkey K) :
    (manager.recomputeAuthorizationForOwner owner).record? owner' device =
      manager.record? owner' device := by
  unfold record?
  rw [get?_recompute, if_neg h]

theorem record?_recompute (manager : SessionManager K T) {owner : OwnerPubkey K}
    {user : UserRecord K T} (huser : manager.users.get? owner = some user)
    (device : DevicePubkey K) :
    (manager.recomputeAuthorizationForOwner owner).record? owner device =
      UserRecord.recomputedRecord user.ownerPubkey user.roster
        (manager.authorizedDevicesForOwner owner) device (manager.record? owner device) := by
  unfold record?
  rw [get?_recompute, if_pos rfl, huser]
  exact user.get?_recomputeAuthorization _ device

end

/-! Removing the devices of a source. -/

theorem removeDevices_ownerPubkey (devices : List (DevicePubkey K)) (user : UserRecord K T) :
    (removeDevices devices user).2.ownerPubkey = user.ownerPubkey := by
  induction devices generalizing user with
  | nil => rfl
  | cons device rest ih =>
      unfold removeDevices
      cases user.devices.get? device with
      | none => exact ih user
      | some record => exact ih _

theorem removeDevices_roster (devices : List (DevicePubkey K)) (user : UserRecord K T) :
    (removeDevices devices user).2.roster = user.roster := by
  induction devices generalizing user with
  | nil => rfl
  | cons device rest ih =>
      unfold removeDevices
      cases user.devices.get? device with
      | none => exact ih user
      | some record => exact ih _

theorem get?_removeDevices (devices : List (DevicePubkey K)) (user : UserRecord K T)
    (device : DevicePubkey K) :
    (removeDevices devices user).2.devices.get? device =
      if device ∈ devices then none else user.devices.get? device := by
  induction devices generalizing user with
  | nil => rfl
  | cons first rest ih =>
      unfold removeDevices
      cases hfirst : user.devices.get? first with
      | none =>
          refine (ih user).trans ?_
          by_cases hdevice : device = first
          · subst hdevice
            simp [hfirst]
          · simp [hdevice]
      | some record =>
          refine (ih _).trans ?_
          simp only [SortedMap.get?_erase, List.mem_cons]
          by_cases hdevice : device = first
          · simp [hdevice]
          · simp [hdevice, Ne.symm hdevice]

theorem mem_removeDevices {devices : List (DevicePubkey K)} {user : UserRecord K T}
    {record : DeviceRecord K T} :
    record ∈ (removeDevices devices user).1 ↔
      ∃ device ∈ devices, ∃ stored, user.devices.get? device = some stored ∧
        record = { stored with claimedOwnerPubkey := none } := by
  induction devices generalizing user with
  | nil => simp [removeDevices]
  | cons first rest ih =>
      unfold removeDevices
      cases hfirst : user.devices.get? first with
      | none =>
          refine ih.trans ?_
          simp [hfirst]
      | some stored =>
          change _ ∈ _ :: _ ↔ _
          rw [List.mem_cons, ih]
          constructor
          · rintro (rfl | ⟨device, hmem, stored', hstored', rfl⟩)
            · exact ⟨first, List.mem_cons_self, stored, hfirst, rfl⟩
            · rw [SortedMap.get?_erase] at hstored'
              split at hstored'
              · cases hstored'
              · exact ⟨device, List.mem_cons_of_mem _ hmem, stored', hstored', rfl⟩
          · rintro ⟨device, hmem, stored', hstored', rfl⟩
            by_cases hdevice : first = device
            · subst hdevice
              rw [hfirst] at hstored'
              cases hstored'
              exact Or.inl rfl
            · have hrest : device ∈ rest := by
                simpa [Ne.symm hdevice] using hmem
              refine Or.inr ⟨device, hrest, stored', ?_, rfl⟩
              rw [SortedMap.get?_erase_ne _ hdevice]
              exact hstored'

/-! Absorbing the migrated records. -/

private theorem foldl_absorbMigrated (now : UnixSeconds) (records : List (DeviceRecord K T))
    (user : UserRecord K T) :
    records.foldl (absorbMigrated now) user = { user with
      devices := records.foldl (fun devices record => devices.insert record.devicePubkey
        (((devices.get? record.devicePubkey).getD
          (DeviceRecord.new record.devicePubkey record.createdAt)).absorb record now))
        user.devices } := by
  induction records generalizing user with
  | nil => rfl
  | cons record rest ih =>
      rw [List.foldl_cons, List.foldl_cons, ih]
      rfl

theorem foldl_absorbMigrated_ownerPubkey (now : UnixSeconds)
    (records : List (DeviceRecord K T)) (user : UserRecord K T) :
    (records.foldl (absorbMigrated now) user).ownerPubkey = user.ownerPubkey := by
  rw [foldl_absorbMigrated]

theorem foldl_absorbMigrated_roster (now : UnixSeconds) (records : List (DeviceRecord K T))
    (user : UserRecord K T) :
    (records.foldl (absorbMigrated now) user).roster = user.roster := by
  rw [foldl_absorbMigrated]

/-- The record of a device once the migrated records of that device are absorbed. -/
theorem get?_foldl_absorbMigrated (now : UnixSeconds) (records : List (DeviceRecord K T))
    (user : UserRecord K T) (device : DevicePubkey K) :
    (records.foldl (absorbMigrated now) user).devices.get? device =
      (records.filter (fun record => record.devicePubkey = device)).foldl
        (fun stored record => some ((stored.getD
          (DeviceRecord.new record.devicePubkey record.createdAt)).absorb record now))
        (user.devices.get? device) := by
  rw [foldl_absorbMigrated, SortedMap.get?_foldl_update DeviceRecord.devicePubkey
    (fun record stored => (stored.getD
      (DeviceRecord.new record.devicePubkey record.createdAt)).absorb record now)]

/-! The sources of a migration. -/

section

variable [Primitives K T]

/-- What a source owner gives up to `owner`. -/
def migratedFrom (manager : SessionManager K T) (owner source : OwnerPubkey K) :
    List (DeviceRecord K T) :=
  match manager.users.get? source with
  | none => []
  | some user => (removeDevices (manager.matchingDevices owner user) user).1

/-- What a source owner keeps. -/
def remainder (manager : SessionManager K T) (owner : OwnerPubkey K) (user : UserRecord K T) :
    UserRecord K T :=
  (removeDevices (manager.matchingDevices owner user) user).2

/-- A source owner that gave up its last device and had no roster of its own. -/
def emptied (manager : SessionManager K T) (owner source : OwnerPubkey K)
    (user : UserRecord K T) : Bool :=
  manager.matchingDevices owner user ≠ [] &&
    ((manager.remainder owner user).devices.length = 0 &&
      (user.roster.isNone ||
        sourceRosterIsProvisional source (manager.matchingDevices owner user) user))

theorem matchingDevices_congr {manager manager' : SessionManager K T} {owner : OwnerPubkey K}
    (hsame : manager.SameOutside manager')
    (hroster : manager'.roster owner = manager.roster owner) (user : UserRecord K T) :
    manager'.matchingDevices owner user = manager.matchingDevices owner user := by
  unfold matchingDevices
  simp only [ownerDeviceIsAuthorized_congr hsame hroster]

theorem remainder_congr {manager manager' : SessionManager K T} {owner : OwnerPubkey K}
    (h : ∀ user, manager'.matchingDevices owner user = manager.matchingDevices owner user) :
    manager'.remainder owner = manager.remainder owner := by
  funext user
  rw [remainder, remainder, h]

theorem emptied_congr {manager manager' : SessionManager K T} {owner : OwnerPubkey K}
    (h : ∀ user, manager'.matchingDevices owner user = manager.matchingDevices owner user) :
    manager'.emptied owner = manager.emptied owner := by
  funext source user
  rw [emptied, emptied, h, remainder_congr h]

theorem remainder_eq_self {manager : SessionManager K T} {owner : OwnerPubkey K}
    {user : UserRecord K T} (h : manager.matchingDevices owner user = []) :
    manager.remainder owner user = user := by
  rw [remainder, h]
  rfl

theorem roster_remainder (manager : SessionManager K T) (owner : OwnerPubkey K)
    (user : UserRecord K T) : (manager.remainder owner user).roster = user.roster :=
  removeDevices_roster _ user

/-- The loop over the sources, each looked up in the manager before the loop. -/
structure Migrates (owner : OwnerPubkey K) (sources : List (OwnerPubkey K))
    (manager : SessionManager K T) (migrated : List (DeviceRecord K T))
    (emptySources : List (OwnerPubkey K)) (manager' : SessionManager K T) : Prop where
  sameOutside : manager.SameOutside manager'
  migrated_eq : migrated = sources.flatMap (manager.migratedFrom owner)
  mem_emptySources : ∀ source, source ∈ emptySources ↔
    source ∈ sources ∧ (manager.users.get? source).any (manager.emptied owner source) = true
  users : ∀ source, manager'.users.get? source =
    if source ∈ sources then (manager.users.get? source).map (manager.remainder owner)
    else manager.users.get? source

/-- Treating one source leaves the later ones as they were. -/
private theorem migrates_cons {owner source : OwnerPubkey K} {rest : List (OwnerPubkey K)}
    {manager : SessionManager K T} {user : UserRecord K T} (hfresh : source ∉ rest)
    (hne : source ≠ owner) (huser : manager.users.get? source = some user)
    (hmatching : manager.matchingDevices owner user ≠ [])
    {migrated : List (DeviceRecord K T)} {emptySources : List (OwnerPubkey K)}
    {manager' : SessionManager K T}
    (h : Migrates owner rest (manager.setUser source (manager.remainder owner user)) migrated
      emptySources manager') :
    Migrates owner (source :: rest) manager
      ((removeDevices (manager.matchingDevices owner user) user).1 ++ migrated)
      (if (manager.remainder owner user).devices.length = 0 ∧ (user.roster.isNone ∨
          sourceRosterIsProvisional source (manager.matchingDevices owner user) user) then
        source :: emptySources else emptySources) manager' := by
  have hsame := manager.sameOutside_setUser source (manager.remainder owner user)
  have hmatch : ∀ user', (manager.setUser source (manager.remainder owner user)).matchingDevices
      owner user' = manager.matchingDevices owner user' :=
    matchingDevices_congr hsame (by rw [roster_setUser, if_neg hne])
  have hget : ∀ source' ≠ source,
      (manager.setUser source (manager.remainder owner user)).users.get? source' =
        manager.users.get? source' := by
    intro source' hsource
    rw [get?_setUser, if_neg (Ne.symm hsource)]
  have hother : ∀ source' ∈ rest, source' ≠ source := by
    rintro source' hmem rfl
    exact hfresh hmem
  refine ⟨hsame.trans h.sameOutside, ?_, fun source' => ?_, fun source' => ?_⟩
  · rw [h.migrated_eq, List.flatMap_cons, migratedFrom, huser]
    congr 1
    apply List.flatMap_congr
    intro source' hmem
    simp only [migratedFrom, hget source' (hother source' hmem), hmatch]
  · have htail := h.mem_emptySources source'
    by_cases hsource : source' = source
    · subst hsource
      simp only [hfresh, false_and, iff_false] at htail
      simp only [List.mem_cons_self, true_and, huser, Option.any_some, emptied, hmatching,
        ne_eq, not_false_eq_true, decide_true, Bool.true_and, Bool.and_eq_true, Bool.or_eq_true,
        decide_eq_true_eq]
      split
      · rename_i hempty
        simp only [List.mem_cons_self, true_iff]
        exact hempty
      · rename_i hempty
        simp only [htail, false_iff]
        exact hempty
    · have hmem : source' ∈ (if (manager.remainder owner user).devices.length = 0 ∧
          (user.roster.isNone ∨ sourceRosterIsProvisional source
            (manager.matchingDevices owner user) user) then
          source :: emptySources else emptySources) ↔ source' ∈ emptySources := by
        split
        · simp [hsource]
        · rfl
      rw [hmem, htail, hget source' hsource, emptied_congr hmatch]
      simp only [List.mem_cons, hsource, false_or]
  · rw [h.users]
    by_cases hsource : source' = source
    · subst hsource
      simp [hfresh, huser]
    · rw [hget source' hsource, remainder_congr hmatch]
      simp only [List.mem_cons, hsource, false_or]

theorem migrateFrom_migrates {owner : OwnerPubkey K} {sources : List (OwnerPubkey K)}
    (hnodup : sources.Nodup) (howner : owner ∉ sources) (manager : SessionManager K T) :
    Migrates owner sources manager (migrateFrom owner sources manager).1
      (migrateFrom owner sources manager).2.1 (migrateFrom owner sources manager).2.2 := by
  induction sources generalizing manager with
  | nil => exact ⟨SameOutside.refl manager, rfl, by simp [migrateFrom], fun _ => rfl⟩
  | cons source rest ih =>
      obtain ⟨hfresh, hnodup⟩ := List.nodup_cons.mp hnodup
      have hne : source ≠ owner := fun h => howner (h ▸ List.mem_cons_self)
      have hrest := ih hnodup (fun hmem => howner (List.mem_cons_of_mem _ hmem))
      unfold migrateFrom
      cases huser : manager.users.get? source with
      | none =>
          have hstep := hrest manager
          refine ⟨hstep.sameOutside, ?_, fun source' => ?_, fun source' => ?_⟩
          · simpa [migratedFrom, huser] using hstep.migrated_eq
          · refine (hstep.mem_emptySources source').trans ?_
            by_cases hsource : source' = source
            · subst hsource
              simp [huser]
            · simp [hsource]
          · refine (hstep.users source').trans ?_
            by_cases hsource : source' = source
            · subst hsource
              simp [huser]
            · simp [hsource]
      | some user =>
          by_cases hmatching : manager.matchingDevices owner user = []
          · have hstep := hrest manager
            have hremainder := remainder_eq_self hmatching
            simp only [hmatching, if_true]
            refine ⟨hstep.sameOutside, ?_, fun source' => ?_, fun source' => ?_⟩
            · simpa [migratedFrom, huser, hmatching, removeDevices] using hstep.migrated_eq
            · refine (hstep.mem_emptySources source').trans ?_
              by_cases hsource : source' = source
              · subst hsource
                simp [huser, hfresh, emptied, hmatching]
              · simp [hsource]
            · refine (hstep.users source').trans ?_
              by_cases hsource : source' = source
              · subst hsource
                simp [huser, hfresh, hremainder]
              · simp [hsource]
          · simp only [if_neg hmatching]
            exact migrates_cons hfresh hne huser hmatching (hrest _)

/-! Reconciling. -/

/-- The records `owner` takes over. -/
def allMigrated (manager : SessionManager K T) (owner : OwnerPubkey K) :
    List (DeviceRecord K T) :=
  (manager.users.keys.filter (fun candidate => candidate ≠ owner)).flatMap
    (manager.migratedFrom owner)

theorem mem_allMigrated {manager : SessionManager K T} {owner : OwnerPubkey K}
    {record : DeviceRecord K T} :
    record ∈ manager.allMigrated owner ↔ ∃ source user device stored,
      source ≠ owner ∧ manager.users.get? source = some user ∧
      device ∈ manager.matchingDevices owner user ∧ user.devices.get? device = some stored ∧
      record = { stored with claimedOwnerPubkey := none } := by
  unfold allMigrated
  rw [List.mem_flatMap]
  constructor
  · rintro ⟨source, hsource, hmem⟩
    obtain ⟨hkeys, hne⟩ := List.mem_filter.mp hsource
    obtain ⟨user, huser⟩ := SortedMap.mem_keys.mp hkeys
    rw [migratedFrom, huser, mem_removeDevices] at hmem
    obtain ⟨device, hdevice, stored, hstored, hrecord⟩ := hmem
    exact ⟨source, user, device, stored, of_decide_eq_true hne, huser, hdevice, hstored, hrecord⟩
  · rintro ⟨source, user, device, stored, hne, huser, hdevice, hstored, hrecord⟩
    refine ⟨source, List.mem_filter.mpr ⟨SortedMap.mem_keys.mpr ⟨user, huser⟩,
      decide_eq_true hne⟩, ?_⟩
    rw [migratedFrom, huser, mem_removeDevices]
    exact ⟨device, hdevice, stored, hstored, hrecord⟩

private theorem migrates_reconcile (manager : SessionManager K T) (owner : OwnerPubkey K) :
    Migrates owner (manager.users.keys.filter (fun candidate => candidate ≠ owner)) manager
      (migrateFrom owner (manager.users.keys.filter (fun candidate => candidate ≠ owner))
        manager).1
      (migrateFrom owner (manager.users.keys.filter (fun candidate => candidate ≠ owner))
        manager).2.1
      (migrateFrom owner (manager.users.keys.filter (fun candidate => candidate ≠ owner))
        manager).2.2 := by
  apply migrateFrom_migrates (manager.users.nodup_keys.filter _)
  simp

theorem sameOutside_reconcile (manager : SessionManager K T) (owner : OwnerPubkey K)
    (now : UnixSeconds) :
    manager.SameOutside (manager.reconcileVerifiedClaimedDevices owner now) := by
  have hsame := (manager.migrates_reconcile owner).sameOutside
  unfold reconcileVerifiedClaimedDevices
  dsimp only
  split
  · exact hsame.trans ⟨rfl, rfl, rfl, rfl, rfl⟩
  · exact hsame.trans ⟨rfl, rfl, rfl, rfl, rfl⟩

private theorem get?_afterMigration (manager : SessionManager K T)
    (owner source : OwnerPubkey K) :
    ((migrateFrom owner (manager.users.keys.filter (fun candidate => candidate ≠ owner))
        manager).2.1.foldl SortedMap.erase
      (migrateFrom owner (manager.users.keys.filter (fun candidate => candidate ≠ owner))
        manager).2.2.users).get? source =
      if source = owner then manager.users.get? owner
      else (manager.users.get? source).bind (fun user =>
        if manager.emptied owner source user then none
        else some (manager.remainder owner user)) := by
  have hstep := manager.migrates_reconcile owner
  rw [SortedMap.get?_foldl_erase, hstep.users]
  rw [if_congr (hstep.mem_emptySources source) rfl rfl]
  by_cases hsource : source = owner
  · simp [hsource]
  · cases huser : manager.users.get? source with
    | none => simp [hsource]
    | some user =>
        have hkey : source ∈ manager.users.keys := SortedMap.mem_keys.mpr ⟨user, huser⟩
        cases hempty : manager.emptied owner source user with
        | false => simp [hsource, hkey, hempty]
        | true => simp [hsource, hkey, hempty]

/-- Other owners lose the devices proven to belong to `owner`, and disappear with the
last one when they had no roster of their own. -/
theorem get?_reconcile_of_ne (manager : SessionManager K T) {owner source : OwnerPubkey K}
    (now : UnixSeconds) (h : source ≠ owner) :
    (manager.reconcileVerifiedClaimedDevices owner now).users.get? source =
      (manager.users.get? source).bind (fun user =>
        if manager.emptied owner source user then none
        else some (manager.remainder owner user)) := by
  have hget := manager.get?_afterMigration owner source
  rw [if_neg h] at hget
  unfold reconcileVerifiedClaimedDevices
  dsimp only
  split
  · exact hget
  · rw [get?_setUser, if_neg (Ne.symm h)]
    exact hget

/-- The owner absorbs what the others gave up. -/
theorem get?_reconcile_self (manager : SessionManager K T) (owner : OwnerPubkey K)
    (now : UnixSeconds) :
    (manager.reconcileVerifiedClaimedDevices owner now).users.get? owner =
      if manager.allMigrated owner = [] then manager.users.get? owner
      else some ((manager.allMigrated owner).foldl (absorbMigrated now)
        (manager.userRecord owner)) := by
  have hget := manager.get?_afterMigration owner owner
  rw [if_pos rfl] at hget
  have hmigrated := (manager.migrates_reconcile owner).migrated_eq
  unfold reconcileVerifiedClaimedDevices
  dsimp only
  rw [hmigrated]
  change SortedMap.get? (SessionManager.users (if manager.allMigrated owner = [] then _ else _))
    owner = _
  split
  · exact hget
  · rw [get?_setUser, if_pos rfl]
    simp only [userRecord, hget]
    rfl

theorem roster_reconcile_self (manager : SessionManager K T) (owner : OwnerPubkey K)
    (now : UnixSeconds) :
    (manager.reconcileVerifiedClaimedDevices owner now).roster owner = manager.roster owner := by
  unfold roster
  rw [get?_reconcile_self]
  split
  · rfl
  · refine (foldl_absorbMigrated_roster now _ _).trans ?_
    exact manager.roster_userRecord owner

/-! Storing a claimed session. -/

/-- The owner's record with the roster a first session of the owner's own device
gives it. -/
def seededUser (manager : SessionManager K T) (owner : OwnerPubkey K) (device : DevicePubkey K)
    (now : UnixSeconds) : UserRecord K T :=
  if owner = ownerPubkeyFromDevicePubkey device ∧ (manager.roster owner).isNone then
    { manager.userRecord owner with roster := some (DeviceRoster.new now [⟨device, now⟩]) }
  else manager.userRecord owner

/-- The record that takes a claimed session, before it does. -/
def claimRecord (manager : SessionManager K T) (claimedOwner : OwnerPubkey K)
    (device : DevicePubkey K) (now : UnixSeconds) : DeviceRecord K T :=
  { manager.deviceRecord (manager.claimTarget claimedOwner device) device now with
    claimedOwnerPubkey :=
      if claimedOwner ≠ manager.claimTarget claimedOwner device then some claimedOwner else none
    inviteResponseGenerated := true }

omit [Primitives K T] in
theorem seededUser_ownerPubkey (manager : SessionManager K T) (owner : OwnerPubkey K)
    (device : DevicePubkey K) (now : UnixSeconds) :
    (manager.seededUser owner device now).ownerPubkey =
      (manager.userRecord owner).ownerPubkey := by
  unfold seededUser
  split <;> rfl

omit [Primitives K T] in
theorem seededUser_devices (manager : SessionManager K T) (owner : OwnerPubkey K)
    (device : DevicePubkey K) (now : UnixSeconds) :
    (manager.seededUser owner device now).devices = (manager.userRecord owner).devices := by
  unfold seededUser
  split <;> rfl

theorem storeClaimedSession_manager (manager : SessionManager K T)
    (claimedOwner : OwnerPubkey K) (device : DevicePubkey K) (session : Session K)
    (now : UnixSeconds) :
    (manager.storeClaimedSession claimedOwner device session now).2 =
      (manager.setUser (manager.claimTarget claimedOwner device)
        ((manager.seededUser (manager.claimTarget claimedOwner device) device now).setDevice
          device ((manager.claimRecord claimedOwner device now).upsertSession session
            now))).recomputeAuthorizationForOwner (manager.claimTarget claimedOwner device) := by
  have hrecord : (manager.seededUser (manager.claimTarget claimedOwner device) device
      now).deviceRecord device now =
        manager.deviceRecord (manager.claimTarget claimedOwner device) device now := by
    unfold UserRecord.deviceRecord SessionManager.deviceRecord
    rw [seededUser_devices]
    rfl
  unfold claimRecord
  rw [← hrecord]
  rfl

end

end SessionManager

end NostrDoubleRatchet
