import NostrDoubleRatchet.Evidence
import NostrDoubleRatchet.SessionManager.Retention

/-!
An authorized record is bound to its owner. The flag is written by recomputing an
owner's records and copied by every other edit, so the invariant says that a set flag
means a binding, and each call that changes an owner's roster or evidence recomputes
that owner last.
-/

namespace NostrDoubleRatchet

variable {K T : Type} [LinearOrder K]

namespace DeviceRecord

/-- Two records of one device with the same flags. -/
structure SameStanding (record record' : DeviceRecord K T) : Prop where
  devicePubkey : record'.devicePubkey = record.devicePubkey
  authorized : record'.authorized = record.authorized
  isStale : record'.isStale = record.isStale

/-- The same flags and the same provisional claim, as every edit of the sessions leaves
them. -/
structure Kept (record record' : DeviceRecord K T) : Prop
    extends SameStanding record record' where
  claimedOwnerPubkey : record'.claimedOwnerPubkey = record.claimedOwnerPubkey

theorem Kept.refl (record : DeviceRecord K T) : record.Kept record := ⟨⟨rfl, rfl, rfl⟩, rfl⟩

theorem Kept.trans {a b c : DeviceRecord K T} (hab : a.Kept b) (hbc : b.Kept c) : a.Kept c :=
  ⟨⟨hbc.devicePubkey.trans hab.devicePubkey, hbc.authorized.trans hab.authorized,
    hbc.isStale.trans hab.isStale⟩, hbc.claimedOwnerPubkey.trans hab.claimedOwnerPubkey⟩

theorem kept_placeSession (record : DeviceRecord K T) (session : Session K) :
    record.Kept (record.placeSession session) := by
  unfold placeSession
  cases record.activeSession with
  | none => exact ⟨⟨rfl, rfl, rfl⟩, rfl⟩
  | some old =>
      dsimp only
      split
      · exact ⟨⟨rfl, rfl, rfl⟩, rfl⟩
      · exact ⟨⟨rfl, rfl, rfl⟩, rfl⟩

theorem kept_upsertSession (record : DeviceRecord K T) (session : Session K)
    (now : UnixSeconds) : record.Kept (record.upsertSession session now) := by
  unfold upsertSession
  split
  · exact ⟨⟨rfl, rfl, rfl⟩, rfl⟩
  · exact (record.kept_placeSession session).trans ⟨⟨rfl, rfl, rfl⟩, rfl⟩

theorem kept_promoteInactiveSession (record : DeviceRecord K T) (session : Session K) :
    record.Kept (record.promoteInactiveSession session) := by
  unfold promoteInactiveSession
  cases record.activeSession with
  | none => exact ⟨⟨rfl, rfl, rfl⟩, rfl⟩
  | some old =>
      dsimp only
      split
      · exact ⟨⟨rfl, rfl, rfl⟩, rfl⟩
      · exact ⟨⟨rfl, rfl, rfl⟩, rfl⟩

section

variable [Primitives K T]

theorem Delivered.kept {record record' : DeviceRecord K T} {owner : OwnerPubkey K}
    {device : DevicePubkey K} {payload : T} {now : UnixSeconds} {refresh : Bool}
    {delivery : Delivery K T}
    (h : record.Delivered owner device payload now refresh delivery record') :
    record.Kept record' := by
  cases h with
  | active _ _ => exact ⟨⟨rfl, rfl, rfl⟩, rfl⟩
  | @inactive index session session' envelope rng rng' _ _ =>
      have h := kept_upsertSession { record with
        inactiveSessions := record.inactiveSessions.eraseIdx index } session' now
      exact ⟨⟨h.devicePubkey, h.authorized, h.isStale⟩, h.claimedOwnerPubkey⟩
  | @bootstrap session session' envelope rng rng' _ _ _ =>
      have h := kept_upsertSession { record with inviteResponseGenerated := true }
        session' now
      exact ⟨⟨h.devicePubkey, h.authorized, h.isStale⟩, h.claimedOwnerPubkey⟩

theorem kept_deliverInactive (owner : OwnerPubkey K) (device : DevicePubkey K)
    (payload : T) (now : UnixSeconds) (sessions : List (Session K))
    (deliveries : List (Delivery K T)) (record : DeviceRecord K T) (rng : Rng K) :
    record.Kept (deliverInactive owner device payload now sessions deliveries record
      rng).2.1 := by
  induction sessions generalizing deliveries record rng with
  | nil => exact Kept.refl record
  | cons session rest ih =>
      unfold deliverInactive
      split
      · split
        · exact Kept.refl record
        · exact (record.kept_upsertSession _ now).trans (ih _ _ _)
      · exact (record.kept_upsertSession _ now).trans (ih _ _ _)

theorem kept_deliverAll (record : DeviceRecord K T) (owner : OwnerPubkey K)
    (device : DevicePubkey K) (payload : T) (now : UnixSeconds) (rng : Rng K) :
    record.Kept (record.deliverAll owner device payload now rng).2.1 := by
  have hfinish : ∀ outcome : Except Error (List (Delivery K T)) × DeviceRecord K T × Rng K,
      record.Kept outcome.2.1 →
        record.Kept (deliverAll.finish now outcome).2.1 := by
    rintro ⟨result, record', rng'⟩ h
    cases result with
    | error e => exact h
    | ok deliveries =>
        cases deliveries with
        | nil => exact h
        | cons delivery rest => exact h.trans ⟨⟨rfl, rfl, rfl⟩, rfl⟩
  have hloop : ∀ (record₁ : DeviceRecord K T) deliveries rng₁, record.Kept record₁ →
      record.Kept (deliverAll.finish now (deliverInactive owner device payload now
        record.inactiveSessions deliveries record₁ rng₁)).2.1 :=
    fun record₁ deliveries rng₁ h => hfinish _
      (h.trans (kept_deliverInactive owner device payload now _ deliveries record₁ rng₁))
  unfold deliverAll
  split
  · exact hloop _ _ _ ⟨⟨rfl, rfl, rfl⟩, rfl⟩
  · split
    · exact Kept.refl record
    · exact hloop _ _ _ ⟨⟨rfl, rfl, rfl⟩, rfl⟩

theorem kept_receive {record record' : DeviceRecord K T} {envelope : MessageEnvelope K T}
    {now : UnixSeconds} {firstError firstError' : Option Error} {rng rng' : Rng K} {payload : T}
    (h : record.receive envelope now firstError rng =
      (some (payload, record'), firstError', rng')) : record.Kept record' := by
  unfold receive at h
  split at h
  · cases h
    exact ⟨⟨rfl, rfl, rfl⟩, rfl⟩
  · split at h
    · cases h
    · rename_i index plan _ _ _
      split at h
      · cases h
      · rename_i session _
        cases h
        have hpromote := kept_promoteInactiveSession { record with
          inactiveSessions := record.inactiveSessions.eraseIdx index } (session.applyReceive plan)
        exact ⟨⟨hpromote.devicePubkey, hpromote.authorized, hpromote.isStale⟩,
          hpromote.claimedOwnerPubkey⟩

end

end DeviceRecord

/-- A record is stored under its own device. -/
def DeviceRecord.Keyed (device : DevicePubkey K) (record : DeviceRecord K T) : Prop :=
  record.devicePubkey = device

theorem keyed_recordInvariant : RecordInvariant (DeviceRecord.Keyed (K := K) (T := T)) where
  new _ _ := rfl
  edit h hdevice _ _ := hdevice.trans h
  activate _ h := h
  drop h _ := h
  upsert session now h := (DeviceRecord.kept_upsertSession _ session now).devicePubkey.trans h
  promote session h :=
    (DeviceRecord.kept_promoteInactiveSession _ session).devicePubkey.trans h

namespace SessionManager

section

variable [Primitives K T]

/-- The device is the owner itself, is named by the local roster of the local owner, or
is authorized by the owner's signed evidence. -/
def Bound (manager : SessionManager K T) (owner : OwnerPubkey K) (device : DevicePubkey K) :
    Prop :=
  ownerPubkeyFromDevicePubkey device = owner ∨
  (owner = manager.localOwnerPubkey ∧
    ∃ roster, manager.roster owner = some roster ∧ roster.Lists device) ∨
  ∃ ownerKey deviceKey, owner.toNostr = .ok ownerKey ∧ device.toNostr = .ok deviceKey ∧
    manager.verifiedPeerAppKeys.membership ownerKey deviceKey = .authorized

theorem bound_of_ownerDeviceIsAuthorized {manager : SessionManager K T} {owner : OwnerPubkey K}
    {device : DevicePubkey K} (h : manager.ownerDeviceIsAuthorized owner device = true) :
    manager.Bound owner device := by
  unfold ownerDeviceIsAuthorized at h
  split at h
  · rename_i hself
    exact Or.inl hself
  · split at h
    · rename_i hlocal
      rw [Option.isSome_iff_exists] at h
      obtain ⟨entry, hentry⟩ := h
      obtain ⟨roster, hroster, hget⟩ := Option.bind_eq_some_iff.mp hentry
      refine Or.inr (Or.inl ⟨hlocal, roster, hroster, ?_⟩)
      exact DeviceRoster.getDevice_isSome.mp (by rw [hget]; rfl)
    · split at h
      · rename_i ownerKey deviceKey howner hdevice
        exact Or.inr (Or.inr ⟨ownerKey, deviceKey, howner, hdevice, of_decide_eq_true h⟩)
      · cases h

/-- A binding depends on the evidence and the roster of its owner. -/
theorem Bound.congr {manager manager' : SessionManager K T} {owner : OwnerPubkey K}
    {device : DevicePubkey K} (h : manager.Bound owner device)
    (hlocal : manager'.localOwnerPubkey = manager.localOwnerPubkey)
    (hroster : manager'.roster owner = manager.roster owner)
    (hindex : ∀ ownerKey, owner.toNostr = .ok ownerKey →
      manager'.verifiedPeerAppKeys.heads.get? ownerKey =
        manager.verifiedPeerAppKeys.heads.get? ownerKey) :
    manager'.Bound owner device := by
  obtain hself | ⟨howner, hlisted⟩ | ⟨ownerKey, deviceKey, howner, hdevice, hmember⟩ := h
  · exact Or.inl hself
  · exact Or.inr (Or.inl ⟨by rw [hlocal]; exact howner, by rw [hroster]; exact hlisted⟩)
  · refine Or.inr (Or.inr ⟨ownerKey, deviceKey, howner, hdevice, ?_⟩)
    rw [← hmember, VerifiedAppKeysIndex.membership, VerifiedAppKeysIndex.membership,
      hindex ownerKey howner]

theorem Bound.sameOutside {manager manager' : SessionManager K T} {owner : OwnerPubkey K}
    {device : DevicePubkey K} (h : manager.Bound owner device)
    (hsame : manager.SameOutside manager')
    (hroster : manager'.roster owner = manager.roster owner) : manager'.Bound owner device :=
  h.congr hsame.localOwnerPubkey hroster (fun _ _ => by rw [hsame.verifiedPeerAppKeys])

/-- Every authorized record of the owner is bound to it. -/
def SoundAt (manager : SessionManager K T) (owner : OwnerPubkey K) : Prop :=
  ∀ device record, manager.record? owner device = some record → record.authorized = true →
    manager.Bound owner device

/-- Recomputing an owner makes its flags right, whatever they were. -/
theorem soundAt_recompute {manager : SessionManager K T} (owner : OwnerPubkey K)
    (hkeyed : manager.All DeviceRecord.Keyed) :
    (manager.recomputeAuthorizationForOwner owner).SoundAt owner := by
  intro device record hget hauthorized
  have hsame := manager.sameOutside_recompute owner
  have hroster := manager.roster_recompute owner owner
  cases huser : manager.users.get? owner with
  | none =>
      unfold record? at hget
      rw [get?_recompute, if_pos rfl, huser] at hget
      cases hget
  | some user =>
      obtain ⟨howner, hrecords⟩ := hkeyed owner user huser
      rw [record?_recompute manager huser, howner] at hget
      have hkey : ∀ r, manager.record? owner device = some r → r.devicePubkey = device := by
        intro r hr
        unfold record? at hr
        rw [huser] at hr
        exact hrecords device r hr
      obtain hself | hmem :=
        (UserRecord.recomputedRecord_authorized hkey hget).mp hauthorized
      · exact Or.inl hself
      · exact (bound_of_ownerDeviceIsAuthorized
          (mem_authorizedDevicesForOwner.mp hmem).2).sameOutside hsame hroster

theorem soundAt_recompute_of_ne {manager : SessionManager K T} {owner owner' : OwnerPubkey K}
    (hne : owner ≠ owner') (h : manager.SoundAt owner') :
    (manager.recomputeAuthorizationForOwner owner).SoundAt owner' := by
  intro device record hget hauthorized
  rw [manager.record?_recompute_of_ne hne] at hget
  exact (h device record hget hauthorized).sameOutside (manager.sameOutside_recompute owner)
    (manager.roster_recompute owner owner')

/-- An owner that gives up devices keeps the rest as they were. -/
theorem soundAt_reconcile_of_ne {manager : SessionManager K T} {owner owner' : OwnerPubkey K}
    (now : UnixSeconds) (hne : owner' ≠ owner) (h : manager.SoundAt owner') :
    (manager.reconcileVerifiedClaimedDevices owner now).SoundAt owner' := by
  intro device record hget hauthorized
  have hsame := manager.sameOutside_reconcile owner now
  unfold record? at hget
  obtain ⟨user', huser', hdevice⟩ := Option.bind_eq_some_iff.mp hget
  have hstored := huser'
  rw [get?_reconcile_of_ne manager now hne] at hstored
  obtain ⟨user, huser, hrest⟩ := Option.bind_eq_some_iff.mp hstored
  split at hrest
  · cases hrest
  · cases hrest
    have hroster : (manager.reconcileVerifiedClaimedDevices owner now).roster owner' =
        manager.roster owner' := by
      unfold roster
      rw [huser', huser]
      exact manager.roster_remainder owner user
    rw [remainder, get?_removeDevices] at hdevice
    split at hdevice
    · cases hdevice
    · refine (h device record ?_ hauthorized).sameOutside hsame hroster
      unfold record?
      rw [huser]
      exact hdevice

end

variable [Primitives K T] [EventPrimitives K]

/-- The invariant: records are stored under their keys, evidence under its owner, and a
set flag means a binding. -/
structure Sound (manager : SessionManager K T) : Prop where
  keyed : manager.All DeviceRecord.Keyed
  evidence : manager.verifiedPeerAppKeys.WellFormed
  bound : ∀ owner, manager.SoundAt owner

theorem sound_recompute {manager : SessionManager K T} {owner : OwnerPubkey K}
    (hkeyed : manager.All DeviceRecord.Keyed)
    (hevidence : manager.verifiedPeerAppKeys.WellFormed)
    (hother : ∀ owner' ≠ owner, manager.SoundAt owner') :
    (manager.recomputeAuthorizationForOwner owner).Sound where
  keyed := keyed_recordInvariant.all_recompute hkeyed owner
  evidence := by
    rw [(manager.sameOutside_recompute owner).verifiedPeerAppKeys]
    exact hevidence
  bound owner' := by
    by_cases howner : owner' = owner
    · subst howner
      exact soundAt_recompute owner' hkeyed
    · exact soundAt_recompute_of_ne (Ne.symm howner) (hother owner' howner)

/-- Reconciling an owner and recomputing it afterwards. -/
theorem sound_reconcile {manager : SessionManager K T} {owner : OwnerPubkey K}
    (now : UnixSeconds) (hkeyed : manager.All DeviceRecord.Keyed)
    (hevidence : manager.verifiedPeerAppKeys.WellFormed)
    (hother : ∀ owner' ≠ owner, manager.SoundAt owner') :
    ((manager.reconcileVerifiedClaimedDevices owner now).recomputeAuthorizationForOwner
      owner).Sound := by
  refine sound_recompute (keyed_recordInvariant.all_reconcile hkeyed owner now) ?_
    (fun owner' howner => soundAt_reconcile_of_ne now howner (hother owner' howner))
  rw [(manager.sameOutside_reconcile owner now).verifiedPeerAppKeys]
  exact hevidence

omit [EventPrimitives K] in
theorem soundAt_setUser_of_ne {manager : SessionManager K T} {owner owner' : OwnerPubkey K}
    (user : UserRecord K T) (hne : owner' ≠ owner) (h : manager.SoundAt owner') :
    (manager.setUser owner user).SoundAt owner' := by
  intro device record hget hauthorized
  rw [record?_setUser, if_neg (Ne.symm hne)] at hget
  refine (h device record hget hauthorized).sameOutside (manager.sameOutside_setUser owner user) ?_
  rw [roster_setUser, if_neg (Ne.symm hne)]

/-- A roster may be stated for an owner whose evidence has just changed. -/
theorem sound_applyRosterForOwnerInner {manager : SessionManager K T} {owner : OwnerPubkey K}
    (roster : DeviceRoster K) (replaceExisting : Bool)
    (hkeyed : manager.All DeviceRecord.Keyed)
    (hevidence : manager.verifiedPeerAppKeys.WellFormed)
    (hother : ∀ owner' ≠ owner, manager.SoundAt owner') :
    (manager.applyRosterForOwnerInner owner roster replaceExisting).2.Sound := by
  unfold applyRosterForOwnerInner
  dsimp only
  have hset : ∀ user : UserRecord K T, user.All DeviceRecord.Keyed owner →
      ((manager.setUser owner user).recomputeAuthorizationForOwner owner).Sound :=
    fun user huser => sound_recompute (RecordInvariant.all_setUser hkeyed huser) hevidence
      (fun owner' howner => soundAt_setUser_of_ne user howner (hother owner' howner))
  have hfirst := hset { manager.userRecord owner with
    roster := some (if replaceExisting then (RosterSnapshotDecision.advanced, roster)
      else applyRosterSnapshot (manager.userRecord owner).roster roster).2 }
    (RecordInvariant.all_userRecord hkeyed owner)
  exact sound_reconcile _ hfirst.keyed hfirst.evidence (fun owner' _ => hfirst.bound owner')

theorem Sound.observePeerAppKeysEvent {manager : SessionManager K T} (hlaws : EvidenceLaws K)
    (h : manager.Sound) (event : Event K) (observedAt : UnixSeconds) :
    (manager.observePeerAppKeysEvent event observedAt).2.Sound := by
  unfold SessionManager.observePeerAppKeysEvent
  generalize hcall : manager.verifiedPeerAppKeys.ingest event observedAt = outcome
  obtain ⟨result, index⟩ := outcome
  obtain ⟨rfl, hnot⟩ | ⟨rfl, hwell, hothers, appKeys, -, hindexed⟩ :=
    VerifiedAppKeysIndex.ingest_cases hlaws h.evidence hcall
  · cases result with
    | error e => exact h
    | ok changed =>
        cases changed with
        | false => exact h
        | true => exact absurd rfl hnot
  · dsimp only
    rw [hindexed]
    refine sound_applyRosterForOwnerInner _ false h.keyed hwell (fun owner howner => ?_)
    intro device record hget hauthorized
    refine (h.bound owner device record hget hauthorized).congr rfl rfl (fun ownerKey hkey => ?_)
    apply hothers
    rintro rfl
    have hbytes := hlaws.keyBytes owner.bytes event.pubkey (mapError_eq_ok.mp hkey)
    exact howner (by rw [hbytes])

theorem Sound.setDevice {manager : SessionManager K T} {owner : OwnerPubkey K}
    {device : DevicePubkey K} {record : DeviceRecord K T} (h : manager.Sound)
    (hkey : record.devicePubkey = device)
    (hbound : record.authorized = true → manager.Bound owner device) :
    (manager.setDevice owner device record).Sound where
  keyed := RecordInvariant.all_setDevice h.keyed hkey
  evidence := h.evidence
  bound := by
    intro owner' device' record' hget hauthorized
    have hsame := manager.sameOutside_setDevice owner device record
    have hroster := manager.roster_setDevice owner owner' device record
    rw [record?_setDevice] at hget
    split at hget
    · rename_i hplace
      cases hget
      obtain ⟨rfl, rfl⟩ := hplace
      exact (hbound hauthorized).sameOutside hsame hroster
    · exact (h.bound owner' device' record' hget hauthorized).sameOutside hsame hroster

theorem Sound.deviceRecord_bound {manager : SessionManager K T} (h : manager.Sound)
    (owner : OwnerPubkey K) (device : DevicePubkey K) (now : UnixSeconds)
    (hauthorized : (manager.deviceRecord owner device now).authorized = true) :
    manager.Bound owner device := by
  rw [deviceRecord_eq] at hauthorized
  cases hget : manager.record? owner device with
  | none =>
      rw [hget] at hauthorized
      cases hauthorized
  | some record =>
      rw [hget] at hauthorized
      exact h.bound owner device record hget hauthorized

theorem Sound.setStanding {manager : SessionManager K T} {owner : OwnerPubkey K}
    {device : DevicePubkey K} {now : UnixSeconds} {record : DeviceRecord K T} (h : manager.Sound)
    (hsame : (manager.deviceRecord owner device now).SameStanding record) :
    (manager.setDevice owner device record).Sound := by
  refine h.setDevice (hsame.devicePubkey.trans
    (keyed_recordInvariant.deviceRecord h.keyed owner device now)) (fun hauthorized => ?_)
  rw [hsame.authorized] at hauthorized
  exact h.deviceRecord_bound owner device now hauthorized

/-! Sending. -/

/-- Kept when the sessions of a record change. -/
def KeptByEdits (I : SessionManager K T → Prop) : Prop :=
  ∀ {manager : SessionManager K T} {owner : OwnerPubkey K} {device : DevicePubkey K}
    {now : UnixSeconds} {record : DeviceRecord K T}, I manager →
    (manager.deviceRecord owner device now).Kept record → I (manager.setDevice owner device record)

omit [EventPrimitives K] in
theorem KeptByEdits.prepareAllSessions {I : SessionManager K T → Prop} (hI : KeptByEdits I)
    {manager : SessionManager K T} (h : I manager) (owner : OwnerPubkey K)
    (device : DevicePubkey K) (payload : T) (now : UnixSeconds) (rng : Rng K) :
    I (manager.prepareDeviceDeliveriesForAllSendSessions owner device payload now rng).2.1 := by
  generalize hcall : manager.prepareDeviceDeliveriesForAllSendSessions owner device payload now
    rng = outcome
  obtain ⟨result, manager', rng'⟩ := outcome
  obtain ⟨rfl, -⟩ | ⟨record', rfl, -, -, hdeliver⟩ :=
    prepareDeviceDeliveriesForAllSendSessions_cases hcall
  · exact hI h (DeviceRecord.Kept.refl _)
  · have hkept := DeviceRecord.kept_deliverAll
      (manager.deviceRecord owner device now) owner device payload now rng
    rw [hdeliver] at hkept
    exact hI h hkept

theorem sound_keptByEdits : KeptByEdits (Sound (K := K) (T := T)) :=
  fun h hkept => h.setStanding hkept.toSameStanding

section

variable [InvitePrimitives K T] {I : SessionManager K T → Prop} (hI : KeptByEdits I)

include hI

omit [EventPrimitives K] in
theorem KeptByEdits.prepareTarget {manager : SessionManager K T} (h : I manager) (payload : T)
    (now : UnixSeconds) (refresh : Bool) (target : TargetDevice K)
    (collected : Collected K T) (rng : Rng K) :
    I (SessionManager.prepareTarget payload now refresh manager target collected rng).2.1 := by
  rw [prepareTarget_manager]
  generalize hcall : manager.prepareDeviceDelivery target.ownerPubkey target.devicePubkey payload
    now refresh rng = outcome
  obtain ⟨result, manager', rng'⟩ := outcome
  obtain ⟨rfl, -⟩ | ⟨delivery, response, record', -, rfl, -, -, hdelivered⟩ :=
    prepareDeviceDelivery_cases hcall
  · exact hI h (DeviceRecord.Kept.refl _)
  · exact hI h hdelivered.kept

omit [EventPrimitives K] in
theorem KeptByEdits.prepareTargetAllSessions {manager : SessionManager K T} (h : I manager)
    (payload : T) (now : UnixSeconds) (target : TargetDevice K) (collected : Collected K T)
    (rng : Rng K) :
    I (SessionManager.prepareTargetAllSessions payload now manager target collected
      rng).2.1 := by
  have hall := hI.prepareAllSessions h target.ownerPubkey target.devicePubkey payload now rng
  unfold SessionManager.prepareTargetAllSessions
  split
  · rename_i hcall
    rw [hcall] at hall
    exact hall
  · rename_i hcall
    rw [hcall] at hall
    exact hI.prepareTarget hall _ _ _ _ _ _
  · rename_i hcall
    rw [hcall] at hall
    exact hall

omit [EventPrimitives K] in
theorem KeptByEdits.prepareExplicitSend {manager : SessionManager K T} (h : I manager)
    (recipientOwner : OwnerPubkey K) (targets : List (TargetDevice K)) (payload : T)
    (relayGaps : List (RelayGap K)) (refresh : Bool) (now : UnixSeconds) (rng : Rng K) :
    I (manager.prepareExplicitSend recipientOwner targets payload relayGaps refresh now
      rng).2.1 := by
  rw [prepareExplicitSend_manager]
  apply fanOut_manager _ _ _ _ h
  exact fun target collected manager rng h => hI.prepareTarget h payload now refresh target
    collected rng

omit [EventPrimitives K] in
theorem KeptByEdits.prepareReusingAllSessions {manager : SessionManager K T} (h : I manager)
    (payload : T) (now : UnixSeconds) (rng : Rng K) :
    I (manager.prepareLocalSiblingSendReusingAllSessions payload now rng).2.1 := by
  rw [prepareLocalSiblingSendReusingAllSessions_manager]
  apply fanOut_manager _ _ _ _ h
  exact fun target collected manager rng h => hI.prepareTargetAllSessions h payload now target
    collected rng

end

section

variable [InvitePrimitives K T]

/-- The manager a fan-out works on keeps the bindings it started with, and its
deliveries go to bound devices. -/
structure Addressing (manager₀ : SessionManager K T) (collected : Collected K T)
    (manager : SessionManager K T) : Prop where
  sound : manager.Sound
  same : ∀ owner device, manager.Bound owner device ↔ manager₀.Bound owner device
  bound : ∀ delivery ∈ collected.deliveries,
    manager₀.Bound delivery.ownerPubkey delivery.devicePubkey

omit [InvitePrimitives K T] [EventPrimitives K] in
theorem bound_setDevice_iff (manager : SessionManager K T) (owner : OwnerPubkey K)
    (device : DevicePubkey K) (record : DeviceRecord K T) (owner' : OwnerPubkey K)
    (device' : DevicePubkey K) :
    (manager.setDevice owner device record).Bound owner' device' ↔
      manager.Bound owner' device' := by
  have hroster := manager.roster_setDevice owner owner' device record
  constructor
  · intro h
    exact h.congr rfl hroster.symm (fun _ _ => rfl)
  · intro h
    exact h.congr rfl hroster (fun _ _ => rfl)

theorem Addressing.prepareTarget {manager₀ manager manager' : SessionManager K T}
    {target : TargetDevice K} {collected collected' : Collected K T} {payload : T}
    {now : UnixSeconds} {refresh : Bool} {rng rng' : Rng K}
    (h : Addressing manager₀ collected manager)
    (hcall : SessionManager.prepareTarget payload now refresh manager target collected rng =
      (.ok collected', manager', rng')) :
    Addressing manager₀ collected' manager' := by
  have hsound := sound_keptByEdits.prepareTarget h.sound payload now refresh target collected rng
  rw [hcall] at hsound
  unfold SessionManager.prepareTarget at hcall
  split at hcall
  · cases hcall
  · rename_i result manager₁ rng₁ hdelivery
    cases hcall
    obtain ⟨rfl, hnone⟩ | ⟨delivery, response, record', hresult, rfl, hauthorized, -, hdelivered⟩ :=
      prepareDeviceDelivery_cases hdelivery
    · refine ⟨hsound, fun owner device => (bound_setDevice_iff _ _ _ _ _ _).trans
        (h.same owner device), ?_⟩
      cases result with
      | some value => exact absurd rfl (hnone value)
      | none => exact h.bound
    · cases hresult
      refine ⟨hsound, fun owner device => (bound_setDevice_iff _ _ _ _ _ _).trans
        (h.same owner device), fun other hmem => ?_⟩
      rcases List.mem_append.mp hmem with hold | hnew
      · exact h.bound other hold
      · obtain rfl := List.mem_singleton.mp hnew
        obtain ⟨howner, hdevice⟩ := hdelivered.address
        rw [howner, hdevice]
        exact (h.same _ _).mp (h.sound.deviceRecord_bound _ _ now hauthorized)

omit [InvitePrimitives K T] [EventPrimitives K] in
theorem deliverInactive_address {owner : OwnerPubkey K} {device : DevicePubkey K} {payload : T}
    {now : UnixSeconds} {sessions : List (Session K)} {deliveries deliveries' : List (Delivery K T)}
    {record record' : DeviceRecord K T} {rng rng' : Rng K}
    (hsent : ∀ delivery ∈ deliveries,
      delivery.ownerPubkey = owner ∧ delivery.devicePubkey = device)
    (h : DeviceRecord.deliverInactive owner device payload now sessions deliveries record rng =
      (.ok deliveries', record', rng')) :
    ∀ delivery ∈ deliveries', delivery.ownerPubkey = owner ∧ delivery.devicePubkey = device := by
  induction sessions generalizing deliveries record rng with
  | nil =>
      cases h
      exact hsent
  | cons session rest ih =>
      unfold DeviceRecord.deliverInactive at h
      split at h
      · split at h
        · cases h
        · refine ih (fun delivery hmem => ?_) h
          rcases List.mem_append.mp hmem with hold | hnew
          · exact hsent delivery hold
          · obtain rfl := List.mem_singleton.mp hnew
            exact ⟨rfl, rfl⟩
      · exact ih hsent h

omit [InvitePrimitives K T] [EventPrimitives K] in
theorem deliverAll_address {owner : OwnerPubkey K} {device : DevicePubkey K} {payload : T}
    {now : UnixSeconds} {deliveries : List (Delivery K T)} {record record' : DeviceRecord K T}
    {rng rng' : Rng K}
    (h : record.deliverAll owner device payload now rng = (.ok deliveries, record', rng')) :
    ∀ delivery ∈ deliveries, delivery.ownerPubkey = owner ∧ delivery.devicePubkey = device := by
  have hfinish : ∀ outcome,
      DeviceRecord.deliverAll.finish now outcome = (.ok deliveries, record', rng') →
      ∃ record₁, outcome = (.ok deliveries, record₁, rng') := by
    rintro ⟨result, record₁, rng₁⟩ hend
    cases result with
    | error e => cases hend
    | ok deliveries₁ =>
        cases deliveries₁ with
        | nil =>
            cases hend
            exact ⟨_, rfl⟩
        | cons first rest =>
            cases hend
            exact ⟨_, rfl⟩
  unfold DeviceRecord.deliverAll at h
  split at h
  · obtain ⟨record₁, hcall⟩ := hfinish _ h
    exact deliverInactive_address (fun delivery hmem => by cases hmem) hcall
  · split at h
    · cases h
    · obtain ⟨record₁, hcall⟩ := hfinish _ h
      refine deliverInactive_address (fun delivery hmem => ?_) hcall
      obtain rfl := List.mem_singleton.mp hmem
      exact ⟨rfl, rfl⟩

theorem Addressing.prepareTargetAllSessions {manager₀ manager manager' : SessionManager K T}
    {target : TargetDevice K} {collected collected' : Collected K T} {payload : T}
    {now : UnixSeconds} {rng rng' : Rng K} (h : Addressing manager₀ collected manager)
    (hcall : SessionManager.prepareTargetAllSessions payload now manager target collected rng =
      (.ok collected', manager', rng')) :
    Addressing manager₀ collected' manager' := by
  have hsound := sound_keptByEdits.prepareAllSessions h.sound target.ownerPubkey
    target.devicePubkey payload now rng
  unfold SessionManager.prepareTargetAllSessions at hcall
  have hsame : ∀ {result manager₁ rng₁},
      manager.prepareDeviceDeliveriesForAllSendSessions target.ownerPubkey target.devicePubkey
        payload now rng = (result, manager₁, rng₁) →
      ∀ owner device, manager₁.Bound owner device ↔ manager₀.Bound owner device := by
    intro result manager₁ rng₁ hall owner device
    obtain ⟨rfl, -⟩ | ⟨record', rfl, -, -, -⟩ :=
      prepareDeviceDeliveriesForAllSendSessions_cases hall
    · exact (bound_setDevice_iff _ _ _ _ _ _).trans (h.same owner device)
    · exact (bound_setDevice_iff _ _ _ _ _ _).trans (h.same owner device)
  split at hcall
  · cases hcall
  · rename_i manager₁ rng₁ hall
    have hnext := hsame hall
    rw [hall] at hsound
    exact Addressing.prepareTarget ⟨hsound, hnext, h.bound⟩ hcall
  · rename_i deliveries manager₁ rng₁ hne hall
    have hnext := hsame hall
    rw [hall] at hsound
    cases hcall
    refine ⟨hsound, hnext, fun delivery hmem => ?_⟩
    rcases List.mem_append.mp hmem with hold | hnew
    · exact h.bound delivery hold
    · obtain ⟨-, hempty⟩ | ⟨record', -, hauthorized, -, hdeliver⟩ :=
        prepareDeviceDeliveriesForAllSendSessions_cases hall
      · cases hempty
        cases hnew
      · obtain ⟨howner, hdevice⟩ := deliverAll_address hdeliver delivery hnew
        rw [howner, hdevice]
        exact (h.same _ _).mp (h.sound.deviceRecord_bound _ _ now hauthorized)

end

/-! Receiving. -/

omit [EventPrimitives K] in
/-- Receiving changes at most the sessions of one record, and hands out a message of a
bound device. -/
theorem receiveFrom_cases {owner : OwnerPubkey K} {authorizedDevices : List (DevicePubkey K)}
    {envelope : MessageEnvelope K T} {now : UnixSeconds} {devices : List (DevicePubkey K)}
    {firstError : Option Error} {user user' : UserRecord K T} {rng rng' : Rng K}
    {result : Except Error (Option (ReceivedMessage K T))}
    (h : receiveFrom owner authorizedDevices envelope now devices firstError user rng =
      (result, user', rng')) :
    (user' = user ∧ ∀ message, result ≠ .ok (some message)) ∨
    ∃ device record record' payload, user.devices.get? device = some record ∧
      record.Kept record' ∧ user' = user.setDevice device record' ∧
      result = .ok (some ⟨owner, device, payload⟩) ∧
      (ownerPubkeyFromDevicePubkey device = owner ∨ device ∈ authorizedDevices) := by
  induction devices generalizing firstError rng with
  | nil =>
      unfold receiveFrom at h
      split at h
      · cases h
        exact Or.inl ⟨rfl, fun message hmessage => by cases hmessage⟩
      · cases h
        exact Or.inl ⟨rfl, fun message hmessage => by cases hmessage⟩
  | cons device rest ih =>
      unfold receiveFrom at h
      cases hget : user.devices.get? device with
      | none =>
          rw [hget] at h
          exact ih h
      | some record =>
          rw [hget] at h
          dsimp only at h
          split at h
          · exact ih h
          · rename_i hskip
            split at h
            · rename_i payload record' _ rng₁ hreceive
              cases h
              refine Or.inr ⟨device, record, record', payload, hget,
                DeviceRecord.kept_receive hreceive, rfl, rfl, ?_⟩
              by_contra hunbound
              exact hskip (Or.inl hunbound)
            · exact ih h

omit [EventPrimitives K] in
theorem KeptByEdits.receive {I : SessionManager K T → Prop} (hI : KeptByEdits I)
    {manager : SessionManager K T} (h : I manager) (senderOwner : OwnerPubkey K)
    (envelope : MessageEnvelope K T) (now : UnixSeconds) (rng : Rng K) :
    I (manager.receive senderOwner envelope now rng).2.1 := by
  unfold SessionManager.receive
  cases huser : manager.users.get? senderOwner with
  | none => exact h
  | some user =>
      dsimp only
      generalize hcall : receiveFrom senderOwner (manager.authorizedDevicesForOwner senderOwner)
        envelope now user.devices.keys none user rng = outcome
      obtain ⟨result, user', rng'⟩ := outcome
      have huserRecord : manager.userRecord senderOwner = user := by
        unfold userRecord
        rw [huser]
        rfl
      dsimp only
      obtain ⟨rfl, -⟩ | ⟨device, record, record', payload, hget, hsame, rfl, -, -⟩ :=
        receiveFrom_cases hcall
      · have hsetUser : manager.setUser senderOwner user' = manager := by
          have hinsert : manager.users.insert senderOwner user' = manager.users := by
            apply SortedMap.ext_get?
            intro owner
            rw [SortedMap.get?_insert]
            split
            · rename_i howner
              rw [← howner, huser]
            · rfl
          unfold setUser
          rw [hinsert]
        rw [hsetUser]
        exact h
      · have hrecord : manager.deviceRecord senderOwner device now = record := by
          rw [deviceRecord_eq, record?, huser]
          exact congrArg (fun o => Option.getD o _) hget
        rw [← hrecord] at hsame
        have hset : manager.setUser senderOwner (user.setDevice device record') =
            manager.setDevice senderOwner device record' := by
          rw [SessionManager.setDevice, huserRecord]
        rw [hset]
        exact hI h hsame

omit [EventPrimitives K] in
/-- A message handed out comes from a bound device. -/
theorem receive_bound {manager manager' : SessionManager K T} {senderOwner : OwnerPubkey K}
    {envelope : MessageEnvelope K T} {now : UnixSeconds} {rng rng' : Rng K}
    {message : ReceivedMessage K T}
    (h : manager.receive senderOwner envelope now rng = (.ok (some message), manager', rng')) :
    manager.Bound message.ownerPubkey message.devicePubkey := by
  unfold SessionManager.receive at h
  split at h
  · cases h
  · rename_i user huser
    dsimp only at h
    generalize hcall : receiveFrom senderOwner (manager.authorizedDevicesForOwner senderOwner)
      envelope now user.devices.keys none user rng = outcome at h
    obtain ⟨result, user', rng₁⟩ := outcome
    cases h
    obtain ⟨-, hnone⟩ | ⟨device, record, record', payload, -, -, -, hresult, hbinding⟩ :=
      receiveFrom_cases hcall
    · exact absurd rfl (hnone message)
    · cases hresult
      rcases hbinding with hself | hmem
      · exact Or.inl hself
      · exact bound_of_ownerDeviceIsAuthorized (mem_authorizedDevicesForOwner.mp hmem).2

/-! Removing. -/

/-- Users that lose records but keep their roster stay sound. -/
theorem Sound.restrict {manager manager' : SessionManager K T} (h : manager.Sound)
    (hkeyed : manager'.All DeviceRecord.Keyed) (hsame : manager.SameOutside manager')
    (husers : ∀ owner user', manager'.users.get? owner = some user' → ∃ user,
      manager.users.get? owner = some user ∧ user'.roster = user.roster ∧
      ∀ device record, user'.devices.get? device = some record →
        user.devices.get? device = some record) : manager'.Sound where
  keyed := hkeyed
  evidence := by
    rw [hsame.verifiedPeerAppKeys]
    exact h.evidence
  bound := by
    intro owner device record hget hauthorized
    unfold record? at hget
    obtain ⟨user', huser', hdevice⟩ := Option.bind_eq_some_iff.mp hget
    obtain ⟨user, huser, hroster, hdevices⟩ := husers owner user' huser'
    refine (h.bound owner device record ?_ hauthorized).sameOutside hsame ?_
    · unfold record?
      rw [huser]
      exact hdevices device record hdevice
    · unfold roster
      rw [huser, huser']
      exact hroster

theorem Sound.pruneStale {manager : SessionManager K T} (h : manager.Sound) :
    manager.pruneStale.2.Sound := by
  refine h.restrict (RecordInvariant.all_pruneStale h.keyed) ⟨rfl, rfl, rfl, rfl, rfl⟩ ?_
  intro owner user' hget
  unfold SessionManager.pruneStale at hget
  obtain ⟨hget, -⟩ := SortedMap.mem_filter.mp hget
  rw [SortedMap.get?_mapValues] at hget
  obtain ⟨user, huser, rfl⟩ := Option.map_eq_some_iff.mp hget
  exact ⟨user, huser, rfl, fun device record hrecord => (SortedMap.mem_filter.mp hrecord).1⟩

theorem Sound.deleteUser {manager : SessionManager K T} (h : manager.Sound)
    (owner : OwnerPubkey K) : (manager.deleteUser owner).Sound := by
  have hkeyed := RecordInvariant.all_deleteUser h.keyed owner
  unfold SessionManager.deleteUser at hkeyed ⊢
  split
  · rename_i howner
    rw [if_pos howner] at hkeyed
    refine h.restrict hkeyed ⟨rfl, rfl, rfl, rfl, rfl⟩ ?_
    intro owner' user' hget
    rw [SortedMap.get?_erase] at hget
    split at hget
    · cases hget
    · exact ⟨user', hget, rfl, fun device record hrecord => hrecord⟩
  · exact h

theorem Sound.storeClaimedSession {manager : SessionManager K T} (h : manager.Sound)
    (claimedOwner : OwnerPubkey K) (device : DevicePubkey K) (session : Session K)
    (now : UnixSeconds) :
    (manager.storeClaimedSession claimedOwner device session now).2.Sound := by
  rw [storeClaimedSession_manager]
  have huser := RecordInvariant.all_userRecord h.keyed (manager.claimTarget claimedOwner device)
  have hseeded : (manager.seededUser (manager.claimTarget claimedOwner device) device
      now).All DeviceRecord.Keyed (manager.claimTarget claimedOwner device) := by
    refine ⟨(seededUser_ownerPubkey _ _ _ _).trans huser.1, ?_⟩
    rw [seededUser_devices]
    exact huser.2
  have hrecord : DeviceRecord.Keyed device ((manager.claimRecord claimedOwner device
      now).upsertSession session now) :=
    keyed_recordInvariant.upsert session now (keyed_recordInvariant.edit
      (keyed_recordInvariant.deviceRecord h.keyed _ device now) rfl rfl rfl)
  refine sound_recompute (RecordInvariant.all_setUser h.keyed
    (RecordInvariant.all_userSetDevice hseeded hrecord)) h.evidence (fun owner howner => ?_)
  exact soundAt_setUser_of_ne _ howner (h.bound owner)

omit [EventPrimitives K] in
theorem KeptByEdits.observePublicInvite {I : SessionManager K T → Prop} (hI : KeptByEdits I)
    {manager : SessionManager K T} (h : I manager) (owner : OwnerPubkey K)
    (invite : Invite K T) : I (manager.observePublicInvite owner invite).2 := by
  unfold SessionManager.observePublicInvite
  split
  · exact h
  · exact hI h ⟨⟨rfl, rfl, rfl⟩, rfl⟩

theorem Sound.withInvite {manager : SessionManager K T} (h : manager.Sound)
    (invite : Option (Invite K T)) : ({ manager with localInvite := invite }).Sound :=
  ⟨h.keyed, h.evidence, fun owner device record hget hauthorized =>
    (h.bound owner device record hget hauthorized).congr rfl rfl (fun _ _ => rfl)⟩

/-! Starting. -/

theorem sound_new {owner : OwnerPubkey K} {secret : K} {manager : SessionManager K T}
    (h : SessionManager.new owner secret = .ok manager) : manager.Sound := by
  have hkeyed : manager.All DeviceRecord.Keyed := RecordInvariant.all_new h
  obtain ⟨device, -, hmanager⟩ := except_bind_eq_ok.mp h
  cases hmanager
  exact ⟨hkeyed, VerifiedAppKeysIndex.wellFormed_default,
    fun owner device record hget => by cases hget⟩

theorem wellFormed_restoreEvidence (hlaws : EvidenceLaws K) (events : List (Event K)) :
    (restoreEvidence events).WellFormed := by
  unfold restoreEvidence
  suffices h : ∀ index : VerifiedAppKeysIndex K, index.WellFormed →
      (events.foldl (fun index event => (index.ingest event event.createdAt).2)
        index).WellFormed from h _ VerifiedAppKeysIndex.wellFormed_default
  induction events with
  | nil => exact fun index hindex => hindex
  | cons event rest ih =>
      intro index hindex
      apply ih
      dsimp only
      generalize hcall : index.ingest event event.createdAt = outcome
      obtain ⟨result, index'⟩ := outcome
      obtain ⟨rfl, -⟩ | ⟨-, hwell, -⟩ := VerifiedAppKeysIndex.ingest_cases hlaws hindex hcall
      · exact hindex
      · exact hwell

omit [Primitives K T] [EventPrimitives K] in
theorem keyed_restoreUsers (snapshots : List (UserRecordSnapshot K T)) {owner : OwnerPubkey K}
    {user : UserRecord K T} (h : (restoreUsers snapshots).get? owner = some user) :
    user.All DeviceRecord.Keyed owner := by
  obtain ⟨restored, hmem, heq⟩ := List.mem_map.mp (SortedMap.mem_of_get?_ofList h)
  cases heq
  obtain ⟨snapshot, -, rfl⟩ := List.mem_map.mp hmem
  refine ⟨rfl, fun device record hget => ?_⟩
  obtain ⟨record', -, heq⟩ := List.mem_map.mp (SortedMap.mem_of_get?_ofList hget)
  cases heq
  rfl

/-- Recomputing owners one after the other makes all of them sound that have records. -/
theorem sound_foldl_recompute {owners : List (OwnerPubkey K)} {manager : SessionManager K T}
    (hkeyed : manager.All DeviceRecord.Keyed)
    (hevidence : manager.verifiedPeerAppKeys.WellFormed)
    (hother : ∀ owner ∉ owners, manager.SoundAt owner) :
    (owners.foldl recomputeAuthorizationForOwner manager).Sound := by
  induction owners generalizing manager with
  | nil => exact ⟨hkeyed, hevidence, fun owner => hother owner List.not_mem_nil⟩
  | cons owner rest ih =>
      apply ih (keyed_recordInvariant.all_recompute hkeyed owner)
      · rw [(manager.sameOutside_recompute owner).verifiedPeerAppKeys]
        exact hevidence
      · intro owner' howner'
        by_cases howner : owner' = owner
        · subst howner
          exact soundAt_recompute owner' hkeyed
        · refine soundAt_recompute_of_ne (Ne.symm howner) (hother owner' ?_)
          simp [howner, howner']

/-- A restored manager is sound whatever the snapshot says. -/
theorem sound_fromSnapshot (hlaws : EvidenceLaws K) {snapshot : SessionManagerSnapshot K T}
    {secret : K} {manager : SessionManager K T}
    (h : SessionManager.fromSnapshot snapshot secret = .ok manager) : manager.Sound := by
  obtain ⟨device, -, hrest⟩ := except_bind_eq_ok.mp h
  split at hrest
  · cases hrest
  · have hverified : ∀ (owners : List K) (manager : SessionManager K T), manager.Sound →
        (owners.foldl restoreVerifiedOwner manager).Sound := by
      intro owners
      induction owners with
      | nil => exact fun manager hmanager => hmanager
      | cons owner rest ih =>
          intro manager hmanager
          exact ih _ (sound_reconcile _ hmanager.keyed hmanager.evidence
            (fun owner' _ => hmanager.bound owner'))
    cases hrest
    apply hverified
    apply sound_foldl_recompute
    · exact fun owner user hget => keyed_restoreUsers snapshot.users hget
    · exact wellFormed_restoreEvidence hlaws snapshot.verifiedPeerAppKeysEvents
    · intro owner howner device record hget
      unfold record? at hget
      obtain ⟨user, huser, -⟩ := Option.bind_eq_some_iff.mp hget
      exact absurd (SortedMap.mem_keys.mpr ⟨user, huser⟩) howner

end SessionManager

section

variable [DecidableEq T] [Primitives K T] [EventPrimitives K] [InvitePrimitives K T]

/-- Soundness survives every call. -/
theorem sound_preserved (hlaws : EvidenceLaws K) :
    SessionManager.Preserved (SessionManager.Sound (K := K) (T := T)) where
  withInvite _ invite h := h.withInvite invite
  observePublicInvite _ owner invite h :=
    SessionManager.sound_keptByEdits.observePublicInvite h owner invite
  applyRoster _ _ roster replaceExisting h :=
    SessionManager.sound_applyRosterForOwnerInner roster replaceExisting h.keyed h.evidence
      (fun owner _ => h.bound owner)
  observePeerAppKeysEvent _ event observedAt h := h.observePeerAppKeysEvent hlaws event observedAt
  storeClaimedSession _ claimedOwner device session now h :=
    h.storeClaimedSession claimedOwner device session now
  prepareExplicitSend _ recipientOwner targets payload relayGaps refresh now rng h :=
    SessionManager.sound_keptByEdits.prepareExplicitSend h recipientOwner targets payload
      relayGaps refresh now rng
  prepareReusingAllSessions _ payload now rng h :=
    SessionManager.sound_keptByEdits.prepareReusingAllSessions h payload now rng
  receive _ senderOwner envelope now rng h :=
    SessionManager.sound_keptByEdits.receive h senderOwner envelope now rng
  pruneStale _ h := h.pruneStale
  deleteUser _ owner h := h.deleteUser owner

namespace SessionManager

omit [DecidableEq T] in
/-- The deliveries of a call go to devices bound in the manager it was made on. -/
theorem prepareCall_bound {manager manager' : SessionManager K T} {rng rng' : Rng K}
    {operation : Operation K T} {send : PreparedSend K T} {delivery : Delivery K T}
    (h : manager.Sound) (hcall : PrepareCall manager rng operation (.ok send, manager', rng'))
    (hmem : delivery ∈ send.deliveries) :
    manager.Bound delivery.ownerPubkey delivery.devicePubkey := by
  have hstart : ∀ relayGaps, Addressing manager ⟨[], [], relayGaps⟩ manager :=
    fun relayGaps => ⟨h, fun _ _ => Iff.rfl, fun delivery hmem => by cases hmem⟩
  have hexplicit : ∀ {recipientOwner targets payload relayGaps refresh now},
      manager.prepareExplicitSend recipientOwner targets payload relayGaps refresh now rng =
        (.ok send, manager', rng') →
      manager.Bound delivery.ownerPubkey delivery.devicePubkey := by
    intro recipientOwner targets payload relayGaps refresh now houtcome
    unfold prepareExplicitSend at houtcome
    split at houtcome
    · cases houtcome
    · rename_i hfan
      cases houtcome
      have hend := fanOut_ok (I := fun _ collected manager₁ => Addressing manager collected manager₁)
        (fun target rest collected manager rng collected' manager' rng' hI hcall =>
          hI.prepareTarget hcall) (hstart relayGaps) hfan
      exact hend.bound delivery hmem
  generalize houtcome : ((.ok send, manager', rng') : Outcome K T (PreparedSend K T)) = outcome
    at hcall
  cases hcall with
  | explicit => exact hexplicit houtcome.symm
  | refreshing => exact hexplicit houtcome.symm
  | reusingAll =>
      unfold prepareLocalSiblingSendReusingAllSessions at houtcome
      split at houtcome
      · cases houtcome
      · rename_i hfan
        cases houtcome
        have hend := fanOut_ok
          (I := fun _ collected manager₁ => Addressing manager collected manager₁)
          (fun target rest collected manager rng collected' manager' rng' hI hcall =>
            hI.prepareTargetAllSessions hcall) (hstart []) hfan
        exact hend.bound delivery hmem

/-- In every state a new or restored manager can reach, whatever the snapshot, what a
call sends goes to a bound device and what it receives comes from one. -/
theorem authorization_safe (hlaws : EvidenceLaws K) {manager₀ : SessionManager K T}
    (hstart : (∃ owner secret, SessionManager.new owner secret = .ok manager₀) ∨
      ∃ snapshot secret, SessionManager.fromSnapshot snapshot secret = .ok manager₀)
    (rng₀ : Rng K) (operations : List (Operation K T)) (rng rng' : Rng K)
    (operation : Operation K T) (output : Output K T) (manager' : SessionManager K T)
    (hperform : (manager₀.run rng₀ operations).1.perform rng operation =
      (.ok output, manager', rng')) :
    (∀ delivery ∈ output.deliveries,
      (manager₀.run rng₀ operations).1.Bound delivery.ownerPubkey delivery.devicePubkey) ∧
    ∀ message, output.received = some message →
      (manager₀.run rng₀ operations).1.Bound message.ownerPubkey message.devicePubkey := by
  have hsound₀ : manager₀.Sound := by
    obtain ⟨owner, secret, hnew⟩ | ⟨snapshot, secret, hrestore⟩ := hstart
    · exact sound_new hnew
    · exact sound_fromSnapshot hlaws hrestore
  have hsound := (sound_preserved hlaws).run hsound₀ rng₀ operations
  constructor
  · intro delivery hmem
    obtain ⟨send, hcall, hmem⟩ := perform_delivery hperform hmem
    exact prepareCall_bound hsound hcall hmem
  · intro message hmessage
    obtain ⟨senderOwner, envelope, now, hreceive⟩ := perform_received hperform hmessage
    exact receive_bound hreceive

end SessionManager

end

namespace Symbolic

theorem evidenceLaws : EvidenceLaws KeyTerm where
  keyBytes bytes key h := by
    cases bytes with
    | point k =>
        cases h
        rfl
    | _ => cases h
  eventId e f he hf hid := by
    obtain rfl := verifyEvent_id_injective he hf hid
    exact ⟨rfl, rfl, rfl, rfl, rfl⟩

/-- The device a first message goes to is its own owner. -/
theorem authorization_safe_one :
    ∃ output manager' rng', (emptyManager.run numbered (imports 1)).1.perform numbered
        (.prepareRemoteSend bob (.bytes "hello") 0) = (.ok output, manager', rng') ∧
      output.deliveries.length = 1 ∧
      ∀ delivery ∈ output.deliveries, (emptyManager.run numbered (imports 1)).1.Bound
        delivery.ownerPubkey delivery.devicePubkey := by
  generalize hcall : (emptyManager.run numbered (imports 1)).1.perform numbered
    (.prepareRemoteSend bob (.bytes "hello") 0) = outcome
  have hlength : outcome.1.toOption.map (fun output => output.deliveries.length) = some 1 := by
    rw [← hcall]
    decide +kernel
  obtain ⟨result, manager', rng'⟩ := outcome
  cases result with
  | error e => cases hlength
  | ok output =>
      refine ⟨output, manager', rng', rfl, Option.some.inj hlength, ?_⟩
      exact (SessionManager.authorization_safe evidenceLaws (Or.inl ⟨alice, .secret 1, rfl⟩)
        numbered (imports 1) numbered rng' _ output manager' hcall).1

end Symbolic

end NostrDoubleRatchet
