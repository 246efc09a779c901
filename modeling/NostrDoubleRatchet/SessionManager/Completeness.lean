import NostrDoubleRatchet.EvidenceConvergence
import NostrDoubleRatchet.RosterFolding
import NostrDoubleRatchet.SessionManager.Authorization

/-!
Which devices an observed AppKeys event makes usable. The signed evidence decides what an
owner may authorize, and the roster which of it is in use; a roster that is newer than the
event keeps its own list. A claim is only held by a record of the device's own owner, so
migration takes no other listed device away, and the flags of a listed device stay set.
-/

namespace NostrDoubleRatchet

variable {K T : Type} [LinearOrder K]

/-- What a send and a receive ask of a record. -/
def DeviceRecord.Usable (record : DeviceRecord K T) : Prop :=
  record.authorized = true ∧ record.isStale = false

namespace UserRecord

theorem rosterRecord_notStale {owner : OwnerPubkey K} {authorizedDevices : List (DevicePubkey K)}
    {device : AuthorizedDevice K} {record : DeviceRecord K T}
    (h : (rosterRecord owner authorizedDevices device record).authorized = true) :
    (rosterRecord owner authorizedDevices device record).isStale = false := by
  unfold rosterRecord at h ⊢
  dsimp only at h ⊢
  split at h
  · rename_i hbound
    rw [if_pos hbound]
  · cases h

theorem refreshRecord_notStale {owner : OwnerPubkey K} {createdAt : Option UnixSeconds}
    {authorizedDevices : List (DevicePubkey K)} {record : DeviceRecord K T}
    (h : (refreshRecord owner createdAt authorizedDevices record).authorized = true) :
    (refreshRecord owner createdAt authorizedDevices record).isStale = false := by
  rw [refreshRecord_of_bound createdAt
    ((refreshRecord_authorized owner createdAt authorizedDevices record).mp h)]

/-- A record that is authorized by recomputing is not stale. -/
theorem recomputedRecord_notStale {owner : OwnerPubkey K} {roster : Option (DeviceRoster K)}
    {authorizedDevices : List (DevicePubkey K)} {device : DevicePubkey K}
    {record : Option (DeviceRecord K T)} {record' : DeviceRecord K T}
    (h : recomputedRecord owner roster authorizedDevices device record = some record')
    (hauthorized : record'.authorized = true) : record'.isStale = false := by
  have hfold : ∀ (entries : List (AuthorizedDevice K)) (stored : Option (DeviceRecord K T)),
      (∀ r, stored = some r → r.authorized = true → r.isStale = false) →
      ∀ r, entries.foldl (fun record entry => some (rosterRecord owner authorizedDevices entry
        (record.getD (DeviceRecord.new device entry.createdAt)))) stored = some r →
      r.authorized = true → r.isStale = false := by
    intro entries
    induction entries with
    | nil => exact fun stored hstored => hstored
    | cons entry rest ih =>
        intro stored hstored
        refine ih _ ?_
        rintro r ⟨⟩
        exact rosterRecord_notStale
  refine hfold _ _ ?_ record' h hauthorized
  intro r hr
  obtain ⟨before, -, rfl⟩ := Option.map_eq_some_iff.mp hr
  exact refreshRecord_notStale

end UserRecord

namespace DeviceRecord

/-- Absorbing a record without a claim leaves the claim. -/
theorem absorb_claimedOwnerPubkey (record : DeviceRecord K T) {other : DeviceRecord K T}
    (now : UnixSeconds) (hother : other.claimedOwnerPubkey = none) :
    (record.absorb other now).claimedOwnerPubkey = record.claimedOwnerPubkey := by
  have hfold : ∀ (sessions : List (Session K)) (merged : DeviceRecord K T),
      (sessions.foldl (fun record session => record.upsertSession session now)
        merged).claimedOwnerPubkey = merged.claimedOwnerPubkey := by
    intro sessions
    induction sessions with
    | nil => exact fun merged => rfl
    | cons session rest ih =>
        intro merged
        exact (ih _).trans (kept_upsertSession merged session now).claimedOwnerPubkey
  unfold absorb
  dsimp only
  rw [hfold]
  cases other.activeSession with
  | none =>
      dsimp only
      rw [hother, Option.or_none]
  | some session =>
      refine (kept_upsertSession _ session now).claimedOwnerPubkey.trans ?_
      dsimp only
      rw [hother, Option.or_none]

end DeviceRecord

/-! What an accepted event authorizes. -/

namespace DeviceRoster

theorem lists_iff_listed {roster : DeviceRoster K} {device : K} :
    roster.Lists ⟨device⟩ ↔ (roster.listed device).isSome = true := by
  rw [← getDevice_isSome, listed, Option.isSome_map]

theorem lists_merge {roster other : DeviceRoster K} {device : K}
    (h : other.Lists ⟨device⟩) : (roster.merge other).Lists ⟨device⟩ := by
  obtain ⟨entry, hmem, hdevice⟩ := h
  rw [lists_iff_listed, merge, listed_normalized, LatestMerge.isSome_earliest]
  exact ⟨entry, List.mem_append_right _ hmem, hdevice⟩

end DeviceRoster

/-- A device that a roster lists is listed after it is applied, unless a newer one does not
list it. -/
theorem lists_applyRosterSnapshot {incoming : DeviceRoster K} {device : K}
    (h : incoming.Lists ⟨device⟩) (current : Option (DeviceRoster K)) :
    (applyRosterSnapshot current incoming).2.Lists ⟨device⟩ ↔
      (∃ roster, current = some roster ∧ roster.Lists ⟨device⟩) ∨
        ∀ roster, current = some roster → roster.createdAt ≤ incoming.createdAt := by
  cases current with
  | none => simp [applyRosterSnapshot, h]
  | some roster =>
      simp only [applyRosterSnapshot, Option.some.injEq, exists_eq_left', forall_eq']
      split
      · rename_i hnewer
        simp [h, hnewer.le]
      · split
        · rename_i holder
          simp [not_le.mpr holder]
        · rename_i hnotNewer hnotOlder
          simp [DeviceRoster.lists_merge h, not_lt.mp hnotOlder]

section

variable [Primitives K T] [EventPrimitives K]

omit [LinearOrder K] in
theorem pubkeyFromHex_key (hlaws : EvidenceLaws K) {text : String} {key : K}
    (h : pubkeyFromHex text = .ok key) : Primitives.publicKeyFromSlice key = .ok key := by
  obtain ⟨decoded, -, hread⟩ := except_bind_eq_ok.mp h
  cases decoded with
  | none => cases hread
  | some bytes =>
      have hkey := mapError_eq_ok.mp hread
      obtain rfl := hlaws.keyBytes bytes key hkey
      exact hkey

/-- What an event is read as: the devices it lists, all of them keys, of an owner that is
one. -/
theorem AppKeys.fromEvent_keys (hlaws : EvidenceLaws K) {event : Event K} {appKeys : AppKeys K}
    (h : AppKeys.fromEvent event = .ok appKeys) :
    Primitives.publicKeyFromSlice event.pubkey = .ok event.pubkey ∧ appKeys.Keyed ∧
      ∀ device, (appKeys.getDevice device).isSome = true →
        Primitives.publicKeyFromSlice device = .ok device := by
  unfold AppKeys.fromEvent at h
  split at h
  · cases h
  split at h
  · cases h
  split at h
  · cases h
  obtain ⟨schema, -, h⟩ := except_bind_eq_ok.mp h
  split at h
  · cases h
  obtain ⟨ownerPubkey, howner, h⟩ := except_bind_eq_ok.mp h
  split at h
  · cases h
  rename_i hsigner
  obtain ⟨profile, -, h⟩ := except_bind_eq_ok.mp h
  obtain ⟨devices, hdevices, h⟩ := except_bind_eq_ok.mp h
  cases h
  obtain ⟨value, -, howner⟩ := except_bind_eq_ok.mp howner
  refine ⟨?_, AppKeys.keyed_new devices, ?_⟩
  · rw [← not_not.mp hsigner]
    exact pubkeyFromHex_key hlaws howner
  · have hentries : ∀ (tags : List (List String)) (entries : List (DeviceEntry K)),
        deviceEntries event tags = .ok entries → ∀ entry ∈ entries,
          Primitives.publicKeyFromSlice entry.identityPubkey = .ok entry.identityPubkey := by
      intro tags
      fun_induction deviceEntries event tags with
      | case1 =>
          rintro entries ⟨⟩ entry hmem
          cases hmem
      | case2 pkHex createdAt tail rest ih =>
          intro entries hread entry hmem
          obtain ⟨pubkey, hpubkey, hread⟩ := except_bind_eq_ok.mp hread
          obtain ⟨others, hothers, hread⟩ := except_bind_eq_ok.mp hread
          cases hread
          rcases List.mem_cons.mp hmem with rfl | hmem
          · exact pubkeyFromHex_key hlaws hpubkey
          · exact ih others hothers entry hmem
      | case3 tag rest hshape ih => exact ih
    intro device hsome
    obtain ⟨entry, hentry⟩ := Option.isSome_iff_exists.mp hsome
    have hkey : entry.identityPubkey = device := AppKeys.keyed_new devices device entry hentry
    rw [← hkey]
    refine hentries _ _ hdevices entry ?_
    -- The entry is one of those the map was built from.
    have hmem : ∀ (devices : List (DeviceEntry K)) (map : SortedMap K (DeviceEntry K)),
        (devices.foldl (fun map device => map.insert device.identityPubkey device)
          map).get? device = some entry → map.get? device = some entry ∨ entry ∈ devices := by
      intro devices
      induction devices with
      | nil => exact fun map hget => Or.inl hget
      | cons first rest ih =>
          intro map hget
          rcases ih _ hget with hbefore | hrest
          · rw [SortedMap.get?_insert] at hbefore
            split at hbefore
            · cases hbefore
              exact Or.inr List.mem_cons_self
            · exact Or.inl hbefore
          · exact Or.inr (List.mem_cons_of_mem _ hrest)
    rcases hmem devices SortedMap.empty hentry with hempty | hmem
    · cases hempty
    · exact hmem

omit [Primitives K T] [EventPrimitives K] in
/-- A device that is authorized is listed by every candidate of the head. -/
theorem VerifiedAppKeysIndex.listed_of_authorized {index : VerifiedAppKeysIndex K}
    {owner device id : K} {appKeys : AppKeys K}
    (h : index.membership owner device = .authorized)
    (hindexed : index.appKeysForEvent owner id = some appKeys) :
    (appKeys.getDevice device).isSome = true := by
  obtain ⟨head, hhead, hcandidate⟩ := Option.bind_eq_some_iff.mp hindexed
  obtain ⟨candidate, hget, rfl⟩ := Option.map_eq_some_iff.mp hcandidate
  unfold membership at h
  rw [hhead] at h
  dsimp only at h
  split at h
  · cases h
  · rename_i hlength
    split at h
    · rename_i htrue
      obtain ⟨value, hvalue⟩ := List.length_eq_one_iff.mp (not_not.mp hlength)
      have hmem : (candidate.appKeys.getDevice device).isSome ∈
          (head.candidates.values.map (fun candidate =>
            (candidate.appKeys.getDevice device).isSome)).dedup :=
        List.mem_dedup.mpr (List.mem_map_of_mem (SortedMap.mem_values.mpr ⟨id, hget⟩))
      rw [hvalue, List.mem_singleton] at htrue hmem
      rw [hmem, ← htrue]
    · cases h

end

namespace SessionManager

section

variable [Primitives K T]

/-- The devices of the owner that are in use have usable records, its own key apart. -/
def UsableAt (manager : SessionManager K T) (owner : OwnerPubkey K) : Prop :=
  ∀ device ∈ manager.authorizedDevicesForOwner owner, ownerPubkeyFromDevicePubkey device ≠ owner →
    ∃ record, manager.record? owner device = some record ∧ record.Usable

/-- A claim is held by a record of the device's own owner. -/
def ClaimsOwn (manager : SessionManager K T) : Prop :=
  ∀ owner device record, manager.record? owner device = some record →
    record.claimedOwnerPubkey ≠ none → ownerPubkeyFromDevicePubkey device = owner

/-- Recomputing an owner makes all its devices in use usable. -/
theorem usable_recompute {manager : SessionManager K T} {owner : OwnerPubkey K}
    (hkeyed : manager.All DeviceRecord.Keyed) {device : DevicePubkey K}
    (h : device ∈ (manager.recomputeAuthorizationForOwner owner).authorizedDevicesForOwner
      owner) :
    ∃ record, (manager.recomputeAuthorizationForOwner owner).record? owner device = some record ∧
      record.Usable := by
  rw [authorizedDevicesForOwner_congr (manager.sameOutside_recompute owner)
    (manager.roster_recompute owner owner)] at h
  obtain ⟨⟨roster, hroster, hlisted⟩, -⟩ := mem_authorizedDevicesForOwner.mp h
  obtain ⟨user, huser, huserRoster⟩ := Option.bind_eq_some_iff.mp hroster
  rw [record?_recompute manager huser]
  obtain ⟨record, hrecord⟩ := Option.isSome_iff_exists.mp
    ((UserRecord.recomputedRecord_isSome user.ownerPubkey user.roster
      (manager.authorizedDevicesForOwner owner) device (manager.record? owner device)).mpr
        (Or.inr ⟨roster, huserRoster, hlisted⟩))
  have hkey : ∀ r, manager.record? owner device = some r → r.devicePubkey = device := by
    intro r hr
    rw [record?, huser] at hr
    exact (hkeyed owner user huser).2 device r hr
  have hauthorized := (UserRecord.recomputedRecord_authorized hkey hrecord).mpr (Or.inr h)
  exact ⟨record, hrecord, hauthorized,
    UserRecord.recomputedRecord_notStale hrecord hauthorized⟩

theorem usableAt_congr {manager manager' : SessionManager K T} {owner : OwnerPubkey K}
    (h : manager.UsableAt owner)
    (hdevices : ∀ device ∈ manager'.authorizedDevicesForOwner owner,
      device ∈ manager.authorizedDevicesForOwner owner)
    (hrecord : ∀ device record, device ∈ manager.authorizedDevicesForOwner owner →
      ownerPubkeyFromDevicePubkey device ≠ owner →
      manager.record? owner device = some record → record.Usable →
      ∃ record', manager'.record? owner device = some record' ∧ record'.Usable) :
    manager'.UsableAt owner := by
  intro device hmem hself
  obtain ⟨record, hget, husable⟩ := h device (hdevices device hmem) hself
  exact hrecord device record (hdevices device hmem) hself hget husable

/-- Recomputing keeps the claims. -/
theorem ClaimsOwn.recompute {manager : SessionManager K T} (h : manager.ClaimsOwn)
    (owner : OwnerPubkey K) : (manager.recomputeAuthorizationForOwner owner).ClaimsOwn := by
  intro owner' device record hget hclaim
  by_cases howner : owner = owner'
  · subst howner
    cases huser : manager.users.get? owner with
    | none =>
        rw [record?, get?_recompute, if_pos rfl, huser] at hget
        cases hget
    | some user =>
        rw [record?_recompute manager huser] at hget
        obtain ⟨createdAt, hsame⟩ := UserRecord.recomputedRecord_sameContent hget
        cases hstored : manager.record? owner device with
        | none =>
            rw [hstored] at hsame
            exact absurd hsame.claimedOwnerPubkey hclaim
        | some stored =>
            rw [hstored] at hsame
            rw [hsame.claimedOwnerPubkey] at hclaim
            exact h owner device stored hstored hclaim
  · rw [manager.record?_recompute_of_ne howner] at hget
    exact h owner' device record hget hclaim

/-- A device that is in use under another owner's roster is not taken away from it. -/
theorem not_mem_matchingDevices {manager : SessionManager K T} {owner source : OwnerPubkey K}
    {user : UserRecord K T} {device : DevicePubkey K} {roster : DeviceRoster K}
    (hkeyed : manager.All DeviceRecord.Keyed) (hclaims : manager.ClaimsOwn)
    (huser : manager.users.get? source = some user) (hroster : user.roster = some roster)
    (hlisted : roster.Lists device) (hself : ownerPubkeyFromDevicePubkey device ≠ source) :
    device ∉ manager.matchingDevices owner user := by
  intro hmem
  obtain ⟨record, hrecord, hdevice⟩ := List.mem_map.mp hmem
  obtain ⟨hstored, hmatch⟩ := List.mem_filter.mp hrecord
  obtain ⟨key, hget⟩ := SortedMap.mem_values.mp hstored
  have hkey := (hkeyed source user huser).2 key record hget
  obtain rfl : key = device := hkey.symm.trans hdevice
  rw [Bool.and_eq_true, Bool.or_eq_true] at hmatch
  rcases hmatch.2 with hclaim | hunlisted
  · refine hself (hclaims source key record ?_ ?_)
    · rw [record?, huser]
      exact hget
    · rw [of_decide_eq_true hclaim]
      exact Option.some_ne_none owner
  · rw [hroster, hdevice] at hunlisted
    have hlists := DeviceRoster.getDevice_isSome.mpr hlisted
    rw [Option.bind_some, Option.isNone_iff_eq_none] at hunlisted
    rw [hunlisted] at hlists
    cases hlists

/-- Reconciling another owner leaves what this one uses. -/
theorem usableAt_reconcile_of_ne {manager : SessionManager K T} {owner owner' : OwnerPubkey K}
    (now : UnixSeconds) (hne : owner' ≠ owner) (hkeyed : manager.All DeviceRecord.Keyed)
    (hclaims : manager.ClaimsOwn) (h : manager.UsableAt owner') :
    (manager.reconcileVerifiedClaimedDevices owner now).UsableAt owner' := by
  have hsame := manager.sameOutside_reconcile owner now
  have hget := get?_reconcile_of_ne manager now hne
  cases huser : manager.users.get? owner' with
  | none =>
      rw [huser] at hget
      intro device hmem
      obtain ⟨⟨listing, hlisting, -⟩, -⟩ := mem_authorizedDevicesForOwner.mp hmem
      rw [roster, hget] at hlisting
      cases hlisting
  | some user =>
      rw [huser, Option.bind_some] at hget
      split at hget
      · intro device hmem
        obtain ⟨⟨listing, hlisting, -⟩, -⟩ := mem_authorizedDevicesForOwner.mp hmem
        rw [roster, hget] at hlisting
        cases hlisting
      · have hroster : (manager.reconcileVerifiedClaimedDevices owner now).roster owner' =
            manager.roster owner' := by
          rw [roster, roster, hget, huser]
          exact manager.roster_remainder owner user
        have hdevices := authorizedDevicesForOwner_congr hsame hroster
        refine usableAt_congr h (fun device hmem => by rwa [hdevices] at hmem) ?_
        intro device record hmem hself hstored husable
        obtain ⟨⟨listing, hlisting, hlisted⟩, -⟩ := mem_authorizedDevicesForOwner.mp hmem
        rw [roster, huser] at hlisting
        refine ⟨record, ?_, husable⟩
        rw [record?, huser] at hstored
        rw [record?, hget, Option.bind_some, remainder, get?_removeDevices,
          if_neg (not_mem_matchingDevices hkeyed hclaims huser hlisting hlisted hself)]
        exact hstored

theorem ClaimsOwn.reconcile {manager : SessionManager K T} (h : manager.ClaimsOwn)
    (owner : OwnerPubkey K) (now : UnixSeconds) :
    (manager.reconcileVerifiedClaimedDevices owner now).ClaimsOwn := by
  intro owner' device record hget hclaim
  by_cases howner : owner' = owner
  · subst howner
    rw [record?, get?_reconcile_self] at hget
    split at hget
    · exact h owner' device record hget hclaim
    · have hnone : ∀ migrated ∈ (manager.allMigrated owner').filter (fun record =>
          record.devicePubkey = device), migrated.claimedOwnerPubkey = none := by
        intro migrated hmem
        obtain ⟨_, _, _, _, _, _, _, _, rfl⟩ := mem_allMigrated.mp (List.mem_filter.mp hmem).1
        rfl
      rw [Option.bind_some, get?_foldl_absorbMigrated, get?_userRecord] at hget
      generalize (manager.allMigrated owner').filter (fun record =>
        record.devicePubkey = device) = migrated at hnone hget
      -- The record that absorbs has the claim it had before.
      have hfold : ∀ stored : Option (DeviceRecord K T),
          (∀ r, stored = some r → r.claimedOwnerPubkey ≠ none →
            ownerPubkeyFromDevicePubkey device = owner') →
          migrated.foldl (fun stored record => some ((stored.getD (DeviceRecord.new
            record.devicePubkey record.createdAt)).absorb record now)) stored = some record →
          ownerPubkeyFromDevicePubkey device = owner' := by
        clear hget
        induction migrated with
        | nil => exact fun stored hstored heq => hstored record heq hclaim
        | cons first rest ih =>
            intro stored hstored heq
            refine ih (fun r hr => hnone r (List.mem_cons_of_mem _ hr)) _ ?_ heq
            rintro r ⟨⟩ hr
            rw [DeviceRecord.absorb_claimedOwnerPubkey _ now (hnone first List.mem_cons_self)] at hr
            cases stored with
            | none => exact absurd rfl hr
            | some r => exact hstored r rfl hr
      exact hfold _ (fun r hr => h owner' device r hr) hget
  · rw [record?, get?_reconcile_of_ne manager now howner] at hget
    obtain ⟨user', huser', hdevice⟩ := Option.bind_eq_some_iff.mp hget
    obtain ⟨user, huser, hrest⟩ := Option.bind_eq_some_iff.mp huser'
    split at hrest
    · cases hrest
    · cases hrest
      rw [remainder, get?_removeDevices] at hdevice
      split at hdevice
      · cases hdevice
      · refine h owner' device record ?_ hclaim
        rw [record?, huser]
        exact hdevice

end

variable [Primitives K T] [EventPrimitives K]

/-- The invariant, with the flags of some owners still to be recomputed. -/
structure CompleteBut (manager : SessionManager K T) (owners : List (OwnerPubkey K)) : Prop where
  keyed : manager.All DeviceRecord.Keyed
  evidence : manager.verifiedPeerAppKeys.WellFormed
  claims : manager.ClaimsOwn
  usable : ∀ owner ∉ owners, manager.UsableAt owner

/-- The invariant. -/
def Complete (manager : SessionManager K T) : Prop := manager.CompleteBut []

namespace CompleteBut

variable {manager : SessionManager K T} {owner : OwnerPubkey K} {owners : List (OwnerPubkey K)}

theorem mono (h : manager.CompleteBut owners) {owners' : List (OwnerPubkey K)}
    (hsub : owners ⊆ owners') : manager.CompleteBut owners' :=
  ⟨h.keyed, h.evidence, h.claims, fun owner howner => h.usable owner fun hmem =>
    howner (hsub hmem)⟩

theorem recompute (h : manager.CompleteBut (owner :: owners)) :
    (manager.recomputeAuthorizationForOwner owner).CompleteBut owners where
  keyed := keyed_recordInvariant.all_recompute h.keyed owner
  evidence := by
    rw [(manager.sameOutside_recompute owner).verifiedPeerAppKeys]
    exact h.evidence
  claims := h.claims.recompute owner
  usable owner' howner' := by
    by_cases howner : owner' = owner
    · subst howner
      exact fun device hmem _ => usable_recompute h.keyed hmem
    · have hdevices := authorizedDevicesForOwner_congr (manager.sameOutside_recompute owner)
        (manager.roster_recompute owner owner')
      refine usableAt_congr (h.usable owner' ?_) (fun device hmem => by rwa [hdevices] at hmem) ?_
      · simp [howner, howner']
      · intro device record _ _ hget husable
        exact ⟨record, (manager.record?_recompute_of_ne (Ne.symm howner) device).trans hget,
          husable⟩

theorem reconcile (h : manager.CompleteBut [owner]) (now : UnixSeconds) :
    (manager.reconcileVerifiedClaimedDevices owner now).CompleteBut [owner] where
  keyed := keyed_recordInvariant.all_reconcile h.keyed owner now
  evidence := by
    rw [(manager.sameOutside_reconcile owner now).verifiedPeerAppKeys]
    exact h.evidence
  claims := h.claims.reconcile owner now
  usable owner' howner' := usableAt_reconcile_of_ne now (List.ne_of_not_mem_cons howner') h.keyed
    h.claims (h.usable owner' howner')

theorem setUser (h : manager.CompleteBut [owner]) {user : UserRecord K T}
    (huser : user.All DeviceRecord.Keyed owner)
    (hclaims : ∀ device record, user.devices.get? device = some record →
      record.claimedOwnerPubkey ≠ none → ownerPubkeyFromDevicePubkey device = owner) :
    (manager.setUser owner user).CompleteBut [owner] where
  keyed := RecordInvariant.all_setUser h.keyed huser
  evidence := h.evidence
  claims owner' device record hget hclaim := by
    rw [record?_setUser] at hget
    split at hget
    · rename_i howner
      exact (hclaims device record hget hclaim).trans howner
    · exact h.claims owner' device record hget hclaim
  usable owner' howner' := by
    have hne : owner ≠ owner' := Ne.symm (List.ne_of_not_mem_cons howner')
    have hdevices := authorizedDevicesForOwner_congr (manager.sameOutside_setUser owner user)
      ((manager.roster_setUser owner owner' user).trans (if_neg hne))
    refine usableAt_congr (h.usable owner' howner') (fun device hmem => by rwa [hdevices] at hmem)
      ?_
    intro device record _ _ hget husable
    exact ⟨record, ((manager.record?_setUser owner owner' device user).trans
      (if_neg hne)).trans hget, husable⟩

/-- A roster stated for an owner whose evidence may have changed, before its flags are
recomputed for the last time. -/
theorem stateRoster (h : manager.CompleteBut [owner]) (roster : DeviceRoster K)
    (now : UnixSeconds) :
    (((manager.setUser owner { manager.userRecord owner with
      roster := some roster }).recomputeAuthorizationForOwner
        owner).reconcileVerifiedClaimedDevices owner now).CompleteBut [owner] := by
  have hset : (manager.setUser owner { manager.userRecord owner with
      roster := some roster }).CompleteBut [owner] :=
    h.setUser (RecordInvariant.all_userRecord h.keyed owner) (fun device record hget => by
      change (manager.userRecord owner).devices.get? device = some record at hget
      rw [get?_userRecord] at hget
      exact h.claims owner device record hget)
  exact (hset.recompute.mono (List.nil_subset _)).reconcile _

theorem applyRoster (h : manager.CompleteBut [owner]) (roster : DeviceRoster K)
    (replaceExisting : Bool) :
    (manager.applyRosterForOwnerInner owner roster replaceExisting).2.Complete :=
  (h.stateRoster _ _).recompute

/-- Afterwards all devices in use are usable, the owner's own key too. -/
theorem usable_applyRoster (h : manager.CompleteBut [owner]) (roster : DeviceRoster K)
    {device : DevicePubkey K}
    (hmem : device ∈ (manager.applyRosterForOwner owner roster).2.authorizedDevicesForOwner
      owner) :
    ∃ record, (manager.applyRosterForOwner owner roster).2.record? owner device = some record ∧
      record.Usable :=
  usable_recompute (h.stateRoster _ _).keyed hmem

end CompleteBut

theorem complete_keptByEdits : KeptByEdits (Complete (K := K) (T := T)) := by
  intro manager owner device now record h hkept
  have hdevices : ∀ owner', (manager.setDevice owner device record).authorizedDevicesForOwner
      owner' = manager.authorizedDevicesForOwner owner' := fun owner' =>
    authorizedDevicesForOwner_congr (manager.sameOutside_setDevice owner device record)
      (manager.roster_setDevice owner owner' device record)
  have hstored := manager.deviceRecord_eq owner device now
  refine ⟨RecordInvariant.all_setDevice h.keyed (hkept.devicePubkey.trans
    (keyed_recordInvariant.deviceRecord h.keyed owner device now)), h.evidence, ?_, ?_⟩
  · intro owner' device' record' hget hclaim
    rw [record?_setDevice] at hget
    split at hget
    · rename_i hplace
      obtain ⟨rfl, rfl⟩ := hplace
      cases hget
      rw [hkept.claimedOwnerPubkey, hstored] at hclaim
      cases hrecord : manager.record? owner device with
      | none =>
          rw [hrecord] at hclaim
          exact absurd rfl hclaim
      | some stored =>
          rw [hrecord] at hclaim
          exact h.claims owner device stored hrecord hclaim
    · exact h.claims owner' device' record' hget hclaim
  · intro owner' howner'
    refine usableAt_congr (h.usable owner' howner')
      (fun device' hmem => by rwa [hdevices] at hmem) ?_
    intro device' record' _ _ hget husable
    rw [record?_setDevice]
    split
    · rename_i hplace
      obtain ⟨rfl, rfl⟩ := hplace
      rw [hget, Option.getD_some] at hstored
      rw [hstored] at hkept
      exact ⟨record, rfl, hkept.authorized.trans husable.1, hkept.isStale.trans husable.2⟩
    · exact ⟨record', hget, husable⟩

namespace Complete

variable {manager : SessionManager K T}

theorem but (h : manager.Complete) (owner : OwnerPubkey K) : manager.CompleteBut [owner] :=
  CompleteBut.mono h (List.nil_subset _)

theorem withInvite (h : manager.Complete) (invite : Option (Invite K T)) :
    ({ manager with localInvite := invite }).Complete :=
  ⟨h.keyed, h.evidence, h.claims, h.usable⟩

/-- New evidence of an owner leaves what the others use. -/
theorem withEvidence (hlaws : EvidenceLaws K) (h : manager.Complete)
    {index : VerifiedAppKeysIndex K} {ownerKey : K} (hwell : index.WellFormed)
    (hothers : ∀ key ≠ ownerKey,
      index.heads.get? key = manager.verifiedPeerAppKeys.heads.get? key) :
    ({ manager with verifiedPeerAppKeys := index }).CompleteBut [⟨ownerKey⟩] := by
  refine ⟨h.keyed, hwell, h.claims, fun owner howner => ?_⟩
  have hne : owner.bytes ≠ ownerKey := by
    rintro rfl
    exact howner List.mem_cons_self
  have hsame : ∀ device, ({ manager with
      verifiedPeerAppKeys := index }).ownerDeviceIsAuthorized owner device =
        manager.ownerDeviceIsAuthorized owner device := by
    intro device
    unfold ownerDeviceIsAuthorized
    cases hkey : owner.toNostr with
    | error e => rfl
    | ok key =>
        have hbytes := hlaws.keyBytes owner.bytes key (mapError_eq_ok.mp hkey)
        have hget := hothers key (by rw [hbytes]; exact hne)
        cases device.toNostr with
        | error e => rfl
        | ok deviceKey =>
            dsimp only
            rw [VerifiedAppKeysIndex.membership, VerifiedAppKeysIndex.membership, hget]
            rfl
  refine usableAt_congr (h.usable owner List.not_mem_nil) ?_
    (fun device record _ _ hget husable => ⟨record, hget, husable⟩)
  intro device hmem
  obtain ⟨hlisted, hauthorized⟩ := mem_authorizedDevicesForOwner.mp hmem
  exact mem_authorizedDevicesForOwner.mpr ⟨hlisted, (hsame device).symm.trans hauthorized⟩

theorem observePeerAppKeysEvent (hlaws : EvidenceLaws K) (h : manager.Complete)
    (event : Event K) (observedAt : UnixSeconds) :
    (manager.observePeerAppKeysEvent event observedAt).2.Complete := by
  unfold SessionManager.observePeerAppKeysEvent
  generalize hcall : manager.verifiedPeerAppKeys.ingest event observedAt = outcome
  obtain ⟨result, index⟩ := outcome
  obtain ⟨rfl, hnot⟩ | ⟨rfl, hwell, hothers, appKeys, -, hindexed⟩ :=
    VerifiedAppKeysIndex.ingest_cases hlaws h.evidence hcall
  · cases result with
    | error e => exact h
    | ok changed =>
        cases changed with
        | false => exact h
        | true => exact absurd rfl hnot
  · dsimp only
    rw [hindexed]
    exact (h.withEvidence hlaws hwell hothers).applyRoster _ false

theorem storeClaimedSession (h : manager.Complete) (claimedOwner : OwnerPubkey K)
    (device : DevicePubkey K) (session : Session K) (now : UnixSeconds) :
    (manager.storeClaimedSession claimedOwner device session now).2.Complete := by
  rw [storeClaimedSession_manager]
  have huser := RecordInvariant.all_userRecord h.keyed (manager.claimTarget claimedOwner device)
  have hseeded : (manager.seededUser (manager.claimTarget claimedOwner device) device
      now).All DeviceRecord.Keyed (manager.claimTarget claimedOwner device) := by
    refine ⟨(seededUser_ownerPubkey _ _ _ _).trans huser.1, ?_⟩
    rw [seededUser_devices]
    exact huser.2
  have hrecord : DeviceRecord.Keyed device ((manager.claimRecord claimedOwner device
      now).upsertSession session now) :=
    keyed_recordInvariant.upsert session now (keyed_recordInvariant.edit
      (keyed_recordInvariant.deviceRecord h.keyed _ device now) rfl rfl rfl)
  refine ((h.but _).setUser (RecordInvariant.all_userSetDevice hseeded hrecord) ?_).recompute
  intro device' record' hget hclaim
  unfold UserRecord.setDevice at hget
  dsimp only at hget
  rw [SortedMap.get?_insert, seededUser_devices, get?_userRecord] at hget
  split at hget
  · rename_i hdevice
    subst hdevice
    cases hget
    rw [(DeviceRecord.kept_upsertSession _ session now).claimedOwnerPubkey] at hclaim
    -- A claim is provisional only when the session is stored under the device's own owner.
    unfold claimRecord at hclaim
    dsimp only at hclaim
    split at hclaim
    · rename_i hprovisional
      unfold claimTarget at hprovisional ⊢
      split at hprovisional
      · exact absurd rfl hprovisional
      · rename_i hunverified
        rw [if_neg hunverified]
    · exact absurd rfl hclaim
  · exact h.claims _ device' record' hget hclaim

/-- Users that lose stale records, or go with their roster, leave the others as they
were. -/
theorem restrict {manager' : SessionManager K T} (h : manager.Complete)
    (hkeyed : manager'.All DeviceRecord.Keyed) (hsame : manager.SameOutside manager')
    (husers : ∀ owner user', manager'.users.get? owner = some user' → ∃ user,
      manager.users.get? owner = some user ∧ user'.roster = user.roster ∧
      (∀ device record, user'.devices.get? device = some record →
        user.devices.get? device = some record) ∧
      ∀ device record, user.devices.get? device = some record → record.isStale = false →
        user'.devices.get? device = some record) : manager'.Complete := by
  refine ⟨hkeyed, ?_, ?_, ?_⟩
  · rw [hsame.verifiedPeerAppKeys]
    exact h.evidence
  · intro owner device record hget hclaim
    obtain ⟨user', huser', hdevice⟩ := Option.bind_eq_some_iff.mp hget
    obtain ⟨user, huser, -, hsub, -⟩ := husers owner user' huser'
    refine h.claims owner device record ?_ hclaim
    rw [record?, huser]
    exact hsub device record hdevice
  · intro owner howner device hmem hself
    obtain ⟨⟨listing, hlisting, -⟩, -⟩ := mem_authorizedDevicesForOwner.mp hmem
    obtain ⟨user', huser', -⟩ := Option.bind_eq_some_iff.mp hlisting
    obtain ⟨user, huser, hroster, -, hkeep⟩ := husers owner user' huser'
    rw [authorizedDevicesForOwner_congr hsame (by rw [roster, roster, huser, huser']; exact hroster)]
      at hmem
    obtain ⟨record, hget, husable⟩ := h.usable owner howner device hmem hself
    refine ⟨record, ?_, husable⟩
    rw [record?, huser] at hget
    rw [record?, huser']
    exact hkeep device record hget husable.2

theorem pruneStale (h : manager.Complete) : manager.pruneStale.2.Complete := by
  refine h.restrict (RecordInvariant.all_pruneStale h.keyed) ⟨rfl, rfl, rfl, rfl, rfl⟩ ?_
  intro owner user' hget
  unfold SessionManager.pruneStale at hget
  obtain ⟨hget, -⟩ := SortedMap.mem_filter.mp hget
  rw [SortedMap.get?_mapValues] at hget
  obtain ⟨user, huser, rfl⟩ := Option.map_eq_some_iff.mp hget
  refine ⟨user, huser, rfl, fun device record hrecord => (SortedMap.mem_filter.mp hrecord).1,
    fun device record hrecord hfresh => SortedMap.mem_filter.mpr ⟨hrecord, ?_⟩⟩
  rw [hfresh]
  rfl

theorem deleteUser (h : manager.Complete) (owner : OwnerPubkey K) :
    (manager.deleteUser owner).Complete := by
  have hkeyed := RecordInvariant.all_deleteUser h.keyed owner
  unfold SessionManager.deleteUser at hkeyed ⊢
  split
  · rename_i howner
    rw [if_pos howner] at hkeyed
    refine h.restrict hkeyed ⟨rfl, rfl, rfl, rfl, rfl⟩ ?_
    intro owner' user' hget
    rw [SortedMap.get?_erase] at hget
    split at hget
    · cases hget
    · exact ⟨user', hget, rfl, fun _ _ hrecord => hrecord, fun _ _ hrecord _ => hrecord⟩
  · exact h

end Complete

/-! Starting. -/

theorem complete_new {owner : OwnerPubkey K} {secret : K} {manager : SessionManager K T}
    (h : SessionManager.new owner secret = .ok manager) : manager.Complete := by
  have hkeyed : manager.All DeviceRecord.Keyed := RecordInvariant.all_new h
  obtain ⟨device, -, hmanager⟩ := except_bind_eq_ok.mp h
  cases hmanager
  refine ⟨hkeyed, VerifiedAppKeysIndex.wellFormed_default, ?_, ?_⟩
  · intro owner device record hget
    cases hget
  · intro owner howner device hmem
    cases hmem

omit [Primitives K T] [EventPrimitives K] in
/-- Every record a restored user has comes from one with the same claim. -/
theorem claims_restoreUsers {manager : SessionManager K T}
    (hkeyed : manager.All DeviceRecord.Keyed) {owner : OwnerPubkey K} {user' : UserRecord K T}
    {device : DevicePubkey K} {record' : DeviceRecord K T}
    (huser : (restoreUsers (manager.users.values.map UserRecord.snapshot)).get? owner =
      some user')
    (hget : user'.devices.get? device = some record') :
    ∃ record, manager.record? owner device = some record ∧
      record'.claimedOwnerPubkey = record.claimedOwnerPubkey := by
  obtain ⟨restored, hmem, heq⟩ := List.mem_map.mp (SortedMap.mem_of_get?_ofList huser)
  cases heq
  obtain ⟨snapshot, hsnapshot, rfl⟩ := List.mem_map.mp hmem
  obtain ⟨user, hstored, rfl⟩ := List.mem_map.mp hsnapshot
  obtain ⟨key, hkey⟩ := SortedMap.mem_values.mp hstored
  obtain ⟨howner, hdevices⟩ := hkeyed key user hkey
  obtain ⟨record', hmem, heq⟩ := List.mem_map.mp (SortedMap.mem_of_get?_ofList hget)
  cases heq
  obtain ⟨snapshot, hsnapshot, rfl⟩ := List.mem_map.mp hmem
  obtain ⟨record, hstored, rfl⟩ := List.mem_map.mp hsnapshot
  obtain ⟨device, hdevice⟩ := SortedMap.mem_values.mp hstored
  have hdeviceKey : record.devicePubkey = device := hdevices device record hdevice
  refine ⟨record, ?_, rfl⟩
  have huserOwner : (UserRecord.fromSnapshot user.snapshot).ownerPubkey = key := howner
  rw [huserOwner, record?, hkey]
  change user.devices.get? record.devicePubkey = some record
  rw [hdeviceKey]
  exact hdevice

theorem CompleteBut.foldl_recompute {owners : List (OwnerPubkey K)} {manager : SessionManager K T}
    (h : manager.CompleteBut owners) :
    (owners.foldl recomputeAuthorizationForOwner manager).Complete := by
  induction owners generalizing manager with
  | nil => exact h
  | cons owner rest ih => exact ih h.recompute

/-- A manager restored from its own snapshot. -/
theorem Complete.fromSnapshot (hlaws : EvidenceLaws K) {manager manager' : SessionManager K T}
    (h : manager.Complete) {secret : K}
    (hrestore : SessionManager.fromSnapshot manager.snapshot secret = .ok manager') :
    manager'.Complete := by
  obtain ⟨device, -, hrest⟩ := except_bind_eq_ok.mp hrestore
  split at hrest
  · cases hrest
  · have hverified : ∀ (owners : List K) (manager : SessionManager K T), manager.Complete →
        (owners.foldl restoreVerifiedOwner manager).Complete := by
      intro owners
      induction owners with
      | nil => exact fun manager hmanager => hmanager
      | cons owner rest ih =>
          intro manager hmanager
          exact ih _ ((hmanager.but _).reconcile _).recompute
    cases hrest
    apply hverified
    apply CompleteBut.foldl_recompute
    refine ⟨fun owner user hget => keyed_restoreUsers _ hget,
      wellFormed_restoreEvidence hlaws manager.snapshot.verifiedPeerAppKeysEvents, ?_, ?_⟩
    · intro owner device record hget hclaim
      obtain ⟨user, huser, hdevice⟩ := Option.bind_eq_some_iff.mp hget
      obtain ⟨before, hbefore, hsame⟩ := claims_restoreUsers h.keyed huser hdevice
      rw [hsame] at hclaim
      exact h.claims owner device before hbefore hclaim
    · intro owner howner device hmem
      obtain ⟨⟨listing, hlisting, -⟩, -⟩ := mem_authorizedDevicesForOwner.mp hmem
      obtain ⟨user, huser, -⟩ := Option.bind_eq_some_iff.mp hlisting
      exact absurd (SortedMap.mem_keys.mpr ⟨user, huser⟩) howner

end SessionManager

section

variable [DecidableEq T] [Primitives K T] [EventPrimitives K] [InvitePrimitives K T]

theorem complete_preserved (hlaws : EvidenceLaws K) :
    SessionManager.Preserved (SessionManager.Complete (K := K) (T := T)) where
  withInvite _ invite h := h.withInvite invite
  observePublicInvite _ owner invite h :=
    SessionManager.complete_keptByEdits.observePublicInvite h owner invite
  applyRoster _ owner roster replaceExisting h := (h.but owner).applyRoster roster replaceExisting
  observePeerAppKeysEvent _ event observedAt h := h.observePeerAppKeysEvent hlaws event observedAt
  storeClaimedSession _ claimedOwner device session now h :=
    h.storeClaimedSession claimedOwner device session now
  prepareExplicitSend _ recipientOwner targets payload relayGaps refresh now rng h :=
    SessionManager.complete_keptByEdits.prepareExplicitSend h recipientOwner targets payload
      relayGaps refresh now rng
  prepareReusingAllSessions _ payload now rng h :=
    SessionManager.complete_keptByEdits.prepareReusingAllSessions h payload now rng
  receive _ senderOwner envelope now rng h :=
    SessionManager.complete_keptByEdits.receive h senderOwner envelope now rng
  pruneStale _ h := h.pruneStale
  deleteUser _ owner h := h.deleteUser owner

namespace SessionManager

/-- The managers of a program: a new one, one after any call, and one restored from the
snapshot of another. -/
inductive Reachable : SessionManager K T → Prop where
  | new {owner : OwnerPubkey K} {secret : K} {manager : SessionManager K T}
      (h : SessionManager.new owner secret = .ok manager) : Reachable manager
  | perform {manager : SessionManager K T} (h : Reachable manager) (rng : Rng K)
      (operation : Operation K T) : Reachable (manager.perform rng operation).2.1
  | restore {manager manager' : SessionManager K T} (h : Reachable manager) {secret : K}
      (hrestore : SessionManager.fromSnapshot manager.snapshot secret = .ok manager') :
      Reachable manager'

theorem Reachable.run {manager : SessionManager K T} (h : manager.Reachable) (rng : Rng K)
    (operations : List (Operation K T)) : (manager.run rng operations).1.Reachable := by
  induction operations generalizing manager rng with
  | nil => exact h
  | cons operation rest ih => exact ih (h.perform rng operation) _

theorem Reachable.complete (hlaws : EvidenceLaws K) {manager : SessionManager K T}
    (h : manager.Reachable) : manager.Complete := by
  induction h with
  | new h => exact complete_new h
  | perform _ rng operation ih => exact (complete_preserved hlaws).perform ih rng operation
  | restore _ hrestore ih => exact ih.fromSnapshot hlaws hrestore

omit [DecidableEq T] [EventPrimitives K] [InvitePrimitives K T] in
theorem roster_applyRoster (manager : SessionManager K T) (owner : OwnerPubkey K)
    (roster : DeviceRoster K) :
    (manager.applyRosterForOwner owner roster).2.roster owner =
      some (applyRosterSnapshot (manager.roster owner) roster).2 := by
  unfold applyRosterForOwner applyRosterForOwnerInner
  dsimp only
  rw [roster_recompute, roster_reconcile_self, roster_recompute, roster_setUser, if_pos rfl,
    roster_userRecord]
  rfl

omit [DecidableEq T] [EventPrimitives K] [InvitePrimitives K T] in
theorem sameOutside_applyRoster (manager : SessionManager K T) (owner : OwnerPubkey K)
    (roster : DeviceRoster K) :
    manager.SameOutside (manager.applyRosterForOwner owner roster).2 :=
  (((manager.sameOutside_setUser owner _).trans (sameOutside_recompute _ owner)).trans
    (sameOutside_reconcile _ owner _)).trans (sameOutside_recompute _ owner)

omit [DecidableEq T] [InvitePrimitives K T] in
/-- What the evidence authorizes is authorized for a peer. -/
theorem ownerDeviceIsAuthorized_of_membership (hlaws : EvidenceLaws K)
    {manager : SessionManager K T} {owner device : K}
    (hpeer : (⟨owner⟩ : OwnerPubkey K) ≠ manager.localOwnerPubkey)
    (hwell : manager.verifiedPeerAppKeys.WellFormed)
    (hmember : manager.verifiedPeerAppKeys.membership owner device = .authorized) :
    manager.ownerDeviceIsAuthorized ⟨owner⟩ ⟨device⟩ = true := by
  -- Some candidate is read from an event of the owner that lists the device.
  have hkeys : Primitives.publicKeyFromSlice owner = .ok owner ∧
      Primitives.publicKeyFromSlice device = .ok device := by
    cases hhead : manager.verifiedPeerAppKeys.heads.get? owner with
    | none =>
        rw [VerifiedAppKeysIndex.membership, hhead] at hmember
        cases hmember
    | some head =>
        cases hvalues : head.candidates.values with
        | nil =>
            rw [VerifiedAppKeysIndex.membership, hhead] at hmember
            dsimp only at hmember
            rw [hvalues] at hmember
            cases hmember
        | cons candidate rest =>
            obtain ⟨id, hget⟩ := SortedMap.mem_values.mp
              (show candidate ∈ head.candidates.values by rw [hvalues]; exact List.mem_cons_self)
            obtain ⟨-, -, hread⟩ := hwell owner head id candidate hhead hget
            obtain ⟨hpubkey, -, hread⟩ := appKeysAuthorizationCandidate_fromEvent hread
            obtain ⟨howner, -, hdevices⟩ := AppKeys.fromEvent_keys hlaws hread
            rw [hpubkey] at howner
            have hindexed : manager.verifiedPeerAppKeys.appKeysForEvent owner id =
                some candidate.appKeys := by
              rw [VerifiedAppKeysIndex.appKeysForEvent, hhead, Option.bind_some, hget]
              rfl
            exact ⟨howner, hdevices device
              (VerifiedAppKeysIndex.listed_of_authorized hmember hindexed)⟩
  unfold ownerDeviceIsAuthorized
  rw [if_neg hpeer, OwnerPubkey.toNostr, DevicePubkey.toNostr, hkeys.1, hkeys.2]
  split
  · rfl
  · exact decide_eq_true hmember

/-- After an AppKeys event of a peer is observed, the devices its evidence authorizes are in
use, unless a roster that is newer than the event, or the roster of an owner whose evidence
did not change, does not list them; and a device in use has a usable record. An event that
is not new changes nothing. -/
theorem observed_devices_usable (hlaws : EvidenceLaws K) {manager manager' : SessionManager K T}
    (h : manager.Reachable) {event : Event K} {observedAt : UnixSeconds} {changed : Bool}
    (hpeer : (⟨event.pubkey⟩ : OwnerPubkey K) ≠ manager.localOwnerPubkey)
    (hcall : manager.observePeerAppKeysEvent event observedAt = (.ok changed, manager')) :
    (changed = false → manager' = manager) ∧
    ∀ device : K,
      manager'.verifiedPeerAppKeys.membership event.pubkey device = .authorized →
      (⟨device⟩ ∈ manager'.authorizedDevicesForOwner ⟨event.pubkey⟩ ↔
        (∃ roster, manager.roster ⟨event.pubkey⟩ = some roster ∧ roster.Lists ⟨device⟩) ∨
        changed = true ∧ ∀ roster, manager.roster ⟨event.pubkey⟩ = some roster →
          roster.createdAt ≤ event.createdAt) ∧
      (⟨device⟩ ∈ manager'.authorizedDevicesForOwner ⟨event.pubkey⟩ →
        changed = true ∨ device ≠ event.pubkey →
        ∃ record, manager'.record? ⟨event.pubkey⟩ ⟨device⟩ = some record ∧ record.Usable) := by
  have hcomplete := h.complete hlaws
  have hafter := hcomplete.observePeerAppKeysEvent hlaws event observedAt
  rw [hcall] at hafter
  unfold SessionManager.observePeerAppKeysEvent at hcall
  generalize hingest : manager.verifiedPeerAppKeys.ingest event observedAt = outcome at hcall
  obtain ⟨result, index⟩ := outcome
  obtain ⟨rfl, hnot⟩ | ⟨rfl, hwell, hothers, appKeys, hread, hindexed⟩ :=
    VerifiedAppKeysIndex.ingest_cases hlaws hcomplete.evidence hingest
  · cases result with
    | error e => cases hcall
    | ok new =>
        cases new with
        | true => exact absurd rfl hnot
        | false =>
            cases hcall
            refine ⟨fun _ => rfl, fun device hmember => ⟨?_, fun hmem hself => ?_⟩⟩
            · have hauthorized :=
                ownerDeviceIsAuthorized_of_membership hlaws hpeer hafter.evidence hmember
              rw [mem_authorizedDevicesForOwner]
              simp [hauthorized]
            · refine hafter.usable _ List.not_mem_nil _ hmem fun heq => ?_
              rcases hself with hfalse | hne
              · cases hfalse
              · exact hne (congrArg OwnerPubkey.bytes heq)
  · dsimp only at hcall
    rw [hindexed] at hcall
    cases hcall
    have hbut := hcomplete.withEvidence hlaws hwell hothers
    refine ⟨(fun hfalse => by cases hfalse), fun device hmember =>
      ⟨?_, fun hmem _ => hbut.usable_applyRoster _ hmem⟩⟩
    have hpeer' : (⟨event.pubkey⟩ : OwnerPubkey K) ≠ (({ manager with
        verifiedPeerAppKeys := index }).applyRosterForOwner ⟨event.pubkey⟩
          (eventRoster event.createdAt appKeys)).2.localOwnerPubkey := by
      rw [(sameOutside_applyRoster _ _ _).localOwnerPubkey]
      exact hpeer
    have hauthorized := ownerDeviceIsAuthorized_of_membership hlaws hpeer' hafter.evidence hmember
    have hlists : (eventRoster event.createdAt appKeys).Lists ⟨device⟩ := by
      have hmember' : index.membership event.pubkey device = .authorized := by
        rw [(sameOutside_applyRoster _ _ _).verifiedPeerAppKeys] at hmember
        exact hmember
      rw [DeviceRoster.lists_iff_listed,
        (AppKeys.fromEvent_keys hlaws hread).2.1.listed_eventRoster, AppKeys.listed,
        Option.isSome_map]
      exact VerifiedAppKeysIndex.listed_of_authorized hmember' hindexed
    rw [mem_authorizedDevicesForOwner, roster_applyRoster]
    simp only [hauthorized, and_true, Option.some.injEq, exists_eq_left', true_and]
    exact lists_applyRosterSnapshot hlists (manager.roster ⟨event.pubkey⟩)

end SessionManager

end

namespace Symbolic

/-- Bob's own key and another device. -/
def bobEvent : Event KeyTerm := exampleAppKeysEvent 2 10 [2, 3]

/-- Bob's event again after he is deleted, and once after a newer roster without devices. -/
theorem observed_devices_not_usable :
    (∃ manager manager' : SessionManager KeyTerm TextTerm, manager.Reachable ∧
      manager.observePeerAppKeysEvent bobEvent 10 = (.ok false, manager') ∧
      manager'.verifiedPeerAppKeys.membership (.point (.secret 2)) (.point (.secret 3)) =
        .authorized ∧ manager'.authorizedDevicesForOwner bob = []) ∧
    ∃ manager manager' : SessionManager KeyTerm TextTerm, manager.Reachable ∧
      manager.observePeerAppKeysEvent bobEvent 10 = (.ok true, manager') ∧
      manager'.verifiedPeerAppKeys.membership (.point (.secret 2)) (.point (.secret 3)) =
        .authorized ∧ manager'.authorizedDevicesForOwner bob = [] := by
  have hnew : emptyManager.Reachable :=
    SessionManager.Reachable.new (show SessionManager.new alice (.secret 1) = .ok emptyManager
      from rfl)
  have hshown : ∀ (manager : SessionManager KeyTerm TextTerm) (changed : Bool),
      ((manager.observePeerAppKeysEvent bobEvent 10).1.toOption = some changed ∧
        (manager.observePeerAppKeysEvent bobEvent 10).2.verifiedPeerAppKeys.membership
          (.point (.secret 2)) (.point (.secret 3)) = .authorized ∧
        (manager.observePeerAppKeysEvent bobEvent 10).2.authorizedDevicesForOwner bob = []) →
      ∃ manager', manager.observePeerAppKeysEvent bobEvent 10 = (.ok changed, manager') ∧
        manager'.verifiedPeerAppKeys.membership (.point (.secret 2)) (.point (.secret 3)) =
          .authorized ∧ manager'.authorizedDevicesForOwner bob = [] := by
    rintro manager changed ⟨hresult, hmember, hdevices⟩
    generalize manager.observePeerAppKeysEvent bobEvent 10 = outcome at *
    obtain ⟨result, manager'⟩ := outcome
    cases result with
    | error e => cases hresult
    | ok new =>
        cases hresult
        exact ⟨manager', rfl, hmember, hdevices⟩
  obtain ⟨manager', hdeleted⟩ := hshown (emptyManager.run numbered
    [.observePeerAppKeysEvent bobEvent 10, .deleteUser bob]).1 false (by decide +kernel)
  obtain ⟨manager'', hnewer⟩ := hshown (emptyManager.run numbered
    [.observePeerRoster bob ⟨20, []⟩]).1 true (by decide +kernel)
  exact ⟨⟨_, manager', hnew.run numbered _, hdeleted⟩, _, manager'', hnew.run numbered _, hnewer⟩

/-- Bob's other device is in use after his first event. -/
theorem first_event_devices_usable :
    ∃ manager', emptyManager.observePeerAppKeysEvent bobEvent 10 = (.ok true, manager') ∧
      ∃ record, manager'.record? bob ⟨.point (.secret 3)⟩ = some record ∧ record.Usable := by
  have hnew : emptyManager.Reachable :=
    SessionManager.Reachable.new (show SessionManager.new alice (.secret 1) = .ok emptyManager
      from rfl)
  generalize hcall : emptyManager.observePeerAppKeysEvent bobEvent 10 = outcome
  have hfacts : outcome.1.toOption = some true ∧
      outcome.2.verifiedPeerAppKeys.membership (.point (.secret 2)) (.point (.secret 3)) =
        .authorized := by
    rw [← hcall]
    decide +kernel
  obtain ⟨result, manager'⟩ := outcome
  cases result with
  | error e => cases hfacts.1
  | ok changed =>
      cases hfacts.1
      obtain ⟨hlisted, husable⟩ := (SessionManager.observed_devices_usable evidenceLaws hnew
        (by decide) hcall).2 (.point (.secret 3)) hfacts.2
      refine ⟨manager', rfl, husable (hlisted.mpr (Or.inr ⟨rfl, ?_⟩)) (Or.inl rfl)⟩
      intro roster hroster
      cases hroster

end Symbolic

end NostrDoubleRatchet
