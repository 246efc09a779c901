import NostrDoubleRatchet.RosterFolding

/-!
AppKeys snapshots folded with a device that must stay listed, as in `multi_device.rs`. Such a fold
follows the plain one but for that device, unless a stale first snapshot finds a roster without it:
only then does the wrapper move the stored time.
-/

namespace NostrDoubleRatchet

open LatestMerge

variable {K : Type} [LinearOrder K]

/-- `entry(..).or_insert(..)`. -/
def AppKeys.addDevice (appKeys : AppKeys K) (device : DeviceEntry K) : AppKeys K :=
  match appKeys.devices.get? device.identityPubkey with
  | some _ => appKeys
  | none => ⟨appKeys.devices.insert device.identityPubkey device⟩

def applyAppKeysSnapshotWithRequiredDevice (currentAppKeys : Option (AppKeys K))
    (currentCreatedAt : Nat) (incomingAppKeys : AppKeys K) (incomingCreatedAt : Nat)
    (requiredDevice : Option (DeviceEntry K)) : AppKeysSnapshot K :=
  match requiredDevice with
  | none =>
      applyAppKeysSnapshot currentAppKeys currentCreatedAt incomingAppKeys incomingCreatedAt
  | some requiredDevice =>
      let incomingWithRequired := incomingAppKeys.addDevice requiredDevice
      let applied := applyAppKeysSnapshot currentAppKeys currentCreatedAt incomingWithRequired
        incomingCreatedAt
      if (applied.appKeys.getDevice requiredDevice.identityPubkey).isNone then
        { applied with
          appKeys := applied.appKeys.addDevice requiredDevice
          createdAt := max applied.createdAt requiredDevice.createdAt }
      else applied

/-- The roster a caller keeps, with its time, after one more snapshot. -/
def keepSnapshot (apply : Option (AppKeys K) → Nat → AppKeys K → Nat → AppKeysSnapshot K)
    (kept : Option (AppKeys K) × Nat) (snapshot : AppKeys K × Nat) : Option (AppKeys K) × Nat :=
  let applied := apply kept.1 kept.2 snapshot.1 snapshot.2
  (some applied.appKeys, applied.createdAt)

def plainFold (start : Option (AppKeys K) × Nat) (snapshots : List (AppKeys K × Nat)) :
    Option (AppKeys K) × Nat :=
  snapshots.foldl (keepSnapshot applyAppKeysSnapshot) start

def requiredFold (device : DeviceEntry K) (start : Option (AppKeys K) × Nat)
    (snapshots : List (AppKeys K × Nat)) : Option (AppKeys K) × Nat :=
  snapshots.foldl (keepSnapshot fun current createdAt incoming incomingCreatedAt =>
    applyAppKeysSnapshotWithRequiredDevice current createdAt incoming incomingCreatedAt
      (some device)) start

/-! What the two folds share. -/

/-- What is listed, with one device left out. -/
def AppKeys.listedExcept (appKeys : AppKeys K) (device : DeviceEntry K) : Listed K :=
  Function.update appKeys.listed device.identityPubkey none

def Lists (device : DeviceEntry K) (kept : Option (AppKeys K) × Nat) : Prop :=
  ∃ appKeys, kept.1 = some appKeys ∧ (appKeys.getDevice device.identityPubkey).isSome = true

/-- The device is listed after the first step, and the rosters differ in it alone. -/
structure FoldRefines (device : DeviceEntry K) (start : Option (AppKeys K) × Nat)
    (snapshots : List (AppKeys K × Nat)) : Prop where
  lists : snapshots ≠ [] → Lists device (requiredFold device start snapshots)
  listed : (requiredFold device start snapshots).1.map (AppKeys.listedExcept · device) =
    (plainFold start snapshots).1.map (AppKeys.listedExcept · device)
  createdAt : (requiredFold device start snapshots).2 = (plainFold start snapshots).2

/-- A stale first snapshot does not move the time of a roster without the device. -/
def TimeKept (device : DeviceEntry K) (start : Option (AppKeys K) × Nat)
    (snapshots : List (AppKeys K × Nat)) : Prop :=
  ∀ current snapshot, start.1 = some current → snapshots.head? = some snapshot →
    snapshot.2 < start.2 → current.getDevice device.identityPubkey = none →
    device.createdAt ≤ start.2

namespace AppKeys

variable {appKeys other : AppKeys K} {device : DeviceEntry K}

theorem Keyed.addDevice (h : appKeys.Keyed) (device : DeviceEntry K) :
    (appKeys.addDevice device).Keyed := by
  unfold AppKeys.addDevice
  split
  · exact h
  · exact LatestMerge.Keyed.insert h device

theorem getDevice_addDevice (appKeys : AppKeys K) (device : DeviceEntry K) (identityPubkey : K) :
    (appKeys.addDevice device).getDevice identityPubkey =
      if device.identityPubkey = identityPubkey ∧
          appKeys.getDevice device.identityPubkey = none then some device
      else appKeys.getDevice identityPubkey := by
  unfold addDevice getDevice
  cases hget : appKeys.devices.get? device.identityPubkey with
  | some existing =>
      dsimp only
      rw [if_neg]
      rintro ⟨-, heq⟩
      cases heq
  | none =>
      dsimp only
      rw [SortedMap.get?_insert]
      by_cases hsame : device.identityPubkey = identityPubkey
      · rw [if_pos hsame, if_pos ⟨hsame, rfl⟩]
      · rw [if_neg hsame, if_neg (fun hboth => hsame hboth.1)]

theorem isSome_getDevice_addDevice (appKeys : AppKeys K) (device : DeviceEntry K) :
    ((appKeys.addDevice device).getDevice device.identityPubkey).isSome = true := by
  rw [getDevice_addDevice]
  cases hget : appKeys.getDevice device.identityPubkey with
  | some existing => rw [if_neg (fun hboth => nomatch hboth.2)]; rfl
  | none => rw [if_pos ⟨rfl, rfl⟩]; rfl

theorem listedExcept_addDevice (appKeys : AppKeys K) (device : DeviceEntry K) :
    (appKeys.addDevice device).listedExcept device = appKeys.listedExcept device := by
  funext identityPubkey
  unfold listedExcept
  by_cases hsame : identityPubkey = device.identityPubkey
  · rw [hsame, Function.update_self, Function.update_self]
  · rw [Function.update_of_ne hsame, Function.update_of_ne hsame]
    unfold listed
    rw [getDevice_addDevice, if_neg (fun hboth => hsame hboth.1.symm)]

theorem listedExcept_merge (h : appKeys.Keyed) (hother : other.Keyed) (device : DeviceEntry K) :
    (appKeys.merge other).listedExcept device =
      (appKeys.listedExcept device).merge (other.listedExcept device) := by
  funext identityPubkey
  unfold listedExcept Listed.merge
  rw [listed_merge h hother]
  by_cases hsame : identityPubkey = device.identityPubkey
  · rw [hsame, Function.update_self, Function.update_self, Function.update_self]
    rfl
  · rw [Function.update_of_ne hsame, Function.update_of_ne hsame, Function.update_of_ne hsame]
    rfl

/-- A merge lists what its second roster lists. -/
theorem isSome_getDevice_merge (h : appKeys.Keyed) (hother : other.Keyed) {identityPubkey : K}
    (hlists : (other.getDevice identityPubkey).isSome = true) :
    ((appKeys.merge other).getDevice identityPubkey).isSome = true := by
  have hmerged : ((appKeys.merge other).getDevice identityPubkey).map DeviceEntry.createdAt =
      Option.merge min ((appKeys.getDevice identityPubkey).map DeviceEntry.createdAt)
        ((other.getDevice identityPubkey).map DeviceEntry.createdAt) :=
    congrFun (listed_merge h hother) identityPubkey
  obtain ⟨entry, hentry⟩ := Option.isSome_iff_exists.mp hlists
  rw [hentry] at hmerged
  cases hget : (appKeys.merge other).getDevice identityPubkey with
  | some merged => rfl
  | none =>
      rw [hget] at hmerged
      cases hcurrent : appKeys.getDevice identityPubkey with
      | none =>
          rw [hcurrent] at hmerged
          cases hmerged
      | some current =>
          rw [hcurrent] at hmerged
          cases hmerged

end AppKeys

/-! One step, and the whole fold. -/

def KeyedRoster (kept : Option (AppKeys K) × Nat) : Prop :=
  ∀ appKeys, kept.1 = some appKeys → appKeys.Keyed

/-- The two rosters agree but for the device. -/
structure Follows (device : DeviceEntry K) (required plain : Option (AppKeys K) × Nat) : Prop where
  listed : required.1.map (AppKeys.listedExcept · device) =
    plain.1.map (AppKeys.listedExcept · device)
  createdAt : required.2 = plain.2
  requiredKeyed : KeyedRoster required
  plainKeyed : KeyedRoster plain

variable {device : DeviceEntry K} {required plain : Option (AppKeys K) × Nat}
  {snapshot : AppKeys K × Nat}

/-- The wrapper's result when the plain one lists the device. -/
theorem withRequiredDevice_of_lists {current : Option (AppKeys K)} {createdAt : Nat}
    {incoming : AppKeys K} {incomingCreatedAt : Nat}
    (hlists : ((applyAppKeysSnapshot current createdAt (incoming.addDevice device)
      incomingCreatedAt).appKeys.getDevice device.identityPubkey).isSome = true) :
    applyAppKeysSnapshotWithRequiredDevice current createdAt incoming incomingCreatedAt
        (some device) =
      applyAppKeysSnapshot current createdAt (incoming.addDevice device) incomingCreatedAt := by
  unfold applyAppKeysSnapshotWithRequiredDevice
  dsimp only
  rw [if_neg]
  rw [Option.isNone_eq_false_iff.mpr hlists]
  exact Bool.false_ne_true

/-- A roster taken over as it comes. -/
theorem advanced_follows {incoming : AppKeys K} {createdAt : Nat} (hkeyed : incoming.Keyed) :
    Follows device (some (incoming.addDevice device), createdAt) (some incoming, createdAt) ∧
      Lists device (some (incoming.addDevice device), createdAt) := by
  refine ⟨⟨congrArg some (AppKeys.listedExcept_addDevice incoming device), rfl, ?_, ?_⟩,
    _, rfl, AppKeys.isSome_getDevice_addDevice incoming device⟩
  · rintro appKeys heq
    cases heq
    exact hkeyed.addDevice device
  · rintro appKeys heq
    cases heq
    exact hkeyed

theorem Follows.step (h : Follows device required plain) (hkeyed : snapshot.1.Keyed)
    (htime : ∀ current, required.1 = some current → snapshot.2 < required.2 →
      current.getDevice device.identityPubkey = none → device.createdAt ≤ required.2) :
    Follows device
        (keepSnapshot (fun current createdAt incoming incomingCreatedAt =>
          applyAppKeysSnapshotWithRequiredDevice current createdAt incoming incomingCreatedAt
            (some device)) required snapshot)
        (keepSnapshot applyAppKeysSnapshot plain snapshot) ∧
      Lists device
        (keepSnapshot (fun current createdAt incoming incomingCreatedAt =>
          applyAppKeysSnapshotWithRequiredDevice current createdAt incoming incomingCreatedAt
            (some device)) required snapshot) := by
  obtain ⟨requiredRoster, createdAt⟩ := required
  obtain ⟨plainRoster, plainCreatedAt⟩ := plain
  obtain ⟨incoming, incomingCreatedAt⟩ := snapshot
  obtain rfl : createdAt = plainCreatedAt := h.createdAt
  change incoming.Keyed at hkeyed
  have hadded := AppKeys.isSome_getDevice_addDevice incoming device
  unfold keepSnapshot
  dsimp only
  cases requiredRoster with
  | none =>
      have hplain : plainRoster = none := Option.map_eq_none_iff.mp h.listed.symm
      subst hplain
      have hadvanced : ∀ appKeys : AppKeys K, applyAppKeysSnapshot none createdAt appKeys
          incomingCreatedAt = ⟨.advanced, appKeys, incomingCreatedAt⟩ := fun _ => rfl
      rw [withRequiredDevice_of_lists (by rw [hadvanced]; exact hadded), hadvanced, hadvanced]
      exact advanced_follows hkeyed
  | some current =>
      obtain ⟨plainCurrent, rfl, hlisted⟩ := Option.map_eq_some_iff.mp h.listed.symm
      have hcurrent := h.requiredKeyed current rfl
      have hplainCurrent := h.plainKeyed plainCurrent rfl
      by_cases hnewer : incomingCreatedAt > createdAt
      · have hadvanced : ∀ roster appKeys : AppKeys K, applyAppKeysSnapshot (some roster) createdAt
            appKeys incomingCreatedAt = ⟨.advanced, appKeys, incomingCreatedAt⟩ :=
          fun roster appKeys => if_pos hnewer
        rw [withRequiredDevice_of_lists (by rw [hadvanced]; exact hadded), hadvanced, hadvanced]
        exact advanced_follows hkeyed
      · by_cases hstale : incomingCreatedAt < createdAt
        · have hkept : ∀ roster appKeys : AppKeys K, applyAppKeysSnapshot (some roster) createdAt
              appKeys incomingCreatedAt = ⟨.stale, roster, createdAt⟩ :=
            fun roster appKeys => (if_neg hnewer).trans (if_pos hstale)
          cases hget : current.getDevice device.identityPubkey with
          | some entry =>
              have hlists : (current.getDevice device.identityPubkey).isSome = true := by
                rw [hget]
                rfl
              rw [withRequiredDevice_of_lists (by rw [hkept]; exact hlists), hkept, hkept]
              exact ⟨h, current, rfl, hlists⟩
          | none =>
              have hwrapped : applyAppKeysSnapshotWithRequiredDevice (some current) createdAt
                  incoming incomingCreatedAt (some device) =
                    ⟨.stale, current.addDevice device, max createdAt device.createdAt⟩ := by
                unfold applyAppKeysSnapshotWithRequiredDevice
                dsimp only
                rw [hkept, if_pos (Option.isNone_iff_eq_none.mpr hget)]
              rw [hwrapped, hkept, max_eq_left (htime current rfl hstale hget)]
              refine ⟨⟨?_, rfl, ?_, h.plainKeyed⟩, _, rfl,
                AppKeys.isSome_getDevice_addDevice current device⟩
              · exact (congrArg some (AppKeys.listedExcept_addDevice current device)).trans h.listed
              · rintro appKeys heq
                cases heq
                exact hcurrent.addDevice device
        · have hmerged : ∀ roster appKeys : AppKeys K, applyAppKeysSnapshot (some roster) createdAt
              appKeys incomingCreatedAt =
                ⟨.mergedEqualTimestamp, roster.merge appKeys, createdAt⟩ :=
            fun roster appKeys => (if_neg hnewer).trans (if_neg hstale)
          have haddedKeyed := AppKeys.Keyed.addDevice hkeyed device
          have hlists := AppKeys.isSome_getDevice_merge hcurrent haddedKeyed hadded
          rw [withRequiredDevice_of_lists (by rw [hmerged]; exact hlists), hmerged, hmerged]
          refine ⟨⟨congrArg some ?_, rfl, ?_, ?_⟩, _, rfl, hlists⟩
          · dsimp only
            rw [AppKeys.listedExcept_merge hcurrent haddedKeyed,
              AppKeys.listedExcept_merge hplainCurrent hkeyed, AppKeys.listedExcept_addDevice,
              hlisted]
          · rintro appKeys heq
            cases heq
            exact AppKeys.keyed_merge _ _
          · rintro appKeys heq
            cases heq
            exact AppKeys.keyed_merge _ _

/-- Once the device is listed the folds stay together. -/
theorem Follows.fold {snapshots : List (AppKeys K × Nat)} (h : Follows device required plain)
    (hlists : Lists device required) (hkeyed : ∀ snapshot ∈ snapshots, snapshot.1.Keyed) :
    Follows device (requiredFold device required snapshots) (plainFold plain snapshots) ∧
      Lists device (requiredFold device required snapshots) := by
  induction snapshots generalizing required plain with
  | nil => exact ⟨h, hlists⟩
  | cons snapshot rest ih =>
      have htime : ∀ current, required.1 = some current → snapshot.2 < required.2 →
          current.getDevice device.identityPubkey = none → device.createdAt ≤ required.2 := by
        intro current hcurrent _ hmissing
        obtain ⟨appKeys, happKeys, hsome⟩ := hlists
        rw [hcurrent] at happKeys
        cases happKeys
        rw [hmissing] at hsome
        cases hsome
      obtain ⟨hnext, hnextLists⟩ := h.step (hkeyed snapshot List.mem_cons_self) htime
      exact ih hnext hnextLists (fun other hother => hkeyed other (List.mem_cons_of_mem _ hother))

/-- The time is moved by the first step that meets the exception. -/
theorem requiredFold_moved {current : AppKeys K} {createdAt : Nat}
    (hstale : snapshot.2 < createdAt)
    (hmissing : current.getDevice device.identityPubkey = none) :
    (requiredFold device (some current, createdAt) [snapshot]).2 =
        max createdAt device.createdAt ∧
      (plainFold (some current, createdAt) [snapshot]).2 = createdAt := by
  have hkept : ∀ appKeys : AppKeys K, applyAppKeysSnapshot (some current) createdAt appKeys
      snapshot.2 = ⟨.stale, current, createdAt⟩ :=
    fun appKeys => (if_neg hstale.le.not_gt).trans (if_pos hstale)
  constructor
  · change (applyAppKeysSnapshotWithRequiredDevice (some current) createdAt snapshot.1 snapshot.2
      (some device)).createdAt = _
    unfold applyAppKeysSnapshotWithRequiredDevice
    dsimp only
    rw [hkept, if_pos (Option.isNone_iff_eq_none.mpr hmissing)]
  · change (applyAppKeysSnapshot (some current) createdAt snapshot.1 snapshot.2).createdAt = _
    rw [hkept]

/-- At every point of a fold with a required device the roster is that of the plain fold, but for
the device, if and only if a stale first snapshot did not move the time. -/
theorem required_fold_refines_iff (initial : Option (List (DeviceEntry K))) (createdAt : Nat)
    (device : DeviceEntry K) (snapshots : List (List (DeviceEntry K) × Nat)) :
    (∀ taken, taken <+: snapshots.map (fun s => (AppKeys.new s.1, s.2)) →
      FoldRefines device (initial.map AppKeys.new, createdAt) taken) ↔
    TimeKept device (initial.map AppKeys.new, createdAt)
      (snapshots.map (fun s => (AppKeys.new s.1, s.2))) := by
  constructor
  · intro hrefines current snapshot hcurrent hhead hstale hmissing
    dsimp only at hcurrent hstale ⊢
    obtain ⟨rest, hrest⟩ := List.head?_eq_some_iff.mp hhead
    have hfirst := (hrefines [snapshot] ⟨rest, hrest.symm⟩).createdAt
    rw [hcurrent] at hfirst
    obtain ⟨hrequired, hplain⟩ := requiredFold_moved hstale hmissing
    rw [hrequired, hplain] at hfirst
    exact max_eq_left_iff.mp hfirst
  · intro htime taken htaken
    have hstart : Follows device (initial.map AppKeys.new, createdAt)
        (initial.map AppKeys.new, createdAt) := by
      have hkeyed : KeyedRoster (initial.map AppKeys.new, createdAt) := by
        intro appKeys happKeys
        obtain ⟨devices, -, rfl⟩ := Option.map_eq_some_iff.mp happKeys
        exact AppKeys.keyed_new devices
      exact ⟨rfl, rfl, hkeyed, hkeyed⟩
    cases taken with
    | nil => exact ⟨fun hne => absurd rfl hne, rfl, rfl⟩
    | cons snapshot rest =>
        have hkeyed : ∀ other ∈ snapshot :: rest, other.1.Keyed := by
          intro other hother
          obtain ⟨s, -, rfl⟩ := List.mem_map.mp (htaken.subset hother)
          exact AppKeys.keyed_new s.1
        have hhead : (snapshots.map (fun s => (AppKeys.new s.1, s.2))).head? = some snapshot := by
          obtain ⟨tail, htail⟩ := htaken
          rw [← htail]
          rfl
        obtain ⟨hfirst, hlists⟩ := hstart.step (hkeyed snapshot List.mem_cons_self)
          (fun current hcurrent => htime current snapshot hcurrent hhead)
        obtain ⟨hfold, hfoldLists⟩ := hfirst.fold hlists
          (fun other hother => hkeyed other (List.mem_cons_of_mem _ hother))
        exact ⟨fun _ => hfoldLists, hfold.listed, hfold.createdAt⟩

namespace Symbolic

/-- A device of second 300, a roster of second 100 without it, an older roster and one that
revokes a device at second 200. -/
def localDevice : DeviceEntry KeyTerm := ⟨.secret 3, 300⟩

def revokingSnapshots : List (List (DeviceEntry KeyTerm) × Nat) :=
  [([⟨.secret 1, 50⟩], 50), ([⟨.secret 1, 50⟩], 200)]

theorem required_device_hides_revocation :
    ¬ FoldRefines localDevice (some (AppKeys.new [⟨.secret 1, 50⟩, ⟨.secret 2, 60⟩]), 100)
        (revokingSnapshots.map (fun s => (AppKeys.new s.1, s.2))) ∧
      (requiredFold localDevice (some (AppKeys.new [⟨.secret 1, 50⟩, ⟨.secret 2, 60⟩]), 100)
        (revokingSnapshots.map (fun s => (AppKeys.new s.1, s.2)))).1.map
          (AppKeys.listed · (.secret 2)) = some (some 60) ∧
      (plainFold (some (AppKeys.new [⟨.secret 1, 50⟩, ⟨.secret 2, 60⟩]), 100)
        (revokingSnapshots.map (fun s => (AppKeys.new s.1, s.2)))).1.map
          (AppKeys.listed · (.secret 2)) = some none := by
  refine ⟨?_, by decide +kernel, by decide +kernel⟩
  intro hrefines
  have htime := hrefines.createdAt
  revert htime
  decide +kernel

end Symbolic

end NostrDoubleRatchet
