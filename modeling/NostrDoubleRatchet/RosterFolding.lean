import NostrDoubleRatchet.Lib.LatestMerge
import NostrDoubleRatchet.SessionManager.Authorization

/-!
The three ways the repository folds AppKeys snapshots: `multi_device.rs` over `AppKeys`,
`multiDevice.ts` over its own `AppKeys`, and the session manager over device rosters. They
agree on the final time and on the age of every device, in every order of the snapshots.
Labels are left out, and JavaScript numbers and maps are numbers and sorted maps here.
-/

namespace NostrDoubleRatchet

open LatestMerge

variable {K T : Type} [LinearOrder K]

/-! `multi_device.rs`. -/

inductive AppKeysSnapshotDecision where
  | advanced
  | stale
  | mergedStale
  | mergedEqualTimestamp
  deriving DecidableEq, Repr

structure AppKeysSnapshot (K : Type) [LinearOrder K] where
  decision : AppKeysSnapshotDecision
  appKeys : AppKeys K
  createdAt : Nat

namespace AppKeys

/-- `entry(..).and_modify(..).or_insert(..)` of `AppKeys::merge`. -/
def mergeDevice (merged : SortedMap K (DeviceEntry K)) (device : DeviceEntry K) :
    SortedMap K (DeviceEntry K) :=
  match merged.get? device.identityPubkey with
  | none => merged.insert device.identityPubkey device
  | some existing =>
      if device.createdAt < existing.createdAt then merged.insert device.identityPubkey device
      else merged

def merge (appKeys other : AppKeys K) : AppKeys K :=
  ⟨(appKeys.getAllDevices ++ other.getAllDevices).foldl mergeDevice SortedMap.empty⟩

end AppKeys

def applyAppKeysSnapshot (currentAppKeys : Option (AppKeys K)) (currentCreatedAt : Nat)
    (incomingAppKeys : AppKeys K) (incomingCreatedAt : Nat) : AppKeysSnapshot K :=
  match currentAppKeys with
  | none => ⟨.advanced, incomingAppKeys, incomingCreatedAt⟩
  | some currentAppKeys =>
      if incomingCreatedAt > currentCreatedAt then
        ⟨.advanced, incomingAppKeys, incomingCreatedAt⟩
      else if incomingCreatedAt < currentCreatedAt then ⟨.stale, currentAppKeys, currentCreatedAt⟩
      else ⟨.mergedEqualTimestamp, currentAppKeys.merge incomingAppKeys, currentCreatedAt⟩

/-- Snapshots applied one after the other, the first to nothing. -/
def foldAppKeysSnapshots (snapshots : List (AppKeys K × Nat)) : Option (AppKeysSnapshot K) :=
  snapshots.foldl (fun current snapshot => some (applyAppKeysSnapshot
    (current.map AppKeysSnapshot.appKeys) ((current.map AppKeysSnapshot.createdAt).getD 0)
    snapshot.1 snapshot.2)) none

section

variable [Primitives K T] [EventPrimitives K]

def selectLatestAppKeysFromEvents (events : List (Event K)) : Option (AppKeysSnapshot K) :=
  events.foldl (fun latest event =>
    if !isAppKeysEvent event then latest
    else match AppKeys.fromEvent event with
      | .error _ => latest
      | .ok appKeys => some (match latest with
          | some current => applyAppKeysSnapshot (some current.appKeys) current.createdAt appKeys
              event.createdAt
          | none => ⟨.advanced, appKeys, event.createdAt⟩)) none

/-- The snapshot an event is read as. -/
def snapshotOfEvent (event : Event K) : Option (AppKeys K × Nat) :=
  if !isAppKeysEvent event then none
  else match AppKeys.fromEvent event with
    | .error _ => none
    | .ok appKeys => some (appKeys, event.createdAt)

end

/-! `multiDevice.ts` and `AppKeys.ts`. -/

namespace TypeScript

structure AppKeys (K : Type) [LinearOrder K] where
  devices : SortedMap K (DeviceEntry K)

/-- The constructor: `Map.set` for one device after the other. -/
def AppKeys.new (devices : List (DeviceEntry K)) : AppKeys K :=
  ⟨devices.foldl (fun map device => map.insert device.identityPubkey device) SortedMap.empty⟩

def AppKeys.getDevice (appKeys : AppKeys K) (identityPubkey : K) : Option (DeviceEntry K) :=
  appKeys.devices.get? identityPubkey

/-- One turn of the `reduce` in `merge`. -/
def AppKeys.mergeDevice (map : SortedMap K (DeviceEntry K)) (device : DeviceEntry K) :
    SortedMap K (DeviceEntry K) :=
  let existing := map.get? device.identityPubkey
  if existing.all (fun existing => device.createdAt < existing.createdAt) then
    map.insert device.identityPubkey device
  else map

def AppKeys.merge (appKeys other : AppKeys K) : AppKeys K :=
  AppKeys.new ((appKeys.devices.values ++ other.devices.values).foldl AppKeys.mergeDevice
    SortedMap.empty).values

inductive AppKeysSnapshotDecision where
  | advanced
  | stale
  | mergedEqualTimestamp

structure AppKeysSnapshotUpdate (α : Type) where
  decision : AppKeysSnapshotDecision
  appKeys : α
  createdAt : Nat

def applyAppKeysSnapshot {α : Type} (merge : α → α → α) (currentAppKeys : Option α)
    (currentCreatedAt : Nat) (incomingAppKeys : α) (incomingCreatedAt : Nat) :
    AppKeysSnapshotUpdate α :=
  match currentAppKeys with
  | none => ⟨.advanced, incomingAppKeys, incomingCreatedAt⟩
  | some currentAppKeys =>
      if incomingCreatedAt > currentCreatedAt then
        ⟨.advanced, incomingAppKeys, incomingCreatedAt⟩
      else if incomingCreatedAt < currentCreatedAt then ⟨.stale, currentAppKeys, currentCreatedAt⟩
      else ⟨.mergedEqualTimestamp, merge currentAppKeys incomingAppKeys, currentCreatedAt⟩

def foldAppKeysSnapshots (snapshots : List (AppKeys K × Nat)) :
    Option (AppKeysSnapshotUpdate (AppKeys K)) :=
  snapshots.foldl (fun current snapshot => some (applyAppKeysSnapshot AppKeys.merge
    (current.map AppKeysSnapshotUpdate.appKeys)
    ((current.map AppKeysSnapshotUpdate.createdAt).getD 0) snapshot.1 snapshot.2)) none

end TypeScript

/-! The session manager. -/

def foldRosterSnapshots (rosters : List (DeviceRoster K)) : Option (DeviceRoster K) :=
  rosters.foldl (fun current roster => some (applyRosterSnapshot current roster).2) none

/-! What is observed of a fold: its time, and since when it lists each device. -/

/-- Since when each device is listed. -/
abbrev Listed (K : Type) := K → Option Nat

namespace Listed

def merge (listed other : Listed K) : Listed K :=
  fun device => Option.merge min (listed device) (other device)

omit [LinearOrder K] in
instance : Std.Commutative (merge : Listed K → Listed K → Listed K) :=
  ⟨fun _ _ => funext fun _ => merge_min_comm _ _⟩

omit [LinearOrder K] in
instance : Std.Associative (merge : Listed K → Listed K → Listed K) :=
  ⟨fun _ _ _ => funext fun _ => merge_min_assoc _ _ _⟩

end Listed

/-- The devices that an AppKeys built from `devices` lists. -/
def AppKeys.listed (appKeys : AppKeys K) : Listed K :=
  fun device => (appKeys.getDevice device).map DeviceEntry.createdAt

def TypeScript.AppKeys.listed (appKeys : TypeScript.AppKeys K) : Listed K :=
  fun device => (appKeys.getDevice device).map DeviceEntry.createdAt

def DeviceRoster.listed (roster : DeviceRoster K) : Listed K :=
  fun device => (roster.getDevice ⟨device⟩).map AuthorizedDevice.createdAt

/-- The newest snapshots, with the earliest age each of them gives a device. -/
def latestListed (snapshots : List (Nat × Listed K)) : Option (Nat × Listed K) :=
  snapshots.foldl (latest Listed.merge) none

/-! Each merge is the merge of what is listed. -/

namespace AppKeys

/-- Devices are stored under their own keys, as every constructor does. -/
def Keyed (appKeys : AppKeys K) : Prop := LatestMerge.Keyed DeviceEntry.identityPubkey appKeys.devices

theorem keyed_new (devices : List (DeviceEntry K)) : (AppKeys.new devices).Keyed :=
  (LatestMerge.Keyed.empty _).foldl_insert devices

/-- Every such AppKeys is built from its own devices. -/
theorem Keyed.new_getAllDevices {appKeys : AppKeys K} (h : appKeys.Keyed) :
    AppKeys.new appKeys.getAllDevices = appKeys :=
  congrArg AppKeys.mk (LatestMerge.Keyed.foldl_insert_values h)

private theorem mergeDevice_eq :
    (mergeDevice : SortedMap K (DeviceEntry K) → DeviceEntry K → SortedMap K (DeviceEntry K)) =
      keepEarliest DeviceEntry.identityPubkey DeviceEntry.createdAt := by
  funext merged device
  unfold mergeDevice keepEarliest
  cases merged.get? device.identityPubkey with
  | none => rfl
  | some existing => rfl

theorem keyed_merge (appKeys other : AppKeys K) : (appKeys.merge other).Keyed := by
  unfold Keyed merge
  rw [mergeDevice_eq]
  exact (LatestMerge.Keyed.empty _).foldl_keepEarliest _ _

theorem listed_merge {appKeys other : AppKeys K} (h : appKeys.Keyed) (hother : other.Keyed) :
    (appKeys.merge other).listed = appKeys.listed.merge other.listed := by
  funext device
  change (((appKeys.getAllDevices ++ other.getAllDevices).foldl mergeDevice
    SortedMap.empty).get? device).map DeviceEntry.createdAt = _
  rw [mergeDevice_eq, map_time_foldl_keepEarliest, earliest_append, getAllDevices, getAllDevices,
    earliest_values _ _ h, earliest_values _ _ hother]
  exact Option.merge_none_left

end AppKeys

namespace TypeScript.AppKeys

def Keyed (appKeys : AppKeys K) : Prop :=
  LatestMerge.Keyed DeviceEntry.identityPubkey appKeys.devices

theorem keyed_new (devices : List (DeviceEntry K)) : (AppKeys.new devices).Keyed :=
  (LatestMerge.Keyed.empty _).foldl_insert devices

private theorem mergeDevice_eq :
    (mergeDevice : SortedMap K (DeviceEntry K) → DeviceEntry K → SortedMap K (DeviceEntry K)) =
      keepEarliest DeviceEntry.identityPubkey DeviceEntry.createdAt := by
  funext map device
  unfold mergeDevice keepEarliest
  cases map.get? device.identityPubkey with
  | none => rfl
  | some existing => simp

theorem listed_merge {appKeys other : AppKeys K} (h : appKeys.Keyed) (hother : other.Keyed) :
    (appKeys.merge other).listed = appKeys.listed.merge other.listed := by
  have hkeyed : LatestMerge.Keyed DeviceEntry.identityPubkey
      ((appKeys.devices.values ++ other.devices.values).foldl mergeDevice SortedMap.empty) := by
    rw [mergeDevice_eq]
    exact (LatestMerge.Keyed.empty _).foldl_keepEarliest _ _
  funext device
  unfold merge AppKeys.new listed getDevice
  rw [hkeyed.foldl_insert_values, mergeDevice_eq, map_time_foldl_keepEarliest, earliest_append,
    earliest_values _ _ h, earliest_values _ _ hother]
  exact Option.merge_none_left

end TypeScript.AppKeys

namespace DeviceRoster

/-- The devices are the values of a map. -/
def Normal (roster : DeviceRoster K) : Prop :=
  ∃ map, LatestMerge.Keyed AuthorizedDevice.devicePubkey map ∧ roster.devices = map.values

private theorem insertDevice_eq :
    (insertDevice : SortedMap (DevicePubkey K) (AuthorizedDevice K) → AuthorizedDevice K →
      SortedMap (DevicePubkey K) (AuthorizedDevice K)) =
      keepEarliest AuthorizedDevice.devicePubkey AuthorizedDevice.createdAt := by
  funext byPubkey device
  unfold insertDevice keepEarliest
  cases byPubkey.get? device.devicePubkey with
  | none => rfl
  | some existing => rfl

private theorem keyed_insertDevice (devices : List (AuthorizedDevice K)) :
    LatestMerge.Keyed AuthorizedDevice.devicePubkey
      (devices.foldl insertDevice SortedMap.empty) := by
  rw [insertDevice_eq]
  exact (LatestMerge.Keyed.empty _).foldl_keepEarliest _ _

theorem normal_new (createdAt : UnixSeconds) (devices : List (AuthorizedDevice K)) :
    (DeviceRoster.new createdAt devices).Normal :=
  ⟨_, keyed_insertDevice devices, rfl⟩

theorem normal_merge (roster other : DeviceRoster K) : (roster.merge other).Normal :=
  ⟨_, keyed_insertDevice _, rfl⟩

theorem Normal.listed_eq {roster : DeviceRoster K} (h : roster.Normal) (device : K) :
    roster.listed device = earliest AuthorizedDevice.devicePubkey AuthorizedDevice.createdAt
      ⟨device⟩ roster.devices := by
  obtain ⟨map, hkeyed, hdevices⟩ := h
  rw [listed, getDevice, hdevices, hkeyed.find?_values, earliest_values _ _ hkeyed]

/-- What a list of devices is normalized to. -/
theorem listed_normalized (createdAt : UnixSeconds) (devices : List (AuthorizedDevice K))
    (device : K) :
    (⟨createdAt, normalizeDevices devices⟩ : DeviceRoster K).listed device =
      earliest AuthorizedDevice.devicePubkey AuthorizedDevice.createdAt ⟨device⟩ devices := by
  rw [listed, getDevice, normalizeDevices, (keyed_insertDevice devices).find?_values,
    insertDevice_eq, map_time_foldl_keepEarliest]
  exact Option.merge_none_left

theorem listed_merge {roster other : DeviceRoster K} (h : roster.Normal) (hother : other.Normal) :
    (roster.merge other).listed = roster.listed.merge other.listed := by
  funext device
  rw [merge, listed_normalized, earliest_append, ← h.listed_eq, ← hother.listed_eq]
  rfl

end DeviceRoster

namespace AppKeys

/-- An AppKeys and its roster list the same devices. -/
theorem Keyed.listed_eventRoster {appKeys : AppKeys K} (h : appKeys.Keyed)
    (createdAt : UnixSeconds) :
    (SessionManager.eventRoster createdAt appKeys).listed = appKeys.listed := by
  funext device
  change (DeviceRoster.mk createdAt (normalizeDevices _)).listed device = _
  rw [DeviceRoster.listed_normalized, earliest_map, listed, getDevice]
  have hcongr : earliest (AuthorizedDevice.devicePubkey ∘ fun device : DeviceEntry K =>
      (⟨⟨device.identityPubkey⟩, device.createdAt⟩ : AuthorizedDevice K))
      (AuthorizedDevice.createdAt ∘ fun device : DeviceEntry K =>
        (⟨⟨device.identityPubkey⟩, device.createdAt⟩ : AuthorizedDevice K)) ⟨device⟩
      appKeys.getAllDevices =
      earliest DeviceEntry.identityPubkey DeviceEntry.createdAt device appKeys.getAllDevices := by
    unfold earliest
    congr 1
    funext entry rest
    simp
  rw [hcongr]
  exact earliest_values _ _ h device

end AppKeys

/-! The folds. -/

theorem foldAppKeysSnapshots_listed {snapshots : List (AppKeys K × Nat)}
    (hkeyed : ∀ snapshot ∈ snapshots, snapshot.1.Keyed) :
    (foldAppKeysSnapshots snapshots).map (fun folded => (folded.createdAt, folded.appKeys.listed)) =
      latestListed (snapshots.map fun snapshot => (snapshot.2, snapshot.1.listed)) := by
  refine foldl_observed (I := fun folded => folded.appKeys.Keyed)
    (J := fun snapshot => snapshot.1.Keyed) ?_ ?_ hkeyed
  · exact fun snapshot hsnapshot => ⟨hsnapshot, rfl⟩
  · intro folded snapshot hfolded hsnapshot
    dsimp only [Option.map, Option.getD, applyAppKeysSnapshot, latest]
    split
    · exact ⟨hsnapshot, rfl⟩
    · split
      · exact ⟨hfolded, rfl⟩
      · exact ⟨AppKeys.keyed_merge _ _, by rw [AppKeys.listed_merge hfolded hsnapshot]⟩

theorem TypeScript.foldAppKeysSnapshots_listed {snapshots : List (TypeScript.AppKeys K × Nat)}
    (hkeyed : ∀ snapshot ∈ snapshots, snapshot.1.Keyed) :
    (TypeScript.foldAppKeysSnapshots snapshots).map
        (fun folded => (folded.createdAt, folded.appKeys.listed)) =
      latestListed (snapshots.map fun snapshot => (snapshot.2, snapshot.1.listed)) := by
  refine foldl_observed (I := fun folded => folded.appKeys.Keyed)
    (J := fun snapshot => snapshot.1.Keyed) ?_ ?_ hkeyed
  · exact fun snapshot hsnapshot => ⟨hsnapshot, rfl⟩
  · intro folded snapshot hfolded hsnapshot
    dsimp only [Option.map, Option.getD, TypeScript.applyAppKeysSnapshot, latest]
    split
    · exact ⟨hsnapshot, rfl⟩
    · split
      · exact ⟨hfolded, rfl⟩
      · exact ⟨TypeScript.AppKeys.keyed_new _,
          by rw [TypeScript.AppKeys.listed_merge hfolded hsnapshot]⟩

theorem foldRosterSnapshots_listed {rosters : List (DeviceRoster K)}
    (hnormal : ∀ roster ∈ rosters, roster.Normal) :
    (foldRosterSnapshots rosters).map (fun roster => (roster.createdAt, roster.listed)) =
      latestListed (rosters.map fun roster => (roster.createdAt, roster.listed)) := by
  refine foldl_observed (I := DeviceRoster.Normal) (J := DeviceRoster.Normal) ?_ ?_ hnormal
  · exact fun roster hroster => ⟨hroster, rfl⟩
  · intro folded roster hfolded hroster
    dsimp only [applyRosterSnapshot, latest]
    split
    · exact ⟨hroster, rfl⟩
    · split
      · exact ⟨hfolded, rfl⟩
      · exact ⟨DeviceRoster.normal_merge _ _, by rw [DeviceRoster.listed_merge hfolded hroster]; rfl⟩

section

variable [Primitives K T] [EventPrimitives K]

/-- Selecting from events folds the snapshots they are read as. -/
theorem selectLatestAppKeysFromEvents_eq (events : List (Event K)) :
    selectLatestAppKeysFromEvents events =
      foldAppKeysSnapshots (events.filterMap snapshotOfEvent) := by
  unfold selectLatestAppKeysFromEvents foldAppKeysSnapshots
  generalize (none : Option (AppKeysSnapshot K)) = latest
  induction events generalizing latest with
  | nil => rfl
  | cons event rest ih =>
      rw [List.foldl_cons, ih]
      unfold snapshotOfEvent
      rw [List.filterMap_cons]
      cases isAppKeysEvent event with
      | false => rfl
      | true =>
          cases AppKeys.fromEvent event with
          | error e => rfl
          | ok appKeys =>
              cases latest with
              | none => rfl
              | some current => rfl

/-- AppKeys snapshots, given by their devices and times, folded in any order by
`apply_app_keys_snapshot`, by `applyAppKeysSnapshot`, as rosters by `apply_roster_snapshot` or
from events by `select_latest_app_keys_from_events`, end with the same time and list the same
devices since the same times. -/
theorem appKeys_folds_agree (snapshots order : List (List (DeviceEntry K) × Nat))
    (hperm : order.Perm snapshots) :
    (foldAppKeysSnapshots (order.map fun s => (AppKeys.new s.1, s.2))).map
        (fun folded => (folded.createdAt, folded.appKeys.listed)) =
      latestListed (snapshots.map fun s => (s.2, (AppKeys.new s.1).listed)) ∧
    (TypeScript.foldAppKeysSnapshots (order.map fun s => (TypeScript.AppKeys.new s.1, s.2))).map
        (fun folded => (folded.createdAt, folded.appKeys.listed)) =
      latestListed (snapshots.map fun s => (s.2, (AppKeys.new s.1).listed)) ∧
    (foldRosterSnapshots (order.map fun s => SessionManager.eventRoster s.2
        (AppKeys.new s.1))).map (fun roster => (roster.createdAt, roster.listed)) =
      latestListed (snapshots.map fun s => (s.2, (AppKeys.new s.1).listed)) ∧
    ∀ events : List (Event K),
      (events.filterMap snapshotOfEvent).Perm
        (snapshots.map fun s => (AppKeys.new s.1, s.2)) →
      (selectLatestAppKeysFromEvents events).map
          (fun folded => (folded.createdAt, folded.appKeys.listed)) =
        latestListed (snapshots.map fun s => (s.2, (AppKeys.new s.1).listed)) := by
  have horder : latestListed (order.map fun s => (s.2, (AppKeys.new s.1).listed)) =
      latestListed (snapshots.map fun s => (s.2, (AppKeys.new s.1).listed)) :=
    foldl_latest_perm (hperm.map _) none
  refine ⟨?_, ?_, ?_, ?_⟩
  · rw [foldAppKeysSnapshots_listed, List.map_map]
    · exact horder
    · exact List.forall_mem_map.mpr fun s _ => AppKeys.keyed_new s.1
  · rw [TypeScript.foldAppKeysSnapshots_listed, List.map_map]
    · exact horder
    · exact List.forall_mem_map.mpr fun s _ => TypeScript.AppKeys.keyed_new s.1
  · rw [foldRosterSnapshots_listed, List.map_map, ← horder]
    · refine congrArg latestListed (List.map_congr_left fun s _ => ?_)
      exact Prod.ext rfl ((AppKeys.keyed_new s.1).listed_eventRoster s.2)
    · exact List.forall_mem_map.mpr fun s _ => DeviceRoster.normal_new _ _
  · intro events hevents
    rw [selectLatestAppKeysFromEvents_eq, foldAppKeysSnapshots_listed]
    · have hread : latestListed ((events.filterMap snapshotOfEvent).map fun s =>
            (s.2, s.1.listed)) =
          latestListed ((snapshots.map fun s => (AppKeys.new s.1, s.2)).map fun s =>
            (s.2, s.1.listed)) :=
        foldl_latest_perm (hevents.map _) none
      rw [List.map_map] at hread
      exact hread
    · intro snapshot hsnapshot
      obtain ⟨s, -, rfl⟩ := List.mem_map.mp (hevents.mem_iff.mp hsnapshot)
      exact AppKeys.keyed_new s.1

end

namespace Symbolic

/-- Two snapshots of the same second and an older one. -/
def exampleSnapshots : List (List (DeviceEntry KeyTerm) × Nat) :=
  [([⟨.secret 3, 1⟩], 9), ([⟨.secret 1, 5⟩, ⟨.secret 2, 9⟩], 10), ([⟨.secret 1, 7⟩], 10)]

theorem equal_time_snapshots_merge :
    ((foldRosterSnapshots (exampleSnapshots.reverse.map fun s => SessionManager.eventRoster s.2
        (AppKeys.new s.1))).map fun roster =>
          (roster.createdAt, roster.listed (.secret 1), roster.listed (.secret 3))) =
      some (10, some 5, none) := by
  have hagree := (appKeys_folds_agree exampleSnapshots exampleSnapshots.reverse
    (List.reverse_perm exampleSnapshots)).2.2.1
  have hmapped := congrArg (Option.map fun observed : Nat × Listed KeyTerm =>
    (observed.1, observed.2 (.secret 1), observed.2 (.secret 3))) hagree
  rw [Option.map_map] at hmapped
  refine hmapped.trans ?_
  decide +kernel

end Symbolic

end NostrDoubleRatchet
