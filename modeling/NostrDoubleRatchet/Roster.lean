import NostrDoubleRatchet.Primitives

/-!
Device rosters as in `roster.rs`, and how a manager combines an observed roster with
the one it holds.
-/

namespace NostrDoubleRatchet

inductive RosterSnapshotDecision where
  | advanced
  | stale
  | mergedEqualTimestamp
  deriving DecidableEq, Repr

structure AuthorizedDevice (K : Type) where
  devicePubkey : DevicePubkey K
  createdAt : UnixSeconds
  deriving DecidableEq, Repr

structure DeviceRoster (K : Type) where
  createdAt : UnixSeconds
  devices : List (AuthorizedDevice K)
  deriving DecidableEq, Repr

variable {K : Type} [LinearOrder K]

/-- `entry(..).and_modify(..).or_insert(..)`: of two entries for one device the older
one is kept. -/
def insertDevice (byPubkey : SortedMap (DevicePubkey K) (AuthorizedDevice K))
    (device : AuthorizedDevice K) : SortedMap (DevicePubkey K) (AuthorizedDevice K) :=
  match byPubkey.get? device.devicePubkey with
  | none => byPubkey.insert device.devicePubkey device
  | some existing =>
      if device.createdAt < existing.createdAt then byPubkey.insert device.devicePubkey device
      else byPubkey

def normalizeDevices (devices : List (AuthorizedDevice K)) : List (AuthorizedDevice K) :=
  (devices.foldl insertDevice SortedMap.empty).values

namespace DeviceRoster

def new (createdAt : UnixSeconds) (devices : List (AuthorizedDevice K)) : DeviceRoster K :=
  ⟨createdAt, normalizeDevices devices⟩

def getDevice (roster : DeviceRoster K) (device : DevicePubkey K) :
    Option (AuthorizedDevice K) :=
  roster.devices.find? (fun entry => entry.devicePubkey = device)

def merge (roster other : DeviceRoster K) : DeviceRoster K :=
  ⟨roster.createdAt, normalizeDevices (roster.devices ++ other.devices)⟩

/-- The roster names the device. -/
def Lists (roster : DeviceRoster K) (device : DevicePubkey K) : Prop :=
  ∃ entry ∈ roster.devices, entry.devicePubkey = device

theorem getDevice_isSome {roster : DeviceRoster K} {device : DevicePubkey K} :
    (roster.getDevice device).isSome = true ↔ roster.Lists device := by
  rw [getDevice, List.find?_isSome]
  simp only [decide_eq_true_eq]
  rfl

end DeviceRoster

def applyRosterSnapshot (currentRoster : Option (DeviceRoster K))
    (incomingRoster : DeviceRoster K) : RosterSnapshotDecision × DeviceRoster K :=
  match currentRoster with
  | none => (.advanced, incomingRoster)
  | some currentRoster =>
      if incomingRoster.createdAt > currentRoster.createdAt then (.advanced, incomingRoster)
      else if incomingRoster.createdAt < currentRoster.createdAt then (.stale, currentRoster)
      else (.mergedEqualTimestamp, currentRoster.merge incomingRoster)

/-- The earlier of two times, where 0 stands for an unknown one. -/
def mergeCreatedAt (current observed : UnixSeconds) : UnixSeconds :=
  if current = 0 then observed
  else if observed = 0 then current
  else min current observed

end NostrDoubleRatchet
