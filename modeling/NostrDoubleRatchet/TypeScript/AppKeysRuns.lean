import NostrDoubleRatchet.TypeScript.AppKeysActor

/-!
Which roster a user record shows, and which device records it has, over every run. One
`onAppKeys` in flight is followed from await to await: the loop over the records stands at a
number, everything before it is settled, and at most the record being removed is revoked. Other
tasks may add records of listed devices and of invites in between.
-/

namespace NostrDoubleRatchet.TypeScript

namespace UserRecordActor

/-- The records are numbered in the order of the map, and no device has two. -/
structure Ordered (actor : UserRecordActor) : Prop where
  uids : actor.devices.Pairwise (fun a b => a.uid < b.uid)
  below : ∀ record ∈ actor.devices, record.uid < actor.nextUid
  ids : (actor.devices.map DeviceRecordActor.deviceId).Nodup

namespace Ordered

variable {actor : UserRecordActor}

theorem eq_of_deviceId (h : actor.Ordered) {a b : DeviceRecordActor} (ha : a ∈ actor.devices)
    (hb : b ∈ actor.devices) (hid : a.deviceId = b.deviceId) : a = b :=
  List.inj_on_of_nodup_map h.ids ha hb hid

theorem eq_of_uid (h : actor.Ordered) {a b : DeviceRecordActor} (ha : a ∈ actor.devices)
    (hb : b ∈ actor.devices) (huid : a.uid = b.uid) : a = b := by
  have hnodup : (actor.devices.map DeviceRecordActor.uid).Nodup :=
    List.pairwise_map.mpr (h.uids.imp (fun hlt => ne_of_lt hlt))
  exact List.inj_on_of_nodup_map hnodup ha hb huid

/-- A change of records that leaves their numbers and devices. -/
theorem map (h : actor.Ordered) {f : DeviceRecordActor → DeviceRecordActor}
    (huid : ∀ record, (f record).uid = record.uid)
    (hid : ∀ record, (f record).deviceId = record.deviceId) :
    Ordered { actor with devices := actor.devices.map f } := by
  refine ⟨?_, ?_, ?_⟩
  · rw [List.pairwise_map]
    exact h.uids.imp (fun {a b} hlt => by rw [huid, huid]; exact hlt)
  · intro record hmem
    obtain ⟨old, hold, rfl⟩ := List.mem_map.mp hmem
    rw [huid]
    exact h.below old hold
  · have hsame : (actor.devices.map f).map DeviceRecordActor.deviceId =
        actor.devices.map DeviceRecordActor.deviceId := by
      rw [List.map_map]
      exact List.map_congr_left (fun record _ => hid record)
    change ((actor.devices.map f).map DeviceRecordActor.deviceId).Nodup
    rw [hsame]
    exact h.ids

theorem deleteDevice (h : actor.Ordered) (deviceId : String) :
    (actor.deleteDevice deviceId).Ordered := by
  refine ⟨h.uids.filter _, fun record hmem => h.below record (List.mem_filter.mp hmem).1, ?_⟩
  exact h.ids.sublist (List.filter_sublist.map _)

end Ordered

/-- What `ensureDevice` leaves as it is. -/
structure Grown (actor next : UserRecordActor) (ids : List String) : Prop where
  ordered : next.Ordered
  appKeys : next.appKeys = actor.appKeys
  latest : next.latestAppKeysCreatedAt = actor.latestAppKeysCreatedAt
  publicKey : next.publicKey = actor.publicKey
  ourOwnerPubkey : next.ourOwnerPubkey = actor.ourOwnerPubkey
  old : ∀ record ∈ actor.devices, record ∈ next.devices
  added : ∀ record ∈ next.devices, record ∈ actor.devices ∨
    record.deviceId ∈ ids ∧ record.revoked = false ∧ actor.nextUid ≤ record.uid
  nextUid : actor.nextUid ≤ next.nextUid

theorem Grown.refl {actor : UserRecordActor} (h : actor.Ordered) : Grown actor actor [] :=
  ⟨h, rfl, rfl, rfl, rfl, fun _ hmem => hmem, fun _ hmem => Or.inl hmem, le_refl _⟩

theorem grown_ensureDevice {actor : UserRecordActor} (h : actor.Ordered) (now : Nat)
    (deviceId : String) :
    Grown actor (ensureDevice now actor deviceId) [deviceId] ∧
      ∃ record ∈ (ensureDevice now actor deviceId).devices, record.deviceId = deviceId := by
  unfold ensureDevice
  split
  · rename_i hmem
    obtain ⟨record, hrecord, hid⟩ := List.mem_map.mp hmem
    exact ⟨⟨h, rfl, rfl, rfl, rfl, fun _ hold => hold, fun _ hold => Or.inl hold, le_refl _⟩,
      record, hrecord, hid⟩
  · rename_i hnew
    refine ⟨⟨⟨?_, ?_, ?_⟩, rfl, rfl, rfl, rfl, ?_, ?_, Nat.le_succ _⟩, ?_⟩
    · rw [List.pairwise_append]
      refine ⟨h.uids, List.pairwise_singleton _ _, ?_⟩
      intro a ha b hb
      rw [List.mem_singleton.mp hb]
      exact h.below a ha
    · intro record hmem
      rcases List.mem_append.mp hmem with hmem | hmem
      · exact Nat.lt_succ_of_lt (h.below record hmem)
      · rw [List.mem_singleton.mp hmem]
        exact Nat.lt_succ_self _
    · rw [List.map_append]
      refine h.ids.append (List.nodup_singleton _) ?_
      intro id hold hsingle
      rw [List.map_singleton, List.mem_singleton] at hsingle
      rw [hsingle] at hold
      exact hnew hold
    · intro record hmem
      exact List.mem_append_left _ hmem
    · intro record hmem
      rcases List.mem_append.mp hmem with hmem | hmem
      · exact Or.inl hmem
      · rw [List.mem_singleton.mp hmem]
        exact Or.inr ⟨List.mem_singleton_self _, rfl, le_refl _⟩
    · exact ⟨_, List.mem_append_right _ (List.mem_singleton_self _), rfl⟩

theorem Grown.trans {a b c : UserRecordActor} {ids more : List String} (hab : Grown a b ids)
    (hbc : Grown b c more) : Grown a c (ids ++ more) := by
  refine ⟨hbc.ordered, hbc.appKeys.trans hab.appKeys, hbc.latest.trans hab.latest,
    hbc.publicKey.trans hab.publicKey, hbc.ourOwnerPubkey.trans hab.ourOwnerPubkey,
    fun record hmem => hbc.old record (hab.old record hmem), ?_, hab.nextUid.trans hbc.nextUid⟩
  intro record hmem
  rcases hbc.added record hmem with hmem | ⟨hid, hrevoked, huid⟩
  · rcases hab.added record hmem with hmem | ⟨hid, hrevoked, huid⟩
    · exact Or.inl hmem
    · exact Or.inr ⟨List.mem_append_left _ hid, hrevoked, huid⟩
  · exact Or.inr ⟨List.mem_append_right _ hid, hrevoked, hab.nextUid.trans huid⟩

theorem grown_foldl_ensureDevice (now : Nat) (ids : List String) {actor : UserRecordActor}
    (h : actor.Ordered) :
    Grown actor (ids.foldl (ensureDevice now) actor) ids ∧
      ∀ deviceId ∈ ids, ∃ record ∈ (ids.foldl (ensureDevice now) actor).devices,
        record.deviceId = deviceId := by
  induction ids generalizing actor with
  | nil => exact ⟨.refl h, fun deviceId hmem => by cases hmem⟩
  | cons first rest ih =>
      obtain ⟨hfirst, record, hrecord, hid⟩ := grown_ensureDevice h now first
      obtain ⟨hrest, hpresent⟩ := ih hfirst.ordered
      refine ⟨hfirst.trans hrest, ?_⟩
      intro deviceId hmem
      rcases List.mem_cons.mp hmem with rfl | hmem
      · exact ⟨record, hrest.old record hrecord, hid⟩
      · exact hpresent deviceId hmem

/-- Where the loop stops, and what it has kept until there. -/
theorem scan_none {actor : UserRecordActor} {activeIds : List String} {createdAt now : Nat}
    {records : List DeviceRecordActor} {kept : List Nat}
    (h : actor.scan activeIds createdAt now records = (kept, none)) :
    ∀ record ∈ records, record.deviceId ∉ activeIds → record.uid ∈ kept := by
  induction records generalizing kept with
  | nil =>
      intro record hmem
      cases hmem
  | cons first rest ih =>
      intro record hmem hout
      rw [scan] at h
      split at h
      · rename_i hin
        rcases List.mem_cons.mp hmem with rfl | hmem
        · exact absurd hin hout
        · exact ih h record hmem hout
      split at h
      · generalize hscan : actor.scan activeIds createdAt now rest = result at h
        obtain ⟨later, found⟩ := result
        cases h
        rcases List.mem_cons.mp hmem with rfl | hmem
        · exact List.mem_cons_self
        · exact List.mem_cons_of_mem _ (ih hscan record hmem hout)
      · cases h

theorem scan_some {actor : UserRecordActor} {activeIds : List String} {createdAt now : Nat}
    {records : List DeviceRecordActor} {kept : List Nat} {found : DeviceRecordActor}
    (hsorted : records.Pairwise (fun a b => a.uid < b.uid))
    (h : actor.scan activeIds createdAt now records = (kept, some found)) :
    found ∈ records ∧ found.deviceId ∉ activeIds ∧
      ∀ record ∈ records, record.deviceId ∉ activeIds →
        record.uid ∈ kept ∨ found.uid ≤ record.uid := by
  induction records generalizing kept with
  | nil => cases h
  | cons first rest ih =>
      obtain ⟨hfirst, hrest⟩ := List.pairwise_cons.mp hsorted
      rw [scan] at h
      split at h
      · rename_i hin
        obtain ⟨hmem, hout, hcover⟩ := ih hrest h
        refine ⟨List.mem_cons_of_mem _ hmem, hout, ?_⟩
        intro record hrecord hnot
        rcases List.mem_cons.mp hrecord with rfl | hrecord
        · exact absurd hin hnot
        · exact hcover record hrecord hnot
      split at h
      · generalize hscan : actor.scan activeIds createdAt now rest = result at h
        obtain ⟨later, next⟩ := result
        cases h
        obtain ⟨hmem, hout, hcover⟩ := ih hrest hscan
        refine ⟨List.mem_cons_of_mem _ hmem, hout, ?_⟩
        intro record hrecord hnot
        rcases List.mem_cons.mp hrecord with rfl | hrecord
        · exact Or.inl List.mem_cons_self
        · rcases hcover record hrecord hnot with hkept | hle
          · exact Or.inl (List.mem_cons_of_mem _ hkept)
          · exact Or.inr hle
      · rename_i hout hrule
        cases h
        refine ⟨List.mem_cons_self, hout, ?_⟩
        intro record hrecord hnot
        rcases List.mem_cons.mp hrecord with rfl | hrecord
        · exact Or.inr (le_refl _)
        · exact Or.inr (le_of_lt (hfirst record hrecord))

/-- The rule keeps devices of the local owner only. -/
theorem scan_own {actor : UserRecordActor} {activeIds : List String} {createdAt now : Nat}
    {records : List DeviceRecordActor}
    (h : (actor.scan activeIds createdAt now records).1 ≠ []) :
    actor.publicKey = actor.ourOwnerPubkey := by
  induction records with
  | nil => exact absurd rfl h
  | cons first rest ih =>
      rw [scan] at h
      split at h
      · exact ih h
      split at h
      · rename_i hrule
        simp only [keepsOwnDevice, Bool.and_eq_true, decide_eq_true_eq] at hrule
        exact hrule.1.1
      · exact absurd rfl h

/-- The identity keys of the record's roster, none without a roster. -/
def activeIds (actor : UserRecordActor) : List String :=
  match actor.appKeys with
  | none => []
  | some appKeys => appKeys.activeIds

theorem mem_activeIds_of_target (actor : UserRecordActor) {deviceId : String}
    (h : deviceId ∈ actor.getTargetDeviceIds) : deviceId ∈ actor.activeIds := by
  unfold getTargetDeviceIds at h
  unfold activeIds
  cases hshown : actor.appKeys with
  | none =>
      rw [hshown] at h
      cases h
  | some appKeys =>
      rw [hshown] at h
      exact (List.mem_filter.mp h).1

end UserRecordActor


theorem AppKeys.new_values {appKeys : AppKeys String} (h : appKeys.Keyed) :
    AppKeys.new appKeys.devices.values = appKeys :=
  congrArg AppKeys.mk (LatestMerge.Keyed.foldl_insert_values h)

/-- The comparison keeps the newest of the snapshots. -/
theorem applyAppKeysSnapshotPreservingLabels_spec {current : Option (AppKeys String)}
    {currentCreatedAt : Nat} (hkeyed : ∀ appKeys, current = some appKeys → appKeys.Keyed)
    (hfresh : current = none → currentCreatedAt = 0) {incoming : AppKeys String}
    (hincoming : incoming.Keyed) (incomingCreatedAt : Nat) :
    let next := applyAppKeysSnapshotPreservingLabels current currentCreatedAt incoming
      incomingCreatedAt
    let newest := LatestMerge.latest Listed.merge
      (current.map fun appKeys => (currentCreatedAt, appKeys.listed))
      (incomingCreatedAt, incoming.listed)
    next.appKeys.Keyed ∧ currentCreatedAt ≤ next.createdAt ∧
      newest = some (next.createdAt, next.appKeys.listed) ∧
      (next.decision = .stale → newest = current.map fun appKeys =>
        (currentCreatedAt, appKeys.listed)) := by
  cases current with
  | none =>
      rw [hfresh rfl]
      exact ⟨hincoming, Nat.zero_le _, rfl, fun h => by cases h⟩
  | some appKeys =>
      have hcurrent := hkeyed appKeys rfl
      simp only [applyAppKeysSnapshotPreservingLabels, applyAppKeysSnapshot, Option.map_some]
      rcases lt_trichotomy incomingCreatedAt currentCreatedAt with hlt | heq | hgt
      · rw [if_neg (by omega), if_pos hlt, LatestMerge.latest_some_of_gt hlt]
        exact ⟨hcurrent, le_refl _, rfl, fun _ => rfl⟩
      · subst heq
        rw [if_neg (lt_irrefl _), if_neg (lt_irrefl _), LatestMerge.latest_some_self,
          ← AppKeys.listed_merge hcurrent hincoming]
        exact ⟨AppKeys.keyed_new _, le_refl _, rfl, fun h => by cases h⟩
      · rw [if_pos hgt, LatestMerge.latest_some_of_lt hgt]
        dsimp only
        rw [AppKeys.new_values hincoming]
        exact ⟨hincoming, le_of_lt hgt, rfl, fun h => by cases h⟩

namespace AppKeysWorld

/-- The record shows the newest of the snapshots handed in, joined where their times agree. -/
def ShowsNewest (world : AppKeysWorld) : Prop :=
  world.actor.appKeys.map (fun appKeys =>
      (world.actor.latestAppKeysCreatedAt, appKeys.listed)) =
    latestListed (world.offered.map fun snapshot => (snapshot.2, (AppKeys.new snapshot.1).listed))

/-- The devices of a roster have their records, and every other record was kept by the rule for
devices of the local owner. -/
structure Matches (world : AppKeysWorld) (appKeys : AppKeys String) : Prop where
  listed : ∀ deviceId ∈ appKeys.activeIds, ∃ record ∈ world.actor.devices,
    record.deviceId = deviceId ∧ record.revoked = false
  unlisted : ∀ record ∈ world.actor.devices, record.deviceId ∉ appKeys.activeIds →
    record.uid ∈ world.kept ∧ world.actor.publicKey = world.actor.ourOwnerPubkey

/-- No `onAppKeys` begins while another one is in flight, and a roster taken along or fetched by
`doAcceptInvite` is installed only where it is the roster of the record. -/
def Allowed (world : AppKeysWorld) : AppKeysAction → Prop
  | .offer devices createdAt _ =>
      (applyAppKeysSnapshotPreservingLabels world.actor.appKeys
        world.actor.latestAppKeysCreatedAt (AppKeys.new devices) createdAt).decision ≠ .stale →
          world.handlers = []
  | .fetched _ devices => world.actor.appKeys = some (AppKeys.new devices)
  | .applyPreloaded task _ => world.handlers = [] ∧ ∀ appKeys deviceId,
      world.invites[task]? = some (.preloaded appKeys deviceId) →
        world.actor.appKeys = some appKeys
  | _ => True

/-- Every step of the run is allowed where it is taken. -/
def AllowedRun : AppKeysWorld → List AppKeysAction → Prop
  | _, [] => True
  | world, action :: rest => world.Allowed action ∧ (world.step action).AllowedRun rest

/-- A record outside the roster is kept by the rule, or belongs to an invite that will apply its
roster at the end. -/
def Excused (world : AppKeysWorld) (record : DeviceRecordActor) : Prop :=
  record.uid ∈ world.kept ∨
    ∃ appKeys, InviteTask.preloaded appKeys record.deviceId ∈ world.invites

structure AtRest (world : AppKeysWorld) (activeIds : List String) : Prop where
  ready : ∀ record ∈ world.actor.devices, record.revoked = false
  present : ∀ deviceId ∈ activeIds, ∃ record ∈ world.actor.devices, record.deviceId = deviceId
  excused : ∀ record ∈ world.actor.devices, record.deviceId ∉ activeIds → world.Excused record

/-- The loop stands before the record number `first`; a revoked record has number `revoked`. -/
structure Scanning (world : AppKeysWorld) (activeIds : List String) (first : Nat)
    (revoked : Option Nat) : Prop where
  ready : ∀ record ∈ world.actor.devices, record.revoked = true → revoked = some record.uid
  ahead : ∀ record ∈ world.actor.devices, record.deviceId ∉ activeIds →
    record.uid ∈ world.kept ∨ first ≤ record.uid

def PointSound (world : AppKeysWorld) (activeIds : List String) : HandlerPoint → Prop
  | .migrating uid deviceId => world.Scanning activeIds uid none ∧
      deviceId ∉ activeIds ∧
      ∃ record ∈ world.actor.devices, record.uid = uid ∧ record.deviceId = deviceId
  | .revoking uid deviceId => world.Scanning activeIds uid (some uid) ∧
      deviceId ∉ activeIds ∧
      ∃ record ∈ world.actor.devices, record.uid = uid ∧ record.deviceId = deviceId
  | .expanding => world.AtRest activeIds
  | .settling => world.AtRest activeIds

/-- What holds of the records, given the task in flight. -/
def Working (world : AppKeysWorld) : Prop :=
  (world.handlers = [] ∧ world.AtRest world.actor.activeIds) ∨
    ∃ handler, world.handlers = [handler] ∧ handler.activeIds = world.actor.activeIds ∧
      world.PointSound world.actor.activeIds handler.point

structure Sound (world : AppKeysWorld) : Prop where
  shows : world.ShowsNewest
  keyed : ∀ appKeys, world.actor.appKeys = some appKeys → appKeys.Keyed
  fresh : world.actor.appKeys = none → world.actor.latestAppKeysCreatedAt = 0
  ordered : world.actor.Ordered
  own : world.kept ≠ [] → world.actor.publicKey = world.actor.ourOwnerPubkey
  working : world.Working

theorem sound_new (publicKey ourOwnerPubkey ourDeviceId : String) :
    (AppKeysWorld.new publicKey ourOwnerPubkey ourDeviceId).Sound where
  shows := rfl
  keyed := fun appKeys h => by cases h
  fresh := fun _ => rfl
  ordered := ⟨List.Pairwise.nil, fun _ hmem => absurd hmem List.not_mem_nil, List.nodup_nil⟩
  own := fun h => absurd rfl h
  working := Or.inl ⟨rfl, fun _ hmem => absurd hmem List.not_mem_nil,
    fun _ hmem => absurd hmem List.not_mem_nil, fun _ hmem => absurd hmem List.not_mem_nil⟩

/-- A step of another task: records stay, none becomes revoked, and a new one belongs to a listed
device or to an invite that holds its roster. -/
structure Continues (world next : AppKeysWorld) (activeIds : List String) : Prop where
  kept : next.kept = world.kept
  invites : ∀ appKeys deviceId, InviteTask.preloaded appKeys deviceId ∈ world.invites →
    InviteTask.preloaded appKeys deviceId ∈ next.invites
  old : ∀ record ∈ world.actor.devices, ∃ later ∈ next.actor.devices,
    later.uid = record.uid ∧ later.deviceId = record.deviceId
  records : ∀ later ∈ next.actor.devices,
    (∃ record ∈ world.actor.devices, later.uid = record.uid ∧ later.deviceId = record.deviceId ∧
      (later.revoked = true → record.revoked = true)) ∨
    later.revoked = false ∧ world.actor.nextUid ≤ later.uid ∧
      (later.deviceId ∈ activeIds ∨
        ∃ appKeys, InviteTask.preloaded appKeys later.deviceId ∈ next.invites)

namespace Continues

variable {world next : AppKeysWorld} {activeIds : List String}

theorem of_actor (hactor : next.actor = world.actor) (hkept : next.kept = world.kept)
    (hinvites : ∀ appKeys deviceId, InviteTask.preloaded appKeys deviceId ∈ world.invites →
      InviteTask.preloaded appKeys deviceId ∈ next.invites) : Continues world next activeIds := by
  refine ⟨hkept, hinvites, ?_, ?_⟩
  · intro record hmem
    rw [hactor]
    exact ⟨record, hmem, rfl, rfl⟩
  · intro later hmem
    rw [hactor] at hmem
    exact Or.inl ⟨later, hmem, rfl, rfl, id⟩

theorem excused (h : Continues world next activeIds) {record later : DeviceRecordActor}
    (huid : later.uid = record.uid) (hid : later.deviceId = record.deviceId)
    (hexcused : world.Excused record) : next.Excused later := by
  rcases hexcused with hkept | ⟨appKeys, hinvite⟩
  · left
    rw [h.kept, huid]
    exact hkept
  · right
    rw [hid]
    exact ⟨appKeys, h.invites _ _ hinvite⟩

theorem atRest (h : Continues world next activeIds) (hrest : world.AtRest activeIds) :
    next.AtRest activeIds := by
  refine ⟨?_, ?_, ?_⟩
  · intro later hmem
    rcases h.records later hmem with ⟨record, hrecord, -, -, hrevoked⟩ | ⟨hready, -, -⟩
    · by_contra hnot
      have hold := hrevoked (by simpa using hnot)
      rw [hrest.ready record hrecord] at hold
      cases hold
    · exact hready
  · intro deviceId hmem
    obtain ⟨record, hrecord, hid⟩ := hrest.present deviceId hmem
    obtain ⟨later, hlater, -, hsame⟩ := h.old record hrecord
    exact ⟨later, hlater, hsame.trans hid⟩
  · intro later hmem hnot
    rcases h.records later hmem with ⟨record, hrecord, huid, hid, -⟩ | ⟨-, -, hnew⟩
    · rw [hid] at hnot
      exact h.excused huid hid (hrest.excused record hrecord hnot)
    · rcases hnew with hlisted | hinvite
      · exact absurd hlisted hnot
      · exact Or.inr hinvite

theorem scanning (h : Continues world next activeIds) {first : Nat} {revoked : Option Nat}
    (hscanning : world.Scanning activeIds first revoked) (hfirst : first ≤ world.actor.nextUid) :
    next.Scanning activeIds first revoked := by
  refine ⟨?_, ?_⟩
  · intro later hmem hlater
    rcases h.records later hmem with ⟨record, hrecord, huid, -, hrevoked⟩ | ⟨hready, -, -⟩
    · rw [huid]
      exact hscanning.ready record hrecord (hrevoked hlater)
    · rw [hready] at hlater
      cases hlater
  · intro later hmem hnot
    rcases h.records later hmem with ⟨record, hrecord, huid, hid, -⟩ | ⟨-, hnew, -⟩
    · rw [h.kept, huid]
      rw [hid] at hnot
      exact hscanning.ahead record hrecord hnot
    · exact Or.inr (hfirst.trans hnew)

theorem pointSound (h : Continues world next activeIds) (hordered : world.actor.Ordered)
    {point : HandlerPoint} (hpoint : world.PointSound activeIds point) :
    next.PointSound activeIds point := by
  have hfound : ∀ {uid : Nat} {deviceId : String},
      (∃ record ∈ world.actor.devices, record.uid = uid ∧ record.deviceId = deviceId) →
      uid ≤ world.actor.nextUid ∧
        ∃ later ∈ next.actor.devices, later.uid = uid ∧ later.deviceId = deviceId := by
    rintro uid deviceId ⟨record, hrecord, rfl, rfl⟩
    exact ⟨le_of_lt (hordered.below record hrecord), h.old record hrecord⟩
  cases point with
  | migrating uid deviceId =>
      obtain ⟨hscanning, hout, hrecord⟩ := hpoint
      obtain ⟨hle, hlater⟩ := hfound hrecord
      exact ⟨h.scanning hscanning hle, hout, hlater⟩
  | revoking uid deviceId =>
      obtain ⟨hscanning, hout, hrecord⟩ := hpoint
      obtain ⟨hle, hlater⟩ := hfound hrecord
      exact ⟨h.scanning hscanning hle, hout, hlater⟩
  | expanding => exact h.atRest hpoint
  | settling => exact h.atRest hpoint

theorem working (h : Continues world next world.actor.activeIds)
    (hordered : world.actor.Ordered) (hworking : world.Working)
    (happKeys : next.actor.appKeys = world.actor.appKeys)
    (hhandlers : next.handlers = world.handlers) : next.Working := by
  have hids : next.actor.activeIds = world.actor.activeIds := by
    unfold UserRecordActor.activeIds
    rw [happKeys]
  unfold Working
  rw [hhandlers, hids]
  rcases hworking with ⟨hidle, hrest⟩ | ⟨handler, hone, hsame, hpoint⟩
  · exact Or.inl ⟨hidle, h.atRest hrest⟩
  · exact Or.inr ⟨handler, hone, hsame, h.pointSound hordered hpoint⟩

/-- Such a step of another task keeps what holds of the record. -/
theorem sound (hsound : world.Sound) (hordered : next.actor.Ordered)
    (happKeys : next.actor.appKeys = world.actor.appKeys)
    (hlatest : next.actor.latestAppKeysCreatedAt = world.actor.latestAppKeysCreatedAt)
    (hpublicKey : next.actor.publicKey = world.actor.publicKey)
    (hours : next.actor.ourOwnerPubkey = world.actor.ourOwnerPubkey)
    (hhandlers : next.handlers = world.handlers) (hoffered : next.offered = world.offered)
    (h : Continues world next world.actor.activeIds) : next.Sound := by
  refine ⟨?_, ?_, ?_, hordered, ?_, h.working hsound.ordered hsound.working happKeys hhandlers⟩
  · have hshows := hsound.shows
    unfold ShowsNewest at hshows ⊢
    rw [happKeys, hlatest, hoffered]
    exact hshows
  · rw [happKeys]
    exact hsound.keyed
  · rw [happKeys, hlatest]
    exact hsound.fresh
  · rw [h.kept, hpublicKey, hours]
    exact hsound.own

end Continues

theorem handlers_loop (world : AppKeysWorld) (activeIds : List String)
    (createdAt first now : Nat) :
    (world.loop activeIds createdAt first now).1.handlers = world.handlers := by
  unfold loop
  generalize world.actor.scan activeIds createdAt now _ = result
  obtain ⟨kept, found⟩ := result
  cases found <;> rfl

/-- The loop leaves the records as its next await needs them. -/
theorem pointSound_loop {world : AppKeysWorld} (hordered : world.actor.Ordered)
    {activeIds : List String} {first : Nat} (h : world.Scanning activeIds first none)
    (createdAt now : Nat) :
    (world.loop activeIds createdAt first now).1.PointSound activeIds
        (world.loop activeIds createdAt first now).2 ∧
      UserRecordActor.Grown world.actor (world.loop activeIds createdAt first now).1.actor
        activeIds ∧
      (world.loop activeIds createdAt first now).1.offered = world.offered ∧
      ((world.loop activeIds createdAt first now).1.kept ≠ world.kept →
        world.actor.publicKey = world.actor.ourOwnerPubkey) := by
  have hready : ∀ record ∈ world.actor.devices, record.revoked = false := by
    intro record hmem
    by_contra hrevoked
    cases h.ready record hmem (by simpa using hrevoked)
  have hown : (world.actor.scan activeIds createdAt now (world.actor.devices.filter
      (fun record => first ≤ record.uid))).1 ≠ [] →
        world.actor.publicKey = world.actor.ourOwnerPubkey := UserRecordActor.scan_own
  unfold loop
  generalize hscan : world.actor.scan activeIds createdAt now (world.actor.devices.filter
    (fun record => first ≤ record.uid)) = result at hown
  obtain ⟨kept, found⟩ := result
  have hkept : world.kept ++ kept ≠ world.kept →
      world.actor.publicKey = world.actor.ourOwnerPubkey := by
    intro hne
    apply hown
    rintro rfl
    exact hne (List.append_nil _)
  cases found with
  | some record =>
      have hsorted : (world.actor.devices.filter (fun record => first ≤ record.uid)).Pairwise
        (fun a b => a.uid < b.uid) := hordered.uids.filter _
      obtain ⟨hmem, hout, hcover⟩ := UserRecordActor.scan_some hsorted hscan
      have hin := (List.mem_filter.mp hmem).1
      refine ⟨⟨⟨?_, ?_⟩, hout, record, hin, rfl, rfl⟩, ?_, rfl, hkept⟩
      · intro other hother hrevoked
        rw [hready other hother] at hrevoked
        cases hrevoked
      · intro other hother hnot
        rcases h.ahead other hother hnot with hold | hle
        · exact Or.inl (List.mem_append_left _ hold)
        · rcases hcover other (List.mem_filter.mpr ⟨hother, by simpa using hle⟩) hnot with
            hnew | hlater
          · exact Or.inl (List.mem_append_right _ hnew)
          · exact Or.inr hlater
      · exact ⟨hordered, rfl, rfl, rfl, rfl, fun _ hold => hold, fun _ hold => Or.inl hold,
          le_refl _⟩
  | none =>
      obtain ⟨hgrown, hpresent⟩ :=
        UserRecordActor.grown_foldl_ensureDevice now activeIds hordered
      refine ⟨⟨?_, hpresent, ?_⟩, hgrown, rfl, hkept⟩
      · intro record hmem
        rcases hgrown.added record hmem with hold | ⟨-, hrevoked, -⟩
        · exact hready record hold
        · exact hrevoked
      · intro record hmem hnot
        rcases hgrown.added record hmem with hold | ⟨hid, -, -⟩
        · rcases h.ahead record hold hnot with hkeptOld | hle
          · exact Or.inl (List.mem_append_left _ hkeptOld)
          · have hfiltered : record ∈ world.actor.devices.filter
                (fun record => first ≤ record.uid) :=
              List.mem_filter.mpr ⟨hold, by simpa using hle⟩
            exact Or.inl (List.mem_append_right _
              (UserRecordActor.scan_none hscan record hfiltered hnot))
        · exact absurd hid hnot

/-- The loop of a task that is the only one in flight. -/
theorem sound_loop {world : AppKeysWorld} (hshows : world.ShowsNewest)
    (hkeyed : ∀ appKeys, world.actor.appKeys = some appKeys → appKeys.Keyed)
    (hfresh : world.actor.appKeys = none → world.actor.latestAppKeysCreatedAt = 0)
    (hordered : world.actor.Ordered)
    (hown : world.kept ≠ [] → world.actor.publicKey = world.actor.ourOwnerPubkey) {first : Nat}
    (h : world.Scanning world.actor.activeIds first none) (createdAt loopCreatedAt now : Nat) :
    Sound { (world.loop world.actor.activeIds loopCreatedAt first now).1 with
      handlers := [⟨world.actor.activeIds, createdAt,
        (world.loop world.actor.activeIds loopCreatedAt first now).2⟩] } := by
  obtain ⟨hpoint, hgrown, hoffered, hrule⟩ := pointSound_loop hordered h loopCreatedAt now
  generalize world.loop world.actor.activeIds loopCreatedAt first now = result at *
  obtain ⟨next, point⟩ := result
  dsimp only at *
  have hids : next.actor.activeIds = world.actor.activeIds := by
    unfold UserRecordActor.activeIds
    rw [hgrown.appKeys]
  refine ⟨?_, ?_, ?_, hgrown.ordered, ?_, Or.inr ⟨_, rfl, hids.symm, ?_⟩⟩
  · unfold ShowsNewest at hshows ⊢
    dsimp only
    rw [hgrown.appKeys, hgrown.latest, hoffered]
    exact hshows
  · dsimp only
    rw [hgrown.appKeys]
    exact hkeyed
  · dsimp only
    rw [hgrown.appKeys, hgrown.latest]
    exact hfresh
  · dsimp only
    rw [hgrown.publicKey, hgrown.ourOwnerPubkey]
    intro hkept
    by_cases hsame : next.kept = world.kept
    · rw [hsame] at hkept
      exact hown hkept
    · exact hrule hsame
  · have hsame : Continues next { next with handlers :=
        [⟨world.actor.activeIds, createdAt, point⟩] } world.actor.activeIds :=
      .of_actor rfl rfl (fun _ _ hmem => hmem)
    dsimp only
    rw [hids]
    exact hsame.pointSound hgrown.ordered hpoint

/-- `onAppKeys` on a record at rest. -/
theorem sound_onAppKeys {world : AppKeysWorld} (hordered : world.actor.Ordered)
    (hready : ∀ record ∈ world.actor.devices, record.revoked = false)
    (hidle : world.handlers = []) {appKeys : AppKeys String} (hkeyed : appKeys.Keyed)
    {createdAt : Nat} (hshows : some (max world.actor.latestAppKeysCreatedAt createdAt,
      appKeys.listed) = latestListed (world.offered.map fun snapshot =>
        (snapshot.2, (AppKeys.new snapshot.1).listed))) (now : Nat) :
    (world.onAppKeys appKeys createdAt now).Sound := by
  generalize hstart : ({ world with
      actor := { world.actor with
        appKeys := some appKeys
        latestAppKeysCreatedAt := max world.actor.latestAppKeysCreatedAt createdAt }
      kept := [] } : AppKeysWorld) = start
  have hloop : Sound { (start.loop start.actor.activeIds createdAt 0 now).1 with
      handlers := [⟨start.actor.activeIds, createdAt,
        (start.loop start.actor.activeIds createdAt 0 now).2⟩] } := by
    apply sound_loop
    · subst hstart
      exact hshows
    · subst hstart
      rintro _ ⟨⟩
      exact hkeyed
    · subst hstart
      intro hnone
      cases hnone
    · subst hstart
      exact ⟨hordered.uids, hordered.below, hordered.ids⟩
    · subst hstart
      intro hkept
      exact absurd rfl hkept
    · subst hstart
      refine ⟨?_, fun record _ _ => Or.inr (Nat.zero_le _)⟩
      intro record hmem hrevoked
      rw [hready record hmem] at hrevoked
      cases hrevoked
  have hactive : start.actor.activeIds = appKeys.activeIds := by
    subst hstart
    rfl
  have hhandlers : (start.loop appKeys.activeIds createdAt 0 now).1.handlers = [] := by
    rw [handlers_loop]
    subst hstart
    exact hidle
  unfold onAppKeys
  rw [hstart]
  dsimp only
  rw [hhandlers, List.nil_append]
  rw [hactive] at hloop
  exact hloop

/-- A change of records that leaves their numbers and devices and revokes none. -/
theorem sound_map {world : AppKeysWorld} (hsound : world.Sound)
    {f : DeviceRecordActor → DeviceRecordActor} (huid : ∀ record, (f record).uid = record.uid)
    (hid : ∀ record, (f record).deviceId = record.deviceId)
    (hrevoked : ∀ record, (f record).revoked = true → record.revoked = true) :
    { world with actor := { world.actor with devices := world.actor.devices.map f } }.Sound := by
  refine Continues.sound hsound (hsound.ordered.map huid hid) rfl rfl rfl rfl rfl rfl ?_
  refine ⟨rfl, fun _ _ hmem => hmem, ?_, ?_⟩
  · intro record hmem
    exact ⟨_, List.mem_map_of_mem hmem, huid record, hid record⟩
  · intro later hmem
    obtain ⟨record, hrecord, rfl⟩ := List.mem_map.mp hmem
    exact Or.inl ⟨record, hrecord, huid record, hid record, hrevoked record⟩

theorem sound_session {world : AppKeysWorld} (hsound : world.Sound) (uid : Nat) (active : Bool) :
    { world with actor := world.actor.changeSession uid active }.Sound := by
  apply sound_map hsound
  · intro record
    split <;> rfl
  · intro record
    split <;> rfl
  · intro record hlater
    split at hlater <;> exact hlater

theorem sound_installSession {world : AppKeysWorld} (hsound : world.Sound) (deviceId : String) :
    { world with actor := world.actor.installSession deviceId }.Sound := by
  apply sound_map hsound
  · intro record
    split <;> rfl
  · intro record
    split <;> rfl
  · intro record hlater
    split at hlater
    · cases hlater
    · exact hlater

/-- New records of listed devices, or of an invite that holds its roster. -/
theorem continues_grown {world next : AppKeysWorld} {activeIds ids : List String}
    (hgrown : UserRecordActor.Grown world.actor next.actor ids) (hkept : next.kept = world.kept)
    (hinvites : next.invites = world.invites)
    (hids : ∀ deviceId ∈ ids, deviceId ∈ activeIds ∨
      ∃ appKeys, InviteTask.preloaded appKeys deviceId ∈ world.invites) :
    Continues world next activeIds := by
  refine ⟨hkept, ?_, ?_, ?_⟩
  · intro appKeys deviceId hmem
    rw [hinvites]
    exact hmem
  · intro record hmem
    exact ⟨record, hgrown.old record hmem, rfl, rfl⟩
  · intro later hmem
    rcases hgrown.added later hmem with hold | ⟨hid, hrevoked, huid⟩
    · exact Or.inl ⟨later, hold, rfl, rfl, id⟩
    · rw [hinvites]
      exact Or.inr ⟨hrevoked, huid, hids _ hid⟩

theorem sound_ensureSetup {world : AppKeysWorld} (hsound : world.Sound) (now : Nat) :
    (world.ensureSetup now).Sound := by
  obtain ⟨hgrown, -⟩ := UserRecordActor.grown_foldl_ensureDevice now
    world.actor.getTargetDeviceIds hsound.ordered
  refine Continues.sound hsound hgrown.ordered hgrown.appKeys hgrown.latest hgrown.publicKey
    hgrown.ourOwnerPubkey rfl rfl ?_
  refine continues_grown hgrown rfl rfl ?_
  intro deviceId hmem
  exact Or.inl (world.actor.mem_activeIds_of_target hmem)

theorem sound_accept {world : AppKeysWorld} (hsound : world.Sound) (deviceId : String) :
    (world.accept deviceId).Sound := by
  unfold accept
  split
  · refine Continues.sound hsound hsound.ordered rfl rfl rfl rfl rfl rfl ?_
    exact .of_actor rfl rfl (fun _ _ hmem => List.mem_append_left _ hmem)
  · rename_i appKeys hshown
    split
    · have hsame : world.actor.setAppKeys appKeys = world.actor := by
        rw [UserRecordActor.setAppKeys, ← hshown]
      rw [hsame]
      refine Continues.sound hsound hsound.ordered rfl rfl rfl rfl rfl rfl ?_
      exact .of_actor rfl rfl (fun _ _ hmem => List.mem_append_left _ hmem)
    · exact hsound

theorem sound_fetched {world : AppKeysWorld} (hsound : world.Sound) (task : Nat)
    (devices : List (DeviceEntry String)) (h : world.actor.appKeys = some (AppKeys.new devices)) :
    (world.fetched task devices).Sound := by
  unfold fetched
  split
  · rename_i deviceId htask
    have hother : ∀ appKeys other, InviteTask.preloaded appKeys other ∈ world.invites →
        ∃ index, index ≠ task ∧ world.invites[index]? = some (.preloaded appKeys other) := by
      intro appKeys other hmem
      obtain ⟨index, hindex⟩ := List.mem_iff_getElem?.mp hmem
      refine ⟨index, ?_, hindex⟩
      rintro rfl
      rw [htask] at hindex
      cases hindex
    split
    · have hsame : world.actor.setAppKeys (AppKeys.new devices) = world.actor := by
        rw [UserRecordActor.setAppKeys, ← h]
      rw [hsame]
      refine Continues.sound hsound hsound.ordered rfl rfl rfl rfl rfl rfl ?_
      refine .of_actor rfl rfl ?_
      intro appKeys other hmem
      obtain ⟨index, hne, hindex⟩ := hother appKeys other hmem
      refine List.mem_iff_getElem?.mpr ⟨index, ?_⟩
      rw [List.getElem?_set_ne (Ne.symm hne)]
      exact hindex
    · refine Continues.sound hsound hsound.ordered rfl rfl rfl rfl rfl rfl ?_
      refine .of_actor rfl rfl ?_
      intro appKeys other hmem
      obtain ⟨index, hne, hindex⟩ := hother appKeys other hmem
      exact List.mem_eraseIdx_iff_getElem?.mpr ⟨index, hne, hindex⟩
  · exact hsound

theorem sound_connect {world : AppKeysWorld} (hsound : world.Sound) (task now : Nat) :
    (world.connect task now).Sound := by
  unfold connect
  split
  · rename_i appKeys deviceId htask
    obtain ⟨hgrown, -⟩ := UserRecordActor.grown_ensureDevice hsound.ordered now deviceId
    generalize UserRecordActor.ensureDevice now world.actor deviceId = made at hgrown
    have hmade : { world with actor := made }.Sound := by
      refine Continues.sound hsound hgrown.ordered hgrown.appKeys hgrown.latest hgrown.publicKey
        hgrown.ourOwnerPubkey rfl rfl ?_
      refine continues_grown hgrown rfl rfl ?_
      intro other hmem
      rw [List.mem_singleton.mp hmem]
      exact Or.inr ⟨appKeys, List.mem_of_getElem? htask⟩
    exact sound_installSession hmade deviceId
  · exact hsound

/-- A record at rest has no revoked device. -/
theorem Sound.ready (hsound : Sound world) (hidle : world.handlers = []) :
    ∀ record ∈ world.actor.devices, record.revoked = false := by
  rcases hsound.working with ⟨-, hrest⟩ | ⟨handler, hone, -⟩
  · exact hrest.ready
  · rw [hidle] at hone
    cases hone

theorem sound_offer {world : AppKeysWorld} (hsound : world.Sound)
    (devices : List (DeviceEntry String)) (createdAt now : Nat)
    (h : world.Allowed (.offer devices createdAt now)) :
    (world.offer devices createdAt now).Sound := by
  have hspec := applyAppKeysSnapshotPreservingLabels_spec hsound.keyed hsound.fresh
    (AppKeys.keyed_new devices) createdAt
  dsimp only [Allowed] at h
  unfold offer
  dsimp only at hspec ⊢
  generalize applyAppKeysSnapshotPreservingLabels world.actor.appKeys
    world.actor.latestAppKeysCreatedAt (AppKeys.new devices) createdAt = next at h hspec
  obtain ⟨hkeyed, hle, hnewest, hstale⟩ := hspec
  have hshows : latestListed ((world.offered ++ [(devices, createdAt)]).map fun snapshot =>
      (snapshot.2, (AppKeys.new snapshot.1).listed)) =
        some (next.createdAt, next.appKeys.listed) := by
    rw [← hnewest, hsound.shows, latestListed, latestListed, List.map_append, List.foldl_append]
    rfl
  have hnew : next.decision ≠ .stale → Sound (onAppKeys { world with
      offered := world.offered ++ [(devices, createdAt)] } next.appKeys next.createdAt now) := by
    intro hdecision
    have hidle := h hdecision
    apply sound_onAppKeys
    · exact hsound.ordered
    · exact hsound.ready hidle
    · exact hidle
    · exact hkeyed
    · rw [hshows, max_eq_right hle]
  split
  · rename_i hdecision
    have hsame : world.actor.appKeys.map (fun appKeys =>
        (world.actor.latestAppKeysCreatedAt, appKeys.listed)) =
          some (next.createdAt, next.appKeys.listed) :=
      (hstale hdecision).symm.trans hnewest
    have hsilent : Continues world { world with offered := world.offered ++ [(devices, createdAt)] }
        world.actor.activeIds := .of_actor rfl rfl (fun _ _ hmem => hmem)
    exact ⟨hsame.trans hshows.symm, hsound.keyed, hsound.fresh, hsound.ordered, hsound.own,
      hsilent.working hsound.ordered hsound.working rfl rfl⟩
  · rename_i hdecision
    exact hnew hdecision

theorem sound_applyPreloaded {world : AppKeysWorld} (hsound : world.Sound) (task now : Nat)
    (h : world.Allowed (.applyPreloaded task now)) : (world.applyPreloaded task now).Sound := by
  obtain ⟨hidle, hcurrent⟩ := h
  unfold applyPreloaded
  split
  · rename_i appKeys deviceId htask
    have hshown := hcurrent appKeys deviceId htask
    have hshows := hsound.shows
    unfold ShowsNewest at hshows
    rw [hshown] at hshows
    apply sound_onAppKeys
    · exact hsound.ordered
    · exact hsound.ready hidle
    · exact hidle
    · exact hsound.keyed appKeys hshown
    · rw [max_eq_left (Nat.zero_le _)]
      exact hshows
  · exact hsound

/-- The record that is being removed becomes revoked. -/
theorem scanning_revoke {world : AppKeysWorld} {activeIds : List String} {uid : Nat}
    (h : world.Scanning activeIds uid none) {handlers : List AppKeysHandler} :
    Scanning { world with actor := world.actor.revoke uid, handlers := handlers } activeIds uid
      (some uid) := by
  refine ⟨?_, ?_⟩
  · intro later hmem hrevoked
    obtain ⟨record, hrecord, rfl⟩ := List.mem_map.mp hmem
    split at hrevoked
    · rename_i huid
      rw [if_pos huid]
      exact congrArg some huid.symm
    · cases h.ready record hrecord hrevoked
  · intro later hmem hnot
    obtain ⟨record, hrecord, rfl⟩ := List.mem_map.mp hmem
    split at hnot
    · rename_i huid
      rw [if_pos huid]
      exact h.ahead record hrecord hnot
    · rename_i huid
      rw [if_neg huid]
      exact h.ahead record hrecord hnot

/-- Behind the removed record no revoked one is left. -/
theorem scanning_deleteDevice {world : AppKeysWorld} {activeIds : List String} {uid : Nat}
    {deviceId : String} (hordered : world.actor.Ordered)
    (h : world.Scanning activeIds uid (some uid))
    (hrecord : ∃ record ∈ world.actor.devices, record.uid = uid ∧ record.deviceId = deviceId) :
    Scanning { world with actor := world.actor.deleteDevice deviceId } activeIds (uid + 1)
      none := by
  obtain ⟨record, hrecord, rfl, rfl⟩ := hrecord
  have hother : ∀ later ∈ (world.actor.deleteDevice record.deviceId).devices,
      later ∈ world.actor.devices ∧ later.uid ≠ record.uid := by
    intro later hmem
    obtain ⟨hold, hid⟩ := List.mem_filter.mp hmem
    refine ⟨hold, ?_⟩
    intro huid
    rw [hordered.eq_of_uid hold hrecord huid] at hid
    simp at hid
  refine ⟨?_, ?_⟩
  · intro later hmem hrevoked
    obtain ⟨hold, huid⟩ := hother later hmem
    have hsame := h.ready later hold hrevoked
    exact absurd (Option.some.inj hsame).symm huid
  · intro later hmem hnot
    obtain ⟨hold, huid⟩ := hother later hmem
    rcases h.ahead later hold hnot with hkept | hle
    · exact Or.inl hkept
    · exact Or.inr (Nat.lt_of_le_of_ne hle (Ne.symm huid))

theorem ordered_revoke {actor : UserRecordActor} (h : actor.Ordered) (uid : Nat) :
    (actor.revoke uid).Ordered := by
  apply h.map
  · intro record
    split <;> rfl
  · intro record
    split <;> rfl

theorem sound_resume {world : AppKeysWorld} (hsound : world.Sound) (index now : Nat) :
    (world.resume index now).Sound := by
  unfold resume
  split
  · exact hsound
  rename_i handler hindex
  rcases hsound.working with ⟨hidle, -⟩ | ⟨only, hone, hids, hpoint⟩
  · rw [hidle] at hindex
    cases hindex
  obtain ⟨rfl, rfl⟩ : index = 0 ∧ only = handler := by
    rw [hone] at hindex
    cases index with
    | zero => exact ⟨rfl, Option.some.inj hindex⟩
    | succ n => cases hindex
  rw [hone]
  obtain ⟨ids, createdAt, point⟩ := only
  dsimp only at hids hpoint ⊢
  subst hids
  cases point with
  | migrating uid deviceId =>
      obtain ⟨hscanning, hout, record, hrecord, huid, hid⟩ := hpoint
      refine ⟨hsound.shows, hsound.keyed, hsound.fresh, ordered_revoke hsound.ordered uid,
        hsound.own, Or.inr ⟨_, rfl, rfl, scanning_revoke hscanning, hout, _,
          List.mem_map_of_mem hrecord, ?_, ?_⟩⟩
      · rw [if_pos huid]
        exact huid
      · rw [if_pos huid]
        exact hid
  | revoking uid deviceId =>
      obtain ⟨hscanning, hout, hrecord⟩ := hpoint
      have hnext := scanning_deleteDevice hsound.ordered hscanning hrecord
      have hloop := @sound_loop { world with actor := world.actor.deleteDevice deviceId }
        hsound.shows hsound.keyed hsound.fresh (hsound.ordered.deleteDevice deviceId) hsound.own _
        hnext createdAt createdAt now
      rw [hone] at hloop
      dsimp only
      rw [handlers_loop]
      exact hloop
  | expanding =>
      exact ⟨hsound.shows, hsound.keyed, hsound.fresh, hsound.ordered, hsound.own,
        Or.inr ⟨_, rfl, rfl, hpoint.ready, hpoint.present, hpoint.excused⟩⟩
  | settling =>
      exact ⟨hsound.shows, hsound.keyed, hsound.fresh, hsound.ordered, hsound.own,
        Or.inl ⟨rfl, hpoint.ready, hpoint.present, hpoint.excused⟩⟩

/-- An allowed step keeps what holds of the record. -/
theorem sound_step {world : AppKeysWorld} (hsound : world.Sound) (action : AppKeysAction)
    (h : world.Allowed action) : (world.step action).Sound := by
  cases action with
  | offer devices createdAt now => exact sound_offer hsound devices createdAt now h
  | accept deviceId => exact sound_accept hsound deviceId
  | fetched task devices => exact sound_fetched hsound task devices h
  | connect task now => exact sound_connect hsound task now
  | applyPreloaded task now => exact sound_applyPreloaded hsound task now h
  | ensureSetup now => exact sound_ensureSetup hsound now
  | session uid active => exact sound_session hsound uid active
  | resume handler now => exact sound_resume hsound handler now

theorem sound_run {world : AppKeysWorld} (hsound : world.Sound) (actions : List AppKeysAction)
    (h : world.AllowedRun actions) : (world.run actions).Sound := by
  induction actions generalizing world with
  | nil => exact hsound
  | cons action rest ih =>
      obtain ⟨hfirst, hrest⟩ := h
      exact ih (sound_step hsound action hfirst) hrest

/-- With every task finished the records are those of the roster. -/
theorem Sound.records {world : AppKeysWorld} (hsound : world.Sound) (hidle : world.handlers = [])
    (hinvites : world.invites = []) {appKeys : AppKeys String}
    (hshown : world.actor.appKeys = some appKeys) : world.Matches appKeys := by
  have hids : world.actor.activeIds = appKeys.activeIds := by
    unfold UserRecordActor.activeIds
    rw [hshown]
  rcases hsound.working with ⟨-, hrest⟩ | ⟨handler, hone, -⟩
  · rw [hids] at hrest
    refine ⟨?_, ?_⟩
    · intro deviceId hmem
      obtain ⟨record, hrecord, hid⟩ := hrest.present deviceId hmem
      exact ⟨record, hrecord, hid, hrest.ready record hrecord⟩
    · intro record hmem hnot
      rcases hrest.excused record hmem hnot with hkept | ⟨_, hinvite⟩
      · exact ⟨hkept, hsound.own (List.ne_nil_of_mem hkept)⟩
      · rw [hinvites] at hinvite
        cases hinvite
  · rw [hidle] at hone
    cases hone

/-- An invite accepted under the first roster installs it again over the second one. -/
def preloadedRun : AppKeysWorld :=
  (AppKeysWorld.new "o" "me" "m").run [.offer [⟨"a", 0⟩] 1 0, .resume 0 0, .resume 0 0,
    .accept "a", .offer [⟨"b", 0⟩] 2 0, .resume 0 0, .resume 0 0, .resume 0 0, .resume 0 0,
    .applyPreloaded 0 0, .resume 0 0, .resume 0 0, .resume 0 0, .resume 0 0]

/-- The second roster drops `a` and is still at work when the third lists it again. -/
def overlappingRun : AppKeysWorld :=
  (AppKeysWorld.new "o" "me" "m").run [.offer [⟨"a", 0⟩] 1 0, .resume 0 0, .resume 0 0,
    .offer [⟨"b", 0⟩] 2 0, .offer [⟨"a", 0⟩, ⟨"b", 0⟩] 3 0, .resume 1 0, .resume 1 0,
    .resume 0 0, .resume 0 0, .resume 0 0, .resume 0 0]

end AppKeysWorld

end NostrDoubleRatchet.TypeScript
