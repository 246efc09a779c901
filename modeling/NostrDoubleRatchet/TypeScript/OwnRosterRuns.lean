import NostrDoubleRatchet.TypeScript.OwnRoster

/-!
What the runs of the owner's runtime keep: which roster a publication is built from, and that an
older event never takes the roster back.
-/

namespace NostrDoubleRatchet.TypeScript

def RosterChange.target : RosterChange → String
  | .register identityPubkey => identityPubkey
  | .revoke identityPubkey => identityPubkey

/-- The device set that a change is to make of a roster. -/
def RosterChange.lists (change : RosterChange) (roster : AppKeys String) (device : String) : Bool :=
  match change with
  | .register identityPubkey => roster.lists device || device = identityPubkey
  | .revoke identityPubkey => roster.lists device && device ≠ identityPubkey

theorem RosterChange.lists_of_sameApart {change : RosterChange} {seen roster : AppKeys String}
    (h : AppKeys.SameApart change.target seen roster) (device : String) :
    change.lists seen device = change.lists roster device := by
  cases change with
  | register identityPubkey =>
      by_cases hdevice : device = identityPubkey
      · simp [RosterChange.lists, hdevice]
      · simp [RosterChange.lists, h device hdevice]
  | revoke identityPubkey =>
      by_cases hdevice : device = identityPubkey
      · simp [RosterChange.lists, hdevice]
      · simp [RosterChange.lists, h device hdevice]

/-- The event supersedes the roster of its moment and makes its own change to it only. -/
def BuiltRoster.Follows (event : BuiltRoster) : Prop :=
  ∃ roster, event.manager = some roster ∧
    ∀ device, event.appKeys.lists device = event.change.lists roster device

/-- A snapshot that is not stale leaves a roster whose devices stand under their own keys. -/
theorem keyed_applySnapshot {current : AppKeys String} (hcurrent : current.Keyed)
    (currentCreatedAt : Nat) (incoming : AppKeys String) (createdAt : Nat) :
    (applyAppKeysSnapshotPreservingLabels (some current) currentCreatedAt incoming
      createdAt).appKeys.Keyed := by
  unfold applyAppKeysSnapshotPreservingLabels applyAppKeysSnapshot
  dsimp only
  by_cases hnew : createdAt > currentCreatedAt
  · rw [if_pos hnew]
    exact AppKeys.keyed_new _
  · rw [if_neg hnew]
    by_cases hold : createdAt < currentCreatedAt
    · rw [if_pos hold]
      exact hcurrent
    · rw [if_neg hold]
      exact AppKeys.keyed_new _

namespace RosterWorld

/-- What a prepared revocation holds. -/
def PreparedSound (prepared : PreparedRevocation) : Prop :=
  prepared.appKeys.Keyed ∧ ∀ seen, prepared.seen = some seen → ∀ device,
    prepared.appKeys.lists device = (RosterChange.revoke prepared.revokedIdentity).lists seen device

/-- What a publication carries to its build. -/
def PublicationSound (publication : Publication) : Prop :=
  publication.appKeys.Keyed ∧ ∀ seen, publication.seen = some seen → ∀ device,
    publication.appKeys.lists device = publication.change.lists seen device

/-- Every roster that was captured is the manager's of that moment with its change made, and the
rosters in use are keyed. -/
structure Captured (world : RosterWorld) : Prop where
  roster : ∀ roster, world.roster = some roster → roster.Keyed
  inits : ∀ roster, some roster ∈ world.inits → roster.Keyed
  stored : ∀ roster, world.stored = some roster → roster.Keyed
  applying : ∀ running, world.applying = some running → running.appKeys.Keyed
  prepared : ∀ prepared ∈ world.preparedRevocations, PreparedSound prepared
  publications : ∀ publication ∈ world.publications, PublicationSound publication
  built : ∀ event ∈ world.built, event.Follows

/-- The runs in which no roster change falls into the window of a publication: a revocation is
prepared from the device set of the manager's roster, and each event is built while the manager's
roster has the device set that its base was taken from. -/
def Allowed (world : RosterWorld) : RosterAction → Prop
  | .fetched revocation result => ∀ task ∈ world.revocationBases[revocation]?,
      ∀ base ∈ world.resolveBaseAppKeys task result, ∀ roster, world.roster = some roster →
        AppKeys.SameApart task.identityPubkey base roster
  | .build index _ => ∀ publication ∈ world.publications[index]?,
      ∃ seen roster, publication.seen = some seen ∧ world.roster = some roster ∧
        AppKeys.SameApart publication.change.target seen roster
  | _ => True

def AllowedRun (world : RosterWorld) : List RosterAction → Prop
  | [] => True
  | action :: rest => world.Allowed action ∧ (world.step action).AllowedRun rest

section Steps

variable {world : RosterWorld}

theorem captured_enqueue (h : world.Captured) (incoming : AppKeys String) (createdAt : Nat)
    (canonical : Bool) (floor : Nat) :
    (world.enqueue incoming createdAt canonical floor).Captured := by
  unfold enqueue
  split
  · exact h
  · exact ⟨h.roster, h.inits, h.stored, h.applying, h.prepared, h.publications, h.built⟩

theorem captured_finishInit (h : world.Captured) (init : Nat) : (world.finishInit init).Captured := by
  unfold finishInit
  split
  · exact h
  · rename_i stored hget
    refine ⟨?_, ?_, h.stored, h.applying, h.prepared, h.publications, h.built⟩
    · intro roster hroster
      obtain rfl := Option.some.inj hroster
      cases stored with
      | none => exact AppKeys.keyed_new _
      | some stored => exact h.inits stored (List.mem_of_getElem? hget)
    · intro roster hmem
      exact h.inits roster (List.mem_of_mem_eraseIdx hmem)

theorem captured_decide (h : world.Captured) : world.decide.Captured := by
  unfold decide
  split
  · rename_i job rest happlying hqueue
    dsimp only
    have hrest : Captured { world with appKeysApplyQueue := rest } :=
      ⟨h.roster, h.inits, h.stored, h.applying, h.prepared, h.publications, h.built⟩
    split
    · exact hrest
    rename_i manager hmanager
    split
    · exact hrest
    split
    · exact hrest
    · have hkeyed : manager.appKeys.Keyed := by
        refine h.roster manager.appKeys ?_
        unfold RosterWorld.roster
        rw [hmanager]
        rfl
      have hnext : (if job.canonical then AppKeys.new job.incoming.getAllDevices
          else (applyAppKeysSnapshotPreservingLabels (some manager.appKeys)
            world.lastAppKeysCreatedAt job.incoming job.incomingCreatedAt).appKeys).Keyed := by
        split
        · exact AppKeys.keyed_new _
        · exact keyed_applySnapshot hkeyed _ _ _
      refine ⟨?_, h.inits, h.stored, ?_, h.prepared, h.publications, h.built⟩
      · intro roster hroster
        obtain rfl := Option.some.inj hroster
        exact hnext
      · intro running hrunning
        obtain rfl := Option.some.inj hrunning
        exact hnext
  · exact h

theorem captured_saveApplied (h : world.Captured) : world.saveApplied.Captured := by
  unfold saveApplied
  split
  · exact h
  · rename_i running hrunning
    have hkeyed := h.applying running hrunning
    refine ⟨h.roster, h.inits, ?_, ?_, h.prepared, h.publications, h.built⟩
    · intro roster hroster
      obtain rfl := Option.some.inj hroster
      exact hkeyed
    · intro next hnext
      obtain rfl := Option.some.inj hnext
      exact hkeyed

theorem captured_finishApply (h : world.Captured) : world.finishApply.Captured := by
  unfold finishApply
  split
  · dsimp only
    split
    · exact ⟨h.roster, h.inits, h.stored, fun _ hnone => absurd hnone (Option.some_ne_none _).symm,
        h.prepared, h.publications, h.built⟩
    · exact ⟨h.roster, h.inits, h.stored, fun _ hnone => absurd hnone (Option.some_ne_none _).symm,
        h.prepared, h.publications, h.built⟩
  · exact h

theorem captured_failApply (h : world.Captured) : world.failApply.Captured := by
  unfold failApply
  split
  · exact ⟨h.roster, h.inits, h.stored, fun _ hnone => absurd hnone (Option.some_ne_none _).symm,
      h.prepared, h.publications, h.built⟩
  · exact h

/-- The base of a registration is the manager's roster. -/
theorem captured_finishBase (h : world.Captured) (purpose : BasePurpose) (fallback : AppKeys String)
    (now : Nat) : (world.finishBase purpose (world.roster.getD fallback).clone now).Captured := by
  cases purpose with
  | prepare identityPubkey =>
      exact ⟨h.roster, h.inits, h.stored, h.applying, h.prepared, h.publications, h.built⟩
  | publish prepared =>
      unfold finishBase
      dsimp only
      split
      · exact h
      rename_i target hfind
      split
      · exact h
      refine ⟨h.roster, h.inits, h.stored, h.applying, h.prepared, ?_, h.built⟩
      intro publication hmem
      rcases List.mem_append.mp hmem with hmem | hmem
      · exact h.publications publication hmem
      rw [List.mem_singleton.mp hmem]
      refine ⟨AppKeys.keyed_addDevice (AppKeys.keyed_new _) target, ?_⟩
      intro seen hseen device
      have htarget : target.identityPubkey = prepared.newDeviceIdentity := by
        simpa using List.find?_some hfind
      replace hseen : world.roster = some seen := hseen
      change ((world.roster.getD fallback).clone.addDevice target).lists device = _
      rw [hseen, Option.getD_some, (h.roster seen hseen).clone_eq, AppKeys.lists_addDevice,
        htarget]
      rfl

theorem captured_snapshot (h : world.Captured) (index : Nat) (snapshot : Option RosterSnapshot)
    (now : Nat) : (world.snapshot index snapshot now).Captured := by
  unfold RosterWorld.snapshot
  split
  · split
    · refine captured_enqueue ?_ _ _ _ _
      exact ⟨h.roster, h.inits, h.stored, h.applying, h.prepared, h.publications, h.built⟩
    · have hworld : Captured { world with bases := world.bases.eraseIdx index } :=
        ⟨h.roster, h.inits, h.stored, h.applying, h.prepared, h.publications, h.built⟩
      exact captured_finishBase hworld _ _ _
  · exact h

theorem captured_applied (h : world.Captured) (index now : Nat) :
    (world.applied index now).Captured := by
  unfold applied
  split
  · split
    · have hworld : Captured { world with bases := world.bases.eraseIdx index } :=
        ⟨h.roster, h.inits, h.stored, h.applying, h.prepared, h.publications, h.built⟩
      exact captured_finishBase hworld _ _ _
    · exact h
  · exact h

theorem keyed_resolveBase {task : RevocationTask} {result : FetchResult}
    {base : AppKeys String} (hbase : base ∈ world.resolveBaseAppKeys task result) : base.Keyed := by
  unfold resolveBaseAppKeys at hbase
  split at hbase
  · obtain rfl := Option.some.inj hbase
    exact AppKeys.keyed_new _
  · split at hbase
    · obtain rfl := Option.some.inj hbase
      exact AppKeys.keyed_new _
    · split at hbase
      · cases hbase
      · obtain rfl := Option.some.inj hbase
        exact AppKeys.keyed_new _

theorem captured_fetched (h : world.Captured) (index : Nat) (result : FetchResult)
    (hallowed : world.Allowed (.fetched index result)) : (world.fetched index result).Captured := by
  unfold fetched
  split
  · exact h
  rename_i task hget
  split
  · rename_i base hbase
    refine ⟨h.roster, h.inits, h.stored, h.applying, ?_, h.publications, h.built⟩
    intro prepared hmem
    rcases List.mem_append.mp hmem with hmem | hmem
    · exact h.prepared prepared hmem
    rw [List.mem_singleton.mp hmem]
    have hkeyed := keyed_resolveBase hbase
    refine ⟨AppKeys.keyed_removeDevice (AppKeys.keyed_new _) _, ?_⟩
    intro seen hseen device
    have hsame := hallowed task hget base hbase seen hseen
    have hlists := @RosterChange.lists_of_sameApart (.revoke task.identityPubkey) base seen hsame
    rw [← hlists device]
    change (base.clone.removeDevice task.identityPubkey).lists device = _
    rw [hkeyed.clone_eq, AppKeys.lists_removeDevice]
    rfl
  · split
    · exact ⟨h.roster, h.inits, h.stored, h.applying, h.prepared, h.publications, h.built⟩
    · exact ⟨h.roster, h.inits, h.stored, h.applying, h.prepared, h.publications, h.built⟩

theorem captured_publishRevocation (h : world.Captured) (index : Nat) :
    (world.publishRevocation index).Captured := by
  unfold publishRevocation
  split
  · rename_i prepared manager hget hmanager
    refine ⟨h.roster, h.inits, h.stored, h.applying, h.prepared, ?_, h.built⟩
    intro publication hmem
    rcases List.mem_append.mp hmem with hmem | hmem
    · exact h.publications publication hmem
    rw [List.mem_singleton.mp hmem]
    exact h.prepared prepared (List.mem_of_getElem? hget)
  · exact h

/-- A publication moves between two awaits. -/
theorem sound_setPoint (h : ∀ publication ∈ world.publications, PublicationSound publication)
    {index : Nat} {publication : Publication} (hget : world.publications[index]? = some publication)
    (point : PublicationPoint) :
    ∀ next ∈ world.publications.set index { publication with point }, PublicationSound next := by
  intro next hmem
  rcases List.mem_or_eq_of_mem_set hmem with hmem | rfl
  · exact h next hmem
  · exact h publication (List.mem_of_getElem? hget)

theorem sound_erase (h : ∀ publication ∈ world.publications, PublicationSound publication)
    (index : Nat) : ∀ next ∈ world.publications.eraseIdx index, PublicationSound next :=
  fun next hmem => h next (List.mem_of_mem_eraseIdx hmem)

theorem captured_build (h : world.Captured) (index now : Nat)
    (hallowed : world.Allowed (.build index now)) : (world.build index now).Captured := by
  unfold build
  split
  · rename_i publication hget
    split
    · refine ⟨h.roster, h.inits, h.stored, h.applying, h.prepared,
        sound_setPoint h.publications hget _, ?_⟩
      intro event hmem
      rcases List.mem_append.mp hmem with hmem | hmem
      · exact h.built event hmem
      rw [List.mem_singleton.mp hmem]
      obtain ⟨seen, roster, hseen, hroster, hsame⟩ := hallowed publication hget
      refine ⟨roster, hroster, ?_⟩
      intro device
      have hcaptured := (h.publications publication (List.mem_of_getElem? hget)).2 seen hseen device
      exact hcaptured.trans (RosterChange.lists_of_sameApart hsame device)
    · exact h
  · exact h

theorem captured_published (h : world.Captured) (index createdAt : Nat) :
    (world.published index createdAt).Captured := by
  unfold published
  split
  · rename_i publication hget
    split
    · exact ⟨h.roster, h.inits, h.stored, h.applying, h.prepared,
        sound_setPoint h.publications hget _, h.built⟩
    · exact h
  · exact h

theorem captured_record (h : world.Captured) (index : Nat) : (world.record index).Captured := by
  unfold record
  split
  · rename_i publication hget
    split
    · split
      · refine captured_enqueue ?_ _ _ _ _
        exact ⟨h.roster, h.inits, h.stored, h.applying, h.prepared, sound_erase h.publications index,
          h.built⟩
      · exact h
    · refine ⟨?_, h.inits, h.stored, h.applying, h.prepared, sound_setPoint h.publications hget _,
        h.built⟩
      intro roster hroster
      unfold RosterWorld.roster at hroster
      cases hmanager : world.manager with
      | none =>
          rw [hmanager] at hroster
          cases hroster
      | some manager =>
          rw [hmanager] at hroster
          obtain rfl := Option.some.inj hroster
          exact (h.publications publication (List.mem_of_getElem? hget)).1
    · exact h
  · exact h

theorem captured_saveRevocation (h : world.Captured) (index : Nat) :
    (world.saveRevocation index).Captured := by
  unfold saveRevocation
  split
  · rename_i publication hget
    split
    · refine ⟨h.roster, h.inits, ?_, h.applying, h.prepared, sound_setPoint h.publications hget _,
        h.built⟩
      intro roster hroster
      dsimp only at hroster
      split at hroster
      · obtain rfl := Option.some.inj hroster
        exact (h.publications publication (List.mem_of_getElem? hget)).1
      · exact h.stored roster hroster
    · exact h
  · exact h

theorem captured_finishRevocation (h : world.Captured) (index : Nat) :
    (world.finishRevocation index).Captured := by
  unfold finishRevocation
  split
  · split
    · exact ⟨h.roster, h.inits, h.stored, h.applying, h.prepared, sound_erase h.publications index,
        h.built⟩
    · exact h
  · exact h

theorem captured_step (h : world.Captured) (action : RosterAction)
    (hallowed : world.Allowed action) : (world.step action).Captured := by
  have hframe : ∀ (queue : List ApplyJob) (bases : List BaseTask)
      (revocationBases : List RevocationTask), Captured { world with
        appKeysApplyQueue := queue, bases := bases, revocationBases := revocationBases } :=
    fun _ _ _ => ⟨h.roster, h.inits, h.stored, h.applying, h.prepared, h.publications, h.built⟩
  cases action with
  | readRoster =>
      unfold step readRoster
      dsimp only
      split
      · exact h
      · refine ⟨h.roster, ?_, h.stored, h.applying, h.prepared, h.publications, h.built⟩
        intro roster hmem
        rcases List.mem_append.mp hmem with hmem | hmem
        · exact h.inits roster hmem
        · exact h.stored roster (List.mem_singleton.mp hmem).symm
  | finishInit init => exact captured_finishInit h init
  | deliver devices createdAt canonical => exact captured_enqueue h _ _ _ _
  | decide => exact captured_decide h
  | saveApplied => exact captured_saveApplied h
  | finishApply => exact captured_finishApply h
  | failApply => exact captured_failApply h
  | prepareRegistration identityPubkey =>
      unfold step
      dsimp only
      split
      · exact hframe _ _ _
      · exact h
  | publishRegistration prepared =>
      unfold step publishRegistration
      dsimp only
      split
      · exact hframe _ _ _
      · exact h
  | snapshot base snapshot now => exact captured_snapshot h base snapshot now
  | applied base now => exact captured_applied h base now
  | failBase base => exact hframe _ _ _
  | prepareRevocation identityPubkey longer => exact hframe _ _ _
  | fetched revocation result => exact captured_fetched h revocation result hallowed
  | publishRevocation prepared => exact captured_publishRevocation h prepared
  | build publication now => exact captured_build h publication now hallowed
  | published publication createdAt => exact captured_published h publication createdAt
  | record publication => exact captured_record h publication
  | saveRevocation publication => exact captured_saveRevocation h publication
  | finishRevocation publication => exact captured_finishRevocation h publication
  | failPublication publication =>
      exact ⟨h.roster, h.inits, h.stored, h.applying, h.prepared,
        sound_erase h.publications publication, h.built⟩

end Steps

theorem captured_run {world : RosterWorld} (h : world.Captured) (actions : List RosterAction)
    (hallowed : world.AllowedRun actions) : (world.run actions).Captured := by
  induction actions generalizing world with
  | nil => exact h
  | cons action rest ih => exact ih (captured_step h action hallowed.1) hallowed.2

/-- The runtime starts over any stored roster. -/
theorem captured_new (stored : Option (List (DeviceEntry String))) :
    (new (stored.map AppKeys.new)).Captured := by
  refine ⟨?_, ?_, ?_, ?_, ?_, ?_, ?_⟩
  · intro roster hroster
    cases hroster
  · intro roster hmem
    cases hmem
  · intro roster hroster
    obtain ⟨devices, -, rfl⟩ := Option.map_eq_some_iff.mp hroster
    exact AppKeys.keyed_new devices
  · intro running hrunning
    cases hrunning
  · intro prepared hmem
    cases hmem
  · intro publication hmem
    cases hmem
  · intro event hmem
    cases hmem

/-! The time of an event, in every run. -/

section Times

variable (world : RosterWorld)

theorem built_enqueue (incoming : AppKeys String) (createdAt : Nat) (canonical : Bool)
    (floor : Nat) : (world.enqueue incoming createdAt canonical floor).built = world.built := by
  unfold enqueue
  split <;> rfl

theorem built_finishBase (purpose : BasePurpose) (base : AppKeys String) (now : Nat) :
    (world.finishBase purpose base now).built = world.built := by
  unfold finishBase
  split
  · rfl
  · split
    · rfl
    · split <;> rfl

theorem built_decide : world.decide.built = world.built := by
  unfold decide
  split
  · dsimp only
    split
    · rfl
    · split
      · rfl
      · split <;> rfl
  · rfl

/-- Only `publishAppKeys` builds an event. -/
theorem built_step (action : RosterAction) : (world.step action).built = world.built ∨
    ∃ publication now, (world.step action).built =
      world.built ++ [world.builtRoster publication now] := by
  cases action with
  | build index now =>
      change (world.build index now).built = _ ∨ ∃ publication now', (world.build index now).built = _
      unfold build
      split
      · rename_i publication hget
        split
        · exact Or.inr ⟨publication, now, rfl⟩
        · exact Or.inl rfl
      · exact Or.inl rfl
  | deliver devices createdAt canonical => exact Or.inl (built_enqueue _ _ _ _ _)
  | decide => exact Or.inl world.built_decide
  | readRoster | prepareRegistration _ =>
      left
      unfold step
      try unfold readRoster
      dsimp only
      split <;> rfl
  | finishInit _ | saveApplied | failApply | publishRegistration _ | publishRevocation _ =>
      left
      simp only [step, finishInit, saveApplied, failApply, publishRegistration, publishRevocation]
      split <;> rfl
  | finishApply =>
      left
      simp only [step, finishApply]
      split
      · split <;> rfl
      · rfl
  | snapshot base snapshot now =>
      left
      simp only [step, RosterWorld.snapshot]
      split
      · split
        · exact built_enqueue _ _ _ _ _
        · exact built_finishBase _ _ _ _
      · rfl
  | applied base now =>
      left
      simp only [step, applied]
      split
      · split
        · exact built_finishBase _ _ _ _
        · rfl
      · rfl
  | fetched revocation result =>
      left
      simp only [step, fetched]
      split
      · rfl
      · split
        · rfl
        · split <;> rfl
  | published _ _ | saveRevocation _ | finishRevocation _ =>
      left
      simp only [step, published, saveRevocation, finishRevocation]
      split
      · split <;> rfl
      · rfl
  | record publication =>
      left
      simp only [step, record]
      split
      · split
        · split
          · exact built_enqueue _ _ _ _ _
          · rfl
        · rfl
        · rfl
      · rfl
  | failBase _ | prepareRevocation _ _ | failPublication _ => exact Or.inl rfl

theorem built_later {world : RosterWorld} (actions : List RosterAction)
    (h : ∀ event ∈ world.built, event.lastAppKeysCreatedAt < event.createdAt) :
    ∀ event ∈ (world.run actions).built, event.lastAppKeysCreatedAt < event.createdAt := by
  induction actions generalizing world with
  | nil => exact h
  | cons action rest ih =>
      refine ih ?_
      intro event hmem
      rcases world.built_step action with hsame | ⟨publication, now, hnew⟩
      · rw [hsame] at hmem
        exact h event hmem
      · rw [hnew] at hmem
        rcases List.mem_append.mp hmem with hmem | hmem
        · exact h event hmem
        · rw [List.mem_singleton.mp hmem]
          exact Nat.lt_of_lt_of_le (Nat.lt_succ_self _) (Nat.le_max_right _ _)

end Times

/-- A runtime over the stored roster of `a` and `b`, once an event of this roster is applied. -/
def started : List RosterAction :=
  [.readRoster, .finishInit 0, .deliver [⟨"a", 1⟩, ⟨"b", 1⟩] 10 false, .decide, .saveApplied,
    .finishApply]

/-- `d` is registered, and `a` revoked, with nothing in between. -/
def undisturbed : List RosterAction :=
  started ++ [.prepareRegistration "d", .snapshot 0 none 5, .publishRegistration 0,
    .snapshot 0 none 5, .build 0 5, .published 0 11, .record 0, .decide, .saveApplied,
    .finishApply, .prepareRevocation "a" false, .fetched 0 .nothing, .publishRevocation 0,
    .build 0 5]

/-- The base of the registration is taken before `b` is revoked, and published after. -/
def lateRegistration : List RosterAction :=
  started ++ [.prepareRegistration "d", .snapshot 0 none 5, .publishRegistration 0,
    .snapshot 0 none 5, .deliver [⟨"a", 1⟩] 20 false, .decide, .saveApplied, .finishApply,
    .build 0 5]

/-- The revocation of `a` is prepared before `c` is added, and published after. -/
def lateRevocation : List RosterAction :=
  started ++ [.prepareRevocation "a" false, .fetched 0 .nothing,
    .deliver [⟨"a", 1⟩, ⟨"b", 1⟩, ⟨"c", 1⟩] 20 false, .decide, .saveApplied, .finishApply,
    .publishRevocation 0, .build 0 5]

end RosterWorld

end NostrDoubleRatchet.TypeScript
