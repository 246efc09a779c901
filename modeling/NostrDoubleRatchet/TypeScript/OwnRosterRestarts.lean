import NostrDoubleRatchet.TypeScript.OwnRoster

/-!
An older event and the owner's roster, over the whole life of a storage: the runtime is closed
and created again any number of times. The rosters are stored, the time that orders them is not.
-/

namespace NostrDoubleRatchet.TypeScript

inductive LifeAction where
  | act (action : RosterAction)
  | close
  /-- The process ends at any moment, and a new runtime opens the storage. -/
  | recreate

namespace RosterWorld

/-- `close`: what waits for a promise goes on afterwards. -/
def close (world : RosterWorld) : RosterWorld :=
  { world with
    manager := none, initializing := false, registeredDevices := [], lastAppKeysCreatedAt := 0 }

def recreate (world : RosterWorld) : RosterWorld :=
  { new world.stored with built := world.built, highest := world.highest }

def lifeStep (world : RosterWorld) : LifeAction → RosterWorld
  | .act action => world.step action
  | .close => world.close
  | .recreate => world.recreate

def live (world : RosterWorld) (actions : List LifeAction) : RosterWorld :=
  actions.foldl lifeStep world

/-- The next job of the queue leaves the roster and the registered devices as they are, if it
came with an event older than one applied or published before it. -/
def IgnoresOld (world : RosterWorld) : Prop :=
  ∀ job rest, world.appKeysApplyQueue = job :: rest → world.applying = none →
    job.incomingCreatedAt < job.floor →
      world.decide.roster = world.roster ∧ world.decide.stored = world.stored ∧
        world.decide.registeredDevices = world.registeredDevices ∧ world.decide.applying = none

/-- The job was made for the manager in place. -/
def Current (world : RosterWorld) (job : ApplyJob) : Prop :=
  world.manager.map (·.uid) = some job.manager

/-- The last time, and that of the job at work, have come to `time`. -/
def Reached (world : RosterWorld) (time : Nat) : Prop :=
  time ≤ world.lastAppKeysCreatedAt ∧
    ∀ running, world.applying = some running → world.Current running.job → time ≤ running.createdAt

/-- The steps of the condition: an event older than the newest one comes in only where the last
time has reached the newest, and no revocation is recorded with a time below that of a newest one
that an old event in the queue is still to be compared with. -/
def Admits (world : RosterWorld) : LifeAction → Prop
  | .act (.deliver _ createdAt _) =>
      createdAt < world.highest → world.Reached world.highest
  | .act (.snapshot _ (some snapshot) _) =>
      snapshot.createdAt < world.highest → world.Reached world.highest
  | .act (.finishRevocation index) => ∀ publication ∈ world.publications[index]?,
      ∀ createdAt, publication.point = .saved createdAt → ∀ job ∈ world.appKeysApplyQueue,
        job.incomingCreatedAt < job.floor → job.floor ≤ createdAt
  | _ => True

def AdmittedLife (world : RosterWorld) : List LifeAction → Prop
  | [] => True
  | action :: rest => world.Admits action ∧ (world.lifeStep action).AdmittedLife rest

/-- The invariant: for an old event in the queue the last time has reached the newer one. -/
structure Ordered (world : RosterWorld) : Prop where
  jobs : ∀ job ∈ world.appKeysApplyQueue, job.manager < world.nextManager
  manager : ∀ manager, world.manager = some manager → manager.uid < world.nextManager
  old : ∀ job ∈ world.appKeysApplyQueue, job.incomingCreatedAt < job.floor → world.Current job →
    world.Reached job.floor

/-- An old snapshot is stale. -/
theorem decision_of_lt {current : AppKeys String} {currentCreatedAt createdAt : Nat}
    (h : createdAt < currentCreatedAt) (incoming : AppKeys String) :
    (applyAppKeysSnapshotPreservingLabels (some current) currentCreatedAt incoming
      createdAt).decision = .stale := by
  have hnot : ¬ createdAt > currentCreatedAt := Nat.not_lt_of_gt h
  simp only [applyAppKeysSnapshotPreservingLabels, applyAppKeysSnapshot, if_neg hnot, if_pos h]

/-- A snapshot that is not stale does not take the time back. -/
theorem createdAt_of_decision {current incoming : AppKeys String}
    {currentCreatedAt createdAt : Nat}
    (h : (applyAppKeysSnapshotPreservingLabels (some current) currentCreatedAt incoming
      createdAt).decision ≠ .stale) :
    currentCreatedAt ≤ (applyAppKeysSnapshotPreservingLabels (some current) currentCreatedAt
      incoming createdAt).createdAt := by
  unfold applyAppKeysSnapshotPreservingLabels applyAppKeysSnapshot at h ⊢
  dsimp only at h ⊢
  by_cases hnew : createdAt > currentCreatedAt
  · rw [if_pos hnew]
    exact Nat.le_of_lt hnew
  · rw [if_neg hnew] at h ⊢
    by_cases hold : createdAt < currentCreatedAt
    · rw [if_pos hold] at h
      exact absurd rfl h
    · rw [if_neg hold]

section Steps

variable {world : RosterWorld}

/-- An old job is dropped. -/
theorem Ordered.decide_eq (h : world.Ordered) {job : ApplyJob} {rest : List ApplyJob}
    (hqueue : world.appKeysApplyQueue = job :: rest) (happlying : world.applying = none)
    (hold : job.incomingCreatedAt < job.floor) :
    world.decide = { world with appKeysApplyQueue := rest } := by
  unfold decide
  rw [happlying, hqueue]
  dsimp only
  cases hmanager : world.manager with
  | none => rfl
  | some manager =>
      dsimp only
      by_cases huid : manager.uid = job.manager
      · have hmem : job ∈ world.appKeysApplyQueue := by
          rw [hqueue]
          exact List.mem_cons_self
        have hcurrent : world.Current job := by
          unfold Current
          rw [hmanager, Option.map_some, huid]
        have hreached := (h.old job hmem hold hcurrent).1
        rw [if_neg (not_not_intro huid),
          decision_of_lt (Nat.lt_of_lt_of_le hold hreached) job.incoming]
      · rw [if_pos huid]

theorem Ordered.ignoresOld (h : world.Ordered) : world.IgnoresOld := by
  intro job rest hqueue happlying hold
  rw [h.decide_eq hqueue happlying hold]
  exact ⟨rfl, rfl, rfl, happlying⟩

/-- What the invariant reads of a world. -/
theorem Ordered.congr {next : RosterWorld} (h : world.Ordered)
    (hqueue : next.appKeysApplyQueue = world.appKeysApplyQueue)
    (happlying : next.applying = world.applying)
    (hmanager : next.manager.map (·.uid) = world.manager.map (·.uid))
    (hlast : next.lastAppKeysCreatedAt = world.lastAppKeysCreatedAt)
    (hnext : next.nextManager = world.nextManager) : next.Ordered := by
  refine ⟨?_, ?_, ?_⟩
  · rw [hqueue, hnext]
    exact h.jobs
  · intro manager hsome
    rw [hsome, Option.map_some] at hmanager
    obtain ⟨old, hold, huid⟩ := Option.map_eq_some_iff.mp hmanager.symm
    rw [hnext, ← huid]
    exact h.manager old hold
  · intro job hmem hlt hcurrent
    unfold Current at hcurrent
    rw [hqueue] at hmem
    rw [hmanager] at hcurrent
    unfold Reached Current
    rw [hlast, happlying, hmanager]
    exact h.old job hmem hlt hcurrent

theorem ordered_enqueue (h : world.Ordered) (incoming : AppKeys String) (createdAt : Nat)
    (canonical : Bool) (floor : Nat) (hfloor : createdAt < floor → world.Reached floor) :
    (world.enqueue incoming createdAt canonical floor).Ordered := by
  unfold enqueue
  split
  · exact h
  · rename_i manager hmanager
    refine ⟨?_, h.manager, ?_⟩
    · intro job hmem
      rcases List.mem_append.mp hmem with hmem | hmem
      · exact h.jobs job hmem
      · rw [List.mem_singleton.mp hmem]
        exact h.manager manager hmanager
    · intro job hmem hold hcurrent
      rcases List.mem_append.mp hmem with hmem | hmem
      · exact h.old job hmem hold hcurrent
      · rw [List.mem_singleton.mp hmem] at hold ⊢
        exact hfloor hold

/-- The new manager is none that a queued job was made for. -/
theorem ordered_finishInit (h : world.Ordered) (init : Nat) : (world.finishInit init).Ordered := by
  unfold finishInit
  split
  · exact h
  · refine ⟨fun job hmem => Nat.lt_succ_of_lt (h.jobs job hmem), ?_, ?_⟩
    · intro manager hmanager
      obtain rfl := Option.some.inj hmanager
      exact Nat.lt_succ_self _
    · intro job hmem _ hcurrent
      have huid : world.nextManager = job.manager := Option.some.inj hcurrent
      exact absurd huid (Nat.ne_of_gt (h.jobs job hmem))

theorem ordered_decide (h : world.Ordered) : world.decide.Ordered := by
  unfold decide
  split
  · rename_i job rest happlying hqueue
    have hold : ∀ other ∈ rest, other ∈ world.appKeysApplyQueue := by
      intro other hmem
      rw [hqueue]
      exact List.mem_cons_of_mem _ hmem
    have hrest : Ordered { world with appKeysApplyQueue := rest } :=
      ⟨fun other hmem => h.jobs other (hold other hmem), h.manager,
        fun other hmem => h.old other (hold other hmem)⟩
    dsimp only
    split
    · exact hrest
    rename_i manager hmanager
    split
    · exact hrest
    split
    · exact hrest
    · rename_i hdecision
      refine ⟨fun other hmem => h.jobs other (hold other hmem), ?_, ?_⟩
      · intro next hnext
        obtain rfl := Option.some.inj hnext
        exact h.manager manager hmanager
      · intro other hmem hlt hcurrent
        have hcurrent' : world.Current other := by
          unfold Current
          rw [hmanager]
          exact hcurrent
        have hreached := (h.old other (hold other hmem) hlt hcurrent').1
        refine ⟨hreached, ?_⟩
        intro running hrunning _
        obtain rfl := Option.some.inj hrunning
        exact hreached.trans (createdAt_of_decision hdecision)
  · exact h

theorem ordered_saveApplied (h : world.Ordered) : world.saveApplied.Ordered := by
  unfold saveApplied
  split
  · exact h
  · rename_i running hrunning
    refine ⟨h.jobs, h.manager, ?_⟩
    intro job hmem hold hcurrent
    obtain ⟨hlast, happlying⟩ := h.old job hmem hold hcurrent
    refine ⟨hlast, ?_⟩
    intro next hnext hnextCurrent
    obtain rfl := Option.some.inj hnext
    exact happlying running hrunning hnextCurrent

theorem ordered_finishApply (h : world.Ordered) : world.finishApply.Ordered := by
  unfold finishApply
  split
  · rename_i job appKeys createdAt hrunning
    dsimp only
    split
    · rename_i hcurrent
      refine ⟨h.jobs, h.manager, ?_⟩
      intro other hmem hold hother
      refine ⟨(h.old other hmem hold hother).2 _ hrunning hcurrent, ?_⟩
      intro running hnone
      cases hnone
    · refine ⟨h.jobs, h.manager, ?_⟩
      intro other hmem hold hother
      refine ⟨(h.old other hmem hold hother).1, ?_⟩
      intro running hnone
      cases hnone
  · exact h

theorem ordered_failApply (h : world.Ordered) : world.failApply.Ordered := by
  unfold failApply
  split
  · refine ⟨h.jobs, h.manager, ?_⟩
    intro other hmem hold hother
    refine ⟨(h.old other hmem hold hother).1, ?_⟩
    intro running hnone
    cases hnone
  · exact h

theorem ordered_finishBase (h : world.Ordered) (purpose : BasePurpose) (base : AppKeys String)
    (now : Nat) : (world.finishBase purpose base now).Ordered := by
  unfold finishBase
  split
  · exact h.congr rfl rfl rfl rfl rfl
  · split
    · exact h
    · split
      · exact h
      · exact h.congr rfl rfl rfl rfl rfl

theorem ordered_snapshot (h : world.Ordered) (index : Nat) (snapshot : Option RosterSnapshot)
    (now : Nat) (hadmits : world.Admits (.act (.snapshot index snapshot now))) :
    (world.snapshot index snapshot now).Ordered := by
  unfold RosterWorld.snapshot
  split
  · split
    · rename_i found hfound
      obtain rfl : snapshot = some found := (Option.filter_eq_some_iff.mp hfound).1
      refine ordered_enqueue ?_ _ _ _ _ hadmits
      exact h.congr rfl rfl rfl rfl rfl
    · refine ordered_finishBase ?_ _ _ _
      exact h.congr rfl rfl rfl rfl rfl
  · exact h

theorem ordered_applied (h : world.Ordered) (index now : Nat) :
    (world.applied index now).Ordered := by
  unfold applied
  split
  · split
    · refine ordered_finishBase ?_ _ _ _
      exact h.congr rfl rfl rfl rfl rfl
    · exact h
  · exact h

theorem ordered_record (h : world.Ordered) (index : Nat) : (world.record index).Ordered := by
  unfold record
  split
  · split
    · split
      · refine ordered_enqueue ?_ _ _ _ _ (fun hlt => absurd hlt (Nat.not_lt_zero _))
        exact h.congr rfl rfl rfl rfl rfl
      · exact h
    · refine h.congr rfl rfl ?_ rfl rfl
      rw [Option.map_map]
      rfl
    · exact h
  · exact h

theorem ordered_finishRevocation (h : world.Ordered) (index : Nat)
    (hadmits : world.Admits (.act (.finishRevocation index))) :
    (world.finishRevocation index).Ordered := by
  unfold finishRevocation
  split
  · rename_i publication hget
    split
    · rename_i createdAt hpoint
      refine ⟨h.jobs, h.manager, ?_⟩
      intro job hmem hold hcurrent
      exact ⟨hadmits publication hget createdAt hpoint job hmem hold,
        (h.old job hmem hold hcurrent).2⟩
    · exact h
  · exact h

theorem ordered_close (h : world.Ordered) : world.close.Ordered := by
  refine ⟨h.jobs, ?_, ?_⟩
  · intro manager hmanager
    cases hmanager
  · intro job _ _ hcurrent
    cases hcurrent

theorem ordered_new (stored : Option (AppKeys String)) : (new stored).Ordered := by
  refine ⟨?_, ?_, ?_⟩
  · intro job hmem
    cases hmem
  · intro manager hmanager
    cases hmanager
  · intro job hmem
    cases hmem

theorem ordered_step (h : world.Ordered) (action : RosterAction)
    (hadmits : world.Admits (.act action)) : (world.step action).Ordered := by
  cases action with
  | finishInit init => exact ordered_finishInit h init
  | deliver devices createdAt canonical => exact ordered_enqueue h _ _ _ _ hadmits
  | decide => exact ordered_decide h
  | saveApplied => exact ordered_saveApplied h
  | finishApply => exact ordered_finishApply h
  | failApply => exact ordered_failApply h
  | snapshot base snapshot now => exact ordered_snapshot h base snapshot now hadmits
  | applied base now => exact ordered_applied h base now
  | record publication => exact ordered_record h publication
  | finishRevocation publication => exact ordered_finishRevocation h publication hadmits
  | failBase _ | prepareRevocation _ _ | failPublication _ => exact h.congr rfl rfl rfl rfl rfl
  | readRoster | prepareRegistration _ | publishRegistration _ | publishRevocation _ =>
      simp only [step, readRoster, publishRegistration, publishRevocation]
      split
      all_goals exact h.congr rfl rfl rfl rfl rfl
  | fetched revocation result =>
      simp only [step, fetched]
      split
      · exact h
      · split
        · exact h.congr rfl rfl rfl rfl rfl
        · split
          all_goals exact h.congr rfl rfl rfl rfl rfl
  | build _ _ | published _ _ | saveRevocation _ =>
      simp only [step, build, published, saveRevocation]
      split
      · split
        all_goals exact h.congr rfl rfl rfl rfl rfl
      · exact h

end Steps

theorem ordered_live {world : RosterWorld} (h : world.Ordered) (actions : List LifeAction)
    (hadmitted : world.AdmittedLife actions) : (world.live actions).Ordered := by
  induction actions generalizing world with
  | nil => exact h
  | cons action rest ih =>
      refine ih ?_ hadmitted.2
      cases action with
      | act action => exact ordered_step h action hadmitted.1
      | close => exact ordered_close h
      | recreate => exact (ordered_new world.stored).congr rfl rfl rfl rfl rfl

/-- The runtime starts, and an event that lists `a` is applied. -/
def applied20 : List LifeAction :=
  [.act .readRoster, .act (.finishInit 0), .act (.deliver [⟨"a", 1⟩] 20 false), .act .decide,
    .act .saveApplied, .act .finishApply]

end RosterWorld

end NostrDoubleRatchet.TypeScript
