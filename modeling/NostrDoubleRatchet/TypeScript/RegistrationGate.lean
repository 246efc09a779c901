import NostrDoubleRatchet.RosterFolding
import NostrDoubleRatchet.TypeScript.AppKeysEvents

/-!
The registration gate of `NdrRuntime`: the marker that `registerCurrentDevice` stores before it
publishes, the field that mirrors it, the start-up that loads it again, and the operations that
are to be refused while it stands. Code between two awaits runs undisturbed. A call of the
storage takes effect in one step and its caller goes on in a later one. What the other parts of
the runtime tell `syncState` is arbitrary.
-/

namespace NostrDoubleRatchet.TypeScript

structure DeviceRegistrationState where
  isCurrentDeviceRegistered : Bool
  hasKnownRegisteredDevices : Bool
  noPreviousDevicesFound : Bool
  requiresDeviceRegistration : Bool
  canSendPrivateMessages : Bool
  deriving DecidableEq

/-- `trim().toLowerCase()`. -/
def normalizePubkey (value : String) : String :=
  String.ofList ((jsTrim value).toList.map Char.toLower)

def evaluateDeviceRegistrationState (currentDevicePubkey : Option String)
    (registeredDevices : List AppKeysEvents.DeviceEntry)
    (hasLocalAppKeys appKeysManagerReady sessionManagerReady : Bool) : DeviceRegistrationState :=
  let normalizedCurrent := currentDevicePubkey.map normalizePubkey
  let isCurrentDeviceRegistered := normalizedCurrent.any (fun current =>
    registeredDevices.any (fun device => normalizePubkey device.identityPubkey = current))
  let hasKnownRegisteredDevices := !registeredDevices.isEmpty
  { isCurrentDeviceRegistered
    hasKnownRegisteredDevices
    noPreviousDevicesFound := !hasKnownRegisteredDevices
    requiresDeviceRegistration := normalizedCurrent.isSome && !isCurrentDeviceRegistered
    canSendPrivateMessages := appKeysManagerReady && sessionManagerReady &&
      (hasLocalAppKeys || isCurrentDeviceRegistered || hasKnownRegisteredDevices) }

/-- The parts of the runtime's state that registration reads. -/
structure NdrRuntimeState where
  currentDevicePubkey : Option String
  registeredDevices : List AppKeysEvents.DeviceEntry
  hasLocalAppKeys : Bool
  lastAppKeysCreatedAt : JsNumber
  appKeysManagerReady : Bool
  sessionManagerReady : Bool
  registration : DeviceRegistrationState

structure NdrRuntime where
  state : NdrRuntimeState
  registrationConflictCreatedAt : Option JsNumber
  delegateManager : Bool
  sessionManager : Bool
  groupManager : Bool

/-- `Number.isSafeInteger(conflict) && conflict! >= 0 ? conflict! : null`. -/
def storedConflict (conflict : Option JsNumber) : Option JsNumber :=
  conflict.filter (fun
    | .integer value => decide (0 ≤ value) && decide (value ≤ maxSafeInteger)
    | .infinity _ => false)

namespace NdrRuntime

/-- A runtime as its constructor leaves it. -/
def new : NdrRuntime :=
  { state :=
      { currentDevicePubkey := none
        registeredDevices := []
        hasLocalAppKeys := false
        lastAppKeysCreatedAt := .integer 0
        appKeysManagerReady := false
        sessionManagerReady := false
        registration := ⟨false, false, true, false, false⟩ }
    registrationConflictCreatedAt := none
    delegateManager := false
    sessionManager := false
    groupManager := false }

/-- The state with its derived part, as `syncState` leaves it. -/
def syncState (runtime : NdrRuntime) (nextState : NdrRuntimeState) : NdrRuntime :=
  let derived := evaluateDeviceRegistrationState nextState.currentDevicePubkey
    nextState.registeredDevices nextState.hasLocalAppKeys nextState.appKeysManagerReady
    nextState.sessionManagerReady
  { runtime with state := { nextState with registration :=
      if (truthy nextState.currentDevicePubkey).isSome ∧
          runtime.registrationConflictCreatedAt.isSome then
        { derived with
          isCurrentDeviceRegistered := false
          requiresDeviceRegistration := true
          canSendPrivateMessages := false }
      else derived } }

/-- The field is set and `syncState({})` follows at once. -/
def setConflict (runtime : NdrRuntime) (conflict : Option JsNumber) : NdrRuntime :=
  { runtime with registrationConflictCreatedAt := conflict }.syncState runtime.state

/-- The last part of `initDelegateManager`. -/
def finishDelegate (runtime : NdrRuntime) (device : String) (conflict : Option JsNumber) :
    NdrRuntime :=
  { runtime with registrationConflictCreatedAt := storedConflict conflict }.syncState
    { runtime.state with currentDevicePubkey := some device }

/-- `close`, which leaves the conflict field as it is. -/
def close (runtime : NdrRuntime) : NdrRuntime :=
  { runtime with
    delegateManager := false, sessionManager := false, groupManager := false }.syncState
    { runtime.state with
      currentDevicePubkey := none
      registeredDevices := []
      hasLocalAppKeys := false
      lastAppKeysCreatedAt := .integer 0
      appKeysManagerReady := false
      sessionManagerReady := false }

theorem registration_syncState (runtime : NdrRuntime) (nextState : NdrRuntimeState)
    (hconflict : runtime.registrationConflictCreatedAt.isSome)
    (hknown : (truthy nextState.currentDevicePubkey).isSome) :
    (runtime.syncState nextState).state.registration.isCurrentDeviceRegistered = false ∧
      (runtime.syncState nextState).state.registration.canSendPrivateMessages = false := by
  unfold syncState
  dsimp only
  rw [if_pos ⟨hknown, hconflict⟩]
  exact ⟨rfl, rfl⟩

end NdrRuntime

/-- Where an `initDelegateManager` stands that has set `delegateManager`: before its
`storage.get` takes effect, and with what it read. -/
inductive MarkerLoad where
  | reading
  | read (conflict : Option JsNumber)
  deriving DecidableEq

/-- Where a registration stands. `storing`, `conflicting` and `removing` wait for the storage;
`stored`, `conflicted` and `removed` are about to go on after it. -/
inductive RegistrationPoint where
  | storing (value : JsNumber)
  | stored
  | publishing
  | confirming
  | conflicting (createdAt : JsNumber)
  | conflicted (createdAt : JsNumber)
  | removing
  | removed
  deriving DecidableEq

/-- A `registerCurrentDevice` or a `registerDeviceIdentity` in flight. -/
structure RegistrationTask where
  identity : String
  point : RegistrationPoint
  deriving DecidableEq

/-- The sending operations behind `withSessionManager`, and those of the group controller. -/
inductive SendPath where
  | pairwise
  | group
  deriving DecidableEq

/-- A sending operation before (`acquired = false`) and after it has its manager. `gated` says
that it was started while a registration was pending, and is not part of the code. -/
structure SendTask where
  path : SendPath
  gated : Bool
  acquired : Bool
  deriving DecidableEq

structure RegistrationSnapshot where
  devices : List AppKeysEvents.DeviceEntry
  ambiguous : Bool

/-- The test of `confirmRegistration`. -/
def confirms (snapshot : Option RegistrationSnapshot) (update : AppKeysSnapshotDecision)
    (registeredDevices : List AppKeysEvents.DeviceEntry) (identity : String) : Bool :=
  match snapshot, update with
  | none, _ => false
  | some _, .stale => false
  | some snapshot, _ => !snapshot.ambiguous &&
      snapshot.devices.any (fun device => device.identityPubkey = identity) &&
      registeredDevices.any (fun device => device.identityPubkey = identity)

/-- A runtime over the storage of one device. `pending`, whether a `registerCurrentDevice` has
set the marker and no `confirmRegistration` of the device has returned since, and `performed`,
the operations that went on with their manager, are not part of the code. -/
structure GateWorld where
  device : String
  marker : Option JsNumber
  runtime : NdrRuntime
  loads : List MarkerLoad
  registrations : List RegistrationTask
  sends : List SendTask
  pending : Bool
  performed : List SendTask

inductive GateAction where
  /-- Another part of the runtime calls `syncState`. -/
  | sync (registeredDevices : List AppKeysEvents.DeviceEntry) (hasLocalAppKeys : Bool)
      (lastAppKeysCreatedAt : JsNumber) (appKeysManagerReady sessionManagerReady : Bool)
  /-- `initDelegateManager` sets its manager; it may have begun before a `close`. -/
  | initDelegate
  | readMarker (load : Nat)
  | finishDelegate (load : Nat)
  | initSession
  | dropSession
  | initGroup
  | registerCurrentDevice
  | registerDeviceIdentity (identity : String)
  /-- The storage performs what the registration waits for. -/
  | settle (task : Nat)
  | resume (task : Nat)
  | confirm (task : Nat) (snapshot : Option RegistrationSnapshot)
      (update : AppKeysSnapshotDecision)
  /-- What the registration waits for is refused. -/
  | abort (task : Nat)
  | startSend (path : SendPath)
  | acquire (send : Nat)
  | perform (send : Nat)
  | failSend (send : Nat)
  | close
  /-- The process ends at any moment, and a new one opens the storage. -/
  | recreate

namespace GateWorld

def new (device : String) : GateWorld :=
  ⟨device, none, NdrRuntime.new, [], [], [], false, []⟩

def setPoint (world : GateWorld) (task : Nat) (identity : String) (point : RegistrationPoint) :
    GateWorld :=
  { world with registrations := world.registrations.set task ⟨identity, point⟩ }

def endTask (world : GateWorld) (task : Nat) : GateWorld :=
  { world with registrations := world.registrations.eraseIdx task }

def readMarker (world : GateWorld) (load : Nat) : GateWorld :=
  match world.loads[load]? with
  | some .reading => { world with loads := world.loads.set load (.read world.marker) }
  | _ => world

def finishDelegate (world : GateWorld) (load : Nat) : GateWorld :=
  match world.loads[load]? with
  | some (.read conflict) =>
      { world with
        runtime := world.runtime.finishDelegate world.device conflict
        loads := world.loads.eraseIdx load }
  | _ => world

/-- `registerCurrentDevice` up to the call that stores the marker. -/
def registerCurrentDevice (world : GateWorld) : GateWorld :=
  if world.runtime.delegateManager then
    { world with registrations := world.registrations ++
        [⟨world.device, .storing world.runtime.state.lastAppKeysCreatedAt⟩] }
  else world

def settle (world : GateWorld) (task : Nat) : GateWorld :=
  match world.registrations[task]? with
  | some ⟨identity, .storing value⟩ =>
      { world with marker := some value }.setPoint task identity .stored
  | some ⟨identity, .conflicting createdAt⟩ =>
      { world with marker := some createdAt }.setPoint task identity (.conflicted createdAt)
  | some ⟨identity, .removing⟩ => { world with marker := none }.setPoint task identity .removed
  | _ => world

/-- A registration goes on to its next await, or to its end. -/
def resume (world : GateWorld) (task : Nat) : GateWorld :=
  match world.registrations[task]? with
  | some ⟨identity, .stored⟩ =>
      { world with
        runtime := world.runtime.setConflict (some world.runtime.state.lastAppKeysCreatedAt)
        pending := true }.setPoint task identity .publishing
  | some ⟨identity, .publishing⟩ => world.setPoint task identity .confirming
  | some ⟨_, .conflicted createdAt⟩ =>
      { world with runtime := world.runtime.setConflict (some createdAt) }.endTask task
  | some ⟨_, .removed⟩ =>
      { world with runtime := world.runtime.setConflict none, pending := false }.endTask task
  | _ => world

/-- `confirmRegistration` once its snapshot is applied. -/
def confirm (world : GateWorld) (task : Nat) (snapshot : Option RegistrationSnapshot)
    (update : AppKeysSnapshotDecision) : GateWorld :=
  match world.registrations[task]? with
  | some ⟨identity, .confirming⟩ =>
      if confirms snapshot update world.runtime.state.registeredDevices identity then
        if some identity = world.runtime.state.currentDevicePubkey then
          world.setPoint task identity .removing
        else
          { world with
            runtime := world.runtime.syncState world.runtime.state
            pending := world.pending && identity ≠ world.device }.endTask task
      else
        if some identity = world.runtime.state.currentDevicePubkey then
          world.setPoint task identity (.conflicting world.runtime.state.lastAppKeysCreatedAt)
        else world.endTask task
  | _ => world

def abort (world : GateWorld) (task : Nat) : GateWorld :=
  match world.registrations[task]? with
  | some ⟨_, .stored⟩ | some ⟨_, .conflicted _⟩ | some ⟨_, .removed⟩ => world
  | _ => world.endTask task

/-- The manager that a sending operation waits for. -/
def managerReady (world : GateWorld) : SendPath → Bool
  | .pairwise => world.runtime.sessionManager
  | .group => world.runtime.groupManager

def acquire (world : GateWorld) (send : Nat) : GateWorld :=
  match world.sends[send]? with
  | some task =>
      if world.managerReady task.path then
        { world with sends := world.sends.set send { task with acquired := true } }
      else world
  | none => world

/-- An operation that has its manager: `withSessionManager` asks for the gate, the group
controller does not. -/
def perform (world : GateWorld) (send : Nat) : GateWorld :=
  match world.sends[send]? with
  | some task =>
      if task.acquired then
        let world := { world with sends := world.sends.eraseIdx send }
        if task.path = .pairwise ∧ world.runtime.registrationConflictCreatedAt.isSome then world
        else { world with performed := world.performed ++ [task] }
      else world
  | none => world

def step (world : GateWorld) : GateAction → GateWorld
  | .sync registeredDevices hasLocalAppKeys lastAppKeysCreatedAt appKeysManagerReady
      sessionManagerReady =>
      { world with runtime := world.runtime.syncState { world.runtime.state with
          registeredDevices, hasLocalAppKeys, lastAppKeysCreatedAt, appKeysManagerReady,
          sessionManagerReady } }
  | .initDelegate =>
      { world with
        runtime := { world.runtime with delegateManager := true }
        loads := world.loads ++ [.reading] }
  | .readMarker load => world.readMarker load
  | .finishDelegate load => world.finishDelegate load
  | .initSession =>
      { world with runtime := { world.runtime with
          sessionManager := world.runtime.sessionManager || world.runtime.delegateManager } }
  | .dropSession => { world with runtime := { world.runtime with sessionManager := false } }
  | .initGroup =>
      { world with runtime := { world.runtime with
          groupManager := world.runtime.groupManager || world.runtime.sessionManager } }
  | .registerCurrentDevice => world.registerCurrentDevice
  | .registerDeviceIdentity identity =>
      { world with registrations := world.registrations ++ [⟨identity, .publishing⟩] }
  | .settle task => world.settle task
  | .resume task => world.resume task
  | .confirm task snapshot update => world.confirm task snapshot update
  | .abort task => world.abort task
  | .startSend path => { world with sends := world.sends ++ [⟨path, world.pending, false⟩] }
  | .acquire send => world.acquire send
  | .perform send => world.perform send
  | .failSend send => { world with sends := world.sends.eraseIdx send }
  | .close => { world with runtime := world.runtime.close }
  | .recreate => { world with
      runtime := NdrRuntime.new, loads := [], registrations := [], sends := [] }

def run (world : GateWorld) (actions : List GateAction) : GateWorld :=
  actions.foldl step world

/-! Which steps keep the gate, and what they keep. -/

/-- The gate as the state shows it while a registration is pending, and the operations started
meanwhile: none has gone on with its manager. -/
structure Gated (world : GateWorld) : Prop where
  closed : world.pending → (truthy world.runtime.state.currentDevicePubkey).isSome →
    world.runtime.state.registration.isCurrentDeviceRegistered = false ∧
      world.runtime.state.registration.canSendPrivateMessages = false
  refused : ∀ task ∈ world.performed, task.gated = false

/-- No registration has removed the marker without having returned yet. -/
def NoneRemoved (world : GateWorld) : Prop :=
  ∀ task ∈ world.registrations, task.point ≠ .removed

/-- What the storage may be asked to do: the value of a marker is one that is read back, and no
marker is removed that another registration has just stored. -/
def Settles (world : GateWorld) (task : RegistrationTask) : Prop :=
  match task.point with
  | .storing value => (storedConflict (some value)).isSome
  | .conflicting createdAt => (storedConflict (some createdAt)).isSome
  | .removing => ∀ other ∈ world.registrations, other.point ≠ .stored
  | _ => True

/-- The steps under which the gate holds. -/
def Allowed (world : GateWorld) : GateAction → Prop
  | .startSend .group => world.pending = false
  | .perform send => ∀ task ∈ world.sends[send]?, task.path = .pairwise → task.acquired →
      task.gated → world.loads = [] ∧ world.pending
  | .settle task => ∀ registration ∈ world.registrations[task]?, world.Settles registration
  | .resume task => ∀ registration ∈ world.registrations[task]?,
      registration.point = .stored → world.loads = []
  | .readMarker _ => world.NoneRemoved
  | .recreate => world.NoneRemoved
  | _ => True

def AllowedRun (world : GateWorld) : List GateAction → Prop
  | [] => True
  | action :: rest => world.Allowed action ∧ (world.step action).AllowedRun rest

/-- A manager has been set since the process began. -/
def Begun (world : GateWorld) : Prop :=
  world.runtime.delegateManager ∨ world.runtime.sessionManager ∨
    ∃ task ∈ world.sends, task.path = .pairwise ∧ task.acquired

/-- The invariant. The marker is stored until the registration that removes it returns, and the
field is set wherever the marker has been loaded. -/
structure Held (world : GateWorld) : Prop where
  derived : world.runtime.registrationConflictCreatedAt.isSome →
    (truthy world.runtime.state.currentDevicePubkey).isSome →
      world.runtime.state.registration.isCurrentDeviceRegistered = false ∧
        world.runtime.state.registration.canSendPrivateMessages = false
  marker : world.pending → (∃ task ∈ world.registrations, task.point = .removed) ∨
    (storedConflict world.marker).isSome
  justStored : (∃ task ∈ world.registrations, task.point = .stored) →
    (storedConflict world.marker).isSome
  loads : ∀ conflict, .read conflict ∈ world.loads → world.pending →
    (storedConflict conflict).isSome
  known : world.runtime.state.currentDevicePubkey.isSome → world.pending →
    world.runtime.registrationConflictCreatedAt.isSome
  begun : world.Begun → world.pending → world.loads = [] →
    world.runtime.registrationConflictCreatedAt.isSome
  groups : ∀ task ∈ world.sends, task.path = .group → task.gated = false
  refused : ∀ task ∈ world.performed, task.gated = false

theorem Held.gated {world : GateWorld} (h : world.Held) : world.Gated := by
  refine ⟨?_, h.refused⟩
  intro hpending hknown
  have hsome : world.runtime.state.currentDevicePubkey.isSome := by
    cases hcurrent : world.runtime.state.currentDevicePubkey with
    | none => rw [hcurrent] at hknown; exact hknown
    | some _ => rfl
  exact h.derived (h.known hsome hpending) hknown

theorem held_new (device : String) : (new device).Held := by
  refine ⟨?_, ?_, ?_, ?_, ?_, ?_, ?_, ?_⟩
  · intro hconflict
    cases hconflict
  · intro hpending
    cases hpending
  · rintro ⟨task, hmem, -⟩
    cases hmem
  · intro conflict hmem
    cases hmem
  · intro hknown
    cases hknown
  · intro _ hpending
    cases hpending
  · intro task hmem
    cases hmem
  · intro task hmem
    cases hmem

theorem exists_mem_set {α : Type} {l : List α} {i : Nat} {a b : α} (hget : l[i]? = some a)
    {p : α → Prop} (hp : p a → p b) (h : ∃ x ∈ l, p x) : ∃ x ∈ l.set i b, p x := by
  obtain ⟨x, hmem, hx⟩ := h
  obtain ⟨j, hj, rfl⟩ := List.mem_iff_getElem.mp hmem
  obtain ⟨hi, hia⟩ := List.getElem?_eq_some_iff.mp hget
  by_cases hij : i = j
  · subst hij
    rw [hia] at hx
    exact ⟨b, List.mem_set hi b, hp hx⟩
  · refine ⟨l[j], List.mem_iff_getElem.mpr ⟨j, by rwa [List.length_set], ?_⟩, hx⟩
    exact List.getElem_set_ne hij _

theorem exists_mem_eraseIdx {α : Type} {l : List α} {i : Nat} {a : α} (hget : l[i]? = some a)
    {p : α → Prop} (hp : ¬ p a) (h : ∃ x ∈ l, p x) : ∃ x ∈ l.eraseIdx i, p x := by
  obtain ⟨x, hmem, hx⟩ := h
  obtain ⟨j, hj⟩ := List.mem_iff_getElem?.mp hmem
  refine ⟨x, List.mem_eraseIdx_iff_getElem?.mpr ⟨j, ?_, hj⟩, hx⟩
  rintro rfl
  rw [hget] at hj
  exact hp (Option.some.inj hj ▸ hx)

theorem exists_of_mem_set {α : Type} {l : List α} {i : Nat} {b : α} {p : α → Prop}
    (hp : ¬ p b) (h : ∃ x ∈ l.set i b, p x) : ∃ x ∈ l, p x := by
  obtain ⟨x, hmem, hx⟩ := h
  rcases List.mem_or_eq_of_mem_set hmem with hold | rfl
  · exact ⟨x, hold, hx⟩
  · exact absurd hx hp

theorem exists_of_mem_eraseIdx {α : Type} {l : List α} {i : Nat} {p : α → Prop}
    (h : ∃ x ∈ l.eraseIdx i, p x) : ∃ x ∈ l, p x := by
  obtain ⟨x, hmem, hx⟩ := h
  exact ⟨x, List.mem_of_mem_eraseIdx hmem, hx⟩

section Steps

variable {world : GateWorld}

/-- A registration moves between two awaits, and nothing else changes. -/
theorem held_setPoint (h : world.Held) {task : Nat} {old : RegistrationTask}
    (hget : world.registrations[task]? = some old) {identity : String} {point : RegistrationPoint}
    (hold : old.point ≠ .removed) (hpoint : point ≠ .stored) :
    (world.setPoint task identity point).Held := by
  refine ⟨h.derived, ?_, ?_, h.loads, h.known, h.begun, h.groups, h.refused⟩
  · intro hpending
    exact (h.marker hpending).imp_left (exists_mem_set hget (fun hremoved => absurd hremoved hold))
  · intro hstored
    exact h.justStored (exists_of_mem_set hpoint hstored)

theorem held_endTask (h : world.Held) {task : Nat} {old : RegistrationTask}
    (hget : world.registrations[task]? = some old) (hold : old.point ≠ .removed) :
    (world.endTask task).Held := by
  refine ⟨h.derived, ?_, ?_, h.loads, h.known, h.begun, h.groups, h.refused⟩
  · intro hpending
    exact (h.marker hpending).imp_left (exists_mem_eraseIdx hget hold)
  · intro hstored
    exact h.justStored (exists_of_mem_eraseIdx hstored)

/-- With no registration pending there is nothing to keep but what the storage holds. -/
theorem held_of_not_pending {next : GateWorld} (hpending : next.pending = false)
    (hderived : next.runtime.registrationConflictCreatedAt.isSome →
      (truthy next.runtime.state.currentDevicePubkey).isSome →
        next.runtime.state.registration.isCurrentDeviceRegistered = false ∧
          next.runtime.state.registration.canSendPrivateMessages = false)
    (hstored : (∃ task ∈ next.registrations, task.point = .stored) →
      (storedConflict next.marker).isSome)
    (hgroups : ∀ task ∈ next.sends, task.path = .group → task.gated = false)
    (hrefused : ∀ task ∈ next.performed, task.gated = false) : next.Held := by
  have hnot : ¬ next.pending = true := by
    rw [hpending]
    exact Bool.false_ne_true
  exact ⟨hderived, fun h => absurd h hnot, hstored, fun _ _ h => absurd h hnot,
    fun _ h => absurd h hnot, fun _ h => absurd h hnot, hgroups, hrefused⟩

theorem held_sync (h : world.Held) (nextState : NdrRuntimeState)
    (hcurrent : nextState.currentDevicePubkey = world.runtime.state.currentDevicePubkey) :
    Held { world with runtime := world.runtime.syncState nextState } := by
  refine ⟨world.runtime.registration_syncState nextState, h.marker, h.justStored, h.loads, ?_,
    h.begun, h.groups, h.refused⟩
  intro hknown
  exact h.known (hcurrent ▸ hknown)

theorem held_initDelegate (h : world.Held) : (world.step .initDelegate).Held := by
  refine ⟨h.derived, h.marker, h.justStored, ?_, h.known, ?_, h.groups, h.refused⟩
  · intro conflict hmem
    rcases List.mem_append.mp hmem with hmem | hmem
    · exact h.loads conflict hmem
    · cases List.mem_singleton.mp hmem
  · intro _ _ hloads
    exact absurd hloads (List.append_ne_nil_of_right_ne_nil _ (List.cons_ne_nil _ _))

theorem held_readMarker (h : world.Held) (load : Nat) (hnone : world.NoneRemoved) :
    (world.readMarker load).Held := by
  unfold readMarker
  split
  · rename_i hget
    refine ⟨h.derived, h.marker, h.justStored, ?_, h.known, ?_, h.groups, h.refused⟩
    · intro conflict hmem hpending
      rcases List.mem_or_eq_of_mem_set hmem with hmem | heq
      · exact h.loads conflict hmem hpending
      · cases heq
        rcases h.marker hpending with ⟨task, hmem, hremoved⟩ | hmarker
        · exact absurd hremoved (hnone task hmem)
        · exact hmarker
    · intro _ _ hloads
      rw [List.set_eq_nil_iff] at hloads
      rw [hloads] at hget
      cases hget
  · exact h

theorem held_finishDelegate (h : world.Held) (load : Nat) : (world.finishDelegate load).Held := by
  unfold finishDelegate
  split
  · rename_i conflict hget
    have hconflict : world.pending → (storedConflict conflict).isSome :=
      h.loads conflict (List.mem_of_getElem? hget)
    refine ⟨NdrRuntime.registration_syncState _ _, h.marker, h.justStored, ?_, ?_, ?_, h.groups,
      h.refused⟩
    · intro other hmem
      exact h.loads other (List.mem_of_mem_eraseIdx hmem)
    · intro _ hpending
      exact hconflict hpending
    · intro _ hpending _
      exact hconflict hpending
  · exact h

theorem held_initSession (h : world.Held) : (world.step .initSession).Held := by
  refine ⟨h.derived, h.marker, h.justStored, h.loads, h.known, ?_, h.groups, h.refused⟩
  rintro (hdelegate | hsession | hsend)
  · exact h.begun (Or.inl hdelegate)
  · rcases Bool.or_eq_true _ _ ▸ hsession with hsession | hdelegate
    · exact h.begun (Or.inr (Or.inl hsession))
    · exact h.begun (Or.inl hdelegate)
  · exact h.begun (Or.inr (Or.inr hsend))

theorem held_dropSession (h : world.Held) : (world.step .dropSession).Held := by
  refine ⟨h.derived, h.marker, h.justStored, h.loads, h.known, ?_, h.groups, h.refused⟩
  rintro (hdelegate | hsession | hsend)
  · exact h.begun (Or.inl hdelegate)
  · cases hsession
  · exact h.begun (Or.inr (Or.inr hsend))

theorem held_begin (h : world.Held) (task : RegistrationTask) (hpoint : task.point ≠ .stored) :
    Held { world with registrations := world.registrations ++ [task] } := by
  refine ⟨h.derived, ?_, ?_, h.loads, h.known, h.begun, h.groups, h.refused⟩
  · intro hpending
    exact (h.marker hpending).imp_left
      (fun ⟨old, hmem, hold⟩ => ⟨old, List.mem_append_left _ hmem, hold⟩)
  · rintro ⟨old, hmem, hold⟩
    rcases List.mem_append.mp hmem with hmem | hmem
    · exact h.justStored ⟨old, hmem, hold⟩
    · rw [List.mem_singleton.mp hmem] at hold
      exact absurd hold hpoint

theorem held_registerCurrentDevice (h : world.Held) : world.registerCurrentDevice.Held := by
  unfold registerCurrentDevice
  split
  · exact held_begin h _ (by simp)
  · exact h

/-- A marker that is read back is stored. -/
theorem held_marker (h : world.Held) {value : JsNumber}
    (hvalue : (storedConflict (some value)).isSome) : Held { world with marker := some value } :=
  ⟨h.derived, fun _ => Or.inr hvalue, fun _ => hvalue, h.loads, h.known, h.begun, h.groups,
    h.refused⟩

theorem held_settle (h : world.Held) (task : Nat)
    (hallowed : ∀ registration ∈ world.registrations[task]?, world.Settles registration) :
    (world.settle task).Held := by
  unfold settle
  split
  · rename_i identity value hget
    have hvalue : (storedConflict (some value)).isSome := hallowed _ hget
    have hmarker := held_marker h hvalue
    refine ⟨h.derived, fun _ => Or.inr hvalue, fun _ => hvalue, h.loads, h.known, h.begun,
      h.groups, h.refused⟩
  · rename_i identity createdAt hget
    have hvalue : (storedConflict (some createdAt)).isSome := hallowed _ hget
    exact held_setPoint (held_marker h hvalue) hget (by simp) (by simp)
  · rename_i identity hget
    have hnone : ∀ other ∈ world.registrations, other.point ≠ .stored := hallowed _ hget
    refine ⟨h.derived, ?_, ?_, h.loads, h.known, h.begun, h.groups, h.refused⟩
    · intro _
      obtain ⟨hlt, -⟩ := List.getElem?_eq_some_iff.mp hget
      exact Or.inl ⟨_, List.mem_set hlt _, rfl⟩
    · intro hstored
      obtain ⟨other, hmem, hother⟩ := exists_of_mem_set (by simp) hstored
      exact absurd hother (hnone other hmem)
  · exact h

theorem held_resume (h : world.Held) (task : Nat)
    (hallowed : ∀ registration ∈ world.registrations[task]?, registration.point = .stored →
      world.loads = []) : (world.resume task).Held := by
  unfold resume
  split
  · rename_i identity hget
    have hloads : world.loads = [] := hallowed _ hget rfl
    have hmarker : (storedConflict world.marker).isSome :=
      h.justStored ⟨_, List.mem_of_getElem? hget, rfl⟩
    refine ⟨NdrRuntime.registration_syncState _ _, fun _ => Or.inr hmarker, fun _ => hmarker, ?_,
      fun _ _ => rfl, fun _ _ _ => rfl, h.groups, h.refused⟩
    intro conflict hmem
    change _ ∈ world.loads at hmem
    rw [hloads] at hmem
    cases hmem
  · rename_i identity hget
    exact held_setPoint h hget (by simp) (by simp)
  · rename_i identity createdAt hget
    refine ⟨NdrRuntime.registration_syncState _ _, ?_, ?_, h.loads, fun _ _ => rfl,
      fun _ _ _ => rfl, h.groups, h.refused⟩
    · intro hpending
      exact (h.marker hpending).imp_left (exists_mem_eraseIdx hget (by simp))
    · intro hstored
      exact h.justStored (exists_of_mem_eraseIdx hstored)
  · rename_i identity hget
    refine held_of_not_pending rfl (NdrRuntime.registration_syncState _ _) ?_ h.groups h.refused
    intro hstored
    exact h.justStored (exists_of_mem_eraseIdx hstored)
  · exact h

theorem held_confirm (h : world.Held) (task : Nat) (snapshot : Option RegistrationSnapshot)
    (update : AppKeysSnapshotDecision) : (world.confirm task snapshot update).Held := by
  unfold confirm
  split
  · rename_i identity hget
    split
    · split
      · exact held_setPoint h hget (by simp) (by simp)
      · have hended := held_endTask (held_sync h world.runtime.state rfl) hget (by simp)
        by_cases hid : identity = world.device
        · exact held_of_not_pending (by simp [endTask, hid]) hended.derived hended.justStored
            hended.groups hended.refused
        · have hsame : (world.pending && decide (identity ≠ world.device)) = world.pending := by
            simp [hid]
          rw [hsame]
          exact hended
    · split
      · exact held_setPoint h hget (by simp) (by simp)
      · exact held_endTask h hget (by simp)
  · exact h

theorem held_abort (h : world.Held) (task : Nat) : (world.abort task).Held := by
  unfold abort
  split
  · exact h
  · exact h
  · exact h
  · rename_i hstored hconflicted hremoved
    cases hget : world.registrations[task]? with
    | none =>
        rw [endTask, List.eraseIdx_of_length_le (List.getElem?_eq_none_iff.mp hget)]
        exact h
    | some old =>
        refine held_endTask h hget ?_
        intro hpoint
        obtain ⟨identity, point⟩ := old
        subst hpoint
        exact hremoved identity hget

theorem held_acquire (h : world.Held) (send : Nat) : (world.acquire send).Held := by
  unfold acquire
  split
  · rename_i task hget
    split
    · rename_i hready
      refine ⟨h.derived, h.marker, h.justStored, h.loads, h.known, ?_, ?_, h.refused⟩
      · rintro (hdelegate | hsession | ⟨other, hmem, hpath, hacquired⟩)
        · exact h.begun (Or.inl hdelegate)
        · exact h.begun (Or.inr (Or.inl hsession))
        · rcases List.mem_or_eq_of_mem_set hmem with hmem | rfl
          · exact h.begun (Or.inr (Or.inr ⟨other, hmem, hpath, hacquired⟩))
          · have hpairwise : task.path = .pairwise := hpath
            rw [hpairwise] at hready
            exact h.begun (Or.inr (Or.inl hready))
      · intro other hmem hpath
        rcases List.mem_or_eq_of_mem_set hmem with hmem | rfl
        · exact h.groups other hmem hpath
        · exact h.groups task (List.mem_of_getElem? hget) hpath
    · exact h
  · exact h

/-- Fewer operations are under way. -/
theorem held_eraseSend (h : world.Held) (send : Nat) :
    Held { world with sends := world.sends.eraseIdx send } := by
  refine ⟨h.derived, h.marker, h.justStored, h.loads, h.known, ?_, ?_, h.refused⟩
  · rintro (hdelegate | hsession | hsend)
    · exact h.begun (Or.inl hdelegate)
    · exact h.begun (Or.inr (Or.inl hsession))
    · exact h.begun (Or.inr (Or.inr (exists_of_mem_eraseIdx hsend)))
  · intro task hmem
    exact h.groups task (List.mem_of_mem_eraseIdx hmem)

theorem held_perform (h : world.Held) (send : Nat)
    (hallowed : ∀ task ∈ world.sends[send]?, task.path = .pairwise → task.acquired →
      task.gated → world.loads = [] ∧ world.pending) : (world.perform send).Held := by
  unfold perform
  split
  · rename_i task hget
    split
    · rename_i hacquired
      have herased := held_eraseSend h send
      dsimp only
      split
      · exact herased
      · rename_i hopen
        refine ⟨herased.derived, herased.marker, herased.justStored, herased.loads, herased.known,
          herased.begun, herased.groups, ?_⟩
        intro other hmem
        rcases List.mem_append.mp hmem with hmem | hmem
        · exact h.refused other hmem
        · rw [List.mem_singleton.mp hmem]
          cases hpath : task.path with
          | group => exact h.groups task (List.mem_of_getElem? hget) hpath
          | pairwise =>
              cases hgated : task.gated with
              | false => rfl
              | true =>
                  -- the field is set, so the operation was refused
                  obtain ⟨hloads, hpending⟩ := hallowed task hget hpath hacquired hgated
                  have hbegun : world.Begun :=
                    Or.inr (Or.inr ⟨task, List.mem_of_getElem? hget, hpath, hacquired⟩)
                  exact absurd ⟨hpath, h.begun hbegun hpending hloads⟩ hopen
    · exact h
  · exact h

theorem held_startSend (h : world.Held) (path : SendPath)
    (hallowed : path = .group → world.pending = false) : (world.step (.startSend path)).Held := by
  refine ⟨h.derived, h.marker, h.justStored, h.loads, h.known, ?_, ?_, h.refused⟩
  · rintro (hdelegate | hsession | ⟨task, hmem, hpath, hacquired⟩)
    · exact h.begun (Or.inl hdelegate)
    · exact h.begun (Or.inr (Or.inl hsession))
    · rcases List.mem_append.mp hmem with hmem | hmem
      · exact h.begun (Or.inr (Or.inr ⟨task, hmem, hpath, hacquired⟩))
      · rw [List.mem_singleton.mp hmem] at hacquired
        cases hacquired
  · intro task hmem hpath
    rcases List.mem_append.mp hmem with hmem | hmem
    · exact h.groups task hmem hpath
    · rw [List.mem_singleton.mp hmem] at hpath ⊢
      exact hallowed hpath

theorem held_close (h : world.Held) : (world.step .close).Held := by
  refine ⟨NdrRuntime.registration_syncState _ _, h.marker, h.justStored, h.loads, ?_, ?_,
    h.groups, h.refused⟩
  · intro hknown
    cases hknown
  · rintro (hdelegate | hsession | hsend)
    · cases hdelegate
    · cases hsession
    · exact h.begun (Or.inr (Or.inr hsend))

theorem held_recreate (h : world.Held) (hnone : world.NoneRemoved) :
    (world.step .recreate).Held := by
  refine ⟨?_, ?_, ?_, ?_, ?_, ?_, ?_, h.refused⟩
  · intro hconflict
    cases hconflict
  · intro hpending
    rcases h.marker hpending with ⟨task, hmem, hremoved⟩ | hmarker
    · exact absurd hremoved (hnone task hmem)
    · exact Or.inr hmarker
  · rintro ⟨task, hmem, -⟩
    cases hmem
  · intro conflict hmem
    cases hmem
  · intro hknown
    cases hknown
  · rintro (hdelegate | hsession | ⟨task, hmem, -⟩)
    · cases hdelegate
    · cases hsession
    · cases hmem
  · intro task hmem
    cases hmem

/-- An allowed step keeps the gate. -/
theorem held_step (h : world.Held) (action : GateAction) (hallowed : world.Allowed action) :
    (world.step action).Held := by
  cases action with
  | sync registeredDevices hasLocalAppKeys lastAppKeysCreatedAt appKeysManagerReady ready =>
      exact held_sync h _ rfl
  | initDelegate => exact held_initDelegate h
  | readMarker load => exact held_readMarker h load hallowed
  | finishDelegate load => exact held_finishDelegate h load
  | initSession => exact held_initSession h
  | dropSession => exact held_dropSession h
  | initGroup => exact ⟨h.derived, h.marker, h.justStored, h.loads, h.known, h.begun, h.groups,
      h.refused⟩
  | registerCurrentDevice => exact held_registerCurrentDevice h
  | registerDeviceIdentity identity => exact held_begin h _ (by simp)
  | settle task => exact held_settle h task hallowed
  | resume task => exact held_resume h task hallowed
  | confirm task snapshot update => exact held_confirm h task snapshot update
  | abort task => exact held_abort h task
  | startSend path =>
      refine held_startSend h path ?_
      rintro rfl
      exact hallowed
  | acquire send => exact held_acquire h send
  | perform send => exact held_perform h send hallowed
  | failSend send => exact held_eraseSend h send
  | close => exact held_close h
  | recreate => exact held_recreate h hallowed

end Steps

theorem held_run {world : GateWorld} (h : world.Held) (actions : List GateAction)
    (hallowed : world.AllowedRun actions) : (world.run actions).Held := by
  induction actions generalizing world with
  | nil => exact h
  | cons action rest ih => exact ih (held_step h action hallowed.1) hallowed.2

/-- A start-up with its session manager, and the current device begins to register. -/
def registering : List GateAction :=
  [.initDelegate, .readMarker 0, .finishDelegate 0, .initSession, .initGroup,
    .registerCurrentDevice, .settle 0, .resume 0]

end GateWorld

end NostrDoubleRatchet.TypeScript
