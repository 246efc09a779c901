import NostrDoubleRatchet.TypeScript.GroupSender

/-!
Whom the group manager takes an outer event from. As long as nobody but the sender itself
announces its sender-event key, the manager routes that key to the sender's group and device,
and the sender's machine runs inside the manager whatever else arrives.
-/

namespace NostrDoubleRatchet.TypeScript

namespace SenderIdentity

variable {K T : Type}

/-- Another group, in which nobody has the sender's key. -/
structure Avoids (id : SenderIdentity) (opened : OpenGroup K) : Prop where
  other : opened.group.record.data.id ≠ id.group
  mapped : ∀ device, opened.group.senderDeviceToEvent.get? device ≠ some id.eventKey
  stored : ∀ device, (opened.store.folder device).senderEventPubkey ≠ some id.eventKey
  keyed : ∀ p ∈ opened.group.pendingOuter, p.senderEventPubkey = p.outer.pubkey

section Avoiding

variable {id : SenderIdentity}

theorem mapped_ne_loadSender {group : Group} {device : String} {folder : SenderFolder K}
    (h : ∀ device, group.senderDeviceToEvent.get? device ≠ some id.eventKey)
    (hfolder : folder.senderEventPubkey ≠ some id.eventKey) (other : String) :
    (OpenGroup.loadSender group device folder).senderDeviceToEvent.get? other ≠
      some id.eventKey := by
  have hset : ∀ event, folder.senderEventPubkey = some event →
      (group.setSenderEventMapping device event).senderDeviceToEvent.get? other ≠
        some id.eventKey := by
    intro event hevent heq
    change (group.senderDeviceToEvent.insert device event).get? other = _ at heq
    rw [SortedMap.get?_insert] at heq
    split at heq
    · exact hfolder (hevent.trans heq)
    · exact h other heq
  unfold OpenGroup.loadSender
  split
  · exact h other
  · dsimp only
    cases hevent : folder.senderEventPubkey with
    | none =>
        cases folder.senderOwnerPubkey with
        | none => exact h other
        | some owner => exact h other
    | some event =>
        dsimp only
        cases folder.senderOwnerPubkey with
        | none =>
            dsimp only
            split
            · exact hset event hevent
            · exact h other
        | some owner =>
            dsimp only
            split
            · exact hset event hevent
            · exact h other

theorem avoids_init {self : OpenGroup K} (h : id.Avoids self) : id.Avoids self.init := by
  refine ⟨?_, ?_, by rw [store_init]; exact h.stored, by rw [pendingOuter_init]; exact h.keyed⟩
  · rw [OpenGroup.record_init]
    exact h.other
  · have hentries : ∀ entry ∈ self.store.entries,
        entry.2.senderEventPubkey ≠ some id.eventKey := by
      intro entry hentry
      have hget : self.store.get? entry.1 = some entry.2 := SortedMap.mem_entries.mp hentry
      have hstored := h.stored entry.1
      rw [GroupStore.folder, hget] at hstored
      exact hstored
    unfold OpenGroup.init
    split
    · exact h.mapped
    · dsimp only
      have hstart : ∀ device, ({ self.group with initialized := true } :
          Group).senderDeviceToEvent.get? device ≠ some id.eventKey := h.mapped
      generalize ({ self.group with initialized := true } : Group) = group at hstart
      clear h
      generalize self.store.entries = entries at hentries
      induction entries generalizing group with
      | nil => exact hstart
      | cons entry rest ih =>
          exact ih _ (mapped_ne_loadSender hstart (hentries entry List.mem_cons_self))
            (fun e he => hentries e (List.mem_cons_of_mem _ he))

theorem avoids_removeSenderDeviceState {self : OpenGroup K} (h : id.Avoids self)
    (device : String) : id.Avoids (self.removeSenderDeviceState device) := by
  refine ⟨h.other, ?_, ?_, fun p hp => h.keyed p (List.mem_filter.mp hp).1⟩
  · intro other hother
    change (self.group.senderDeviceToEvent.erase device).get? other = _ at hother
    rw [SortedMap.get?_erase] at hother
    split at hother
    · cases hother
    · exact h.mapped other hother
  · intro other hother
    change (((self.store.erase device).get? other).getD SenderFolder.empty).senderEventPubkey =
      _ at hother
    rw [SortedMap.get?_erase] at hother
    split at hother
    · cases hother
    · exact h.stored other hother

theorem avoids_purgeInactiveSenders {self : OpenGroup K} (h : id.Avoids self) :
    id.Avoids self.purgeInactiveSenders := by
  unfold OpenGroup.purgeInactiveSenders
  dsimp only
  generalize (self.group.senderDeviceToEvent.keys ++ self.group.senderDeviceToOwner.keys ++
    self.group.senderEventToDevice.values).dedup = candidates
  induction candidates generalizing self with
  | nil => exact h
  | cons device rest ih =>
      rw [List.foldl_cons]
      split
      · exact ih h
      · exact ih (avoids_removeSenderDeviceState h device)

theorem avoids_queuePending {self : OpenGroup K} (h : id.Avoids self) (keyId : Option Nat)
    (outer : VerifiedEvent) :
    id.Avoids { self with group := self.group.queuePending outer.pubkey keyId outer } := by
  refine ⟨h.other, h.mapped, h.stored, ?_⟩
  intro p hp
  rcases List.mem_append.mp hp with hp | hp
  · exact h.keyed p hp
  · rw [List.mem_singleton.mp hp]

/-- A change of a folder that is not about its sender-event key. -/
theorem avoids_put {self : OpenGroup K} (h : id.Avoids self) (device : String)
    (change : SenderFolder K → SenderFolder K)
    (hchange : ∀ folder : SenderFolder K, folder.senderEventPubkey ≠ some id.eventKey →
      (change folder).senderEventPubkey ≠ some id.eventKey) :
    id.Avoids { self with store := self.store.put device change } := by
  refine ⟨h.other, h.mapped, ?_, h.keyed⟩
  intro other
  rw [GroupStore.folder_put]
  split
  · exact hchange _ (h.stored device)
  · exact h.stored other

theorem avoids_saveSenderKeyState {self : OpenGroup K} (h : id.Avoids self) (device : String)
    (state : SenderKeyState K) : id.Avoids (self.saveSenderKeyState device state) :=
  avoids_put h device _ (fun _ hfolder => hfolder)

theorem avoids_learnSender {self : OpenGroup K} (h : id.Avoids self) (device owner : String)
    {event : Option String} (hevent : event ≠ some id.eventKey) :
    id.Avoids (self.learnSender device owner event) := by
  have howner : id.Avoids (self.learnSenderOwner device owner) := by
    have hput := avoids_put h device (fun folder =>
      { folder with senderOwnerPubkey := some owner }) (fun _ hfolder => hfolder)
    exact ⟨hput.other, hput.mapped, hput.stored, hput.keyed⟩
  cases event with
  | none => exact howner
  | some event =>
      have hput := avoids_put howner device (fun folder =>
        { folder with senderEventPubkey := some event }) (fun _ _ => hevent)
      refine ⟨hput.other, ?_, hput.stored, hput.keyed⟩
      intro other hother
      change (self.group.senderDeviceToEvent.insert device event).get? other = _ at hother
      rw [SortedMap.get?_insert] at hother
      split at hother
      · exact hevent hother
      · exact h.mapped other hother

section Receiving

variable [Primitives K T] [GroupCodec K T]

theorem avoids_handleOuterEvent {self : OpenGroup K} (h : id.Avoids self)
    (outer : VerifiedEvent) : id.Avoids (self.handleOuterEvent (T := T) outer).2 := by
  have hpurged := avoids_purgeInactiveSenders (avoids_init h)
  unfold OpenGroup.handleOuterEvent
  generalize self.init.purgeInactiveSenders = self at hpurged
  dsimp only
  split
  · exact hpurged
  split
  · exact hpurged
  split
  · exact hpurged
  split
  · exact avoids_queuePending hpurged _ outer
  split
  · exact hpurged
  split
  · exact avoids_removeSenderDeviceState hpurged _
  · unfold OpenGroup.handleSenderOuter
    split
    · exact avoids_queuePending hpurged _ outer
    · exact hpurged
    · dsimp only
      split
      · exact hpurged
      · exact hpurged
      · exact avoids_saveSenderKeyState hpurged _ _

theorem avoids_handleOuterEvents {outers : List VerifiedEvent} {self : OpenGroup K}
    (h : id.Avoids self) : id.Avoids (OpenGroup.handleOuterEvents (T := T) outers self).2 := by
  induction outers generalizing self with
  | nil => exact h
  | cons outer rest ih =>
      have hfirst := avoids_handleOuterEvent (T := T) h outer
      rw [OpenGroup.handleOuterEvents]
      generalize self.handleOuterEvent (T := T) outer = first at hfirst ⊢
      obtain ⟨_ | decrypted, next⟩ := first
      · exact hfirst
      · have hrest := ih hfirst
        dsimp only at hrest ⊢
        generalize OpenGroup.handleOuterEvents (T := T) rest next = last at hrest ⊢
        obtain ⟨_ | events, last⟩ := last
        · exact hrest
        · exact hrest

theorem avoids_drainPending {self : OpenGroup K} (h : id.Avoids self) (event : String)
    (keyId : Nat) : id.Avoids (self.drainPending (T := T) event keyId).2 := by
  unfold OpenGroup.drainPending
  dsimp only
  split
  · exact h
  · apply avoids_handleOuterEvents
    exact ⟨h.other, h.mapped, h.stored, fun p hp => h.keyed p (List.mem_filter.mp hp).1⟩

theorem avoids_handleDistribution {self : OpenGroup K} (h : id.Avoids self)
    {dist : SenderKeyDistribution} (hevent : dist.senderEventPubkey ≠ some id.eventKey)
    (owner device : String) :
    id.Avoids (self.handleDistribution (T := T) dist owner device).2 := by
  have hfilter : dist.senderEventPubkey.filter isHex64 ≠ some id.eventKey := by
    intro heq
    exact hevent (Option.filter_eq_some_iff.mp heq).1
  have hlearn := avoids_learnSender h device owner hfilter
  have hstored : ∀ next, (self.learnSender device owner
      (dist.senderEventPubkey.filter isHex64)).storeDistributedKey (T := T) dist device = .ok next →
      id.Avoids next := by
    intro next hrun
    unfold OpenGroup.storeDistributedKey at hrun
    split at hrun
    · cases hrun
      exact hlearn
    · split at hrun
      · cases hrun
      · cases hrun
        exact avoids_saveSenderKeyState hlearn device _
  unfold OpenGroup.handleDistribution
  dsimp only
  split
  · exact hlearn
  · rename_i hrun _
    exact avoids_drainPending (hstored _ hrun) _ _
  · rename_i hrun _
    exact hstored _ hrun

/-- A rumor for another group: its key stays out of there, and nothing of it is released. -/
theorem avoids_handleIncomingSessionEvent {self : OpenGroup K} (h : id.Avoids self)
    {pending : PendingSessionEvent} (hrespects : id.RespectsSession (K := K) (T := T) pending) :
    id.Avoids (self.handleIncomingSessionEvent (T := T) pending.event pending.fromOwnerPubkey
        pending.fromSenderDevicePubkey).2 ∧
      ∀ events, (self.handleIncomingSessionEvent (T := T) pending.event
        pending.fromOwnerPubkey pending.fromSenderDevicePubkey).1 = .ok events →
        ∀ event ∈ events, event.senderEventPubkey ≠ id.eventKey := by
  have hsilent : ∀ events : List GroupDecryptedEvent, (Except.ok [] : Except String _) =
      .ok events → ∀ event ∈ events, event.senderEventPubkey ≠ id.eventKey := by
    intro events hevents event hmem
    cases hevents
    cases hmem
  replace h := avoids_init h
  unfold OpenGroup.handleIncomingSessionEvent
  generalize self.init = self at h
  dsimp only
  split
  · exact ⟨h, hsilent⟩
  split
  · exact ⟨h, hsilent⟩
  split
  · split
    · exact ⟨h, fun events hevents => by cases hevents⟩
    · exact ⟨h, hsilent⟩
    · split
      · exact ⟨h, hsilent⟩
      · split
        · exact ⟨h, hsilent⟩
        · rename_i device hcontrol
          refine ⟨h, fun events hevents event hmem => ?_⟩
          cases hevents
          rw [List.mem_singleton.mp hmem]
          have hspeaker := hrespects.speaker
          rw [(controlSender_eq_some hcontrol).1] at hspeaker
          exact hspeaker
  split
  · exact ⟨h, hsilent⟩
  rename_i hkind
  split
  · exact ⟨h, hsilent⟩
  rename_i dist hparse
  split
  · exact ⟨h, hsilent⟩
  rename_i hgroup
  split
  · exact ⟨h, hsilent⟩
  · have hdist : GroupManager.distributionOf (K := K) (T := T) pending.event = some dist := by
      rw [GroupManager.distributionOf, if_pos (not_not.mp hkind), hparse]
    have hevent : dist.senderEventPubkey ≠ some id.eventKey := by
      intro heq
      obtain ⟨-, -, hfor, -⟩ := hrespects.distribution dist hdist (Or.inl heq)
      exact h.other ((not_not.mp hgroup).symm.trans hfor)
    refine ⟨avoids_handleDistribution h hevent _ _, ?_⟩
    intro events hevents event hmem heq
    exact hevent ((mem_handleDistribution h.keyed hevents hmem).trans (by rw [heq]))

end Receiving

end Avoiding

section Managing

variable [GroupCodec K T]

/-- The rumor carries a distribution that names the sender's key. -/
def Names (id : SenderIdentity) (pending : PendingSessionEvent) : Prop :=
  ∃ dist, GroupManager.distributionOf (K := K) (T := T) pending.event = some dist ∧
    dist.senderEventPubkey = some id.eventKey

/-- Outside the sender's group nobody has the sender's key, and nothing that waits will
change that. -/
structure Clear (id : SenderIdentity) (manager : GroupManager K) : Prop where
  ourOwner : manager.ourOwnerPubkey = id.ourOwner
  ourDevice : manager.ourDevicePubkey = id.ourDevice
  others : ∀ groupId group, groupId ≠ id.group → manager.groups.get? groupId = some group →
    group.data.id = groupId ∧ id.Avoids (manager.openGroup groupId group)
  stored : ∀ groupId, groupId ≠ id.group → ∀ device,
    (((manager.storage.get? groupId).getD SortedMap.empty : GroupStore K).folder
      device).senderEventPubkey ≠ some id.eventKey
  lists : ∀ groupId events, groupId ≠ id.group →
    manager.groupToSenderEvents.get? groupId = some events → id.eventKey ∉ events
  keyedOuter : ∀ key outers, manager.pendingOuterBySenderEvent.get? key = some outers →
    ∀ outer ∈ outers, outer.pubkey = key
  queued : ∀ groupId pendings, manager.pendingSessionByGroup.get? groupId = some pendings →
    groupId ≠ id.group ∧ ∀ pending ∈ pendings,
      id.RespectsSession (K := K) (T := T) pending ∧ ¬ id.Names (K := K) (T := T) pending

/-- The sender's key is routed to the sender. -/
structure Owned (id : SenderIdentity) (manager : GroupManager K) : Prop where
  clear : id.Clear (T := T) manager
  route : manager.senderEventToGroup.get? id.eventKey = some id.group
  group : ∃ group, manager.groups.get? id.group = some group ∧
    id.Holds (manager.openGroup id.group group)
  noOuter : manager.pendingOuterBySenderEvent.get? id.eventKey = none

/-- The sender's part of a manager. -/
def viewIn (id : SenderIdentity) (manager : GroupManager K) : SenderView K :=
  match manager.groups.get? id.group with
  | some group => id.view (manager.openGroup id.group group)
  | none => ⟨SortedMap.empty, []⟩

/-- A change of the manager that leaves the sender alone. -/
structure SparesIn (id : SenderIdentity) (manager next : GroupManager K) : Prop where
  owned : id.Owned (T := T) next
  view_eq : id.viewIn next = id.viewIn manager
  seen_eq : next.seenOuterEventOrder = manager.seenOuterEventOrder

variable {id : SenderIdentity} {manager : GroupManager K}

theorem SparesIn.refl (h : id.Owned (T := T) manager) : id.SparesIn (T := T) manager manager :=
  ⟨h, rfl, rfl⟩

theorem SparesIn.trans {a b c : GroupManager K} (hab : id.SparesIn (T := T) a b)
    (hbc : id.SparesIn (T := T) b c) : id.SparesIn (T := T) a c :=
  ⟨hbc.owned, hbc.view_eq.trans hab.view_eq, hbc.seen_eq.trans hab.seen_eq⟩

omit [GroupCodec K T] in
theorem openGroup_closeGroup (manager : GroupManager K) (groupId : String) (opened : OpenGroup K) :
    (manager.closeGroup groupId opened).openGroup groupId opened.group = opened := by
  simp [GroupManager.openGroup, GroupManager.closeGroup]

omit [GroupCodec K T] in
theorem openGroup_closeGroup_ne (manager : GroupManager K) {groupId other : String}
    (h : groupId ≠ other) (opened : OpenGroup K) (group : Group) :
    (manager.closeGroup groupId opened).openGroup other group = manager.openGroup other group := by
  simp [GroupManager.openGroup, GroupManager.closeGroup, SortedMap.get?_insert_ne _ _ h]

theorem clear_closeGroup_own (h : id.Clear (T := T) manager) (opened : OpenGroup K) :
    id.Clear (T := T) (manager.closeGroup id.group opened) := by
  refine ⟨h.ourOwner, h.ourDevice, ?_, ?_, h.lists, h.keyedOuter, h.queued⟩
  · intro groupId group hne hgroup
    change (manager.groups.insert id.group opened.group).get? groupId = _ at hgroup
    rw [SortedMap.get?_insert_ne _ _ (Ne.symm hne)] at hgroup
    rw [openGroup_closeGroup_ne manager (Ne.symm hne)]
    exact h.others groupId group hne hgroup
  · intro groupId hne device
    change ((((manager.storage.insert id.group opened.store).get? groupId).getD _ :
      GroupStore K).folder device).senderEventPubkey ≠ _
    rw [SortedMap.get?_insert_ne _ _ (Ne.symm hne)]
    exact h.stored groupId hne device

theorem clear_closeGroup_other (h : id.Clear (T := T) manager) {groupId : String}
    {opened : OpenGroup K} (hopened : id.Avoids opened) (hid : opened.group.data.id = groupId) :
    id.Clear (T := T) (manager.closeGroup groupId opened) := by
  refine ⟨h.ourOwner, h.ourDevice, ?_, ?_, h.lists, h.keyedOuter, h.queued⟩
  · intro other group hne hgroup
    change (manager.groups.insert groupId opened.group).get? other = _ at hgroup
    rw [SortedMap.get?_insert] at hgroup
    split at hgroup
    · rename_i heq
      cases hgroup
      subst heq
      rw [openGroup_closeGroup]
      exact ⟨hid, hopened⟩
    · rename_i hother
      rw [openGroup_closeGroup_ne manager hother]
      exact h.others other group hne hgroup
  · intro other hne device
    change ((((manager.storage.insert groupId opened.store).get? other).getD _ :
      GroupStore K).folder device).senderEventPubkey ≠ _
    rw [SortedMap.get?_insert]
    split
    · exact hopened.stored device
    · exact h.stored other hne device

theorem owned_closeGroup_own (h : id.Owned (T := T) manager) {opened : OpenGroup K}
    (hopened : id.Holds opened) :
    id.Owned (T := T) (manager.closeGroup id.group opened) ∧
      id.viewIn (manager.closeGroup id.group opened) = id.view opened := by
  have hget : (manager.closeGroup id.group opened).groups.get? id.group = some opened.group :=
    SortedMap.get?_insert_self _ _ _
  refine ⟨⟨clear_closeGroup_own h.clear opened, h.route, ⟨opened.group, hget, ?_⟩, h.noOuter⟩, ?_⟩
  · rw [openGroup_closeGroup]
    exact hopened
  · rw [viewIn, hget]
    dsimp only
    rw [openGroup_closeGroup]

theorem sparesIn_closeGroup_other (h : id.Owned (T := T) manager) {groupId : String}
    (hne : groupId ≠ id.group) {opened : OpenGroup K} (hopened : id.Avoids opened)
    (hid : opened.group.data.id = groupId) :
    id.SparesIn (T := T) manager (manager.closeGroup groupId opened) := by
  obtain ⟨group, hgroup, hholds⟩ := h.group
  have hget : (manager.closeGroup groupId opened).groups.get? id.group = some group :=
    (SortedMap.get?_insert_ne _ _ hne).trans hgroup
  refine ⟨⟨clear_closeGroup_other h.clear hopened hid, h.route, ⟨group, hget, ?_⟩, h.noOuter⟩,
    ?_, rfl⟩
  · rw [openGroup_closeGroup_ne manager hne]
    exact hholds
  · rw [viewIn, viewIn, hget, hgroup]
    dsimp only
    rw [openGroup_closeGroup_ne manager hne]

omit [GroupCodec K T] in
theorem viewIn_of_group {group : Group} (h : manager.groups.get? id.group = some group) :
    id.viewIn manager = id.view (manager.openGroup id.group group) := by
  rw [viewIn, h]

/-- A change of the two routing maps and of the queue of outer events. -/
theorem sparesIn_routing (h : id.Owned (T := T) manager)
    {senderEventToGroup : SortedMap String String}
    {groupToSenderEvents : SortedMap String (SortedSet String)}
    {pendingOuter : SortedMap String (List VerifiedEvent)}
    (hroute : senderEventToGroup.get? id.eventKey = some id.group)
    (hlists : ∀ groupId events, groupId ≠ id.group →
      groupToSenderEvents.get? groupId = some events → id.eventKey ∉ events)
    (hkeyed : ∀ key outers, pendingOuter.get? key = some outers →
      ∀ outer ∈ outers, outer.pubkey = key)
    (hnone : pendingOuter.get? id.eventKey = none) :
    id.SparesIn (T := T) manager { manager with
      senderEventToGroup := senderEventToGroup
      groupToSenderEvents := groupToSenderEvents
      pendingOuterBySenderEvent := pendingOuter } :=
  ⟨⟨⟨h.clear.ourOwner, h.clear.ourDevice, h.clear.others, h.clear.stored, hlists, hkeyed,
    h.clear.queued⟩, hroute, h.group, hnone⟩, rfl, rfl⟩

theorem sparesIn_dropSenderEvent (h : id.Owned (T := T) manager) (groupId : String)
    {event : String} (hne : event ≠ id.eventKey) :
    id.SparesIn (T := T) manager (GroupManager.dropSenderEvent groupId manager event) := by
  apply sparesIn_routing h
  · split
    · exact (SortedMap.get?_erase_ne _ hne).trans h.route
    · exact h.route
  · exact h.clear.lists
  · exact SortedMap.forall_get?_erase h.clear.keyedOuter
  · rw [SortedMap.get?_erase_ne _ hne]
    exact h.noOuter

theorem sparesIn_foldl_dropSenderEvent (groupId : String) {events : List String}
    (hevents : id.eventKey ∉ events) {manager : GroupManager K}
    (h : id.Owned (T := T) manager) :
    id.SparesIn (T := T) manager (events.foldl (GroupManager.dropSenderEvent groupId) manager) := by
  induction events generalizing manager with
  | nil => exact .refl h
  | cons event rest ih =>
      have hne : event ≠ id.eventKey := fun heq => hevents (heq ▸ List.mem_cons_self)
      have hfirst := sparesIn_dropSenderEvent h groupId hne
      exact hfirst.trans (ih (fun hin => hevents (List.mem_cons_of_mem _ hin)) hfirst.owned)

/-- The routing map after a group has listed its keys. -/
theorem sparesIn_listed (h : id.Owned (T := T) manager) {groupId : String} {next : List String}
    (hnext : id.eventKey ∈ next → groupId = id.group) :
    id.SparesIn (T := T) manager { manager with
      senderEventToGroup := next.foldl (fun map event => map.insert event groupId)
        manager.senderEventToGroup
      groupToSenderEvents := manager.groupToSenderEvents.insert groupId
        (SortedSet.ofList next) } := by
  apply sparesIn_routing h
  · rw [SortedMap.get?_foldl_insert]
    split
    · rename_i hin
      rw [hnext hin]
    · exact h.route
  · intro other events hne hget
    rw [SortedMap.get?_insert] at hget
    split at hget
    · rename_i heq
      cases hget
      rw [SortedSet.mem_ofList]
      intro hin
      exact hne (heq.symm.trans (hnext hin))
    · exact h.clear.lists other events hne hget
  · exact h.clear.keyedOuter
  · exact h.noOuter

theorem mem_listed_of_lists (h : id.Clear (T := T) manager) {groupId : String}
    (hne : groupId ≠ id.group) :
    id.eventKey ∉ ((manager.groupToSenderEvents.get? groupId).getD SortedSet.empty).toList := by
  rw [SortedSet.mem_toList]
  cases hget : manager.groupToSenderEvents.get? groupId with
  | none => exact SortedSet.not_mem_empty _
  | some events => exact h.lists groupId events hne hget

/-- A group replaces the keys it had listed by the ones it lists now. -/
theorem sparesIn_relisted (h : id.Owned (T := T) manager) {groupId : String}
    {prev next : List String} (hprev : id.eventKey ∈ prev → id.eventKey ∈ next)
    (hnext : id.eventKey ∈ next → groupId = id.group) {dropped : GroupManager K}
    (hdropped : dropped = (prev.filter (fun event => !next.contains event)).foldl
      (GroupManager.dropSenderEvent groupId) manager) :
    id.SparesIn (T := T) manager { dropped with
      senderEventToGroup := next.foldl (fun map event => map.insert event groupId)
        dropped.senderEventToGroup
      groupToSenderEvents := dropped.groupToSenderEvents.insert groupId
        (SortedSet.ofList next) } := by
  have hkept : id.eventKey ∉ prev.filter (fun event => !next.contains event) := by
    intro hin
    obtain ⟨hold, hout⟩ := List.mem_filter.mp hin
    simp [hprev hold] at hout
  have hdrop := sparesIn_foldl_dropSenderEvent groupId hkept h
  rw [← hdropped] at hdrop
  exact hdrop.trans (sparesIn_listed hdrop.owned hnext)

theorem sparesIn_refreshGroupSenderMappings (hvalid : id.Valid) (h : id.Owned (T := T) manager)
    (groupId : String) :
    id.SparesIn (T := T) manager (manager.refreshGroupSenderMappings groupId) := by
  unfold GroupManager.refreshGroupSenderMappings
  split
  · exact .refl h
  · rename_i group hgroup
    dsimp only [OpenGroup.listSenderEventPubkeys]
    by_cases hne : groupId = id.group
    · subst hne
      obtain ⟨group', hgroup', hholds⟩ := h.group
      obtain rfl : group' = group := Option.some.inj (hgroup'.symm.trans hgroup)
      have hpurged := spares_purgeInactiveSenders hvalid hholds
      rw [init_eq_self hholds.initialized]
      obtain ⟨howned, hview⟩ := owned_closeGroup_own h hpurged.holds
      have hclosed : id.SparesIn (T := T) manager (manager.closeGroup id.group
          (manager.openGroup id.group group').purgeInactiveSenders) :=
        ⟨howned, by rw [hview, hpurged.view_eq, viewIn_of_group hgroup'], rfl⟩
      refine hclosed.trans (sparesIn_relisted hclosed.owned (fun _ => ?_) (fun _ => rfl) rfl)
      rw [List.mem_dedup, SortedMap.mem_values]
      exact ⟨id.device, hpurged.holds.mapped.deviceToEvent⟩
    · obtain ⟨hid, havoids⟩ := h.clear.others groupId group hne hgroup
      have hpurged := avoids_purgeInactiveSenders (avoids_init havoids)
      have hrecord : (manager.openGroup groupId group).init.purgeInactiveSenders.group.data.id =
          groupId := by
        have heq : (manager.openGroup groupId group).init.purgeInactiveSenders.group.record =
            group.record := by simp [GroupManager.openGroup]
        exact (congrArg (fun record => record.data.id) heq).trans hid
      have hclosed := sparesIn_closeGroup_other h hne hpurged hrecord
      have hprev := mem_listed_of_lists h.clear hne
      refine hclosed.trans (sparesIn_relisted hclosed.owned (fun hin => absurd hin hprev)
        (fun hin => ?_) rfl)
      rw [List.mem_dedup, SortedMap.mem_values] at hin
      obtain ⟨device, hdevice⟩ := hin
      exact absurd hdevice (hpurged.mapped device)

theorem sparesIn_bindSenderEventToGroup (h : id.Owned (T := T) manager) {groupId event : String}
    (hevent : event = id.eventKey → groupId = id.group) :
    id.SparesIn (T := T) manager (manager.bindSenderEventToGroup groupId event) := by
  apply sparesIn_routing h
  · rw [SortedMap.get?_insert]
    split
    · rename_i heq
      rw [hevent heq]
    · exact h.route
  · intro other events hne hget
    rw [SortedMap.get?_insert] at hget
    split at hget
    · rename_i heq
      cases hget
      rw [SortedSet.mem_insert]
      rintro (hkey | hold)
      · exact hne (heq.symm.trans (hevent hkey.symm))
      · have hlisted := mem_listed_of_lists h.clear hne
        rw [SortedSet.mem_toList, ← heq] at hlisted
        exact hlisted hold
    · exact h.clear.lists other events hne hget
  · exact h.clear.keyedOuter
  · exact h.noOuter

end Managing

section Running

variable [Primitives K T] [GroupCodec K T] {id : SenderIdentity} {manager : GroupManager K}

/-- Nothing of the sender's key is among the events. -/
def Silent (id : SenderIdentity) (result : Except String (List GroupDecryptedEvent)) : Prop :=
  ∀ events, result = .ok events → ∀ event ∈ events, event.senderEventPubkey ≠ id.eventKey

omit [Primitives K T] [GroupCodec K T] in
theorem silent_nil : id.Silent (.ok []) := by
  intro events hevents event hmem
  cases hevents
  cases hmem

omit [Primitives K T] [GroupCodec K T] in
theorem silent_error (e : String) : id.Silent (.error e) := by
  intro events hevents
  cases hevents

omit [Primitives K T] [GroupCodec K T] in
theorem silent_append {a b : List GroupDecryptedEvent} (ha : id.Silent (.ok a))
    (hb : id.Silent (.ok b)) : id.Silent (.ok (a ++ b)) := by
  intro events hevents event hmem
  cases hevents
  rcases List.mem_append.mp hmem with hmem | hmem
  · exact ha a rfl event hmem
  · exact hb b rfl event hmem

theorem sparesIn_drainPendingOuter (hvalid : id.Valid) (h : id.Owned (T := T) manager)
    {event groupId : String} {group : Group} (hgroup : manager.groups.get? groupId = some group)
    (hevent : event ≠ id.eventKey) :
    id.SparesIn (T := T) manager
        (manager.drainPendingOuterForSenderEvent (T := T) event groupId group).2 ∧
      id.Silent (manager.drainPendingOuterForSenderEvent (T := T) event groupId group).1 := by
  unfold GroupManager.drainPendingOuterForSenderEvent
  split
  · exact ⟨.refl h, silent_nil⟩
  · rename_i hpending
    have hkeyed : ∀ outer ∈ OpenGroup.sortByMessageNumber (K := K) (T := T)
        ((manager.pendingOuterBySenderEvent.get? event).getD []), outer.pubkey = event := by
      intro outer houter
      rw [mem_sortByMessageNumber] at houter
      cases hget : manager.pendingOuterBySenderEvent.get? event with
      | none =>
          rw [hget] at houter
          cases houter
      | some outers =>
          rw [hget] at houter
          exact h.clear.keyedOuter event outers hget outer houter
    have hsilent : ∀ opened : OpenGroup K, id.Silent (OpenGroup.handleOuterEvents (T := T)
        (OpenGroup.sortByMessageNumber (K := K) (T := T)
          ((manager.pendingOuterBySenderEvent.get? event).getD [])) opened).1 := by
      intro opened events hevents e hmem heq
      obtain ⟨outer, houter, hkey⟩ := mem_handleOuterEvents hevents hmem
      exact hevent ((hkeyed outer houter).symm.trans (hkey.symm.trans heq))
    have herased : id.SparesIn (T := T) manager { manager with
        pendingOuterBySenderEvent := manager.pendingOuterBySenderEvent.erase event } := by
      apply sparesIn_routing h h.route h.clear.lists
      · exact SortedMap.forall_get?_erase h.clear.keyedOuter
      · rw [SortedMap.get?_erase_ne _ hevent]
        exact h.noOuter
    refine ⟨herased.trans ?_, hsilent _⟩
    generalize OpenGroup.sortByMessageNumber (K := K) (T := T)
      ((manager.pendingOuterBySenderEvent.get? event).getD []) = outers at hkeyed
    replace h := herased.owned
    have hgroup' : ({ manager with pendingOuterBySenderEvent :=
      manager.pendingOuterBySenderEvent.erase event } : GroupManager K).groups.get? groupId =
        some group := hgroup
    clear herased hsilent hgroup
    generalize ({ manager with pendingOuterBySenderEvent :=
      manager.pendingOuterBySenderEvent.erase event } : GroupManager K) = manager at h hgroup'
    by_cases hne : groupId = id.group
    · subst hne
      obtain ⟨group', hget, hholds⟩ := h.group
      obtain rfl : group' = group := Option.some.inj (hget.symm.trans hgroup')
      have hrun := spares_handleOuterEvents (T := T) hvalid hholds
        (fun outer houter => by rw [hkeyed outer houter]; exact hevent)
      obtain ⟨howned, hview⟩ := owned_closeGroup_own h hrun.holds
      exact ⟨howned, by rw [hview, hrun.view_eq, viewIn_of_group hget], rfl⟩
    · obtain ⟨hid, havoids⟩ := h.clear.others groupId group hne hgroup'
      refine sparesIn_closeGroup_other h hne (avoids_handleOuterEvents havoids) ?_
      have hrecord := OpenGroup.record_handleOuterEvents (T := T) outers
        (manager.openGroup groupId group)
      exact (congrArg (fun record => record.data.id) hrecord).trans hid

theorem drainPendingOuter_own (h : id.Owned (T := T) manager) (group : Group) :
    manager.drainPendingOuterForSenderEvent (T := T) id.eventKey id.group group =
      (.ok [], manager) := by
  unfold GroupManager.drainPendingOuterForSenderEvent
  rw [h.noOuter]
  rfl

/-- Routing a distribution that names the sender's key only for the sender's group. -/
theorem sparesIn_routeDistribution (hvalid : id.Valid) (h : id.Owned (T := T) manager)
    {groupId : String} {distribution : Option SenderKeyDistribution}
    (hnames : ∀ dist, distribution = some dist → dist.senderEventPubkey = some id.eventKey →
      groupId = id.group) :
    id.SparesIn (T := T) manager (manager.routeDistribution (T := T) groupId distribution).2 ∧
      ∀ events, (manager.routeDistribution (T := T) groupId distribution).1 = .ok events →
        ∀ event ∈ events, event.senderEventPubkey ≠ id.eventKey := by
  unfold GroupManager.routeDistribution
  split
  · rename_i event group hfilter hgroup
    have hevent : event = id.eventKey → groupId = id.group := by
      rintro rfl
      obtain ⟨hbind, -⟩ := Option.filter_eq_some_iff.mp hfilter
      obtain ⟨dist, hdist, hnamed⟩ := Option.bind_eq_some_iff.mp hbind
      exact hnames dist hdist hnamed
    have hbound := sparesIn_bindSenderEventToGroup h hevent
    by_cases hkey : event = id.eventKey
    · obtain rfl := hevent hkey
      subst hkey
      rw [drainPendingOuter_own hbound.owned]
      exact ⟨hbound, silent_nil⟩
    · obtain ⟨hspares, hsilent⟩ := sparesIn_drainPendingOuter (T := T) hvalid hbound.owned
        (show (manager.bindSenderEventToGroup groupId event).groups.get? groupId = some group
          from hgroup) hkey
      exact ⟨hbound.trans hspares, hsilent⟩
  · exact ⟨.refl h, silent_nil⟩

/-- What follows the group's own handling: the routing of the key and the new listing. -/
def finishKnown (manager : GroupManager K) (groupId : String)
    (distribution : Option SenderKeyDistribution)
    (result : Except String (List GroupDecryptedEvent)) :
    Except String (List GroupDecryptedEvent) × GroupManager K :=
  match result with
  | .error e => (.error e, manager)
  | .ok drainedFromGroup =>
      match manager.routeDistribution (T := T) groupId distribution with
      | (.error e, manager) => (.error e, manager)
      | (.ok drainedFromManagerQueue, manager) =>
          (.ok (drainedFromGroup ++ drainedFromManagerQueue),
            manager.refreshGroupSenderMappings groupId)

theorem handleKnown_eq (manager : GroupManager K) (groupId : String) (group : Group)
    (pending : PendingSessionEvent) (distribution : Option SenderKeyDistribution) :
    manager.handleIncomingSessionEventForKnownGroup (T := T) groupId group pending distribution =
      finishKnown (T := T) (manager.closeGroup groupId
        ((manager.openGroup groupId group).handleIncomingSessionEvent (T := T) pending.event
          pending.fromOwnerPubkey pending.fromSenderDevicePubkey).2) groupId distribution
        ((manager.openGroup groupId group).handleIncomingSessionEvent (T := T) pending.event
          pending.fromOwnerPubkey pending.fromSenderDevicePubkey).1 := rfl

theorem sparesIn_finishKnown (hvalid : id.Valid) (h : id.Owned (T := T) manager)
    {groupId : String} {distribution : Option SenderKeyDistribution}
    (hnames : ∀ dist, distribution = some dist → dist.senderEventPubkey = some id.eventKey →
      groupId = id.group) {result : Except String (List GroupDecryptedEvent)}
    (hresult : id.Silent result) :
    id.SparesIn (T := T) manager (finishKnown (T := T) manager groupId distribution result).2 ∧
      id.Silent (finishKnown (T := T) manager groupId distribution result).1 := by
  unfold finishKnown
  split
  · exact ⟨.refl h, silent_error _⟩
  · obtain ⟨hroute, hsilent⟩ := sparesIn_routeDistribution (T := T) hvalid h hnames
    split
    · rename_i e next hrun
      rw [hrun] at hroute
      exact ⟨hroute, silent_error e⟩
    · rename_i drained next hrun
      rw [hrun] at hroute hsilent
      exact ⟨hroute.trans (sparesIn_refreshGroupSenderMappings hvalid hroute.owned groupId),
        silent_append hresult hsilent⟩

/-- A rumor for a known group that is not the sender's own announcement. -/
theorem sparesIn_handleKnown (hvalid : id.Valid) (h : id.Owned (T := T) manager)
    {groupId : String} {group : Group} (hgroup : manager.groups.get? groupId = some group)
    {pending : PendingSessionEvent} (hrespects : id.RespectsSession (K := K) (T := T) pending)
    (hann : groupId = id.group → id.announcement (K := K) (T := T) pending = none)
    (hnames : id.Names (K := K) (T := T) pending → groupId = id.group) :
    id.SparesIn (T := T) manager
        (manager.handleIncomingSessionEventForKnownGroup (T := T) groupId group pending
          (GroupManager.distributionOf (K := K) (T := T) pending.event)).2 ∧
      id.Silent (manager.handleIncomingSessionEventForKnownGroup (T := T) groupId group pending
          (GroupManager.distributionOf (K := K) (T := T) pending.event)).1 := by
  rw [handleKnown_eq]
  have hnamed : ∀ dist, GroupManager.distributionOf (K := K) (T := T) pending.event = some dist →
      dist.senderEventPubkey = some id.eventKey → groupId = id.group :=
    fun dist hdist hkey => hnames ⟨dist, hdist, hkey⟩
  by_cases hne : groupId = id.group
  · subst hne
    obtain ⟨group', hget, hholds⟩ := h.group
    obtain rfl : group' = group := Option.some.inj (hget.symm.trans hgroup)
    obtain ⟨hspares, hsilent⟩ := spares_handleIncomingSessionEvent hvalid hholds hrespects
      (hann rfl)
    obtain ⟨howned, hview⟩ := owned_closeGroup_own h hspares.holds
    obtain ⟨hfinish, hquiet⟩ := sparesIn_finishKnown (T := T) hvalid howned hnamed hsilent
    refine ⟨SparesIn.trans ⟨howned, ?_, rfl⟩ hfinish, hquiet⟩
    rw [hview, hspares.view_eq, viewIn_of_group hget]
  · obtain ⟨hid, havoids⟩ := h.clear.others groupId group hne hgroup
    obtain ⟨hrun, hsilent⟩ := avoids_handleIncomingSessionEvent havoids hrespects
    have hrecord := OpenGroup.record_handleIncomingSessionEvent (T := T)
      (manager.openGroup groupId group) pending.event pending.fromOwnerPubkey
      pending.fromSenderDevicePubkey
    have hclosed := sparesIn_closeGroup_other h hne hrun
      ((congrArg (fun record => record.data.id) hrecord).trans hid)
    obtain ⟨hfinish, hquiet⟩ := sparesIn_finishKnown (T := T) hvalid hclosed.owned hnamed hsilent
    exact ⟨hclosed.trans hfinish, hquiet⟩

/-- The manager does with the sender what the sender's machine does. -/
structure FollowsIn {α : Type} (id : SenderIdentity) (manager : GroupManager K)
    (outcome : Except String α × GroupManager K) (expected : Except String α × SenderView K) :
    Prop where
  owned : id.Owned (T := T) outcome.2
  view_eq : id.viewIn outcome.2 = expected.2
  result_eq : outcome.1 = expected.1
  seen_eq : outcome.2.seenOuterEventOrder = manager.seenOuterEventOrder

omit [Primitives K T] in
theorem distributionOf_of_announcement {pending : PendingSessionEvent}
    {dist : SenderKeyDistribution}
    (h : id.announcement (K := K) (T := T) pending = some dist) :
    GroupManager.distributionOf (K := K) (T := T) pending.event = some dist ∧
      dist.groupId = id.group ∧ dist.senderEventPubkey = some id.eventKey := by
  unfold announcement at h
  split at h
  · obtain ⟨hdist, hfor⟩ := Option.filter_eq_some_iff.mp h
    simp only [decide_eq_true_eq] at hfor
    exact ⟨hdist, hfor⟩
  · cases h

/-- The sender's own announcement for its known group. -/
theorem followsIn_handleKnown (hvalid : id.Valid) (h : id.Owned (T := T) manager)
    {group : Group} (hgroup : manager.groups.get? id.group = some group)
    {pending : PendingSessionEvent} {dist : SenderKeyDistribution}
    (hann : id.announcement (K := K) (T := T) pending = some dist) :
    id.FollowsIn (T := T) manager
      (manager.handleIncomingSessionEventForKnownGroup (T := T) id.group group pending
        (GroupManager.distributionOf (K := K) (T := T) pending.event))
      (id.learn (T := T) (id.viewIn manager) dist) := by
  obtain ⟨group', hget, hholds⟩ := h.group
  obtain rfl : group' = group := Option.some.inj (hget.symm.trans hgroup)
  obtain ⟨hdist, -, hevent⟩ := distributionOf_of_announcement hann
  have hlearned : id.Holds ((manager.openGroup id.group group').init.learnSender id.device
      id.owner (some id.eventKey)) := by
    rw [init_eq_self hholds.initialized]
    refine holds_learnSender hholds.initialized hholds.enrolled hholds.keyed
      hholds.mapped.unclaimed (fun event hmap => ?_)
    rw [hholds.mapped.single event hmap]
    exact hholds.mapped.deviceToEvent
  have hfollows := follows_handleIncomingSessionEvent (T := T) hvalid hholds.enrolled hlearned hann
  obtain ⟨howned, hview⟩ := owned_closeGroup_own h hfollows.holds
  rw [handleKnown_eq, viewIn_of_group hget]
  rw [hfollows.view_eq] at hview
  have hseen : (manager.closeGroup id.group ((manager.openGroup id.group
      group').handleIncomingSessionEvent (T := T) pending.event pending.fromOwnerPubkey
        pending.fromSenderDevicePubkey).2).seenOuterEventOrder = manager.seenOuterEventOrder := rfl
  have hknown : ∃ group, (manager.closeGroup id.group ((manager.openGroup id.group
      group').handleIncomingSessionEvent (T := T) pending.event pending.fromOwnerPubkey
        pending.fromSenderDevicePubkey).2).groups.get? id.group = some group :=
    ⟨_, SortedMap.get?_insert_self _ _ _⟩
  rw [hfollows.result_eq]
  generalize manager.closeGroup id.group _ = closed at howned hview hseen hknown
  generalize id.learn (T := T) (id.view (manager.openGroup id.group group')) dist = expected
    at hview ⊢
  obtain ⟨result, view'⟩ := expected
  obtain ⟨known, hknown⟩ := hknown
  cases result with
  | error e => exact ⟨howned, hview, rfl, hseen⟩
  | ok events =>
      have hroute : closed.routeDistribution (T := T) id.group
          (GroupManager.distributionOf (K := K) (T := T) pending.event) =
            (.ok [], closed.bindSenderEventToGroup id.group id.eventKey) := by
        have hfilter : (Option.bind (some dist) (fun d => d.senderEventPubkey)).filter isHex64 =
            some id.eventKey := by
          simp [hevent, hvalid.eventKey_hex]
        unfold GroupManager.routeDistribution
        rw [hdist, hfilter, hknown]
        exact drainPendingOuter_own (sparesIn_bindSenderEventToGroup howned (fun _ => rfl)).owned _
      have hbound : id.SparesIn (T := T) closed (closed.bindSenderEventToGroup id.group id.eventKey) :=
        sparesIn_bindSenderEventToGroup howned (fun _ => rfl)
      have hrefresh := hbound.trans
        (sparesIn_refreshGroupSenderMappings hvalid hbound.owned id.group)
      unfold finishKnown
      dsimp only
      rw [hroute]
      exact ⟨hrefresh.owned, hrefresh.view_eq.trans hview, by simp, hrefresh.seen_eq.trans hseen⟩

theorem sparesIn_drainSessionEvents (hvalid : id.Valid) {groupId : String}
    (hne : groupId ≠ id.group) {pendings : List PendingSessionEvent}
    (hall : ∀ pending ∈ pendings, id.RespectsSession (K := K) (T := T) pending ∧
      ¬ id.Names (K := K) (T := T) pending) {manager : GroupManager K}
    (h : id.Owned (T := T) manager) :
    id.SparesIn (T := T) manager
        (GroupManager.drainSessionEvents (T := T) groupId pendings manager).2 ∧
      id.Silent (GroupManager.drainSessionEvents (T := T) groupId pendings manager).1 := by
  induction pendings generalizing manager with
  | nil => exact ⟨.refl h, silent_nil⟩
  | cons pending rest ih =>
      unfold GroupManager.drainSessionEvents
      split
      · exact ⟨.refl h, silent_nil⟩
      · rename_i group hgroup
        obtain ⟨hrespects, hunnamed⟩ := hall pending List.mem_cons_self
        obtain ⟨hfirst, hsilent⟩ := sparesIn_handleKnown (T := T) hvalid h hgroup hrespects
          (fun heq => absurd heq hne) (fun hnamed => absurd hnamed hunnamed)
        split
        · rename_i e next hrun
          rw [hrun] at hfirst
          exact ⟨hfirst, silent_error e⟩
        · rename_i events next hrun
          rw [hrun] at hfirst hsilent
          obtain ⟨hrest, hquiet⟩ := ih (fun p hp => hall p (List.mem_cons_of_mem _ hp)) hfirst.owned
          split
          · rename_i e last hlast
            rw [hlast] at hrest
            exact ⟨hfirst.trans hrest, silent_error e⟩
          · rename_i later last hlast
            rw [hlast] at hrest hquiet
            exact ⟨hfirst.trans hrest, silent_append hsilent hquiet⟩

theorem sparesIn_drainPendingSessionEvents (hvalid : id.Valid) (h : id.Owned (T := T) manager)
    (groupId : String) :
    id.SparesIn (T := T) manager (manager.drainPendingSessionEvents (T := T) groupId).2 ∧
      id.Silent (manager.drainPendingSessionEvents (T := T) groupId).1 := by
  unfold GroupManager.drainPendingSessionEvents
  cases hget : manager.pendingSessionByGroup.get? groupId with
  | none => exact ⟨.refl h, silent_nil⟩
  | some pendings =>
      obtain ⟨hne, hall⟩ := h.clear.queued groupId pendings hget
      cases pendings with
      | nil => exact ⟨.refl h, silent_nil⟩
      | cons pending rest =>
          have herased : id.SparesIn (T := T) manager { manager with
              pendingSessionByGroup := manager.pendingSessionByGroup.erase groupId } :=
            ⟨⟨⟨h.clear.ourOwner, h.clear.ourDevice, h.clear.others, h.clear.stored, h.clear.lists,
              h.clear.keyedOuter, SortedMap.forall_get?_erase h.clear.queued⟩, h.route, h.group,
              h.noOuter⟩, rfl, rfl⟩
          obtain ⟨hdrain, hquiet⟩ := sparesIn_drainSessionEvents (T := T) hvalid hne hall
            herased.owned
          exact ⟨herased.trans hdrain, hquiet⟩

theorem sparesIn_settleMetadata (hvalid : id.Valid) (h : id.Owned (T := T) manager)
    (groupId : String) {synthetic : GroupDecryptedEvent}
    (hsynthetic : synthetic.senderEventPubkey ≠ id.eventKey) :
    id.SparesIn (T := T) manager (manager.settleMetadata (T := T) groupId synthetic).2 ∧
      id.Silent (manager.settleMetadata (T := T) groupId synthetic).1 := by
  have hrefresh := sparesIn_refreshGroupSenderMappings hvalid h groupId
  obtain ⟨hdrain, hquiet⟩ := sparesIn_drainPendingSessionEvents (T := T) hvalid hrefresh.owned groupId
  unfold GroupManager.settleMetadata
  split
  · rename_i e next hrun
    rw [hrun] at hdrain
    exact ⟨hrefresh.trans hdrain, silent_error e⟩
  · rename_i drained next hrun
    rw [hrun] at hdrain hquiet
    refine ⟨hrefresh.trans hdrain, ?_⟩
    intro events hevents event hmem
    cases hevents
    rcases List.mem_cons.mp hmem with rfl | hmem
    · exact hsynthetic
    · exact hquiet drained rfl event hmem

omit [Primitives K T] in
/-- New data for the sender's group that keeps the sender's owner. -/
theorem sparesIn_setGroup_own (h : id.Owned (T := T) manager) {group : Group}
    (hgroup : manager.groups.get? id.group = some group) {data : GroupData}
    (hid : data.id = id.group) (hmember : id.owner ∈ data.members) :
    id.SparesIn (T := T) manager (manager.setGroup id.group (group.setData data)) := by
  obtain ⟨group', hget, hholds⟩ := h.group
  obtain rfl : group' = group := Option.some.inj (hget.symm.trans hgroup)
  have hset : (manager.setGroup id.group (group'.setData data)).groups.get? id.group =
      some (group'.setData data) := SortedMap.get?_insert_self _ _ _
  have hnew : id.Holds ((manager.setGroup id.group (group'.setData data)).openGroup id.group
      (group'.setData data)) :=
    ⟨hholds.initialized, ⟨hid, hmember, hholds.enrolled.ourOwner, hholds.enrolled.ourDevice⟩,
      ⟨hholds.mapped.1, hholds.mapped.2, hholds.mapped.3, hholds.mapped.4, hholds.mapped.5⟩,
      hholds.keyed⟩
  refine ⟨⟨⟨h.clear.ourOwner, h.clear.ourDevice, ?_, h.clear.stored, h.clear.lists,
    h.clear.keyedOuter, h.clear.queued⟩, h.route, ⟨_, hset, hnew⟩, h.noOuter⟩, ?_, rfl⟩
  · intro groupId other hne hother
    change (manager.groups.insert id.group (group'.setData data)).get? groupId = _ at hother
    rw [SortedMap.get?_insert_ne _ _ (Ne.symm hne)] at hother
    exact h.clear.others groupId other hne hother
  · rw [viewIn_of_group hset, viewIn_of_group hget]
    rfl

omit [Primitives K T] in
/-- Another group, created or changed. -/
theorem sparesIn_setGroup_other (h : id.Owned (T := T) manager) {groupId : String}
    (hne : groupId ≠ id.group) {group : Group} (hid : group.data.id = groupId)
    (hgroup : id.Avoids (manager.openGroup groupId group)) :
    id.SparesIn (T := T) manager (manager.setGroup groupId group) := by
  obtain ⟨own, hget, hholds⟩ := h.group
  have hset : (manager.setGroup groupId group).groups.get? id.group = some own :=
    (SortedMap.get?_insert_ne _ _ hne).trans hget
  refine ⟨⟨⟨h.clear.ourOwner, h.clear.ourDevice, ?_, h.clear.stored, h.clear.lists,
    h.clear.keyedOuter, h.clear.queued⟩, h.route, ⟨own, hset, hholds⟩, h.noOuter⟩, ?_, rfl⟩
  · intro other found hother hfound
    change (manager.groups.insert groupId group).get? other = _ at hfound
    rw [SortedMap.get?_insert] at hfound
    split at hfound
    · rename_i heq
      cases hfound
      subst heq
      exact ⟨hid, hgroup⟩
    · exact h.clear.others other found hother hfound
  · rw [viewIn_of_group hset, viewIn_of_group hget]
    rfl

omit [Primitives K T] in
theorem sparesIn_removeGroup (h : id.Owned (T := T) manager) {groupId : String}
    (hne : groupId ≠ id.group) : id.SparesIn (T := T) manager (manager.removeGroup groupId) := by
  obtain ⟨own, hget, hholds⟩ := h.group
  have hset : (manager.groups.erase groupId).get? id.group = some own :=
    (SortedMap.get?_erase_ne _ hne).trans hget
  have hforgotten : id.SparesIn (T := T) manager { manager with
      groups := manager.groups.erase groupId
      pendingSessionByGroup := manager.pendingSessionByGroup.erase groupId } := by
    refine ⟨⟨⟨h.clear.ourOwner, h.clear.ourDevice, ?_, h.clear.stored, h.clear.lists,
      h.clear.keyedOuter, SortedMap.forall_get?_erase h.clear.queued⟩, h.route,
      ⟨own, hset, hholds⟩, h.noOuter⟩, ?_, rfl⟩
    · intro other found hother hfound
      rw [SortedMap.get?_erase] at hfound
      split at hfound
      · cases hfound
      · exact h.clear.others other found hother hfound
    · rw [viewIn_of_group hset, viewIn_of_group hget]
      rfl
  have hdropped := sparesIn_foldl_dropSenderEvent groupId (mem_listed_of_lists h.clear hne)
    hforgotten.owned
  refine hforgotten.trans (hdropped.trans (sparesIn_routing hdropped.owned hdropped.owned.route ?_
    hdropped.owned.clear.keyedOuter hdropped.owned.noOuter))
  intro other events hother hlisted
  rw [SortedMap.get?_erase] at hlisted
  split at hlisted
  · cases hlisted
  · exact hdropped.owned.clear.lists other events hother hlisted

/-- A roster fact that respects the sender. -/
theorem sparesIn_handleIncomingMetadataEvent (hvalid : id.Valid) (h : id.Owned (T := T) manager)
    {pending : PendingSessionEvent} (hrespects : id.RespectsSession (K := K) (T := T) pending)
    {fact : GroupRosterFact} (hparse : parseGroupRosterFactRumor pending.event = .ok fact) :
    id.SparesIn (T := T) manager
        (manager.handleIncomingMetadataEvent (T := T) fact.groupId pending
          (groupMetadataFromRosterFact fact) fact).2 ∧
      id.Silent (manager.handleIncomingMetadataEvent (T := T) fact.groupId pending
          (groupMetadataFromRosterFact fact) fact).1 := by
  have hfact := (parseGroupRosterFactRumor_ok hparse).2
  have hsynthetic : (manager.buildMetadataEvent fact.groupId pending.event
      pending.fromOwnerPubkey pending.fromSenderDevicePubkey).senderEventPubkey ≠ id.eventKey :=
    hrespects.speaker
  unfold GroupManager.handleIncomingMetadataEvent
  dsimp only
  by_cases hne : fact.groupId = id.group
  · obtain ⟨howner, hlocal⟩ := hrespects.roster fact hparse hne
    obtain ⟨group, hget, hholds⟩ := h.group
    rw [hne, hget]
    dsimp only
    split
    · exact ⟨.refl h, silent_nil⟩
    · rename_i hverdict
      have hmember : manager.ourOwnerPubkey ∈ (groupMetadataFromRosterFact fact).members := by
        rw [h.clear.ourOwner]
        exact hlocal
      unfold validateMetadataUpdate at hverdict
      split at hverdict
      · cases hverdict
      · split at hverdict
        · rename_i hout
          simp [hmember] at hout
        · cases hverdict
    · have hset : id.SparesIn (T := T) manager (manager.setGroup id.group (group.setData
          (applyMetadataUpdate group.data (groupMetadataFromRosterFact fact)))) :=
        sparesIn_setGroup_own h hget hholds.enrolled.groupId howner
      rw [hne] at hsynthetic
      obtain ⟨hsettle, hquiet⟩ := sparesIn_settleMetadata (T := T) hvalid hset.owned id.group
        hsynthetic
      exact ⟨hset.trans hsettle, hquiet⟩
  · split
    · rename_i existing hexisting
      obtain ⟨hid, havoids⟩ := h.clear.others fact.groupId existing hne hexisting
      split
      · exact ⟨.refl h, silent_nil⟩
      · refine ⟨sparesIn_removeGroup h hne, ?_⟩
        intro events hevents event hmem
        cases hevents
        rw [List.mem_singleton.mp hmem]
        exact hsynthetic
      · have hset : id.SparesIn (T := T) manager (manager.setGroup fact.groupId (existing.setData
            (applyMetadataUpdate existing.data (groupMetadataFromRosterFact fact)))) :=
          sparesIn_setGroup_other h hne hid
            ⟨havoids.other, havoids.mapped, havoids.stored, havoids.keyed⟩
        obtain ⟨hsettle, hquiet⟩ := sparesIn_settleMetadata (T := T) hvalid hset.owned fact.groupId
          hsynthetic
        exact ⟨hset.trans hsettle, hquiet⟩
    · split
      · exact ⟨.refl h, silent_nil⟩
      · have hset : id.SparesIn (T := T) manager (manager.setGroup fact.groupId
            (manager.createdGroup (groupMetadataFromRosterFact fact) fact)) := by
          refine sparesIn_setGroup_other h hne hfact.id_eq
            ⟨fun heq => hne (hfact.id_eq.symm.trans heq), ?_, h.clear.stored fact.groupId hne, ?_⟩
          · intro device hmap
            cases hmap
          · intro p hp
            cases hp
        obtain ⟨hsettle, hquiet⟩ := sparesIn_settleMetadata (T := T) hvalid hset.owned fact.groupId
          hsynthetic
        exact ⟨hset.trans hsettle, hquiet⟩

omit [Primitives K T] [GroupCodec K T] in
theorem silent_reported {outcome : Except String (List GroupDecryptedEvent) × GroupManager K}
    (h : id.Silent outcome.1) : id.Silent (.ok (GroupManager.reported outcome).1) := by
  obtain ⟨_ | handled, next⟩ := outcome
  · exact silent_nil
  · intro events hevents event hmem
    cases hevents
    apply h handled rfl event
    change event ∈ GroupManager.routeIncomingEvents next handled at hmem
    unfold GroupManager.routeIncomingEvents at hmem
    split at hmem
    · exact hmem
    · exact (List.mem_filter.mp hmem).1

omit [Primitives K T] [GroupCodec K T] in
theorem reported_snd (outcome : Except String (List GroupDecryptedEvent) × GroupManager K) :
    (GroupManager.reported outcome).2 = outcome.2 := by
  obtain ⟨_ | handled, next⟩ := outcome
  · rfl
  · rfl

omit [Primitives K T] in
theorem sparesIn_queuePendingSessionEvent (h : id.Owned (T := T) manager) {groupId : String}
    (hunknown : manager.groups.get? groupId = none) {pending : PendingSessionEvent}
    (hrespects : id.RespectsSession (K := K) (T := T) pending)
    (hnames : id.Names (K := K) (T := T) pending → groupId = id.group) :
    id.SparesIn (T := T) manager (manager.queuePendingSessionEvent groupId pending) := by
  have hne : groupId ≠ id.group := by
    rintro rfl
    obtain ⟨group, hgroup, -⟩ := h.group
    rw [hunknown] at hgroup
    cases hgroup
  refine ⟨⟨⟨h.clear.ourOwner, h.clear.ourDevice, h.clear.others, h.clear.stored, h.clear.lists,
    h.clear.keyedOuter, ?_⟩, h.route, h.group, h.noOuter⟩, rfl, rfl⟩
  intro other pendings hget
  change (manager.pendingSessionByGroup.insert groupId _).get? other = _ at hget
  rw [SortedMap.get?_insert] at hget
  split at hget
  · rename_i heq
    subst heq
    cases hget
    refine ⟨hne, fun p hp => ?_⟩
    rcases List.mem_append.mp hp with hp | hp
    · cases hold : manager.pendingSessionByGroup.get? groupId with
      | none =>
          rw [hold] at hp
          cases hp
      | some old =>
          rw [hold] at hp
          exact (h.clear.queued groupId old hold).2 p hp
    · rw [List.mem_singleton.mp hp]
      exact ⟨hrespects, fun hnamed => hne (hnames hnamed)⟩
  · exact h.clear.queued other pendings hget

/-- An event shown as the sender's. -/
structure Attributed (id : SenderIdentity) (event : GroupDecryptedEvent) : Prop where
  key : event.senderEventPubkey = id.eventKey
  groupId : event.groupId = id.group
  device : event.senderDevicePubkey = id.device
  remote : event.origin ≠ .localDevice

omit [Primitives K T] [GroupCodec K T] in
theorem attributed_decryptedEvent (hvalid : id.Valid) {outer : VerifiedEvent}
    (hkey : outer.pubkey = id.eventKey) (keyId messageNumber : Nat) (inner : JsonValue ⊕ Rumor) :
    id.Attributed (id.decryptedEvent outer keyId messageNumber inner) := by
  refine ⟨hkey, rfl, rfl, ?_⟩
  change classifyMessageOrigin id.ourOwner id.ourDevice (some id.owner) id.device ≠ _
  unfold classifyMessageOrigin
  split
  · split
    · simp
    · split
      · simp
      · rw [if_neg hvalid.device_ne]
        simp
  · split
    · simp
    · rw [if_neg hvalid.device_ne]
      simp

theorem attributed_receive (hvalid : id.Valid) {view : SenderView K} {outer : VerifiedEvent}
    (hkey : outer.pubkey = id.eventKey) {event : GroupDecryptedEvent}
    (h : (id.receive (T := T) view outer).1 = .ok (some event)) : id.Attributed event := by
  unfold receive at h
  split at h
  · cases h
  split at h
  · cases h
  split at h
  · cases h
  · unfold receiveParsed at h
    split at h
    · cases h
    · cases h
    · dsimp only at h
      split at h
      · cases h
      · cases h
      · cases h
        exact attributed_decryptedEvent hvalid hkey _ _ _

theorem attributed_receiveAll (hvalid : id.Valid) {outers : List VerifiedEvent}
    (hkeys : ∀ outer ∈ outers, outer.pubkey = id.eventKey) {view : SenderView K}
    {events : List GroupDecryptedEvent}
    (h : (id.receiveAll (T := T) outers view).1 = .ok events) :
    ∀ event ∈ events, id.Attributed event := by
  induction outers generalizing view events with
  | nil =>
      cases h
      intro event hmem
      cases hmem
  | cons outer rest ih =>
      have hfirst : ∀ event, (id.receive (T := T) view outer).1 = .ok (some event) →
          id.Attributed event :=
        fun event hrun => attributed_receive hvalid (hkeys outer List.mem_cons_self) hrun
      rw [receiveAll] at h
      generalize id.receive (T := T) view outer = first at h hfirst
      obtain ⟨_ | decrypted, next⟩ := first
      · cases h
      · dsimp only at h hfirst
        have hrest : ∀ later, (id.receiveAll (T := T) rest next).1 = .ok later →
            ∀ event ∈ later, id.Attributed event :=
          fun later hlater => ih (fun o ho => hkeys o (List.mem_cons_of_mem _ ho)) hlater
        generalize id.receiveAll (T := T) rest next = last at h hrest
        obtain ⟨_ | later, last⟩ := last
        · cases h
        · cases h
          intro event hmem
          rcases List.mem_append.mp hmem with hmem | hmem
          · rw [Option.mem_toList] at hmem
            exact hfirst event (by rw [hmem])
          · exact hrest later rfl event hmem

theorem attributed_drain (hvalid : id.Valid) {view : SenderView K}
    (hkeyed : ∀ p ∈ view.waiting, p.outer.pubkey = id.eventKey) {keyId : Nat}
    {events : List GroupDecryptedEvent} (h : (id.drain (T := T) view keyId).1 = .ok events) :
    ∀ event ∈ events, id.Attributed event := by
  unfold drain at h
  dsimp only at h
  split at h
  · cases h
    intro event hmem
    cases hmem
  · refine attributed_receiveAll hvalid ?_ h
    intro outer houter
    obtain ⟨p, hp, rfl⟩ := List.mem_map.mp (mem_sortByMessageNumber.mp houter)
    rcases List.mem_append.mp hp with hp | hp
    · exact hkeyed p (List.mem_filter.mp hp).1
    · exact hkeyed p (List.mem_filter.mp hp).1

theorem attributed_learn (hvalid : id.Valid) {view : SenderView K}
    (hkeyed : ∀ p ∈ view.waiting, p.outer.pubkey = id.eventKey) {dist : SenderKeyDistribution}
    {events : List GroupDecryptedEvent} (h : (id.learn (T := T) view dist).1 = .ok events) :
    ∀ event ∈ events, id.Attributed event := by
  unfold learn at h
  split at h
  · exact attributed_drain hvalid hkeyed h
  · split at h
    · cases h
    · refine attributed_drain hvalid ?_ h
      exact hkeyed

omit [Primitives K T] in
theorem keyed_viewIn (h : id.Owned (T := T) manager) :
    ∀ p ∈ (id.viewIn manager).waiting, p.outer.pubkey = id.eventKey := by
  obtain ⟨group, hget, hholds⟩ := h.group
  rw [viewIn_of_group hget]
  intro p hp
  obtain ⟨hmem, hkey⟩ := List.mem_filter.mp hp
  exact (hholds.keyed p hmem).symm.trans (of_decide_eq_true hkey)

omit [Primitives K T] [GroupCodec K T] in
theorem routeIncomingEvents_attributed {events : List GroupDecryptedEvent}
    (h : ∀ event ∈ events, id.Attributed event) (manager : GroupManager K) :
    manager.routeIncomingEvents events = events := by
  unfold GroupManager.routeIncomingEvents
  split
  · rfl
  · rw [List.filter_eq_self]
    intro event hmem
    simp [GroupManager.shouldDropLocalEcho, (h event hmem).remote]

/-- The events that an operation of the sender's machine shows. -/
def shown (result : Except String (List GroupDecryptedEvent)) : List GroupDecryptedEvent :=
  match result with
  | .ok events => events
  | .error _ => []

/-- The manager's side of `sessionEventTarget`, for a rumor that is no roster fact. -/
theorem handleIncomingSessionEvent_plain {pending : PendingSessionEvent}
    {target : GroupManager.SessionEventTarget} {groupId : String}
    (htarget : GroupManager.sessionEventTarget (K := K) (T := T) pending.event = .ok (some target))
    (hgroup : truthy target.groupId = some groupId) (hfact : target.rosterFact = none) :
    manager.handleIncomingSessionEvent (T := T) pending =
      match manager.groups.get? groupId with
      | none => (.ok [], manager.queuePendingSessionEvent groupId pending)
      | some group =>
          (.ok (GroupManager.reported (manager.handleIncomingSessionEventForKnownGroup (T := T)
              groupId group pending target.distribution)).1,
            (GroupManager.reported (manager.handleIncomingSessionEventForKnownGroup (T := T)
              groupId group pending target.distribution)).2) := by
  unfold GroupManager.handleIncomingSessionEvent
  rw [htarget]
  dsimp only
  rw [hgroup, hfact]
  rfl

omit [Primitives K T] in
/-- A rumor that is no roster fact is routed with the distribution it carries, and a
distribution decides the group. -/
theorem sessionEventTarget_plain {pending : PendingSessionEvent}
    {target : GroupManager.SessionEventTarget}
    (h : GroupManager.sessionEventTarget (K := K) (T := T) pending.event = .ok (some target))
    (hfact : target.rosterFact = none) :
    target.distribution = GroupManager.distributionOf (K := K) (T := T) pending.event ∧
      ∀ dist, GroupManager.distributionOf (K := K) (T := T) pending.event = some dist →
        dist.groupId ≠ "" → target.groupId = some dist.groupId := by
  unfold GroupManager.sessionEventTarget at h
  unfold GroupManager.distributionOf
  dsimp only at h
  split at h
  · rename_i hkind
    rw [if_pos hkind]
    cases h
    refine ⟨rfl, ?_⟩
    intro dist hdist hne
    have htruthy : truthy (some dist.groupId) = some dist.groupId := by
      apply truthy_of_ne
      intro heq
      exact hne (Option.some.inj heq)
    rw [hdist, Option.map_some, htruthy]
    rfl
  · rename_i hkind
    rw [if_neg hkind]
    split at h
    · cases hrequest : parseSenderKeyRepairRequestRumor K T pending.event with
      | error e =>
          rw [hrequest] at h
          cases h
      | ok request =>
          rw [hrequest] at h
          cases h
          exact ⟨rfl, fun dist hdist => by cases hdist⟩
    · split at h
      · split at h
        · cases h
        · cases h
          cases hfact
      · cases h
        exact ⟨rfl, fun dist hdist => by cases hdist⟩

omit [Primitives K T] in
theorem sessionEventTarget_roster {pending : PendingSessionEvent}
    {target : GroupManager.SessionEventTarget} {fact : GroupRosterFact}
    (h : GroupManager.sessionEventTarget (K := K) (T := T) pending.event = .ok (some target))
    (hfact : target.rosterFact = some fact) :
    parseGroupRosterFactRumor pending.event = .ok fact ∧ target.groupId = some fact.groupId ∧
      GroupManager.distributionOf (K := K) (T := T) pending.event = none := by
  unfold GroupManager.sessionEventTarget at h
  dsimp only at h
  split at h
  · cases h
    cases hfact
  · rename_i hkind
    split at h
    · cases hrequest : parseSenderKeyRepairRequestRumor K T pending.event with
      | error e =>
          rw [hrequest] at h
          cases h
      | ok request =>
          rw [hrequest] at h
          cases h
          cases hfact
    · split at h
      · split at h
        · cases h
        · rename_i parsed hparse
          cases h
          cases hfact
          exact ⟨hparse, rfl, by rw [GroupManager.distributionOf, if_neg hkind]⟩
      · cases h
        cases hfact

/-- A rumor that respects the sender and is not its own announcement. -/
theorem sparesIn_handleIncomingSessionEvent (hvalid : id.Valid) (h : id.Owned (T := T) manager)
    {pending : PendingSessionEvent} (hrespects : id.RespectsSession (K := K) (T := T) pending)
    (hann : id.announcement (K := K) (T := T) pending = none) :
    id.SparesIn (T := T) manager (manager.handleIncomingSessionEvent (T := T) pending).2 ∧
      id.Silent (manager.handleIncomingSessionEvent (T := T) pending).1 := by
  cases htarget : GroupManager.sessionEventTarget (K := K) (T := T) pending.event with
  | error e =>
      unfold GroupManager.handleIncomingSessionEvent
      rw [htarget]
      exact ⟨.refl h, silent_error e⟩
  | ok found =>
      cases found with
      | none =>
          unfold GroupManager.handleIncomingSessionEvent
          rw [htarget]
          exact ⟨.refl h, silent_nil⟩
      | some target =>
          cases hgroup : truthy target.groupId with
          | none =>
              unfold GroupManager.handleIncomingSessionEvent
              rw [htarget]
              dsimp only
              rw [hgroup]
              exact ⟨.refl h, silent_nil⟩
          | some groupId =>
              cases hfact : target.rosterFact with
              | some fact =>
                  obtain ⟨hparse, hid, -⟩ := sessionEventTarget_roster htarget hfact
                  have hsame : groupId = fact.groupId := by
                    rw [hid] at hgroup
                    exact (Option.some.inj (Option.filter_eq_some_iff.mp hgroup).1).symm
                  subst hsame
                  obtain ⟨hspares, hsilent⟩ :=
                    sparesIn_handleIncomingMetadataEvent (T := T) hvalid h hrespects hparse
                  have hrun : manager.handleIncomingSessionEvent (T := T) pending =
                      (.ok (GroupManager.reported (manager.handleIncomingMetadataEvent (T := T)
                          fact.groupId pending (groupMetadataFromRosterFact fact) fact)).1,
                        (GroupManager.reported (manager.handleIncomingMetadataEvent (T := T)
                          fact.groupId pending (groupMetadataFromRosterFact fact) fact)).2) := by
                    unfold GroupManager.handleIncomingSessionEvent
                    rw [htarget]
                    dsimp only
                    rw [hgroup, hfact]
                    rfl
                  rw [hrun]
                  dsimp only
                  rw [reported_snd]
                  exact ⟨hspares, silent_reported hsilent⟩
              | none =>
                  obtain ⟨hdist, hdecides⟩ := sessionEventTarget_plain htarget hfact
                  have hnames : id.Names (K := K) (T := T) pending → groupId = id.group := by
                    rintro ⟨dist, hfound, hkey⟩
                    obtain ⟨-, -, hfor, -⟩ := hrespects.distribution dist hfound (Or.inl hkey)
                    have hid := hdecides dist hfound (by rw [hfor]; exact hvalid.group_ne)
                    rw [hid] at hgroup
                    exact (Option.some.inj (Option.filter_eq_some_iff.mp hgroup).1).symm.trans hfor
                  rw [handleIncomingSessionEvent_plain htarget hgroup hfact, hdist]
                  split
                  · rename_i hunknown
                    exact ⟨sparesIn_queuePendingSessionEvent h hunknown hrespects hnames,
                      silent_nil⟩
                  · rename_i group hknown
                    obtain ⟨hspares, hsilent⟩ := sparesIn_handleKnown (T := T) hvalid h hknown
                      hrespects (fun _ => hann) hnames
                    dsimp only
                    rw [reported_snd]
                    exact ⟨hspares, silent_reported hsilent⟩

omit [Primitives K T] in
/-- An announcement is routed to the sender's group. -/
theorem sessionEventTarget_announcement (hvalid : id.Valid) {pending : PendingSessionEvent}
    {dist : SenderKeyDistribution}
    (hann : id.announcement (K := K) (T := T) pending = some dist) :
    ∃ target, GroupManager.sessionEventTarget (K := K) (T := T) pending.event = .ok (some target) ∧
      truthy target.groupId = some id.group ∧ target.rosterFact = none ∧
      target.distribution = GroupManager.distributionOf (K := K) (T := T) pending.event := by
  obtain ⟨hdist, hgroup, -⟩ := distributionOf_of_announcement hann
  have htruthy : truthy (some id.group) = some id.group := by
    apply truthy_of_ne
    intro heq
    exact hvalid.group_ne (Option.some.inj heq)
  unfold GroupManager.distributionOf at hdist ⊢
  split at hdist
  · rename_i hkind
    refine ⟨⟨some id.group, some dist, none⟩, ?_, htruthy, rfl, ?_⟩
    · unfold GroupManager.sessionEventTarget
      dsimp only
      rw [if_pos hkind, hdist, Option.map_some, hgroup, htruthy]
      rfl
    · rw [if_pos hkind, hdist]
  · cases hdist

/-- The sender's own announcement runs its machine. -/
theorem followsIn_handleIncomingSessionEvent (hvalid : id.Valid) (h : id.Owned (T := T) manager)
    {pending : PendingSessionEvent} {dist : SenderKeyDistribution}
    (hann : id.announcement (K := K) (T := T) pending = some dist) :
    id.FollowsIn (T := T) manager (manager.handleIncomingSessionEvent (T := T) pending)
      (.ok (shown (id.learn (T := T) (id.viewIn manager) dist).1),
        (id.learn (T := T) (id.viewIn manager) dist).2) := by
  obtain ⟨target, htarget, hgroup, hfact, hdist⟩ := sessionEventTarget_announcement hvalid hann
  obtain ⟨group, hget, hholds⟩ := h.group
  have hfollows := followsIn_handleKnown (T := T) hvalid h hget hann
  have hattributed : ∀ events, (id.learn (T := T) (id.viewIn manager) dist).1 = .ok events →
      ∀ event ∈ events, id.Attributed event :=
    fun events hevents => attributed_learn hvalid (keyed_viewIn h) hevents
  rw [handleIncomingSessionEvent_plain htarget hgroup hfact, hdist, hget]
  dsimp only
  generalize manager.handleIncomingSessionEventForKnownGroup (T := T) id.group group pending
    (GroupManager.distributionOf (K := K) (T := T) pending.event) = outcome at hfollows ⊢
  generalize id.learn (T := T) (id.viewIn manager) dist = expected at hfollows hattributed ⊢
  obtain ⟨result, next⟩ := outcome
  obtain ⟨result', view'⟩ := expected
  obtain ⟨howned, rfl, rfl, hseen⟩ := hfollows
  cases result with
  | error e => exact ⟨howned, rfl, rfl, hseen⟩
  | ok events =>
      refine ⟨howned, rfl, ?_, hseen⟩
      change Except.ok (GroupManager.routeIncomingEvents next events) = Except.ok events
      rw [routeIncomingEvents_attributed (hattributed events rfl)]

end Running

end SenderIdentity

end NostrDoubleRatchet.TypeScript
