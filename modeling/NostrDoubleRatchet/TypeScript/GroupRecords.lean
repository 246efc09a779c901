import NostrDoubleRatchet.Symbolic
import NostrDoubleRatchet.TypeScript.GroupManager

/-!
Who may change a group's record. Every operation of a group leaves the record alone; only a
roster fact replaces it, and it does so whatever its revision. So after any deliveries the
record shows the fact that came last.
-/

namespace NostrDoubleRatchet.TypeScript

theorem foldl_keeps {α β γ : Type} {f : α → β → α} {g : α → γ} (h : ∀ a b, g (f a b) = g a)
    (items : List β) (start : α) : g (items.foldl f start) = g start := by
  induction items generalizing start with
  | nil => rfl
  | cons item rest ih => rw [List.foldl_cons, ih, h]

/-- What a group knows besides its senders. -/
structure Group.Record where
  data : GroupData
  memberOwnerPubkeys : List String
  ourOwnerPubkey : String
  ourDevicePubkey : String

def Group.record (group : Group) : Group.Record :=
  ⟨group.data, group.memberOwnerPubkeys, group.ourOwnerPubkey, group.ourDevicePubkey⟩

namespace OpenGroup

variable {K T : Type}

/-- Reading a folder back changes the sender maps only. -/
theorem loadSender_keeps {γ : Type} {g : Group → γ}
    (hmap : ∀ group device event, g (group.setSenderEventMapping device event) = g group)
    (howner : ∀ (group : Group) owners, g { group with senderDeviceToOwner := owners } = g group)
    (group : Group) (device : String) (folder : SenderFolder K) :
    g (loadSender group device folder) = g group := by
  unfold loadSender
  split
  · rfl
  · cases folder.senderEventPubkey with
    | none =>
        cases folder.senderOwnerPubkey with
        | none => rfl
        | some owner => exact howner _ _
    | some event =>
        have hevent : g (if isHex64 event then group.setSenderEventMapping device event
            else group) = g group := by
          split
          · exact hmap group device event
          · rfl
        cases folder.senderOwnerPubkey with
        | none => exact hevent
        | some owner => exact (howner _ _).trans hevent

/-- What neither the sender maps nor the flag of `init` touch is kept by `init`. -/
theorem init_keeps {γ : Type} {g : Group → γ}
    (hmap : ∀ group device event, g (group.setSenderEventMapping device event) = g group)
    (howner : ∀ (group : Group) owners, g { group with senderDeviceToOwner := owners } = g group)
    (hflag : ∀ group : Group, g { group with initialized := true } = g group)
    (self : OpenGroup K) : g self.init.group = g self.group := by
  unfold init
  split
  · rfl
  · exact (foldl_keeps (fun group (entry : String × SenderFolder K) =>
      loadSender_keeps hmap howner group entry.1 entry.2) self.store.entries
        { self.group with initialized := true }).trans (hflag self.group)

@[simp] theorem record_init (self : OpenGroup K) : self.init.group.record = self.group.record :=
  init_keeps (fun _ _ _ => rfl) (fun _ _ => rfl) (fun _ => rfl) self

theorem initialized_init (self : OpenGroup K) : self.init.group.initialized = true := by
  unfold init
  split
  · rename_i h
    exact h
  · exact foldl_keeps (g := Group.initialized) (fun group (entry : String × SenderFolder K) =>
      loadSender_keeps (fun _ _ _ => rfl) (fun _ _ => rfl) group entry.1 entry.2)
        self.store.entries { self.group with initialized := true }

@[simp] theorem record_removeSenderDeviceState (self : OpenGroup K) (device : String) :
    (self.removeSenderDeviceState device).group.record = self.group.record := rfl

@[simp] theorem record_purgeInactiveSenders (self : OpenGroup K) :
    self.purgeInactiveSenders.group.record = self.group.record := by
  unfold purgeInactiveSenders
  apply foldl_keeps (g := fun self : OpenGroup K => self.group.record)
  intro self device
  split
  · rfl
  · rfl

@[simp] theorem record_queuePending (group : Group) (event : String) (keyId : Option Nat)
    (outer : VerifiedEvent) : (group.queuePending event keyId outer).record = group.record := rfl

@[simp] theorem group_saveSenderKeyState (self : OpenGroup K) (device : String)
    (state : SenderKeyState K) : (self.saveSenderKeyState device state).group = self.group := rfl

@[simp] theorem record_listSenderEventPubkeys (self : OpenGroup K) :
    self.listSenderEventPubkeys.2.group.record = self.group.record := by
  simp [listSenderEventPubkeys]

section Receiving

variable [Primitives K T] [GroupCodec K T]

@[simp] theorem record_handleSenderOuter (self : OpenGroup K) (outer : VerifiedEvent)
    (parsed : OneToManyMessage) (device : String) :
    (self.handleSenderOuter (T := T) outer parsed device).2.group.record = self.group.record := by
  unfold handleSenderOuter
  split
  · rfl
  · rfl
  · dsimp only
    split
    · rfl
    · rfl
    · rfl

@[simp] theorem record_handleOuterEvent (self : OpenGroup K) (outer : VerifiedEvent) :
    (self.handleOuterEvent (T := T) outer).2.group.record = self.group.record := by
  have hstart : self.init.purgeInactiveSenders.group.record = self.group.record := by simp
  rw [← hstart]
  unfold handleOuterEvent
  generalize self.init.purgeInactiveSenders = self
  dsimp only
  split
  · rfl
  split
  · rfl
  split
  · rfl
  split
  · rfl
  split
  · rfl
  split
  · rfl
  · simp

@[simp] theorem record_handleOuterEvents (outers : List VerifiedEvent) (self : OpenGroup K) :
    (handleOuterEvents (T := T) outers self).2.group.record = self.group.record := by
  induction outers generalizing self with
  | nil => rfl
  | cons outer rest ih =>
      rw [← record_handleOuterEvent (T := T) self outer, handleOuterEvents]
      generalize self.handleOuterEvent (T := T) outer = first
      obtain ⟨_ | decrypted, next⟩ := first
      · rfl
      · rw [← ih next]
        dsimp only
        generalize handleOuterEvents (T := T) rest next = last
        obtain ⟨_ | events, last⟩ := last
        · rfl
        · rfl

@[simp] theorem record_drainPending (self : OpenGroup K) (event : String) (keyId : Nat) :
    (self.drainPending (T := T) event keyId).2.group.record = self.group.record := by
  unfold drainPending
  dsimp only
  split
  · rfl
  · rw [record_handleOuterEvents]
    rfl

@[simp] theorem record_learnSender (self : OpenGroup K) (device owner : String)
    (event : Option String) :
    (self.learnSender device owner event).group.record = self.group.record := by
  cases event with
  | none => rfl
  | some event => rfl

omit [Primitives K T] in
theorem record_storeDistributedKey {self next : OpenGroup K} {dist : SenderKeyDistribution}
    {device : String} (h : self.storeDistributedKey (T := T) dist device = .ok next) :
    next.group.record = self.group.record := by
  unfold storeDistributedKey at h
  split at h
  · cases h
    rfl
  · split at h
    · cases h
    · cases h
      rfl

@[simp] theorem record_handleDistribution (self : OpenGroup K) (dist : SenderKeyDistribution)
    (fromOwner device : String) :
    (self.handleDistribution (T := T) dist fromOwner device).2.group.record =
      self.group.record := by
  unfold handleDistribution
  dsimp only
  split
  · simp
  · rename_i hstored _
    rw [record_drainPending, record_storeDistributedKey hstored, record_learnSender]
  · rename_i hstored _
    rw [record_storeDistributedKey hstored, record_learnSender]

@[simp] theorem record_handleIncomingSessionEvent (self : OpenGroup K) (event : Rumor)
    (fromOwner : String) (fromDevice : Option String) :
    (self.handleIncomingSessionEvent (T := T) event fromOwner fromDevice).2.group.record =
      self.group.record := by
  rw [← record_init self]
  unfold handleIncomingSessionEvent
  generalize self.init = self
  dsimp only
  split
  · rfl
  split
  · rfl
  split
  · split
    · rfl
    · rfl
    · split
      · rfl
      · split
        · rfl
        · rfl
  split
  · rfl
  split
  · rfl
  split
  · rfl
  split
  · rfl
  · simp

end Receiving

end OpenGroup

namespace GroupManager

variable {K T : Type}

/-- What a manager knows besides senders and queues. -/
@[ext] structure Known where
  ourOwnerPubkey : String
  ourDevicePubkey : String
  record : String → Option Group.Record

def known (manager : GroupManager K) : Known where
  ourOwnerPubkey := manager.ourOwnerPubkey
  ourDevicePubkey := manager.ourDevicePubkey
  record groupId := (manager.groups.get? groupId).map Group.record

theorem known_setGroup {manager : GroupManager K} {groupId : String} {group next : Group}
    (hgroup : manager.groups.get? groupId = some group) (hnext : next.record = group.record) :
    (manager.setGroup groupId next).known = manager.known := by
  have hrecord : (manager.setGroup groupId next).known.record = manager.known.record := by
    funext other
    simp only [known, setGroup, SortedMap.get?_insert]
    split
    · rename_i heq
      rw [← heq, hgroup, Option.map_some, Option.map_some, hnext]
    · rfl
  exact Known.ext rfl rfl hrecord

theorem known_closeGroup {manager : GroupManager K} {groupId : String} {group : Group}
    {opened : OpenGroup K} (hgroup : manager.groups.get? groupId = some group)
    (hopened : opened.group.record = group.record) :
    (manager.closeGroup groupId opened).known = manager.known := by
  have hset := known_setGroup hgroup hopened
  exact hset

@[simp] theorem known_bindSenderEventToGroup (manager : GroupManager K) (groupId event : String) :
    (manager.bindSenderEventToGroup groupId event).known = manager.known := rfl

@[simp] theorem known_refreshGroupSenderMappings (manager : GroupManager K) (groupId : String) :
    (manager.refreshGroupSenderMappings groupId).known = manager.known := by
  unfold refreshGroupSenderMappings
  split
  · rfl
  · rename_i group hgroup
    have hopened := OpenGroup.record_listSenderEventPubkeys (manager.openGroup groupId group)
    rw [← known_closeGroup hgroup hopened]
    exact foldl_keeps (f := dropSenderEvent groupId) (g := GroupManager.known)
      (fun manager event => rfl) _ _

section Receiving

variable [Primitives K T] [GroupCodec K T]

theorem known_drainPendingOuterForSenderEvent {manager : GroupManager K} {event groupId : String}
    {group : Group} (hgroup : manager.groups.get? groupId = some group) :
    (manager.drainPendingOuterForSenderEvent (T := T) event groupId group).2.known =
      manager.known := by
  unfold drainPendingOuterForSenderEvent
  split
  · rfl
  · dsimp only
    refine Eq.trans (known_closeGroup hgroup ?_) rfl
    exact OpenGroup.record_handleOuterEvents _ _

@[simp] theorem known_routeDistribution (manager : GroupManager K) (groupId : String)
    (distribution : Option SenderKeyDistribution) :
    (manager.routeDistribution (T := T) groupId distribution).2.known = manager.known := by
  unfold routeDistribution
  split
  · rename_i event group _ hgroup
    exact known_drainPendingOuterForSenderEvent hgroup
  · rfl

theorem known_handleIncomingSessionEventForKnownGroup {manager : GroupManager K}
    {groupId : String} {group : Group} (hgroup : manager.groups.get? groupId = some group)
    (pending : PendingSessionEvent) (distribution : Option SenderKeyDistribution) :
    (manager.handleIncomingSessionEventForKnownGroup (T := T) groupId group pending
      distribution).2.known = manager.known := by
  unfold handleIncomingSessionEventForKnownGroup
  dsimp only
  have hclose := known_closeGroup hgroup (OpenGroup.record_handleIncomingSessionEvent (T := T)
    (manager.openGroup groupId group) pending.event pending.fromOwnerPubkey
    pending.fromSenderDevicePubkey)
  generalize manager.closeGroup groupId _ = closed at hclose ⊢
  split
  · exact hclose
  · have hroute := known_routeDistribution (T := T) closed groupId distribution
    split
    · rename_i hrun
      rw [hrun] at hroute
      exact hroute.trans hclose
    · rename_i hrun
      rw [hrun] at hroute
      rw [known_refreshGroupSenderMappings]
      exact hroute.trans hclose

@[simp] theorem known_drainSessionEvents (groupId : String) (pending : List PendingSessionEvent)
    (manager : GroupManager K) :
    (drainSessionEvents (T := T) groupId pending manager).2.known = manager.known := by
  induction pending generalizing manager with
  | nil => rfl
  | cons queued rest ih =>
      unfold drainSessionEvents
      split
      · rfl
      · rename_i group hgroup
        have hfirst := known_handleIncomingSessionEventForKnownGroup (T := T) hgroup queued
          (distributionOf (K := K) (T := T) queued.event)
        split
        · rename_i hrun
          rw [hrun] at hfirst
          exact hfirst
        · rename_i next hrun
          rw [hrun] at hfirst
          have hrest := ih next
          split
          · rename_i hlater
            rw [hlater] at hrest
            exact hrest.trans hfirst
          · rename_i hlater
            rw [hlater] at hrest
            exact hrest.trans hfirst

@[simp] theorem known_drainPendingSessionEvents (manager : GroupManager K) (groupId : String) :
    (manager.drainPendingSessionEvents (T := T) groupId).2.known = manager.known := by
  unfold drainPendingSessionEvents
  split
  · rfl
  · rw [known_drainSessionEvents]
    rfl

@[simp] theorem known_settleMetadata (manager : GroupManager K) (groupId : String)
    (synthetic : GroupDecryptedEvent) :
    (manager.settleMetadata (T := T) groupId synthetic).2.known = manager.known := by
  have hdrain := known_drainPendingSessionEvents (T := T)
    (manager.refreshGroupSenderMappings groupId) groupId
  rw [known_refreshGroupSenderMappings] at hdrain
  unfold settleMetadata
  split
  · rename_i hrun
    rw [hrun] at hdrain
    exact hdrain
  · rename_i hrun
    rw [hrun] at hdrain
    exact hdrain

theorem getGroup_eq (manager : GroupManager K) (groupId : String) :
    manager.getGroup groupId = (manager.known.record groupId).map (·.data) := by
  rw [getGroup, known, Option.map_map]
  rfl

/-- A roster fact from an admin that keeps the local owner replaces the record. -/
theorem handleIncomingMetadataEvent_accepts {manager : GroupManager K}
    {pending : PendingSessionEvent} {fact : GroupRosterFact} (hfact : fact.WellFormed)
    (hadmin : pending.fromOwnerPubkey ∈ fact.group.admins)
    (hlocal : manager.ourOwnerPubkey ∈ fact.group.members)
    (hknown : ∀ data, manager.getGroup fact.groupId = some data →
      isGroupAdmin data pending.fromOwnerPubkey = true) :
    ∃ group : Group, group.data.profile = fact.profile ∧
      (manager.handleIncomingMetadataEvent (T := T) fact.groupId pending
        (groupMetadataFromRosterFact fact) fact).2.known =
          (manager.setGroup fact.groupId group).known := by
  have hmember : manager.ourOwnerPubkey ∈ (groupMetadataFromRosterFact fact).members := hlocal
  unfold handleIncomingMetadataEvent
  dsimp only
  split
  · rename_i existing hexisting
    have hdata : manager.getGroup fact.groupId = some existing.data := by
      rw [getGroup, hexisting]
      rfl
    have hverdict : validateMetadataUpdate existing.data (groupMetadataFromRosterFact fact)
        pending.fromOwnerPubkey manager.ourOwnerPubkey = .accept := by
      simp [validateMetadataUpdate, hknown _ hdata, hmember]
    rw [hverdict]
    refine ⟨existing.setData (applyMetadataUpdate existing.data
      (groupMetadataFromRosterFact fact)), rfl, ?_⟩
    rw [known_settleMetadata]
  · have hcreate : validateMetadataCreation (groupMetadataFromRosterFact fact)
        pending.fromOwnerPubkey manager.ourOwnerPubkey = true := by
      have hsender : pending.fromOwnerPubkey ∈ (groupMetadataFromRosterFact fact).admins := hadmin
      simp [validateMetadataCreation, hsender, hmember]
    rw [hcreate]
    refine ⟨manager.createdGroup (groupMetadataFromRosterFact fact) fact, ?_, ?_⟩
    · change GroupProfile.mk _ (truthy fact.group.description) (truthy fact.group.picture) _ _ = _
      rw [hfact.description_truthy, hfact.picture_truthy]
      rfl
    · exact known_settleMetadata _ _ _

/-- The same through `handleIncomingSessionEvent`: whatever the record was and whatever
revision it came from. -/
theorem handleIncomingSessionEvent_accepts {manager : GroupManager K}
    {pending : PendingSessionEvent} {fact : GroupRosterFact}
    (hparse : parseGroupRosterFactRumor pending.event = .ok fact)
    (hadmin : pending.fromOwnerPubkey ∈ fact.group.admins)
    (hlocal : manager.ourOwnerPubkey ∈ fact.group.members)
    (hknown : ∀ data, manager.getGroup fact.groupId = some data →
      isGroupAdmin data pending.fromOwnerPubkey = true) :
    ∃ data, (manager.handleIncomingSessionEvent (T := T) pending).2.getGroup fact.groupId =
        some data ∧ data.profile = fact.profile ∧
      (manager.handleIncomingSessionEvent (T := T) pending).2.ourOwnerPubkey =
        manager.ourOwnerPubkey := by
  obtain ⟨hevent, hfact⟩ := parseGroupRosterFactRumor_ok hparse
  obtain ⟨group, hprofile, hafter⟩ :=
    handleIncomingMetadataEvent_accepts (T := T) hfact hadmin hlocal hknown
  have hkind : pending.event.kind = GROUP_ROSTER_FACT_KIND := by
    simp only [isGroupRosterFactEvent, Bool.and_eq_true, decide_eq_true_eq] at hevent
    exact hevent.1
  have htarget : sessionEventTarget (K := K) (T := T) pending.event =
      .ok (some ⟨some fact.groupId, none, some fact⟩) := by
    unfold sessionEventTarget
    dsimp only
    rw [if_neg (by rw [hkind]; decide), if_neg (by rw [hkind]; decide), if_pos ⟨hkind, hevent⟩,
      hparse]
  have hid : truthy (some fact.groupId) = some fact.groupId := by
    apply truthy_of_ne
    intro heq
    exact hfact.groupId_ne (Option.some.inj heq)
  have hrun : (manager.handleIncomingSessionEvent (T := T) pending).2 =
      (manager.handleIncomingMetadataEvent (T := T) fact.groupId pending
        (groupMetadataFromRosterFact fact) fact).2 := by
    unfold handleIncomingSessionEvent
    rw [htarget]
    dsimp only
    rw [hid]
    dsimp only [Prod.map]
    generalize manager.handleIncomingMetadataEvent (T := T) fact.groupId pending
      (groupMetadataFromRosterFact fact) fact = outcome
    obtain ⟨_ | events, next⟩ := outcome
    · rfl
    · rfl
  rw [hrun]
  refine ⟨group.data, ?_, hprofile, ?_⟩
  · rw [getGroup_eq, hafter]
    simp [known, setGroup, Group.record]
  · exact congrArg Known.ourOwnerPubkey hafter

/-- Deliver rumors one after the other. -/
def deliver (manager : GroupManager K) (deliveries : List PendingSessionEvent) : GroupManager K :=
  deliveries.foldl (fun manager pending =>
    (manager.handleIncomingSessionEvent (T := T) pending).2) manager

/-- Facts by one admin: the revisions increase, the admin stays the only one and the local
owner stays a member. -/
structure SingleAdminHistory (admin localOwner groupId : String)
    (history : List GroupRosterFact) : Prop where
  increasing : history.Pairwise (fun a b => a.revision < b.revision)
  groupId_eq : ∀ fact ∈ history, fact.groupId = groupId
  admins_eq : ∀ fact ∈ history, fact.group.admins = [admin]
  lists_local : ∀ fact ∈ history, localOwner ∈ fact.group.members

/-- The rumor comes from the admin and says what the fact says. -/
def Brings (admin : String) (pending : PendingSessionEvent) (fact : GroupRosterFact) : Prop :=
  pending.fromOwnerPubkey = admin ∧
    ∃ parsed, parseGroupRosterFactRumor pending.event = .ok parsed ∧
      parsed.groupId = fact.groupId ∧ parsed.revision = fact.revision ∧
      parsed.profile = fact.profile

/-- The fact of the highest revision among those delivered. -/
structure HighestDelivered (admin : String) (history : List GroupRosterFact)
    (deliveries : List PendingSessionEvent) (top : GroupRosterFact) : Prop where
  mem : top ∈ history
  delivered : ∃ pending ∈ deliveries, Brings admin pending top
  highest : ∀ pending ∈ deliveries, ∀ fact ∈ history, Brings admin pending fact →
    fact.revision ≤ top.revision

section History

variable {admin groupId : String} {history : List GroupRosterFact}

private theorem admin_of_profile {data : GroupData} {fact : GroupRosterFact}
    (hadmins : fact.group.admins = [admin]) (hprofile : data.profile = fact.profile) :
    isGroupAdmin data admin = true := by
  have hdata : data.admins = fact.group.admins := congrArg GroupProfile.admins hprofile
  rw [isGroupAdmin, hdata, hadmins]
  simp

/-- One delivery: the record now shows its fact, and the admin is still in charge. -/
theorem getGroup_of_brings {manager : GroupManager K}
    (hhistory : SingleAdminHistory admin manager.ourOwnerPubkey groupId history)
    (hknown : ∀ data, manager.getGroup groupId = some data → isGroupAdmin data admin = true)
    {pending : PendingSessionEvent} {fact : GroupRosterFact} (hfact : fact ∈ history)
    (hbrings : Brings admin pending fact) :
    ∃ data, (manager.handleIncomingSessionEvent (T := T) pending).2.getGroup groupId = some data ∧
      data.profile = fact.profile ∧
      (manager.handleIncomingSessionEvent (T := T) pending).2.ourOwnerPubkey =
        manager.ourOwnerPubkey := by
  obtain ⟨hfrom, parsed, hparse, hid, -, hprofile⟩ := hbrings
  have hgroup : parsed.groupId = groupId := hid.trans (hhistory.groupId_eq fact hfact)
  have hadmins : parsed.group.admins = fact.group.admins := congrArg GroupProfile.admins hprofile
  have hmembers : parsed.group.members = fact.group.members :=
    congrArg GroupProfile.members hprofile
  have haccept := handleIncomingSessionEvent_accepts (T := T) hparse
    (by rw [hfrom, hadmins, hhistory.admins_eq fact hfact]; exact List.mem_singleton_self admin)
    (by rw [hmembers]; exact hhistory.lists_local fact hfact)
    (by rw [hgroup, hfrom]; exact hknown)
  rw [hgroup, hprofile] at haccept
  exact haccept

/-- Deliveries of the history keep the admin in charge and the manager's owner. -/
theorem deliver_keeps {manager : GroupManager K}
    (hhistory : SingleAdminHistory admin manager.ourOwnerPubkey groupId history)
    (hknown : ∀ data, manager.getGroup groupId = some data → isGroupAdmin data admin = true)
    {deliveries : List PendingSessionEvent}
    (hall : ∀ pending ∈ deliveries, ∃ fact ∈ history, Brings admin pending fact) :
    (∀ data, (manager.deliver (T := T) deliveries).getGroup groupId = some data →
        isGroupAdmin data admin = true) ∧
      (manager.deliver (T := T) deliveries).ourOwnerPubkey = manager.ourOwnerPubkey := by
  induction deliveries generalizing manager with
  | nil => exact ⟨hknown, rfl⟩
  | cons pending rest ih =>
      obtain ⟨fact, hfact, hbrings⟩ := hall pending List.mem_cons_self
      obtain ⟨data, hdata, hprofile, howner⟩ :=
        getGroup_of_brings (T := T) hhistory hknown hfact hbrings
      have hnext : ∀ other, (manager.handleIncomingSessionEvent (T := T) pending).2.getGroup
          groupId = some other → isGroupAdmin other admin = true := by
        intro other hother
        rw [hdata] at hother
        cases hother
        exact admin_of_profile (hhistory.admins_eq fact hfact) hprofile
      have hrest := ih (by rw [howner]; exact hhistory) hnext
        (fun p hp => hall p (List.mem_cons_of_mem _ hp))
      exact ⟨hrest.1, hrest.2.trans howner⟩

/-- After any deliveries of the history the record shows the fact delivered last. -/
theorem getGroup_deliver {manager : GroupManager K}
    (hhistory : SingleAdminHistory admin manager.ourOwnerPubkey groupId history)
    (hknown : ∀ data, manager.getGroup groupId = some data → isGroupAdmin data admin = true)
    {deliveries : List PendingSessionEvent} {last : PendingSessionEvent}
    (hall : ∀ pending ∈ deliveries, ∃ fact ∈ history, Brings admin pending fact)
    {lastFact : GroupRosterFact} (hmem : lastFact ∈ history) (hlast : Brings admin last lastFact) :
    ((manager.deliver (T := T) (deliveries ++ [last])).getGroup groupId).map GroupData.profile =
      some lastFact.profile := by
  obtain ⟨hadmin, howner⟩ := deliver_keeps (T := T) hhistory hknown hall
  have hhistory' : SingleAdminHistory admin
      (manager.deliver (T := T) deliveries).ourOwnerPubkey groupId history := by
    rw [howner]
    exact hhistory
  obtain ⟨data, hdata, hprofile, -⟩ :=
    getGroup_of_brings (T := T) hhistory' hadmin hmem hlast
  have hrun : (manager.deliver (T := T) (deliveries ++ [last])).getGroup groupId = some data := by
    rw [deliver, List.foldl_append]
    exact hdata
  rw [hrun, Option.map_some, hprofile]

/-- After deliveries of a single-admin history in any order and with duplicates, the record
shows the fact of the highest revision delivered exactly when the fact delivered last says
the same. -/
theorem shows_highest_revision_iff {manager : GroupManager K}
    (hhistory : SingleAdminHistory admin manager.ourOwnerPubkey groupId history)
    (hknown : ∀ data, manager.getGroup groupId = some data → isGroupAdmin data admin = true)
    {deliveries : List PendingSessionEvent} {last : PendingSessionEvent}
    (hall : ∀ pending ∈ deliveries, ∃ fact ∈ history, Brings admin pending fact)
    {lastFact top : GroupRosterFact} (hmem : lastFact ∈ history)
    (hlast : Brings admin last lastFact)
    (_htop : HighestDelivered admin history (deliveries ++ [last]) top) :
    ((manager.deliver (T := T) (deliveries ++ [last])).getGroup groupId).map GroupData.profile =
        some top.profile ↔
      lastFact.profile = top.profile := by
  rw [getGroup_deliver (T := T) hhistory hknown hall hmem hlast]
  exact Option.some_inj

end History

end Receiving

end GroupManager

namespace Symbolic

/-- Bytes that name what they seal: the chain, the position in it and a one-letter message. -/
@[reducible] def groupCodec (parse : String → Option JsonValue) : GroupCodec KeyTerm TextTerm where
  hexToBytes text := .secret (text.toList.getLastD '0').toNat
  base64Decode content := some (content.toList.map (fun c => UInt8.ofNat c.toNat))
  payload
    | [chain, number, body] =>
        .sealed (KeyChain.messageKey deriveMessageKey (.secret chain.toNat) number.toNat)
          (.secret 0) (.bytes (String.ofList [Char.ofNat body.toNat]))
    | _ => .bytes ""
  text
    | .bytes content => content
    | _ => ""
  jsonParse := parse
  verifyEvent event := event.sig = "signed"
  getEventHash rumor := rumor.content

def hexKey (c : Char) : String := String.ofList (List.replicate 64 c)

/-- A fact about the group `team` by the admin `aa…a`. -/
def rosterFact (revision : Nat) (name : String) (members : List String) : GroupRosterFact where
  eventId := toString revision
  signerPubkey := hexKey 'a'
  groupId := "team"
  revision := revision
  createdBy := hexKey 'a'
  updatedAt := 1
  eventCreatedAt := 1
  protocol := none
  group := {
    id := "team", name := name, description := none, picture := none, members := members
    admins := [hexKey 'a'], createdAt := 1, secret := none, accepted := none }

def rosterDelivery (revision : Nat) (name : String) (members : List String) :
    PendingSessionEvent where
  event := {
    id := toString revision
    pubkey := hexKey 'a'
    kind := GROUP_ROSTER_FACT_KIND
    createdAt := 1
    tags := [["d", "team"], ["i", "team", "subject"], ["type", "group_roster"], ["schema", "1"],
      ["revision", toString revision], ["name", name], ["created_at", "1"], ["updated_at", "1"],
      ["created_by", hexKey 'a'], ["admin", hexKey 'a']] ++ members.map (["member", ·])
    content := "" }
  fromOwnerPubkey := hexKey 'a'
  fromSenderDevicePubkey := none

theorem jsTrim_hexKey {c : Char} (h : isJsWhitespace c = false) : jsTrim (hexKey c) = hexKey c := by
  unfold jsTrim hexKey
  rw [String.toList_ofList, List.replicate_succ, List.dropWhile_cons_of_neg (by simp [h]),
    ← List.replicate_succ, List.reverse_replicate, List.replicate_succ,
    List.dropWhile_cons_of_neg (by simp [h]), ← List.replicate_succ, List.reverse_replicate]

theorem requireHexPubkey_hexKey {c : Char} {label : String} (h : isJsWhitespace c = false)
    (hhex : isAsciiHexDigit c = true) (hlower : c.toLower = c) :
    requireHexPubkey (hexKey c) label = .ok (hexKey c) := by
  have hnormal : String.ofList ((jsTrim (hexKey c)).toList.map Char.toLower) = hexKey c := by
    rw [jsTrim_hexKey h, hexKey, String.toList_ofList, List.map_replicate, hlower]
  have hcheck : isHex64 (hexKey c) = true := by
    simp [isHex64, hexKey, hhex]
  unfold requireHexPubkey
  dsimp only
  rw [hnormal, if_pos hcheck]

theorem hexKey_ne_empty (c : Char) : hexKey c ≠ "" := by
  simp [hexKey]

/-- A key that a tag and the check of a key leave as it is. -/
structure PlainKey (key : String) : Prop where
  trimmed : jsTrim key = key
  nonempty : key ≠ ""
  accepted : ∀ label, requireHexPubkey key label = .ok key

theorem plainKey_hexKey {c : Char} (h : isJsWhitespace c = false) (hhex : isAsciiHexDigit c = true)
    (hlower : c.toLower = c) : PlainKey (hexKey c) :=
  ⟨jsTrim_hexKey h, hexKey_ne_empty c, fun _ => requireHexPubkey_hexKey h hhex hlower⟩

/-- The rumor of a delivery parses to its fact. -/
theorem parse_rosterDelivery {revision : Nat} {b c : String}
    (hrevision : ∀ label, requireNonNegativeInteger revision.repr label = .ok revision)
    (htext : jsTrim revision.repr = revision.repr ∧ revision.repr ≠ "")
    (ha : PlainKey (hexKey 'a')) (hb : PlainKey b) (hc : PlainKey c)
    (hcanonical : (SortedSet.ofList [hexKey 'a', b, c]).toList = [hexKey 'a', b, c]) :
    parseGroupRosterFactRumor (rosterDelivery revision "team" [hexKey 'a', b, c]).event =
      .ok (rosterFact revision "team" [hexKey 'a', b, c]) := by
  have hone : jsTrim "1" = "1" := by decide
  have hteam : jsTrim "team" = "team" := by decide
  have htype : jsTrim "group_roster" = "group_roster" := by decide
  have hread : ∀ label, requireNonNegativeInteger "1" label = .ok 1 := fun _ => rfl
  have hadmin : (SortedSet.ofList [hexKey 'a']).toList = [hexKey 'a'] := rfl
  have hok : ∀ {α β : Type} (x : α) (f : α → Except String β), (Except.ok x >>= f) = f x :=
    fun _ _ => rfl
  unfold parseGroupRosterFactRumor parseGroupRosterFactWire
  simp [rosterDelivery, isGroupRosterFactEvent, tagValues, firstTagValue, requireTagInteger,
    requireTagValue, groupIdFromTags, canonicalPubkeys, requireAdminsAreMembers,
    parseGroupRosterProtocol, ensure, GROUP_ROSTER_FACT_TYPE, GROUP_ROSTER_FACT_SCHEMA,
    ha.trimmed, hb.trimmed, hc.trimmed, ha.nonempty, hb.nonempty, hc.nonempty, ha.accepted,
    hb.accepted, hc.accepted, hone, hteam, htype, hread, hrevision, htext.1, htext.2, hcanonical,
    hadmin, hok]
  rfl

/-- The group with the member `cc…c`, and after `dd…d` has taken that place. -/
def oldFact : GroupRosterFact := rosterFact 1 "team" [hexKey 'a', hexKey 'b', hexKey 'c']

def newFact : GroupRosterFact := rosterFact 2 "team" [hexKey 'a', hexKey 'b', hexKey 'd']

def oldDelivery : PendingSessionEvent :=
  rosterDelivery 1 "team" [hexKey 'a', hexKey 'b', hexKey 'c']

def newDelivery : PendingSessionEvent :=
  rosterDelivery 2 "team" [hexKey 'a', hexKey 'b', hexKey 'd']

def memberManager : GroupManager KeyTerm :=
  GroupManager.new (hexKey 'b') (hexKey 'b') true SortedMap.empty

theorem oldDelivery_brings : GroupManager.Brings (hexKey 'a') oldDelivery oldFact := by
  refine ⟨rfl, oldFact, parse_rosterDelivery (fun _ => rfl) (by decide) ?_ ?_ ?_ ?_, rfl, rfl, rfl⟩
  · exact plainKey_hexKey (by decide) (by decide) (by decide)
  · exact plainKey_hexKey (by decide) (by decide) (by decide)
  · exact plainKey_hexKey (by decide) (by decide) (by decide)
  · decide +kernel

theorem newDelivery_brings : GroupManager.Brings (hexKey 'a') newDelivery newFact := by
  refine ⟨rfl, newFact, parse_rosterDelivery (fun _ => rfl) (by decide) ?_ ?_ ?_ ?_, rfl, rfl, rfl⟩
  · exact plainKey_hexKey (by decide) (by decide) (by decide)
  · exact plainKey_hexKey (by decide) (by decide) (by decide)
  · exact plainKey_hexKey (by decide) (by decide) (by decide)
  · decide +kernel

theorem singleAdminHistory :
    GroupManager.SingleAdminHistory (hexKey 'a') memberManager.ourOwnerPubkey "team"
      [oldFact, newFact] where
  increasing := by simp [oldFact, newFact, rosterFact]
  groupId_eq := by simp [oldFact, newFact, rosterFact]
  admins_eq := by simp [oldFact, newFact, rosterFact]
  lists_local := by simp [oldFact, newFact, rosterFact, memberManager, GroupManager.new]

theorem newFact_highest {deliveries : List PendingSessionEvent} (h : newDelivery ∈ deliveries) :
    GroupManager.HighestDelivered (hexKey 'a') [oldFact, newFact] deliveries newFact where
  mem := by simp
  delivered := ⟨newDelivery, h, newDelivery_brings⟩
  highest := by simp [oldFact, newFact, rosterFact]

/-- A codec for runs without any JSON text. -/
@[reducible] def rosterCodec : GroupCodec KeyTerm TextTerm := groupCodec (fun _ => none)

attribute [local instance] rosterCodec

/-- The two facts delivered in the wrong order: the record goes back to the older one, which
lists the member that had left. -/
theorem late_fact_restores_member :
    GroupManager.SingleAdminHistory (hexKey 'a') memberManager.ourOwnerPubkey "team"
        [oldFact, newFact] ∧
      GroupManager.Brings (hexKey 'a') newDelivery newFact ∧
      GroupManager.Brings (hexKey 'a') oldDelivery oldFact ∧
      GroupManager.HighestDelivered (hexKey 'a') [oldFact, newFact] [newDelivery, oldDelivery]
        newFact ∧
      ((memberManager.deliver (T := TextTerm) [newDelivery, oldDelivery]).getGroup
        "team").map GroupData.profile ≠ some newFact.profile := by
  refine ⟨singleAdminHistory, newDelivery_brings, oldDelivery_brings,
    newFact_highest (by simp), ?_⟩
  have hshown := GroupManager.getGroup_deliver (T := TextTerm) singleAdminHistory
    (fun data hdata => by cases hdata)
    (fun pending (hpending : pending ∈ [newDelivery]) => ⟨newFact, by simp, by
      obtain rfl := List.mem_singleton.mp hpending
      exact newDelivery_brings⟩)
    (show oldFact ∈ [oldFact, newFact] by simp) oldDelivery_brings
  intro hnew
  have hsame : oldFact.profile = newFact.profile := Option.some_inj.mp (hshown.symm.trans hnew)
  revert hsame
  decide +kernel

/-- Delivered in order, the record shows the newer fact. -/
theorem facts_in_order_show_newest :
    ((memberManager.deliver (T := TextTerm) ([oldDelivery] ++ [newDelivery])).getGroup
      "team").map GroupData.profile = some newFact.profile := by
  refine (GroupManager.shows_highest_revision_iff (T := TextTerm) singleAdminHistory
    (fun data hdata => ?_) (fun pending hpending => ?_)
    (show newFact ∈ [oldFact, newFact] by simp) newDelivery_brings
    (newFact_highest (by simp))).mpr rfl
  · cases hdata
  · obtain rfl := List.mem_singleton.mp hpending
    exact ⟨oldFact, by simp, oldDelivery_brings⟩

end Symbolic

end NostrDoubleRatchet.TypeScript
