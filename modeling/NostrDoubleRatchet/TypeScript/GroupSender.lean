import NostrDoubleRatchet.TypeScript.GroupRecords

/-!
One sender of a group, seen on its own. A sender that has announced its sender-event key is a
small machine: its sender keys, and its events that wait for one. While no other device claims
the key, a group runs that machine inside it, and what other senders do leaves it alone.
-/

namespace NostrDoubleRatchet.TypeScript

/-- A sending device of a group and the local device that listens to it. -/
structure SenderIdentity where
  group : String
  device : String
  owner : String
  eventKey : String
  ourOwner : String
  ourDevice : String

structure SenderIdentity.Valid (id : SenderIdentity) : Prop where
  group_ne : id.group ≠ ""
  owner_ne : id.owner ≠ ""
  device_ne : id.device ≠ id.ourDevice
  device_hex : isHex64 id.device = true
  eventKey_hex : isHex64 id.eventKey = true

/-- What a group holds of one sender. -/
structure SenderView (K : Type) where
  keys : SortedMap Nat (SenderKeyState K)
  waiting : List PendingOuter

namespace SenderIdentity

variable {K T : Type}

section Machine

variable [Primitives K T] [GroupCodec K T]

def decryptedEvent (id : SenderIdentity) (outer : VerifiedEvent) (keyId messageNumber : Nat)
    (inner : JsonValue ⊕ Rumor) : GroupDecryptedEvent :=
  let origin := classifyMessageOrigin id.ourOwner id.ourDevice (some id.owner) id.device
  { groupId := id.group
    senderEventPubkey := outer.pubkey
    senderDevicePubkey := id.device
    senderOwnerPubkey := some id.owner
    origin := origin
    isSelf := isSelfOrigin origin
    isCrossDeviceSelf := isCrossDeviceSelfOrigin origin
    outerEventId := outer.id
    outerCreatedAt := outer.createdAt
    keyId := keyId
    messageNumber := messageNumber
    inner := inner }

/-- An outer event that has been parsed. -/
def receiveParsed (id : SenderIdentity) (view : SenderView K) (outer : VerifiedEvent)
    (parsed : OneToManyMessage) : Except String (Option GroupDecryptedEvent) × SenderView K :=
  match OpenGroup.openOuter (T := T) view.keys parsed with
  | .queued keyId => (.ok none, { view with
      waiting := view.waiting ++ [⟨outer.pubkey, keyId, outer⟩] })
  | .dropped => (.ok none, view)
  | .opened plaintext keyId messageNumber nextState =>
      let inner := OpenGroup.readInner (K := K) (T := T) id.group id.device outer.createdAt
        (GroupCodec.text K plaintext)
      match OpenGroup.namesOtherGroup id.group inner with
      | .error e => (.error e, view)
      | .ok true => (.ok none, view)
      | .ok false => (.ok (some (id.decryptedEvent outer keyId messageNumber inner)),
          { view with keys := view.keys.insert nextState.keyId nextState })

def receive (id : SenderIdentity) (view : SenderView K) (outer : VerifiedEvent) :
    Except String (Option GroupDecryptedEvent) × SenderView K :=
  if outer.kind ≠ MESSAGE_EVENT_KIND then (.ok none, view)
  else if !GroupCodec.verifyEvent K T outer then (.ok none, view)
  else
    match parseOuterEvent K T outer with
    | .error _ => (.ok none, view)
    | .ok parsed => id.receiveParsed (T := T) view outer parsed

def receiveAll (id : SenderIdentity) : List VerifiedEvent → SenderView K →
    Except String (List GroupDecryptedEvent) × SenderView K
  | [], view => (.ok [], view)
  | outer :: rest, view =>
      match id.receive (T := T) view outer with
      | (.error e, view) => (.error e, view)
      | (.ok decrypted, view) =>
          match receiveAll id rest view with
          | (.error e, view) => (.error e, view)
          | (.ok events, view) => (.ok (decrypted.toList ++ events), view)

/-- Hand over what has waited for a key. -/
def drain (id : SenderIdentity) (view : SenderView K) (keyId : Nat) :
    Except String (List GroupDecryptedEvent) × SenderView K :=
  let pending := view.waiting.filter (fun p => p.keyId = some (keyId % 2 ^ 32)) ++
    view.waiting.filter (fun p => p.keyId = none)
  if pending = [] then (.ok [], view)
  else id.receiveAll (T := T)
    (OpenGroup.sortByMessageNumber (K := K) (T := T) (pending.map (·.outer)))
    { view with
      waiting := view.waiting.filter
        (fun p => ¬ (p.keyId = some (keyId % 2 ^ 32) ∨ p.keyId = none)) }

/-- A further distribution of the sender. -/
def learn (id : SenderIdentity) (view : SenderView K) (dist : SenderKeyDistribution) :
    Except String (List GroupDecryptedEvent) × SenderView K :=
  match view.keys.get? (dist.keyId % 2 ^ 32) with
  | some _ => id.drain (T := T) view dist.keyId
  | none =>
      match SenderKeyState.fromDistribution (K := K) (T := T) dist with
      | .error e => (.error e, view)
      | .ok state => id.drain (T := T) { view with keys := view.keys.insert state.keyId state }
          dist.keyId

end Machine

/-- The sender's part of a group. -/
def view (id : SenderIdentity) (self : OpenGroup K) : SenderView K where
  keys := (self.store.folder id.device).keys
  waiting := self.group.pendingOuter.filter (fun p => p.senderEventPubkey = id.eventKey)

/-- The group of the sender, with its owner a member. -/
structure Enrolled (id : SenderIdentity) (record : Group.Record) : Prop where
  groupId : record.data.id = id.group
  member : id.owner ∈ record.memberOwnerPubkeys
  ourOwner : record.ourOwnerPubkey = id.ourOwner
  ourDevice : record.ourDevicePubkey = id.ourDevice

/-- The sender's key and device belong to each other and to nobody else. -/
structure Mapped (id : SenderIdentity) (group : Group) : Prop where
  eventToDevice : group.senderEventToDevice.get? id.eventKey = some id.device
  deviceToEvent : group.senderDeviceToEvent.get? id.device = some id.eventKey
  deviceToOwner : group.senderDeviceToOwner.get? id.device = some id.owner
  unclaimed : ∀ device, group.senderDeviceToEvent.get? device = some id.eventKey →
    device = id.device
  single : ∀ event, group.senderEventToDevice.get? event = some id.device → event = id.eventKey

structure Holds (id : SenderIdentity) (opened : OpenGroup K) : Prop where
  initialized : opened.group.initialized = true
  enrolled : id.Enrolled opened.group.record
  mapped : id.Mapped opened.group
  keyed : ∀ p ∈ opened.group.pendingOuter, p.senderEventPubkey = p.outer.pubkey

/-- A change that leaves the sender alone. -/
structure Spares (id : SenderIdentity) (opened next : OpenGroup K) : Prop where
  holds : id.Holds next
  view_eq : id.view next = id.view opened

namespace Spares

variable {id : SenderIdentity}

theorem refl {self : OpenGroup K} (h : id.Holds self) : id.Spares self self := ⟨h, rfl⟩

theorem trans {a b c : OpenGroup K} (hab : id.Spares a b) (hbc : id.Spares b c) : id.Spares a c :=
  ⟨hbc.holds, hbc.view_eq.trans hab.view_eq⟩

end Spares

theorem Holds.active {id : SenderIdentity} (hvalid : id.Valid) {self : OpenGroup K}
    (h : id.Holds self) : self.group.isSenderDeviceActive id.device = true := by
  have hours : self.group.ourDevicePubkey = id.ourDevice := h.enrolled.ourDevice
  have hmember : id.owner ∈ self.group.memberOwnerPubkeys := h.enrolled.member
  unfold Group.isSenderDeviceActive
  rw [if_neg (by rw [hours]; exact hvalid.device_ne), h.mapped.deviceToOwner]
  simp [Group.isMemberOwnerPubkey, hmember]

/-- Removing another device leaves the sender alone. -/
theorem spares_removeSenderDeviceState {id : SenderIdentity} {self : OpenGroup K}
    (h : id.Holds self) {device : String} (hdevice : device ≠ id.device) :
    id.Spares self (self.removeSenderDeviceState device) := by
  have hkept : ¬ (self.group.senderDeviceToEvent.get? device = some id.eventKey ∨
      self.group.senderEventToDevice.get? id.eventKey = some device) := by
    rintro (hclaim | hmap)
    · exact hdevice (h.mapped.unclaimed device hclaim)
    · rw [h.mapped.eventToDevice] at hmap
      exact hdevice (Option.some.inj hmap).symm
  have hfilter : ∀ event, (self.removeSenderDeviceState device).group.senderEventToDevice.get?
      event = some id.device → self.group.senderEventToDevice.get? event = some id.device := by
    intro event hevent
    exact (SortedMap.mem_filter.mp hevent).1
  constructor
  · refine ⟨h.initialized, h.enrolled, ⟨?_, ?_, ?_, ?_, ?_⟩, ?_⟩
    · exact SortedMap.mem_filter.mpr ⟨h.mapped.eventToDevice, by simpa using hkept⟩
    · exact (SortedMap.get?_erase_ne _ hdevice).trans h.mapped.deviceToEvent
    · exact (SortedMap.get?_erase_ne _ hdevice).trans h.mapped.deviceToOwner
    · intro other hother
      apply h.mapped.unclaimed other
      have hget := SortedMap.get?_erase self.group.senderDeviceToEvent device other
      have hother' : (self.group.senderDeviceToEvent.erase device).get? other =
        some id.eventKey := hother
      rw [hget] at hother'
      split at hother'
      · cases hother'
      · exact hother'
    · intro event hevent
      exact h.mapped.single event (hfilter event hevent)
    · intro p hp
      exact h.keyed p (List.mem_filter.mp hp).1
  · have hfolder : (self.removeSenderDeviceState device).store.folder id.device =
        self.store.folder id.device := by
      change ((self.store.erase device).get? id.device).getD _ = _
      rw [SortedMap.get?_erase_ne _ hdevice]
      rfl
    have hwaiting : (self.removeSenderDeviceState device).group.pendingOuter.filter
        (fun p => p.senderEventPubkey = id.eventKey) =
          self.group.pendingOuter.filter (fun p => p.senderEventPubkey = id.eventKey) := by
      rw [OpenGroup.removeSenderDeviceState, List.filter_filter]
      apply List.filter_congr
      intro p _
      by_cases hp : p.senderEventPubkey = id.eventKey
      · rw [hp]
        simpa using hkept
      · simp [hp]
    rw [view, view, hfolder, hwaiting]

theorem spares_purgeInactiveSenders {id : SenderIdentity} (hvalid : id.Valid)
    {self : OpenGroup K} (h : id.Holds self) : id.Spares self self.purgeInactiveSenders := by
  unfold OpenGroup.purgeInactiveSenders
  dsimp only
  generalize (self.group.senderDeviceToEvent.keys ++ self.group.senderDeviceToOwner.keys ++
    self.group.senderEventToDevice.values).dedup = candidates
  induction candidates generalizing self with
  | nil => exact .refl h
  | cons device rest ih =>
      rw [List.foldl_cons]
      split
      · exact ih h
      · rename_i hinactive
        have hdevice : device ≠ id.device := by
          intro heq
          exact hinactive (heq ▸ h.active hvalid)
        have hremoved := spares_removeSenderDeviceState h hdevice
        exact hremoved.trans (ih hremoved.holds)

theorem init_eq_self {self : OpenGroup K} (h : self.group.initialized = true) :
    self.init = self := by
  rw [OpenGroup.init, if_pos h]

theorem spares_queuePending {id : SenderIdentity} {self : OpenGroup K} (h : id.Holds self)
    {outer : VerifiedEvent} (hkey : outer.pubkey ≠ id.eventKey) (keyId : Option Nat) :
    id.Spares self { self with group := self.group.queuePending outer.pubkey keyId outer } := by
  constructor
  · refine ⟨h.initialized, h.enrolled, ⟨h.mapped.1, h.mapped.2, h.mapped.3, h.mapped.4,
      h.mapped.5⟩, ?_⟩
    intro p hp
    rcases List.mem_append.mp hp with hp | hp
    · exact h.keyed p hp
    · rw [List.mem_singleton.mp hp]
  · simp [view, Group.queuePending, List.filter_append, hkey]

theorem spares_saveSenderKeyState {id : SenderIdentity} {self : OpenGroup K} (h : id.Holds self)
    {device : String} (hdevice : device ≠ id.device) (state : SenderKeyState K) :
    id.Spares self (self.saveSenderKeyState device state) := by
  constructor
  · exact ⟨h.initialized, h.enrolled, h.mapped, h.keyed⟩
  · have hfolder : (self.saveSenderKeyState device state).store.folder id.device =
        self.store.folder id.device := by
      rw [OpenGroup.saveSenderKeyState, GroupStore.folder_put, if_neg hdevice]
    rw [view, view, hfolder]
    rfl

section Receiving

variable [Primitives K T] [GroupCodec K T]

theorem spares_handleSenderOuter {id : SenderIdentity} {self : OpenGroup K} (h : id.Holds self)
    {outer : VerifiedEvent} (hkey : outer.pubkey ≠ id.eventKey) {device : String}
    (hdevice : device ≠ id.device) (parsed : OneToManyMessage) :
    id.Spares self (self.handleSenderOuter (T := T) outer parsed device).2 := by
  unfold OpenGroup.handleSenderOuter
  split
  · exact spares_queuePending h hkey _
  · exact .refl h
  · dsimp only
    split
    · exact .refl h
    · exact .refl h
    · exact spares_saveSenderKeyState h hdevice _

/-- An outer event of another key leaves the sender alone. -/
theorem spares_handleOuterEvent {id : SenderIdentity} (hvalid : id.Valid) {self : OpenGroup K}
    (h : id.Holds self) {outer : VerifiedEvent} (hkey : outer.pubkey ≠ id.eventKey) :
    id.Spares self (self.handleOuterEvent (T := T) outer).2 := by
  have hpurged := spares_purgeInactiveSenders hvalid h
  apply hpurged.trans
  unfold OpenGroup.handleOuterEvent
  rw [init_eq_self h.initialized]
  replace h := hpurged.holds
  clear hpurged
  generalize self.purgeInactiveSenders = self at h
  dsimp only
  split
  · exact .refl h
  split
  · exact .refl h
  split
  · exact .refl h
  split
  · exact spares_queuePending h hkey _
  · rename_i device hmap
    have hdevice : device ≠ id.device := by
      intro heq
      exact hkey (h.mapped.single outer.pubkey (heq ▸ hmap))
    split
    · exact .refl h
    split
    · exact spares_removeSenderDeviceState h hdevice
    · exact spares_handleSenderOuter h hkey hdevice _

theorem spares_handleOuterEvents {id : SenderIdentity} (hvalid : id.Valid)
    {outers : List VerifiedEvent} {self : OpenGroup K} (h : id.Holds self)
    (hkeys : ∀ outer ∈ outers, outer.pubkey ≠ id.eventKey) :
    id.Spares self (OpenGroup.handleOuterEvents (T := T) outers self).2 := by
  induction outers generalizing self with
  | nil => exact .refl h
  | cons outer rest ih =>
      have hfirst := spares_handleOuterEvent (T := T) hvalid h (hkeys outer List.mem_cons_self)
      rw [OpenGroup.handleOuterEvents]
      generalize self.handleOuterEvent (T := T) outer = first at hfirst ⊢
      obtain ⟨_ | decrypted, next⟩ := first
      · exact hfirst
      · have hrest := hfirst.trans
          (ih hfirst.holds (fun o ho => hkeys o (List.mem_cons_of_mem _ ho)))
        dsimp only at hrest ⊢
        generalize OpenGroup.handleOuterEvents (T := T) rest next = last at hrest ⊢
        obtain ⟨_ | events, last⟩ := last
        · exact hrest
        · exact hrest

/-- The group does with the sender what the sender's machine does. -/
structure Follows {α : Type} (id : SenderIdentity) (outcome : Except String α × OpenGroup K)
    (expected : Except String α × SenderView K) : Prop where
  holds : id.Holds outcome.2
  view_eq : id.view outcome.2 = expected.2
  result_eq : outcome.1 = expected.1

theorem decryptedEvent_eq {id : SenderIdentity} (hvalid : id.Valid) {self : OpenGroup K}
    (h : id.Holds self) (outer : VerifiedEvent) (keyId messageNumber : Nat)
    (inner : JsonValue ⊕ Rumor) :
    self.decryptedEvent outer id.device keyId messageNumber inner =
      id.decryptedEvent outer keyId messageNumber inner := by
  have hid : self.group.data.id = id.group := h.enrolled.groupId
  have howner : self.group.ourOwnerPubkey = id.ourOwner := h.enrolled.ourOwner
  have hdevice : self.group.ourDevicePubkey = id.ourDevice := h.enrolled.ourDevice
  have htruthy : truthy (some id.owner) = some id.owner := by
    apply truthy_of_ne
    intro heq
    exact hvalid.owner_ne (Option.some.inj heq)
  simp only [OpenGroup.decryptedEvent, decryptedEvent, h.mapped.deviceToOwner, htruthy,
    Option.some_or, hid, howner, hdevice]

theorem follows_handleSenderOuter {id : SenderIdentity} (hvalid : id.Valid) {self : OpenGroup K}
    (h : id.Holds self) {outer : VerifiedEvent} (hkey : outer.pubkey = id.eventKey)
    (parsed : OneToManyMessage) :
    id.Follows (self.handleSenderOuter (T := T) outer parsed id.device)
      (id.receiveParsed (T := T) (id.view self) outer parsed) := by
  have hid : self.group.data.id = id.group := h.enrolled.groupId
  have hkeys : (id.view self).keys = (self.store.folder id.device).keys := rfl
  unfold OpenGroup.handleSenderOuter receiveParsed
  rw [hkeys, hid]
  generalize OpenGroup.openOuter (T := T) (self.store.folder id.device).keys parsed = opening
  cases opening with
  | queued keyId =>
      refine ⟨⟨h.initialized, h.enrolled, ⟨h.mapped.1, h.mapped.2, h.mapped.3, h.mapped.4,
        h.mapped.5⟩, ?_⟩, ?_, rfl⟩
      · intro p hp
        rcases List.mem_append.mp hp with hp | hp
        · exact h.keyed p hp
        · rw [List.mem_singleton.mp hp]
      · simp [view, Group.queuePending, List.filter_append, hkey]
  | dropped => exact ⟨h, rfl, rfl⟩
  | opened plaintext keyId messageNumber nextState =>
      dsimp only
      generalize OpenGroup.readInner (K := K) (T := T) id.group id.device outer.createdAt
        (GroupCodec.text K plaintext) = inner
      generalize OpenGroup.namesOtherGroup id.group inner = verdict
      match verdict with
      | .error e => exact ⟨h, rfl, rfl⟩
      | .ok true => exact ⟨h, rfl, rfl⟩
      | .ok false =>
          have hsaved : id.Holds (self.saveSenderKeyState id.device nextState) :=
            ⟨h.initialized, h.enrolled, h.mapped, h.keyed⟩
          refine ⟨hsaved, ?_, ?_⟩
          · simp [view, OpenGroup.saveSenderKeyState, GroupStore.folder_put]
          · dsimp only
            rw [decryptedEvent_eq hvalid hsaved]

/-- An outer event of the sender's key is the machine's to receive. -/
theorem follows_handleOuterEvent {id : SenderIdentity} (hvalid : id.Valid) {self : OpenGroup K}
    (h : id.Holds self) {outer : VerifiedEvent} (hkey : outer.pubkey = id.eventKey) :
    id.Follows (self.handleOuterEvent (T := T) outer)
      (id.receive (T := T) (id.view self) outer) := by
  have hpurged := spares_purgeInactiveSenders hvalid h
  rw [← hpurged.view_eq]
  unfold OpenGroup.handleOuterEvent receive
  rw [init_eq_self h.initialized]
  replace h := hpurged.holds
  clear hpurged
  generalize self.purgeInactiveSenders = self at h
  have hours : self.group.ourDevicePubkey = id.ourDevice := h.enrolled.ourDevice
  dsimp only
  split
  · exact ⟨h, rfl, rfl⟩
  split
  · exact ⟨h, rfl, rfl⟩
  · generalize parseOuterEvent K T outer = parsed
    cases parsed with
    | error e => exact ⟨h, rfl, rfl⟩
    | ok parsed =>
        dsimp only
        rw [hkey, h.mapped.eventToDevice]
        dsimp only
        rw [if_neg (by rw [hours]; exact fun hecho => hvalid.device_ne hecho.1),
          if_neg (by simp [h.active hvalid])]
        exact follows_handleSenderOuter hvalid h hkey parsed

theorem follows_handleOuterEvents {id : SenderIdentity} (hvalid : id.Valid)
    {outers : List VerifiedEvent} {self : OpenGroup K} (h : id.Holds self)
    (hkeys : ∀ outer ∈ outers, outer.pubkey = id.eventKey) :
    id.Follows (OpenGroup.handleOuterEvents (T := T) outers self)
      (id.receiveAll (T := T) outers (id.view self)) := by
  induction outers generalizing self with
  | nil => exact ⟨h, rfl, rfl⟩
  | cons outer rest ih =>
      have hfirst := follows_handleOuterEvent (T := T) hvalid h (hkeys outer List.mem_cons_self)
      rw [OpenGroup.handleOuterEvents, receiveAll]
      generalize self.handleOuterEvent (T := T) outer = first at hfirst ⊢
      generalize id.receive (T := T) (id.view self) outer = expected at hfirst ⊢
      obtain ⟨result, next⟩ := first
      obtain ⟨result', view'⟩ := expected
      obtain ⟨hholds, rfl, rfl⟩ := hfirst
      cases result with
      | error e => exact ⟨hholds, rfl, rfl⟩
      | ok decrypted =>
          have hrest := ih hholds (fun o ho => hkeys o (List.mem_cons_of_mem _ ho))
          dsimp only at hrest ⊢
          generalize OpenGroup.handleOuterEvents (T := T) rest next = last at hrest ⊢
          generalize id.receiveAll (T := T) rest (id.view next) = expected at hrest ⊢
          obtain ⟨result, last⟩ := last
          obtain ⟨result', view'⟩ := expected
          obtain ⟨hlast, rfl, rfl⟩ := hrest
          cases result with
          | error e => exact ⟨hlast, rfl, rfl⟩
          | ok events => exact ⟨hlast, rfl, rfl⟩

omit [Primitives K T] in
theorem mem_sortByMessageNumber {pending : List VerifiedEvent} {outer : VerifiedEvent} :
    outer ∈ OpenGroup.sortByMessageNumber (K := K) (T := T) pending ↔ outer ∈ pending :=
  List.mem_mergeSort

/-- The group after the pending events of a key have been taken out of its queue. -/
theorem holds_takePending {id : SenderIdentity} {self : OpenGroup K} (h : id.Holds self)
    (taken : PendingOuter → Bool) :
    id.Holds { self with group := { self.group with
      pendingOuter := self.group.pendingOuter.filter taken } } :=
  ⟨h.initialized, h.enrolled, ⟨h.mapped.1, h.mapped.2, h.mapped.3, h.mapped.4, h.mapped.5⟩,
    fun p hp => h.keyed p (List.mem_filter.mp hp).1⟩

theorem spares_drainPending {id : SenderIdentity} (hvalid : id.Valid) {self : OpenGroup K}
    (h : id.Holds self) {event : String} (hevent : event ≠ id.eventKey) (keyId : Nat) :
    id.Spares self (self.drainPending (T := T) event keyId).2 := by
  unfold OpenGroup.drainPending
  dsimp only
  split
  · exact .refl h
  · have htaken : id.Spares self { self with group := { self.group with
        pendingOuter := self.group.pendingOuter.filter (fun p =>
          ¬ ((p.senderEventPubkey = event ∧ p.keyId = some (keyId % 2 ^ 32)) ∨
            (p.senderEventPubkey = event ∧ p.keyId = none))) } } := by
      refine ⟨holds_takePending h _, ?_⟩
      simp only [view, List.filter_filter]
      congr 1
      apply List.filter_congr
      intro p _
      by_cases hp : p.senderEventPubkey = id.eventKey
      · simp [hp, Ne.symm hevent]
      · simp [hp]
    refine htaken.trans (spares_handleOuterEvents hvalid htaken.holds ?_)
    intro outer houter hkey
    obtain ⟨p, hp, rfl⟩ := List.mem_map.mp (mem_sortByMessageNumber.mp houter)
    have hpending : p ∈ self.group.pendingOuter ∧ p.senderEventPubkey = event := by
      rcases List.mem_append.mp hp with hp | hp
      · have hwait := List.mem_filter.mp hp
        exact ⟨hwait.1, (of_decide_eq_true hwait.2).1⟩
      · have hwait := List.mem_filter.mp hp
        exact ⟨hwait.1, (of_decide_eq_true hwait.2).1⟩
    exact hevent (hpending.2.symm.trans ((h.keyed p hpending.1).trans hkey))

theorem follows_drainPending {id : SenderIdentity} (hvalid : id.Valid) {self : OpenGroup K}
    (h : id.Holds self) (keyId : Nat) :
    id.Follows (self.drainPending (T := T) id.eventKey keyId)
      (id.drain (T := T) (id.view self) keyId) := by
  have hwait : ∀ key : Option Nat, self.group.pendingOuter.filter
      (fun p => p.senderEventPubkey = id.eventKey ∧ p.keyId = key) =
        (id.view self).waiting.filter (fun p => p.keyId = key) := by
    intro key
    simp only [view, List.filter_filter]
    apply List.filter_congr
    intro p _
    simp [Bool.and_comm]
  unfold OpenGroup.drainPending drain
  dsimp only
  rw [hwait, hwait]
  split
  · exact ⟨h, rfl, rfl⟩
  · have hview : id.view { self with group := { self.group with
        pendingOuter := self.group.pendingOuter.filter (fun p =>
          ¬ ((p.senderEventPubkey = id.eventKey ∧ p.keyId = some (keyId % 2 ^ 32)) ∨
            (p.senderEventPubkey = id.eventKey ∧ p.keyId = none))) } } =
        { id.view self with
          waiting := (id.view self).waiting.filter
            (fun p => ¬ (p.keyId = some (keyId % 2 ^ 32) ∨ p.keyId = none)) } := by
      simp only [view, List.filter_filter]
      congr 1
      apply List.filter_congr
      intro p _
      by_cases hp : p.senderEventPubkey = id.eventKey
      · simp [hp]
      · simp [hp]
    rw [← hview]
    apply follows_handleOuterEvents hvalid (holds_takePending h _)
    intro outer houter
    obtain ⟨p, hp, rfl⟩ := List.mem_map.mp (mem_sortByMessageNumber.mp houter)
    have hwaiting : p ∈ (id.view self).waiting := by
      rcases List.mem_append.mp hp with hp | hp
      · exact (List.mem_filter.mp hp).1
      · exact (List.mem_filter.mp hp).1
    have hpending := List.mem_filter.mp hwaiting
    exact (h.keyed p hpending.1).symm.trans (of_decide_eq_true hpending.2)

/-- A mapping of another device to another key. -/
theorem mapped_setSenderEventMapping {id : SenderIdentity} {group : Group} (h : id.Mapped group)
    {device event : String} (hdevice : device ≠ id.device) (hevent : event ≠ id.eventKey) :
    id.Mapped (group.setSenderEventMapping device event) := by
  have hinsert : ∀ base : SortedMap String String, base.get? id.eventKey = some id.device →
      (∀ other, base.get? other = some id.device → other = id.eventKey) →
      id.Mapped { group with
        senderDeviceToEvent := group.senderDeviceToEvent.insert device event
        senderEventToDevice := base.insert event device } := by
    intro base hget hsingle
    refine ⟨?_, ?_, h.deviceToOwner, ?_, ?_⟩
    · exact (SortedMap.get?_insert_ne _ _ hevent).trans hget
    · exact (SortedMap.get?_insert_ne _ _ hdevice).trans h.deviceToEvent
    · intro other hother
      have hother' : (group.senderDeviceToEvent.insert device event).get? other =
        some id.eventKey := hother
      rw [SortedMap.get?_insert] at hother'
      split at hother'
      · exact absurd (Option.some.inj hother') hevent
      · exact h.unclaimed other hother'
    · intro other hother
      have hother' : (base.insert event device).get? other = some id.device := hother
      rw [SortedMap.get?_insert] at hother'
      split at hother'
      · exact absurd (Option.some.inj hother') hdevice
      · exact hsingle other hother'
  unfold Group.setSenderEventMapping
  cases hprev : group.senderDeviceToEvent.get? device with
  | none => exact hinsert _ h.eventToDevice h.single
  | some prev =>
      have hne : prev ≠ id.eventKey := by
        intro hclaim
        exact hdevice (h.unclaimed device (hclaim ▸ hprev))
      dsimp only
      split
      · apply hinsert _ ((SortedMap.get?_erase_ne _ hne).trans h.eventToDevice)
        intro other hother
        rw [SortedMap.get?_erase] at hother
        split at hother
        · cases hother
        · exact h.single other hother
      · exact hinsert _ h.eventToDevice h.single

theorem spares_learnSender {id : SenderIdentity} {self : OpenGroup K} (h : id.Holds self)
    {device : String} (hdevice : device ≠ id.device) (owner : String) {event : Option String}
    (hevent : event ≠ some id.eventKey) :
    id.Spares self (self.learnSender device owner event) := by
  have howner : id.Spares self (self.learnSenderOwner device owner) := by
    refine ⟨⟨h.initialized, h.enrolled, ⟨h.mapped.1, h.mapped.2, ?_, h.mapped.4, h.mapped.5⟩,
      h.keyed⟩, ?_⟩
    · exact (SortedMap.get?_insert_ne _ _ hdevice).trans h.mapped.deviceToOwner
    · simp [view, OpenGroup.learnSenderOwner, GroupStore.folder_put, hdevice]
  cases event with
  | none => exact howner
  | some event =>
      have hne : event ≠ id.eventKey := fun heq => hevent (by rw [heq])
      refine howner.trans ⟨⟨h.initialized, h.enrolled,
        mapped_setSenderEventMapping howner.holds.mapped hdevice hne, h.keyed⟩, ?_⟩
      simp [view, OpenGroup.learnSender, OpenGroup.learnSenderEvent, GroupStore.folder_put, hdevice,
        Group.setSenderEventMapping]

omit [Primitives K T] in
theorem spares_storeDistributedKey {id : SenderIdentity} {self next : OpenGroup K}
    (h : id.Holds self) {dist : SenderKeyDistribution} {device : String}
    (hdevice : device ≠ id.device)
    (hrun : self.storeDistributedKey (T := T) dist device = .ok next) : id.Spares self next := by
  unfold OpenGroup.storeDistributedKey at hrun
  split at hrun
  · cases hrun
    exact .refl h
  · split at hrun
    · cases hrun
    · cases hrun
      exact spares_saveSenderKeyState h hdevice _

/-- A distribution of another device for another key. -/
theorem spares_handleDistribution {id : SenderIdentity} (hvalid : id.Valid) {self : OpenGroup K}
    (h : id.Holds self) {dist : SenderKeyDistribution} {device : String}
    (hdevice : device ≠ id.device) (hevent : dist.senderEventPubkey ≠ some id.eventKey)
    (fromOwner : String) :
    id.Spares self (self.handleDistribution (T := T) dist fromOwner device).2 := by
  have hfilter : dist.senderEventPubkey.filter isHex64 ≠ some id.eventKey := by
    intro heq
    exact hevent (Option.filter_eq_some_iff.mp heq).1
  have hlearn := spares_learnSender h hdevice fromOwner hfilter
  unfold OpenGroup.handleDistribution
  dsimp only
  split
  · exact hlearn
  · rename_i next event hstore hsome
    have hstored := spares_storeDistributedKey hlearn.holds hdevice hstore
    refine hlearn.trans (hstored.trans (spares_drainPending hvalid hstored.holds ?_ _))
    intro heq
    exact hfilter (heq ▸ hsome)
  · rename_i next hstore _
    exact hlearn.trans (spares_storeDistributedKey hlearn.holds hdevice hstore)

/-- The sender's own announcement, on a group where nobody else claims its key. -/
theorem holds_learnSender {id : SenderIdentity} {self : OpenGroup K}
    (hinit : self.group.initialized = true) (henrolled : id.Enrolled self.group.record)
    (hkeyed : ∀ p ∈ self.group.pendingOuter, p.senderEventPubkey = p.outer.pubkey)
    (hunclaimed : ∀ device, self.group.senderDeviceToEvent.get? device = some id.eventKey →
      device = id.device)
    (hsingle : ∀ event, self.group.senderEventToDevice.get? event = some id.device →
      self.group.senderDeviceToEvent.get? id.device = some event) :
    id.Holds (self.learnSender id.device id.owner (some id.eventKey)) := by
  refine ⟨hinit, henrolled, ⟨?_, ?_, ?_, ?_, ?_⟩, hkeyed⟩
  · exact SortedMap.get?_insert_self _ _ _
  · exact SortedMap.get?_insert_self _ _ _
  · exact SortedMap.get?_insert_self _ _ _
  · intro other hother
    change (self.group.senderDeviceToEvent.insert id.device id.eventKey).get? other = _ at hother
    rw [SortedMap.get?_insert] at hother
    split at hother
    · rename_i heq
      exact heq.symm
    · exact hunclaimed other hother
  · intro other hother
    by_contra hne
    change (SortedMap.insert _ id.eventKey id.device).get? other = some id.device at hother
    rw [SortedMap.get?_insert_ne _ _ (Ne.symm hne)] at hother
    have hmap : self.group.senderEventToDevice.get? other = some id.device := by
      split at hother
      · split at hother
        · rw [SortedMap.get?_erase] at hother
          split at hother
          · cases hother
          · exact hother
        · exact hother
      · exact hother
    have hprev : (self.learnSenderOwner id.device id.owner).group.senderDeviceToEvent.get?
        id.device = some other := hsingle other hmap
    rw [hprev] at hother
    dsimp only at hother
    rw [if_pos hne, SortedMap.get?_erase_self] at hother
    cases hother

theorem view_learnSender {id : SenderIdentity} (self : OpenGroup K) :
    id.view (self.learnSender id.device id.owner (some id.eventKey)) = id.view self := by
  simp [view, OpenGroup.learnSender, OpenGroup.learnSenderOwner, OpenGroup.learnSenderEvent,
    GroupStore.folder_put, Group.setSenderEventMapping]

theorem follows_handleDistribution {id : SenderIdentity} (hvalid : id.Valid)
    {self : OpenGroup K} {dist : SenderKeyDistribution}
    (h : id.Holds (self.learnSender id.device id.owner (some id.eventKey)))
    (hevent : dist.senderEventPubkey = some id.eventKey) :
    id.Follows (self.handleDistribution (T := T) dist id.owner id.device)
      (id.learn (T := T) (id.view self) dist) := by
  have hfilter : dist.senderEventPubkey.filter isHex64 = some id.eventKey := by
    rw [hevent]
    simp [hvalid.eventKey_hex]
  rw [← view_learnSender self]
  unfold OpenGroup.handleDistribution learn OpenGroup.storeDistributedKey
  dsimp only
  rw [hfilter]
  generalize self.learnSender id.device id.owner (some id.eventKey) = self at h
  have hkeys : (id.view self).keys = (self.store.folder id.device).keys := rfl
  rw [hkeys]
  cases (self.store.folder id.device).keys.get? (dist.keyId % 2 ^ 32) with
  | some state => exact follows_drainPending hvalid h dist.keyId
  | none =>
      dsimp only
      cases SenderKeyState.fromDistribution (K := K) (T := T) dist with
      | error e => exact ⟨h, rfl, rfl⟩
      | ok state =>
          have hsaved : id.Holds (self.saveSenderKeyState id.device state) :=
            ⟨h.initialized, h.enrolled, h.mapped, h.keyed⟩
          have hview : id.view (self.saveSenderKeyState id.device state) =
              { id.view self with
                keys := (self.store.folder id.device).keys.insert state.keyId state } := by
            simp [view, OpenGroup.saveSenderKeyState, GroupStore.folder_put]
          dsimp only
          rw [← hview]
          exact follows_drainPending hvalid hsaved dist.keyId

/-- What a decrypted event says about its author. -/
theorem senderEventPubkey_of_handleOuterEvent {self : OpenGroup K} {outer : VerifiedEvent}
    {event : GroupDecryptedEvent}
    (h : (self.handleOuterEvent (T := T) outer).1 = .ok (some event)) :
    event.senderEventPubkey = outer.pubkey := by
  unfold OpenGroup.handleOuterEvent at h
  generalize self.init.purgeInactiveSenders = self at h
  dsimp only at h
  split at h
  · cases h
  split at h
  · cases h
  split at h
  · cases h
  split at h
  · cases h
  split at h
  · cases h
  split at h
  · cases h
  · unfold OpenGroup.handleSenderOuter at h
    split at h
    · cases h
    · cases h
    · dsimp only at h
      split at h
      · cases h
      · cases h
      · cases h
        rfl

theorem mem_handleOuterEvents {outers : List VerifiedEvent} {self : OpenGroup K}
    {events : List GroupDecryptedEvent} {event : GroupDecryptedEvent}
    (h : (OpenGroup.handleOuterEvents (T := T) outers self).1 = .ok events)
    (hmem : event ∈ events) : ∃ outer ∈ outers, event.senderEventPubkey = outer.pubkey := by
  induction outers generalizing self events with
  | nil =>
      cases h
      cases hmem
  | cons outer rest ih =>
      have hfirst : ∀ decrypted, (self.handleOuterEvent (T := T) outer).1 = .ok (some decrypted) →
          decrypted.senderEventPubkey = outer.pubkey :=
        fun decrypted hrun => senderEventPubkey_of_handleOuterEvent hrun
      rw [OpenGroup.handleOuterEvents] at h
      generalize self.handleOuterEvent (T := T) outer = first at h hfirst
      obtain ⟨_ | decrypted, next⟩ := first
      · cases h
      · dsimp only at h hfirst
        have hrest : ∀ later, (OpenGroup.handleOuterEvents (T := T) rest next).1 = .ok later →
            event ∈ later → ∃ outer ∈ rest, event.senderEventPubkey = outer.pubkey :=
          fun later hlater hin => ih hlater hin
        generalize OpenGroup.handleOuterEvents (T := T) rest next = last at h hrest
        obtain ⟨_ | later, last⟩ := last
        · cases h
        · cases h
          rcases List.mem_append.mp hmem with hmem | hmem
          · rw [Option.mem_toList] at hmem
            exact ⟨outer, List.mem_cons_self, hfirst event (by rw [hmem])⟩
          · obtain ⟨other, hother, heq⟩ := hrest later rfl hmem
            exact ⟨other, List.mem_cons_of_mem _ hother, heq⟩

theorem mem_drainPending {self : OpenGroup K}
    (hkeyed : ∀ p ∈ self.group.pendingOuter, p.senderEventPubkey = p.outer.pubkey)
    {key : String} {keyId : Nat} {events : List GroupDecryptedEvent} {event : GroupDecryptedEvent}
    (h : (self.drainPending (T := T) key keyId).1 = .ok events) (hmem : event ∈ events) :
    event.senderEventPubkey = key := by
  unfold OpenGroup.drainPending at h
  dsimp only at h
  split at h
  · cases h
    cases hmem
  · obtain ⟨outer, houter, heq⟩ := mem_handleOuterEvents h hmem
    obtain ⟨p, hp, rfl⟩ := List.mem_map.mp (mem_sortByMessageNumber.mp houter)
    have hpending : p ∈ self.group.pendingOuter ∧ p.senderEventPubkey = key := by
      rcases List.mem_append.mp hp with hp | hp
      · have hwait := List.mem_filter.mp hp
        exact ⟨hwait.1, (of_decide_eq_true hwait.2).1⟩
      · have hwait := List.mem_filter.mp hp
        exact ⟨hwait.1, (of_decide_eq_true hwait.2).1⟩
    rw [heq, ← hkeyed p hpending.1, hpending.2]

theorem pendingOuter_learnSender (self : OpenGroup K) (device owner : String)
    (event : Option String) :
    (self.learnSender device owner event).group.pendingOuter = self.group.pendingOuter := by
  cases event with
  | none => rfl
  | some event => rfl

omit [Primitives K T] in
theorem group_storeDistributedKey {self next : OpenGroup K} {dist : SenderKeyDistribution}
    {device : String} (h : self.storeDistributedKey (T := T) dist device = .ok next) :
    next.group = self.group := by
  unfold OpenGroup.storeDistributedKey at h
  split at h
  · cases h
    rfl
  · split at h
    · cases h
    · cases h
      rfl

/-- What a distribution releases comes under the key that the distribution announces. -/
theorem mem_handleDistribution {self : OpenGroup K}
    (hkeyed : ∀ p ∈ self.group.pendingOuter, p.senderEventPubkey = p.outer.pubkey)
    {dist : SenderKeyDistribution} {owner device : String} {events : List GroupDecryptedEvent}
    {event : GroupDecryptedEvent}
    (h : (self.handleDistribution (T := T) dist owner device).1 = .ok events)
    (hmem : event ∈ events) : dist.senderEventPubkey = some event.senderEventPubkey := by
  unfold OpenGroup.handleDistribution at h
  dsimp only at h
  split at h
  · cases h
  · rename_i next key hstore hsome
    have hpending : next.group.pendingOuter = self.group.pendingOuter := by
      rw [group_storeDistributedKey hstore, pendingOuter_learnSender]
    have hkey := mem_drainPending (by rw [hpending]; exact hkeyed) h hmem
    rw [hkey]
    exact (Option.filter_eq_some_iff.mp hsome).1
  · cases h
    cases hmem

/-- The distribution of a rumor that the group will take as the sender's own. -/
def announcement (id : SenderIdentity) (pending : PendingSessionEvent) :
    Option SenderKeyDistribution :=
  if getFirstTagValue pending.event.tags "l" = some id.group ∧
      pending.fromOwnerPubkey = id.owner ∧
      OpenGroup.controlSender pending.event pending.fromSenderDevicePubkey = some id.device then
    (GroupManager.distributionOf (K := K) (T := T) pending.event).filter
      (fun dist => dist.groupId = id.group ∧ dist.senderEventPubkey = some id.eventKey)
  else none

/-- What is asked of a rumor: nobody speaks as the sender's event key, only the sender's own
distribution for its group names that key, and no roster fact of the group drops the sender's
owner or the local one. -/
structure RespectsSession (id : SenderIdentity) (pending : PendingSessionEvent) : Prop where
  speaker : (truthy pending.fromSenderDevicePubkey).getD pending.event.pubkey ≠ id.eventKey
  distribution : ∀ dist,
    GroupManager.distributionOf (K := K) (T := T) pending.event = some dist →
    (dist.senderEventPubkey = some id.eventKey ∨
      (pending.fromSenderDevicePubkey = some id.device ∧ dist.groupId = id.group)) →
    pending.fromOwnerPubkey = id.owner ∧ pending.fromSenderDevicePubkey = some id.device ∧
      dist.groupId = id.group ∧ dist.senderEventPubkey = some id.eventKey
  roster : ∀ fact, parseGroupRosterFactRumor pending.event = .ok fact →
    fact.groupId = id.group →
    id.owner ∈ fact.group.members ∧ id.ourOwner ∈ fact.group.members

omit [Primitives K T] [GroupCodec K T] in
theorem controlSender_eq_some {event : Rumor} {fromDevice : Option String} {device : String}
    (h : OpenGroup.controlSender event fromDevice = some device) :
    truthy fromDevice = some device ∧ fromDevice = some device := by
  unfold OpenGroup.controlSender at h
  split at h
  · cases h
  · rename_i found hfound
    split at h
    · cases h
    · split at h
      · cases h
      · cases h
        exact ⟨hfound, (Option.filter_eq_some_iff.mp hfound).1⟩

theorem store_init (self : OpenGroup K) : self.init.store = self.store := by
  unfold OpenGroup.init
  split
  · rfl
  · rfl

theorem pendingOuter_init (self : OpenGroup K) :
    self.init.group.pendingOuter = self.group.pendingOuter :=
  OpenGroup.init_keeps (fun _ _ _ => rfl) (fun _ _ => rfl) (fun _ => rfl) self

theorem view_init (id : SenderIdentity) (self : OpenGroup K) : id.view self.init = id.view self := by
  rw [view, view, store_init, pendingOuter_init]

/-- The sender's own announcement through `handleIncomingSessionEvent`. -/
theorem follows_handleIncomingSessionEvent {id : SenderIdentity} (hvalid : id.Valid)
    {self : OpenGroup K} (henrolled : id.Enrolled self.group.record)
    (h : id.Holds (self.init.learnSender id.device id.owner (some id.eventKey)))
    {pending : PendingSessionEvent} {dist : SenderKeyDistribution}
    (hann : id.announcement (K := K) (T := T) pending = some dist) :
    id.Follows (self.handleIncomingSessionEvent (T := T) pending.event pending.fromOwnerPubkey
      pending.fromSenderDevicePubkey) (id.learn (T := T) (id.view self) dist) := by
  unfold announcement at hann
  split at hann
  · rename_i hcond
    obtain ⟨htag, howner, hcontrol⟩ := hcond
    obtain ⟨hdist, hfor⟩ := Option.filter_eq_some_iff.mp hann
    simp only [decide_eq_true_eq] at hfor
    obtain ⟨hgroup, hevent⟩ := hfor
    have hkind : pending.event.kind = GROUP_SENDER_KEY_DISTRIBUTION_KIND ∧
        parseSenderKeyDistribution K T pending.event.content = some dist := by
      unfold GroupManager.distributionOf at hdist
      split at hdist
      · rename_i hkind
        exact ⟨hkind, hdist⟩
      · cases hdist
    rw [← view_init]
    unfold OpenGroup.handleIncomingSessionEvent
    have hrecord : id.Enrolled self.init.group.record := by
      rw [OpenGroup.record_init]
      exact henrolled
    have hid : self.init.group.data.id = id.group := hrecord.groupId
    have hmember : id.owner ∈ self.init.group.memberOwnerPubkeys := hrecord.member
    generalize self.init = self at h hid hmember
    dsimp only
    rw [if_neg (by simp [howner, hmember]), if_neg (by rw [htag, hid]; simp), hkind.1,
      if_neg (by decide), if_neg (by simp), hkind.2]
    dsimp only
    rw [if_neg (by rw [hgroup, hid]; simp), hcontrol, howner]
    exact follows_handleDistribution hvalid h hevent
  · cases hann

/-- Any other rumor that respects the sender leaves it alone and releases nothing of its key. -/
theorem spares_handleIncomingSessionEvent {id : SenderIdentity} (hvalid : id.Valid)
    {self : OpenGroup K} (h : id.Holds self) {pending : PendingSessionEvent}
    (hrespects : id.RespectsSession (K := K) (T := T) pending)
    (hann : id.announcement (K := K) (T := T) pending = none) :
    id.Spares self (self.handleIncomingSessionEvent (T := T) pending.event
        pending.fromOwnerPubkey pending.fromSenderDevicePubkey).2 ∧
      ∀ events, (self.handleIncomingSessionEvent (T := T) pending.event
        pending.fromOwnerPubkey pending.fromSenderDevicePubkey).1 = .ok events →
        ∀ event ∈ events, event.senderEventPubkey ≠ id.eventKey := by
  have hid : self.group.data.id = id.group := h.enrolled.groupId
  have hsilent : ∀ events : List GroupDecryptedEvent, (Except.ok [] : Except String _) =
      .ok events → ∀ event ∈ events, event.senderEventPubkey ≠ id.eventKey := by
    intro events hevents event hmem
    cases hevents
    cases hmem
  unfold OpenGroup.handleIncomingSessionEvent
  rw [init_eq_self h.initialized]
  dsimp only
  split
  · exact ⟨.refl h, hsilent⟩
  split
  · exact ⟨.refl h, hsilent⟩
  rename_i htag
  split
  · split
    · exact ⟨.refl h, fun events hevents => by cases hevents⟩
    · exact ⟨.refl h, hsilent⟩
    · split
      · exact ⟨.refl h, hsilent⟩
      · split
        · exact ⟨.refl h, hsilent⟩
        · rename_i device hcontrol
          refine ⟨.refl h, fun events hevents event hmem => ?_⟩
          cases hevents
          rw [List.mem_singleton.mp hmem]
          have hspeaker := hrespects.speaker
          rw [(controlSender_eq_some hcontrol).1] at hspeaker
          exact hspeaker
  split
  · exact ⟨.refl h, hsilent⟩
  rename_i hkind
  split
  · exact ⟨.refl h, hsilent⟩
  rename_i dist hparse
  split
  · exact ⟨.refl h, hsilent⟩
  rename_i hgroup
  split
  · exact ⟨.refl h, hsilent⟩
  · rename_i device hcontrol
    have hfrom := (controlSender_eq_some hcontrol).2
    have hdist : GroupManager.distributionOf (K := K) (T := T) pending.event = some dist := by
      rw [GroupManager.distributionOf, if_pos (not_not.mp hkind), hparse]
    have hgroup' : dist.groupId = id.group := by
      rw [← hid]
      exact not_not.mp hgroup
    have hforeign : device ≠ id.device := by
      rintro rfl
      obtain ⟨howner, -, -, hevent⟩ := hrespects.distribution dist hdist (Or.inr ⟨hfrom, hgroup'⟩)
      have hown : id.announcement (K := K) (T := T) pending = some dist := by
        rw [announcement, if_pos ⟨by rw [← hid]; exact not_not.mp htag, howner, hcontrol⟩, hdist]
        simp [hgroup', hevent]
      rw [hann] at hown
      cases hown
    have hevent : dist.senderEventPubkey ≠ some id.eventKey := by
      intro heq
      obtain ⟨-, hdevice, -, -⟩ := hrespects.distribution dist hdist (Or.inl heq)
      rw [hfrom] at hdevice
      exact hforeign (Option.some.inj hdevice)
    refine ⟨spares_handleDistribution hvalid h hforeign hevent _, ?_⟩
    intro events hevents event hmem heq
    exact hevent ((mem_handleDistribution h.keyed hevents hmem).trans (by rw [heq]))

end Receiving

end SenderIdentity

end NostrDoubleRatchet.TypeScript
