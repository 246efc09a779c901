import NostrDoubleRatchet.TypeScript.GroupAttribution
import NostrDoubleRatchet.TypeScript.SenderKeyChain

/-!
Runs of the group manager against the machine of one sender. What a run shows under the
sender's key is what the machine shows on the sender's own rumors and on the outer events, so
rumors of others change nothing about it.
-/

namespace NostrDoubleRatchet.TypeScript

/-- What reaches a group manager. -/
inductive GroupInput where
  | session (pending : PendingSessionEvent)
  | outer (event : VerifiedEvent)

namespace GroupManager

variable {K T : Type} [Primitives K T] [GroupCodec K T]

/-- One input, with the events it is answered with. -/
def receive (manager : GroupManager K) : GroupInput → List GroupDecryptedEvent × GroupManager K
  | .session pending =>
      match manager.handleIncomingSessionEvent (T := T) pending with
      | (.ok events, next) => (events, next)
      | (.error _, next) => ([], next)
  | .outer event =>
      ((manager.handleOuterEvent (T := T) event).1.toList,
        (manager.handleOuterEvent (T := T) event).2)

def receiveAll : List GroupInput → GroupManager K → List GroupDecryptedEvent × GroupManager K
  | [], manager => ([], manager)
  | input :: rest, manager =>
      let (events, next) := manager.receive (T := T) input
      let (later, last) := receiveAll rest next
      (events ++ later, last)

end GroupManager

/-- The machine of a sender together with the outer events that have been seen. -/
structure SenderMachine (K : Type) where
  view : SenderView K
  seen : List String

namespace SenderIdentity

variable {K T : Type}

/-- The seen ids after one more, oldest first. -/
def remember (seen : List String) (eventId : String) : List String :=
  if seen.contains eventId then seen
  else (seen ++ [eventId]).drop ((seen ++ [eventId]).length - maxSeenOuterEventIds)

theorem seen_rememberOuterEvent (manager : GroupManager K) (eventId : String) :
    (manager.rememberOuterEvent eventId).seenOuterEventOrder =
      remember manager.seenOuterEventOrder eventId := by
  unfold GroupManager.rememberOuterEvent remember
  split
  · dsimp only
  · dsimp only

theorem senderEventToGroup_rememberOuterEvent (manager : GroupManager K) (eventId : String) :
    (manager.rememberOuterEvent eventId).senderEventToGroup = manager.senderEventToGroup := by
  unfold GroupManager.rememberOuterEvent
  split
  · rfl
  · dsimp only

theorem groups_rememberOuterEvent (manager : GroupManager K) (eventId : String) :
    (manager.rememberOuterEvent eventId).groups = manager.groups := by
  unfold GroupManager.rememberOuterEvent
  split
  · rfl
  · dsimp only

section Machine

variable [Primitives K T] [GroupCodec K T]

/-- What the sender's machine does with an input: rumors of others and outer events of other
keys are no input of it. -/
def step (id : SenderIdentity) (machine : SenderMachine K) :
    GroupInput → List GroupDecryptedEvent × SenderMachine K
  | .session pending =>
      match id.announcement (K := K) (T := T) pending with
      | none => ([], machine)
      | some dist =>
          (shown (id.learn (T := T) machine.view dist).1,
            { machine with view := (id.learn (T := T) machine.view dist).2 })
  | .outer event =>
      if event.kind ≠ MESSAGE_EVENT_KIND then ([], machine)
      else if !GroupCodec.verifyEvent K T event then ([], machine)
      else if machine.seen.contains event.id then ([], machine)
      else if event.pubkey = id.eventKey then
        (shown ((id.receive (T := T) machine.view event).1.map Option.toList),
          ⟨(id.receive (T := T) machine.view event).2, remember machine.seen event.id⟩)
      else ([], { machine with seen := remember machine.seen event.id })

def steps (id : SenderIdentity) : List GroupInput → SenderMachine K →
    List GroupDecryptedEvent × SenderMachine K
  | [], machine => ([], machine)
  | input :: rest, machine =>
      let (events, next) := id.step (T := T) machine input
      let (later, last) := steps id rest next
      (events ++ later, last)

/-- What is asked of an input: only of rumors. -/
def Respects (id : SenderIdentity) : GroupInput → Prop
  | .session pending => id.RespectsSession (K := K) (T := T) pending
  | .outer _ => True

end Machine

/-- The sender's machine inside a manager. -/
def machineIn (id : SenderIdentity) (manager : GroupManager K) : SenderMachine K :=
  ⟨id.viewIn manager, manager.seenOuterEventOrder⟩

/-- The events shown under the sender's key. -/
def under (id : SenderIdentity) (events : List GroupDecryptedEvent) : List GroupDecryptedEvent :=
  events.filter (fun event => event.senderEventPubkey = id.eventKey)

section Stepping

variable [Primitives K T] [GroupCodec K T] {id : SenderIdentity} {manager : GroupManager K}

omit [Primitives K T] [GroupCodec K T] in
theorem under_append (a b : List GroupDecryptedEvent) :
    id.under (a ++ b) = id.under a ++ id.under b :=
  List.filter_append a b

omit [Primitives K T] [GroupCodec K T] in
theorem under_of_silent {events : List GroupDecryptedEvent} (h : id.Silent (.ok events)) :
    id.under events = [] := by
  rw [under, List.filter_eq_nil_iff]
  intro event hmem
  simpa using h events rfl event hmem

omit [Primitives K T] [GroupCodec K T] in
theorem under_of_attributed {events : List GroupDecryptedEvent}
    (h : ∀ event ∈ events, id.Attributed event) : id.under events = events := by
  rw [under, List.filter_eq_self]
  intro event hmem
  simpa using (h event hmem).key

/-- The manager does with an input what the sender's machine does, as far as the sender is
concerned. -/
structure Tracks (id : SenderIdentity)
    (outcome : List GroupDecryptedEvent × GroupManager K)
    (expected : List GroupDecryptedEvent × SenderMachine K) : Prop where
  owned : id.Owned (T := T) outcome.2
  machine_eq : id.machineIn outcome.2 = expected.2
  under_eq : id.under outcome.1 = expected.1
  attributed : ∀ event ∈ expected.1, id.Attributed event

omit [Primitives K T] in
theorem tracks_spared {next : GroupManager K} {events : List GroupDecryptedEvent}
    (hspares : id.SparesIn (T := T) manager next) (hsilent : id.Silent (.ok events)) :
    id.Tracks (T := T) (events, next) ([], id.machineIn manager) := by
  refine ⟨hspares.owned, ?_, under_of_silent hsilent, fun event hmem => by cases hmem⟩
  rw [machineIn, machineIn, hspares.view_eq, hspares.seen_eq]

theorem tracks_session (hvalid : id.Valid) (h : id.Owned (T := T) manager)
    {pending : PendingSessionEvent} (hrespects : id.RespectsSession (K := K) (T := T) pending) :
    id.Tracks (T := T) (manager.receive (T := T) (.session pending))
      (id.step (T := T) (id.machineIn manager) (.session pending)) := by
  rw [GroupManager.receive, step]
  cases hann : id.announcement (K := K) (T := T) pending with
  | none =>
      obtain ⟨hspares, hsilent⟩ := sparesIn_handleIncomingSessionEvent hvalid h hrespects hann
      generalize manager.handleIncomingSessionEvent (T := T) pending = outcome at hspares hsilent ⊢
      obtain ⟨_ | events, next⟩ := outcome
      · exact tracks_spared hspares silent_nil
      · exact tracks_spared hspares hsilent
  | some dist =>
      have hfollows := followsIn_handleIncomingSessionEvent (T := T) hvalid h hann
      have hattributed : ∀ event ∈ shown (id.learn (T := T) (id.viewIn manager) dist).1,
          id.Attributed event := by
        intro event hmem
        unfold shown at hmem
        split at hmem
        · rename_i events hlearn
          exact attributed_learn hvalid (keyed_viewIn h) hlearn event hmem
        · cases hmem
      have hview : (id.machineIn manager).view = id.viewIn manager := rfl
      dsimp only
      rw [hview]
      generalize manager.handleIncomingSessionEvent (T := T) pending = outcome at hfollows ⊢
      obtain ⟨result, next⟩ := outcome
      obtain ⟨howned, hnext, hresult, hseen⟩ := hfollows
      dsimp only at hresult hnext hseen howned
      subst hresult
      refine ⟨howned, ?_, under_of_attributed hattributed, hattributed⟩
      dsimp only
      rw [machineIn, hnext, hseen]
      rfl

omit [Primitives K T] in
theorem owned_seen (h : id.Owned (T := T) manager) (order : List String) :
    id.Owned (T := T) { manager with seenOuterEventOrder := order } ∧
      id.viewIn { manager with seenOuterEventOrder := order } = id.viewIn manager :=
  ⟨⟨⟨h.clear.ourOwner, h.clear.ourDevice, h.clear.others, h.clear.stored, h.clear.lists,
    h.clear.keyedOuter, h.clear.queued⟩, h.route, h.group, h.noOuter⟩, rfl⟩

omit [Primitives K T] in
/-- Remembering an outer event touches nothing of the sender. -/
theorem owned_rememberOuterEvent (h : id.Owned (T := T) manager) (eventId : String) :
    id.Owned (T := T) (manager.rememberOuterEvent eventId) ∧
      id.viewIn (manager.rememberOuterEvent eventId) = id.viewIn manager := by
  rw [GroupManager.rememberOuterEvent]
  by_cases hseen : manager.seenOuterEventOrder.contains eventId = true
  · rw [if_pos hseen]
    exact ⟨h, rfl⟩
  · rw [if_neg hseen]
    exact owned_seen h _

omit [Primitives K T] in
theorem sparesIn_queuePendingOuter (h : id.Owned (T := T) manager) {outer : VerifiedEvent}
    (hkey : outer.pubkey ≠ id.eventKey) :
    id.SparesIn (T := T) manager (manager.queuePendingOuter outer.pubkey outer) := by
  apply sparesIn_routing h h.route h.clear.lists
  · intro key outers hget
    rw [SortedMap.get?_insert] at hget
    split at hget
    · rename_i heq
      cases hget
      intro other hother
      rcases List.mem_append.mp hother with hother | hother
      · have hold : other ∈ (manager.pendingOuterBySenderEvent.get? outer.pubkey).getD [] := by
          split at hother
          · exact List.mem_of_mem_tail hother
          · exact hother
        cases hpending : manager.pendingOuterBySenderEvent.get? outer.pubkey with
        | none =>
            rw [hpending] at hold
            cases hold
        | some outers =>
            rw [hpending] at hold
            rw [← heq]
            exact h.clear.keyedOuter _ outers hpending other hold
      · rw [List.mem_singleton.mp hother]
        exact heq
    · exact h.clear.keyedOuter key outers hget
  · rw [SortedMap.get?_insert_ne _ _ hkey]
    exact h.noOuter

/-- An outer event of another key, once its id is remembered. -/
theorem sparesIn_foreignOuter (hvalid : id.Valid) (h : id.Owned (T := T) manager)
    {groupId : String} {group : Group} (hgroup : manager.groups.get? groupId = some group)
    {outer : VerifiedEvent} (hkey : outer.pubkey ≠ id.eventKey) :
    id.SparesIn (T := T) manager (manager.closeGroup groupId
      ((manager.openGroup groupId group).handleOuterEvent (T := T) outer).2) := by
  by_cases hne : groupId = id.group
  · subst hne
    obtain ⟨group', hget, hholds⟩ := h.group
    obtain rfl : group' = group := Option.some.inj (hget.symm.trans hgroup)
    have hrun := spares_handleOuterEvent (T := T) hvalid hholds hkey
    obtain ⟨howned, hview⟩ := owned_closeGroup_own h hrun.holds
    exact ⟨howned, by rw [hview, hrun.view_eq, viewIn_of_group hget], rfl⟩
  · obtain ⟨hid, havoids⟩ := h.clear.others groupId group hne hgroup
    refine sparesIn_closeGroup_other h hne (avoids_handleOuterEvent havoids outer) ?_
    have hrecord := OpenGroup.record_handleOuterEvent (T := T)
      (manager.openGroup groupId group) outer
    exact (congrArg (fun record => record.data.id) hrecord).trans hid

/-- An outer event whose key leads to no known group waits. -/
theorem handleOuterEvent_unrouted {outer : VerifiedEvent}
    (hkind : outer.kind = MESSAGE_EVENT_KIND)
    (hverify : GroupCodec.verifyEvent K T outer = true)
    (hseen : outer.id ∉ manager.seenOuterEventOrder)
    (hroute : manager.senderEventToGroup.get? outer.pubkey = none ∨
      ∃ groupId, manager.senderEventToGroup.get? outer.pubkey = some groupId ∧
        manager.groups.get? groupId = none) :
    manager.handleOuterEvent (T := T) outer =
      (none, (manager.rememberOuterEvent outer.id).queuePendingOuter outer.pubkey outer) := by
  unfold GroupManager.handleOuterEvent
  rw [if_neg (by simp [hkind]), if_neg (by simp [hverify]),
    if_neg (by simpa [GroupManager.hasSeenOuterEvent] using hseen)]
  dsimp only
  rw [senderEventToGroup_rememberOuterEvent, groups_rememberOuterEvent]
  rcases hroute with hroute | ⟨groupId, hroute, hgroup⟩
  · rw [hroute]
  · rw [hroute]
    dsimp only
    rw [hgroup]

/-- What follows the group's own handling of an outer event. -/
def finishOuter (manager : GroupManager K) (groupId : String)
    (outcome : Except String (Option GroupDecryptedEvent) × OpenGroup K) :
    Option GroupDecryptedEvent × GroupManager K :=
  match outcome with
  | (.error _, opened) => (none, manager.closeGroup groupId opened)
  | (.ok decrypted, opened) =>
      (decrypted.filter (fun event => !(manager.closeGroup groupId opened).shouldDropLocalEcho event),
        manager.closeGroup groupId opened)

/-- `handleOuterEvent` behind its three checks. -/
theorem handleOuterEvent_unseen {outer : VerifiedEvent} (hkind : outer.kind = MESSAGE_EVENT_KIND)
    (hverify : GroupCodec.verifyEvent K T outer = true)
    (hseen : outer.id ∉ manager.seenOuterEventOrder) {groupId : String} {group : Group}
    (hroute : manager.senderEventToGroup.get? outer.pubkey = some groupId)
    (hgroup : manager.groups.get? groupId = some group) :
    manager.handleOuterEvent (T := T) outer =
      finishOuter (manager.rememberOuterEvent outer.id) groupId
        (((manager.rememberOuterEvent outer.id).openGroup groupId group).handleOuterEvent (T := T)
          outer) := by
  have hroute' : (manager.rememberOuterEvent outer.id).senderEventToGroup.get? outer.pubkey =
      some groupId := by rw [senderEventToGroup_rememberOuterEvent, hroute]
  have hgroup' : (manager.rememberOuterEvent outer.id).groups.get? groupId = some group := by
    rw [groups_rememberOuterEvent, hgroup]
  unfold GroupManager.handleOuterEvent
  rw [if_neg (by simp [hkind]), if_neg (by simp [hverify]),
    if_neg (by simpa [GroupManager.hasSeenOuterEvent] using hseen)]
  dsimp only
  rw [hroute']
  dsimp only
  rw [hgroup']
  dsimp only
  generalize ((manager.rememberOuterEvent outer.id).openGroup groupId group).handleOuterEvent (T := T)
    outer = outcome
  obtain ⟨_ | decrypted, opened⟩ := outcome
  · rfl
  · rfl

/-- An outer event of the sender's key goes to the sender's machine. -/
theorem tracks_ownOuter (hvalid : id.Valid) (h : id.Owned (T := T) manager)
    {outer : VerifiedEvent} (hkey : outer.pubkey = id.eventKey)
    (hkind : outer.kind = MESSAGE_EVENT_KIND) (hverify : GroupCodec.verifyEvent K T outer = true)
    (hseen : outer.id ∉ manager.seenOuterEventOrder) :
    id.Tracks (T := T) (manager.receive (T := T) (.outer outer))
      (shown ((id.receive (T := T) (id.viewIn manager) outer).1.map Option.toList),
        ⟨(id.receive (T := T) (id.viewIn manager) outer).2,
          remember manager.seenOuterEventOrder outer.id⟩) := by
  obtain ⟨hremembered, hview⟩ := owned_rememberOuterEvent h outer.id
  obtain ⟨group, hget, hholds⟩ := hremembered.group
  have hgroup : manager.groups.get? id.group = some group := by
    rw [← groups_rememberOuterEvent manager outer.id, hget]
  have hroute : manager.senderEventToGroup.get? outer.pubkey = some id.group := by
    rw [hkey, h.route]
  have hfollows := follows_handleOuterEvent (T := T) hvalid hholds hkey
  have hattributed : ∀ event, (id.receive (T := T) (id.viewIn manager) outer).1 =
      .ok (some event) → id.Attributed event :=
    fun event hrun => attributed_receive hvalid hkey hrun
  rw [← viewIn_of_group hget, hview] at hfollows
  have hseen' := seen_rememberOuterEvent manager outer.id
  rw [GroupManager.receive, handleOuterEvent_unseen hkind hverify hseen hroute hgroup]
  generalize manager.rememberOuterEvent outer.id = remembered at hremembered hget hfollows hseen' ⊢
  obtain ⟨howned, hclosed⟩ := owned_closeGroup_own hremembered hfollows.holds
  generalize (remembered.openGroup id.group group).handleOuterEvent (T := T) outer = outcome
    at hfollows howned hclosed ⊢
  generalize id.receive (T := T) (id.viewIn manager) outer = expected at hfollows hattributed ⊢
  obtain ⟨result, opened⟩ := outcome
  obtain ⟨result', view'⟩ := expected
  obtain ⟨hopened, rfl, rfl⟩ := hfollows
  have hmachine : id.machineIn (remembered.closeGroup id.group opened) =
      ⟨id.view opened, remember manager.seenOuterEventOrder outer.id⟩ := by
    rw [machineIn, hclosed, ← hseen']
    rfl
  match result with
  | .error e => exact ⟨howned, hmachine, rfl, fun event hmem => by cases hmem⟩
  | .ok none => exact ⟨howned, hmachine, rfl, fun event hmem => by cases hmem⟩
  | .ok (some event) =>
      have hevent := hattributed event rfl
      have hkept : (some event).filter (fun event =>
          !(remembered.closeGroup id.group opened).shouldDropLocalEcho event) = some event := by
        simp [GroupManager.shouldDropLocalEcho, hevent.remote]
      have hall : ∀ e ∈ [event], id.Attributed e := by
        intro e hmem
        rw [List.mem_singleton.mp hmem]
        exact hevent
      refine ⟨howned, hmachine, ?_, hall⟩
      dsimp only [finishOuter]
      rw [hkept]
      exact under_of_attributed hall

/-- An outer event of another key is remembered and otherwise leaves the sender alone. -/
theorem tracks_foreignOuter (hvalid : id.Valid) (h : id.Owned (T := T) manager)
    {outer : VerifiedEvent} (hkey : outer.pubkey ≠ id.eventKey)
    (hkind : outer.kind = MESSAGE_EVENT_KIND) (hverify : GroupCodec.verifyEvent K T outer = true)
    (hseen : outer.id ∉ manager.seenOuterEventOrder) :
    id.Tracks (T := T) (manager.receive (T := T) (.outer outer))
      ([], ⟨id.viewIn manager, remember manager.seenOuterEventOrder outer.id⟩) := by
  obtain ⟨hremembered, hview⟩ := owned_rememberOuterEvent h outer.id
  have hmachine : id.machineIn (manager.rememberOuterEvent outer.id) =
      ⟨id.viewIn manager, remember manager.seenOuterEventOrder outer.id⟩ := by
    rw [machineIn, hview, seen_rememberOuterEvent]
  rw [← hmachine, GroupManager.receive]
  cases hroute : manager.senderEventToGroup.get? outer.pubkey with
  | none =>
      rw [handleOuterEvent_unrouted hkind hverify hseen (Or.inl hroute)]
      exact tracks_spared (sparesIn_queuePendingOuter hremembered hkey) silent_nil
  | some groupId =>
      cases hgroup : manager.groups.get? groupId with
      | none =>
          rw [handleOuterEvent_unrouted hkind hverify hseen (Or.inr ⟨groupId, hroute, hgroup⟩)]
          exact tracks_spared (sparesIn_queuePendingOuter hremembered hkey) silent_nil
      | some group =>
          rw [handleOuterEvent_unseen hkind hverify hseen hroute hgroup]
          have hgroup' : (manager.rememberOuterEvent outer.id).groups.get? groupId = some group := by
            rw [groups_rememberOuterEvent, hgroup]
          have hspares := sparesIn_foreignOuter (T := T) hvalid hremembered hgroup' hkey
          generalize manager.rememberOuterEvent outer.id = remembered at hspares
          have hauthor : ∀ event, ((remembered.openGroup groupId group).handleOuterEvent (T := T)
              outer).1 = .ok (some event) → event.senderEventPubkey = outer.pubkey :=
            fun event hrun => senderEventPubkey_of_handleOuterEvent hrun
          generalize (remembered.openGroup groupId group).handleOuterEvent (T := T) outer = outcome
            at hspares hauthor
          obtain ⟨_ | decrypted, opened⟩ := outcome
          · exact tracks_spared hspares silent_nil
          · refine tracks_spared hspares ?_
            intro events hevents event hmem
            cases hevents
            obtain ⟨hdecrypted, -⟩ := Option.filter_eq_some_iff.mp (Option.mem_toList.mp hmem)
            rw [hauthor event (by rw [hdecrypted])]
            exact hkey

theorem tracks_outer (hvalid : id.Valid) (h : id.Owned (T := T) manager)
    (outer : VerifiedEvent) :
    id.Tracks (T := T) (manager.receive (T := T) (.outer outer))
      (id.step (T := T) (id.machineIn manager) (.outer outer)) := by
  rw [step]
  split
  · rename_i hkind
    rw [GroupManager.receive, GroupManager.handleOuterEvent, if_pos hkind]
    exact tracks_spared (.refl h) silent_nil
  rename_i hkind
  split
  · rename_i hverify
    rw [GroupManager.receive, GroupManager.handleOuterEvent, if_neg hkind, if_pos hverify]
    exact tracks_spared (.refl h) silent_nil
  rename_i hverify
  split
  · rename_i hseen
    have hknown : manager.hasSeenOuterEvent outer.id = true := hseen
    rw [GroupManager.receive, GroupManager.handleOuterEvent, if_neg hkind, if_neg hverify,
      if_pos hknown]
    exact tracks_spared (.refl h) silent_nil
  rename_i hseen
  replace hkind := not_not.mp hkind
  replace hverify : GroupCodec.verifyEvent K T outer = true := by simpa using hverify
  replace hseen : outer.id ∉ manager.seenOuterEventOrder := by simpa [machineIn] using hseen
  split
  · rename_i hkey
    exact tracks_ownOuter hvalid h hkey hkind hverify hseen
  · rename_i hkey
    exact tracks_foreignOuter hvalid h hkey hkind hverify hseen

theorem tracks_receive (hvalid : id.Valid) (h : id.Owned (T := T) manager) {input : GroupInput}
    (hrespects : id.Respects (K := K) (T := T) input) :
    id.Tracks (T := T) (manager.receive (T := T) input)
      (id.step (T := T) (id.machineIn manager) input) := by
  cases input with
  | session pending => exact tracks_session hvalid h hrespects
  | outer event => exact tracks_outer hvalid h event

/-- Over a whole run the sender's machine runs inside the manager. -/
theorem tracks_receiveAll (hvalid : id.Valid) {inputs : List GroupInput}
    (hrespects : ∀ input ∈ inputs, id.Respects (K := K) (T := T) input) {manager : GroupManager K}
    (h : id.Owned (T := T) manager) :
    id.Tracks (T := T) (GroupManager.receiveAll (T := T) inputs manager)
      (id.steps (T := T) inputs (id.machineIn manager)) := by
  induction inputs generalizing manager with
  | nil => exact ⟨h, rfl, rfl, fun event hmem => by cases hmem⟩
  | cons input rest ih =>
      have hfirst := tracks_receive hvalid h (hrespects input List.mem_cons_self)
      have hrest := ih (fun other hother => hrespects other (List.mem_cons_of_mem _ hother))
        hfirst.owned
      rw [hfirst.machine_eq] at hrest
      refine ⟨hrest.owned, hrest.machine_eq, ?_, ?_⟩
      · exact (under_append _ _).trans (congrArg₂ _ hfirst.under_eq hrest.under_eq)
      · intro event hmem
        rcases List.mem_append.mp hmem with hmem | hmem
        · exact hfirst.attributed event hmem
        · exact hrest.attributed event hmem

end Stepping

/-- Every sender key stands under its own id, its retained keys below its position. -/
def WellKept (keys : SortedMap Nat (SenderKeyState K)) : Prop :=
  ∀ keyId state, keys.get? keyId = some state →
    state.keyId = keyId ∧ SenderKeyState.Placed state

section Chains

variable [Primitives K T]

/-- Every chain is still there, perhaps further on. -/
structure Extends (keys next : SortedMap Nat (SenderKeyState K)) : Prop where
  kept : WellKept next
  chains : ∀ keyId origin, keys.get? keyId = some origin →
    ∃ state, next.get? keyId = some state ∧ SenderKeyState.Continues origin state

namespace Extends

variable {keys : SortedMap Nat (SenderKeyState K)}

theorem refl (h : WellKept keys) : Extends keys keys :=
  ⟨h, fun keyId origin hget => ⟨origin, hget, .refl (h keyId origin hget).2⟩⟩

theorem trans {a b c : SortedMap Nat (SenderKeyState K)} (hab : Extends a b) (hbc : Extends b c) :
    Extends a c := by
  refine ⟨hbc.kept, fun keyId origin hget => ?_⟩
  obtain ⟨middle, hmiddle, hfirst⟩ := hab.chains keyId origin hget
  obtain ⟨state, hstate, hsecond⟩ := hbc.chains keyId middle hmiddle
  exact ⟨state, hstate, hfirst.trans hsecond⟩

/-- A chain moves on. -/
theorem advance (h : WellKept keys) {keyId : Nat} {state next : SenderKeyState K}
    (hget : keys.get? keyId = some state) (hnext : SenderKeyState.Continues state next) :
    Extends keys (keys.insert next.keyId next) := by
  have hid : next.keyId = keyId := hnext.keyId.trans (h keyId state hget).1
  rw [hid]
  constructor
  · intro other found hfound
    rw [SortedMap.get?_insert] at hfound
    split at hfound
    · rename_i heq
      cases hfound
      exact ⟨hid.trans heq, hnext.placed⟩
    · exact h other found hfound
  · intro other origin horigin
    rw [SortedMap.get?_insert]
    split
    · rename_i heq
      subst heq
      rw [hget] at horigin
      cases horigin
      exact ⟨next, rfl, hnext⟩
    · exact ⟨origin, horigin, .refl (h other origin horigin).2⟩

/-- A chain begins. -/
theorem start (h : WellKept keys) {state : SenderKeyState K} (hplaced : SenderKeyState.Placed state)
    (hfresh : keys.get? state.keyId = none) : Extends keys (keys.insert state.keyId state) := by
  constructor
  · intro other found hfound
    rw [SortedMap.get?_insert] at hfound
    split at hfound
    · rename_i heq
      cases hfound
      exact ⟨heq, hplaced⟩
    · exact h other found hfound
  · intro other origin horigin
    have hne : state.keyId ≠ other := by
      rintro rfl
      rw [hfresh] at horigin
      cases horigin
    exact ⟨origin, (SortedMap.get?_insert_ne _ _ hne).trans horigin, .refl (h other origin horigin).2⟩

end Extends

variable [GroupCodec K T]

theorem openOuter_opened {keys : SortedMap Nat (SenderKeyState K)} (h : WellKept keys)
    {parsed : OneToManyMessage} {plaintext : T} {keyId number : Nat} {next : SenderKeyState K}
    (hopen : OpenGroup.openOuter keys parsed = .opened plaintext keyId number next) :
    Extends keys (keys.insert next.keyId next) ∧
      ∃ key : K, Primitives.decryptToBytes key (GroupCodec.payload K parsed.ciphertext) =
        .ok plaintext := by
  unfold OpenGroup.openOuter at hopen
  dsimp only at hopen
  split at hopen
  · split at hopen
    · rename_i hfound
      cases hopen
      obtain ⟨state, hmem, htry⟩ := List.exists_of_findSome?_eq_some hfound
      rw [List.mem_reverse, SortedMap.mem_values] at hmem
      obtain ⟨storedId, hstored⟩ := hmem
      split at htry
      · rename_i hblind
        cases htry
        obtain ⟨hcontinues, hkey⟩ :=
          SenderKeyState.decryptBlindFromBytes_eq_ok (h storedId state hstored).2 hblind
        exact ⟨Extends.advance h hstored hcontinues, hkey⟩
      · cases htry
    · cases hopen
  · split at hopen
    · cases hopen
    · rename_i state hstored
      split at hopen
      · rename_i hpositioned
        cases hopen
        refine ⟨Extends.advance h hstored (SenderKeyState.continues_decryptFromBytes
          (h _ state hstored).2 hpositioned), ?_⟩
        rcases SenderKeyState.decryptFromBytes_eq_ok hpositioned with
          ⟨-, key, -, hkey⟩ | ⟨-, -, hkey⟩
        · exact ⟨key, hkey⟩
        · exact ⟨_, hkey⟩
      · cases hopen

theorem extends_receive (id : SenderIdentity) {view : SenderView K} (h : WellKept view.keys)
    (outer : VerifiedEvent) : Extends view.keys (id.receive (T := T) view outer).2.keys := by
  unfold receive
  split
  · exact .refl h
  split
  · exact .refl h
  split
  · exact .refl h
  · unfold receiveParsed
    split
    · exact .refl h
    · exact .refl h
    · rename_i hopen
      dsimp only
      split
      · exact .refl h
      · exact .refl h
      · exact (openOuter_opened h hopen).1

theorem extends_receiveAll (id : SenderIdentity) (outers : List VerifiedEvent)
    (view : SenderView K) (h : WellKept view.keys) :
    Extends view.keys (id.receiveAll (T := T) outers view).2.keys := by
  induction outers generalizing view with
  | nil => exact .refl h
  | cons outer rest ih =>
      have hfirst := extends_receive (T := T) id h outer
      rw [receiveAll]
      generalize id.receive (T := T) view outer = first at hfirst ⊢
      obtain ⟨_ | decrypted, next⟩ := first
      · exact hfirst
      · have hrest := hfirst.trans (ih next hfirst.kept)
        dsimp only at hrest ⊢
        generalize id.receiveAll (T := T) rest next = last at hrest ⊢
        obtain ⟨_ | events, last⟩ := last
        · exact hrest
        · exact hrest

theorem extends_drain (id : SenderIdentity) (view : SenderView K) (h : WellKept view.keys)
    (keyId : Nat) : Extends view.keys (id.drain (T := T) view keyId).2.keys := by
  unfold drain
  dsimp only
  split
  · exact .refl h
  · generalize view.waiting.filter
      (fun p => ¬ (p.keyId = some (keyId % 2 ^ 32) ∨ p.keyId = none)) = waiting
    exact extends_receiveAll id _ ⟨view.keys, waiting⟩ h

/-- A distribution adds its chain unless its key id is known. -/
theorem extends_learn (id : SenderIdentity) (view : SenderView K) (h : WellKept view.keys)
    (dist : SenderKeyDistribution) :
    Extends view.keys (id.learn (T := T) view dist).2.keys := by
  unfold learn
  split
  · exact extends_drain id view h dist.keyId
  · rename_i hfresh
    split
    · exact .refl h
    · rename_i state hstate
      obtain ⟨rfl, hmod⟩ := SenderKeyState.fromDistribution_eq_ok hstate
      rw [hmod] at hfresh
      have hstart := Extends.start h (SenderKeyState.placed_new dist.keyId
        (GroupCodec.hexToBytes T dist.chainKey) dist.iteration) hfresh
      exact hstart.trans (extends_drain id ⟨_, view.waiting⟩ hstart.kept dist.keyId)

/-- The chain that a distribution of a new key id starts. -/
theorem learn_starts (id : SenderIdentity) {view : SenderView K} (h : WellKept view.keys)
    {dist : SenderKeyDistribution} (hfresh : view.keys.get? (dist.keyId % 2 ^ 32) = none)
    {events : List GroupDecryptedEvent} (hlearn : (id.learn (T := T) view dist).1 = .ok events) :
    ∃ state, (id.learn (T := T) view dist).2.keys.get? dist.keyId = some state ∧
      SenderKeyState.Continues (NostrDoubleRatchet.SenderKeyState.new dist.keyId
        (GroupCodec.hexToBytes T dist.chainKey) dist.iteration) state := by
  unfold learn at hlearn ⊢
  rw [hfresh] at hlearn ⊢
  dsimp only at hlearn ⊢
  cases hstate : SenderKeyState.fromDistribution (K := K) (T := T) dist with
  | error e =>
      rw [hstate] at hlearn
      cases hlearn
  | ok state =>
      obtain ⟨rfl, hmod⟩ := SenderKeyState.fromDistribution_eq_ok hstate
      rw [hmod] at hfresh
      have hstart := Extends.start h (SenderKeyState.placed_new dist.keyId
        (GroupCodec.hexToBytes T dist.chainKey) dist.iteration) hfresh
      exact (extends_drain id ⟨_, view.waiting⟩ hstart.kept dist.keyId).chains dist.keyId _
        (SortedMap.get?_insert_self _ _ _)

theorem extends_step (id : SenderIdentity) {machine : SenderMachine K}
    (h : WellKept machine.view.keys) (input : GroupInput) :
    Extends machine.view.keys (id.step (T := T) machine input).2.view.keys := by
  cases input with
  | session pending =>
      rw [step]
      split
      · exact .refl h
      · exact extends_learn id _ h _
  | outer event =>
      rw [step]
      split
      · exact .refl h
      split
      · exact .refl h
      split
      · exact .refl h
      split
      · exact extends_receive id h event
      · exact .refl h

theorem extends_steps (id : SenderIdentity) (inputs : List GroupInput) {machine : SenderMachine K}
    (h : WellKept machine.view.keys) :
    Extends machine.view.keys (id.steps (T := T) inputs machine).2.view.keys := by
  induction inputs generalizing machine with
  | nil => exact .refl h
  | cons input rest ih =>
      have hfirst := extends_step (T := T) id h input
      exact hfirst.trans (ih hfirst.kept)

end Chains

section Delivering

variable [Primitives K T] [GroupCodec K T]

/-- An outer event of the sender that carries message `number` of its sender key `keyId`,
sealed under `key`. -/
structure Carries (id : SenderIdentity) (outer : VerifiedEvent) (keyId number : Nat) (key : K)
    (plaintext : T) : Prop where
  author : outer.pubkey = id.eventKey
  number_le : number ≤ u32Max
  message : ∃ parsed, parseOuterEvent K T outer = .ok parsed ∧
    (parsed.hidden = false → parsed.keyId = keyId ∧ parsed.messageNumber = number) ∧
    Primitives.decryptToBytes key (GroupCodec.payload K parsed.ciphertext) = .ok plaintext ∧
    ∀ (other : K) (opened : T), Primitives.decryptToBytes other
      (GroupCodec.payload K parsed.ciphertext) = .ok opened → opened = plaintext
  rumor : OpenGroup.namesOtherGroup id.group (OpenGroup.readInner (K := K) (T := T) id.group
    id.device outer.createdAt (GroupCodec.text K plaintext)) = .ok false

omit [Primitives K T] in
theorem parseOuterEvent_eq_ok {outer : VerifiedEvent} {parsed : OneToManyMessage}
    (h : parseOuterEvent K T outer = .ok parsed) :
    outer.kind = MESSAGE_EVENT_KIND ∧ GroupCodec.verifyEvent K T outer = true := by
  unfold parseOuterEvent at h
  split at h
  · cases h
  split at h
  · cases h
  rename_i hkind
  split at h
  · cases h
  rename_i hverify
  exact ⟨not_not.mp hkind, by simpa using hverify⟩

theorem openOuter_carried {keys : SortedMap Nat (SenderKeyState K)} (hkept : WellKept keys)
    {keyId number : Nat} {state : SenderKeyState K} {key : K} {plaintext : T}
    {parsed : OneToManyMessage} (hget : keys.get? keyId = some state)
    (hawaits : SenderKeyState.Awaits state number)
    (hkey : SenderKeyState.positionKey state number = some key) (hnumber : number ≤ u32Max)
    (hvisible : parsed.hidden = false → parsed.keyId = keyId ∧ parsed.messageNumber = number)
    (hopen : Primitives.decryptToBytes key (GroupCodec.payload K parsed.ciphertext) = .ok plaintext)
    (hsole : ∀ (other : K) (opened : T), Primitives.decryptToBytes other
      (GroupCodec.payload K parsed.ciphertext) = .ok opened → opened = plaintext) :
    ∃ k n next, OpenGroup.openOuter keys parsed = .opened plaintext k n next := by
  have hsome : ∃ opened k n next, OpenGroup.openOuter keys parsed = .opened opened k n next := by
    unfold OpenGroup.openOuter
    dsimp only
    cases hhidden : parsed.hidden with
    | true =>
        rw [if_pos rfl]
        obtain ⟨⟨n, opened, next⟩, hblind⟩ :=
          SenderKeyState.decryptBlindFromBytes_of_awaits hawaits hkey hopen
        have hmem : state ∈ keys.values.reverse :=
          List.mem_reverse.mpr (SortedMap.mem_values.mpr ⟨keyId, hget⟩)
        split
        · exact ⟨_, _, _, _, rfl⟩
        · rename_i hnone
          have htry := List.findSome?_eq_none_iff.mp hnone state hmem
          rw [hblind] at htry
          cases htry
    | false =>
        obtain ⟨hid, hn⟩ := hvisible hhidden
        obtain ⟨next, hpositioned⟩ :=
          SenderKeyState.decryptFromBytes_of_awaits hawaits hkey hopen hnumber
        rw [if_neg Bool.false_ne_true, hid, hget, hn]
        dsimp only
        rw [hpositioned]
        exact ⟨_, _, _, _, rfl⟩
  obtain ⟨opened, k, n, next, hopened⟩ := hsome
  obtain ⟨-, other, hother⟩ := openOuter_opened hkept hopened
  obtain rfl := hsole other opened hother
  exact ⟨k, n, next, hopened⟩

/-- A message whose key the machine still holds is shown. -/
theorem receive_carried {id : SenderIdentity} {view : SenderView K} (hkept : WellKept view.keys)
    {outer : VerifiedEvent} {keyId number : Nat} {state : SenderKeyState K} {key : K}
    {plaintext : T} (hget : view.keys.get? keyId = some state)
    (hawaits : SenderKeyState.Awaits state number)
    (hkey : SenderKeyState.positionKey state number = some key)
    (h : id.Carries outer keyId number key plaintext) :
    ∃ k n, (id.receive (T := T) view outer).1 = .ok (some (id.decryptedEvent outer k n
      (OpenGroup.readInner (K := K) (T := T) id.group id.device outer.createdAt
        (GroupCodec.text K plaintext)))) := by
  obtain ⟨parsed, hparse, hvisible, hopen, hsole⟩ := h.message
  obtain ⟨hkind, hverify⟩ := parseOuterEvent_eq_ok hparse
  obtain ⟨k, n, next, hopened⟩ := openOuter_carried hkept hget hawaits hkey h.number_le hvisible
    hopen hsole
  refine ⟨k, n, ?_⟩
  unfold receive
  rw [if_neg (by simp [hkind]), if_neg (by simp [hverify]), hparse]
  dsimp only
  unfold receiveParsed
  rw [hopened]
  dsimp only
  rw [h.rumor]

end Delivering

section Announcing

variable [Primitives K T] [GroupCodec K T] {id : SenderIdentity} {manager next : GroupManager K}

omit [Primitives K T] in
/-- The sender's group is known, and nobody but the sender has its key. -/
structure Unclaimed (id : SenderIdentity) (manager : GroupManager K) (group : Group) : Prop where
  clear : id.Clear (T := T) manager
  known : manager.groups.get? id.group = some group
  enrolled : id.Enrolled group.record
  keyed : ∀ p ∈ group.pendingOuter, p.senderEventPubkey = p.outer.pubkey
  unclaimed : ∀ device, (manager.openGroup id.group group).init.group.senderDeviceToEvent.get?
    device = some id.eventKey → device = id.device
  single : ∀ event, (manager.openGroup id.group group).init.group.senderEventToDevice.get? event =
    some id.device → (manager.openGroup id.group group).init.group.senderDeviceToEvent.get?
      id.device = some event
  queue : manager.pendingOuterBySenderEvent.get? id.eventKey ≠ some []
  kept : WellKept (id.viewIn manager).keys

omit [Primitives K T] in
/-- Binding the sender's key to its group, with nothing of the key left waiting. -/
theorem owned_bound {closed : GroupManager K} (hclear : id.Clear (T := T) closed) {group : Group}
    (hget : closed.groups.get? id.group = some group)
    (hholds : id.Holds (closed.openGroup id.group group))
    {pendingOuter : SortedMap String (List VerifiedEvent)}
    (hkeyed : ∀ key outers, pendingOuter.get? key = some outers →
      ∀ outer ∈ outers, outer.pubkey = key)
    (hnone : pendingOuter.get? id.eventKey = none) :
    id.Owned (T := T) { closed.bindSenderEventToGroup id.group id.eventKey with
      pendingOuterBySenderEvent := pendingOuter } := by
  refine ⟨⟨hclear.ourOwner, hclear.ourDevice, hclear.others, hclear.stored, ?_, hkeyed,
    hclear.queued⟩, SortedMap.get?_insert_self _ _ _, ⟨group, hget, hholds⟩, hnone⟩
  intro groupId events hne hlisted
  change (closed.groupToSenderEvents.insert id.group _).get? groupId = _ at hlisted
  rw [SortedMap.get?_insert_ne _ _ (Ne.symm hne)] at hlisted
  exact hclear.lists groupId events hne hlisted

/-- The manager's queue of the sender's key is handed to the sender's machine. -/
theorem owned_drained (hvalid : id.Valid) {closed : GroupManager K}
    (hclear : id.Clear (T := T) closed) {group : Group}
    (hget : closed.groups.get? id.group = some group)
    (hholds : id.Holds (closed.openGroup id.group group))
    (hqueue : closed.pendingOuterBySenderEvent.get? id.eventKey ≠ some [])
    {events : List GroupDecryptedEvent} {drained : GroupManager K}
    (hrun : (closed.bindSenderEventToGroup id.group id.eventKey).drainPendingOuterForSenderEvent
      (T := T) id.eventKey id.group group = (.ok events, drained)) :
    id.Owned (T := T) drained ∧ (∀ event ∈ events, id.Attributed event) ∧
      ∀ keys, WellKept keys → (id.viewIn closed).keys = keys →
        Extends keys (id.viewIn drained).keys := by
  unfold GroupManager.drainPendingOuterForSenderEvent at hrun
  cases hpending : closed.pendingOuterBySenderEvent.get? id.eventKey with
  | none =>
      have hbound := owned_bound hclear hget hholds hclear.keyedOuter hpending
      have hempty : (closed.bindSenderEventToGroup id.group
        id.eventKey).pendingOuterBySenderEvent.get? id.eventKey = none := hpending
      rw [hempty] at hrun
      cases hrun
      refine ⟨hbound, ?_, ?_⟩
      · intro event hmem
        cases hmem
      · rintro keys hkept rfl
        exact .refl hkept
  | some outers =>
      have hfull : (closed.bindSenderEventToGroup id.group
        id.eventKey).pendingOuterBySenderEvent.get? id.eventKey = some outers := hpending
      have hne : outers ≠ [] := by
        rintro rfl
        exact hqueue hpending
      have hkeys : ∀ outer ∈ OpenGroup.sortByMessageNumber (K := K) (T := T) outers,
          outer.pubkey = id.eventKey := by
        intro outer houter
        exact hclear.keyedOuter id.eventKey outers hpending outer
          (mem_sortByMessageNumber.mp houter)
      have hbound := owned_bound hclear hget hholds
        (SortedMap.forall_get?_erase (k := id.eventKey) hclear.keyedOuter)
        (SortedMap.get?_erase_self _ _)
      have hfollows := follows_handleOuterEvents (T := T) hvalid hholds hkeys
      obtain ⟨howned, hviewed⟩ := owned_closeGroup_own hbound hfollows.holds
      rw [hfull, Option.getD_some] at hrun
      split at hrun
      · exact absurd rfl hne
      · have hopened : ({ closed.bindSenderEventToGroup id.group id.eventKey with
            pendingOuterBySenderEvent := (closed.bindSenderEventToGroup id.group
              id.eventKey).pendingOuterBySenderEvent.erase id.eventKey } :
              GroupManager K).openGroup id.group group = closed.openGroup id.group group := rfl
        dsimp only at hrun
        rw [hopened] at hrun
        have hresult := hfollows.result_eq
        have hkeysEq := hfollows.view_eq
        generalize OpenGroup.handleOuterEvents (T := T) (OpenGroup.sortByMessageNumber (K := K)
          (T := T) outers) (closed.openGroup id.group group) = outcome
          at hrun howned hviewed hresult hkeysEq
        obtain ⟨result, opened⟩ := outcome
        cases hrun
        refine ⟨howned, ?_, ?_⟩
        · exact attributed_receiveAll hvalid hkeys hresult.symm
        · rintro keys hkept hkeys'
          have hstart : (id.view (closed.openGroup id.group group)).keys = keys := by
            rw [← hkeys', viewIn_of_group hget]
          have hext := extends_receiveAll (T := T) id (OpenGroup.sortByMessageNumber (K := K)
            (T := T) outers) (id.view (closed.openGroup id.group group)) (hstart ▸ hkept)
          rw [hstart, ← hkeysEq] at hext
          exact (congrArg (fun view : SenderView K => Extends keys view.keys) hviewed).mpr hext

/-- The sender's distribution has been processed: its key is its own, what it releases is
attributed to it, and a new sender key stands on the chain of the distribution. -/
structure Announced (id : SenderIdentity) (manager next : GroupManager K)
    (dist : SenderKeyDistribution) (released : List GroupDecryptedEvent) : Prop where
  owned : id.Owned (T := T) next
  attributed : ∀ event ∈ released, id.Attributed event
  kept : WellKept (id.viewIn next).keys
  started : (id.viewIn manager).keys.get? (dist.keyId % 2 ^ 32) = none →
    ∃ state, (id.viewIn next).keys.get? dist.keyId = some state ∧
      SenderKeyState.Continues (NostrDoubleRatchet.SenderKeyState.new dist.keyId
        (GroupCodec.hexToBytes T dist.chainKey) dist.iteration) state

theorem announced (hvalid : id.Valid) {group : Group} (h : id.Unclaimed (T := T) manager group)
    {first : PendingSessionEvent} {dist : SenderKeyDistribution}
    (hann : id.announcement (K := K) (T := T) first = some dist)
    {released : List GroupDecryptedEvent}
    (hrun : manager.handleIncomingSessionEventForKnownGroup (T := T) id.group group first
      (GroupManager.distributionOf (K := K) (T := T) first.event) = (.ok released, next)) :
    id.Announced (T := T) manager next dist released := by
  obtain ⟨hdist, -, hevent⟩ := distributionOf_of_announcement hann
  have henrolled : id.Enrolled (manager.openGroup id.group group).init.group.record := by
    rw [OpenGroup.record_init]
    exact h.enrolled
  have hqueued : ∀ p ∈ (manager.openGroup id.group group).init.group.pendingOuter,
      p.senderEventPubkey = p.outer.pubkey := by
    rw [pendingOuter_init]
    exact h.keyed
  have hlearned := holds_learnSender (OpenGroup.initialized_init _) henrolled hqueued h.unclaimed
    h.single
  have hfollows := follows_handleIncomingSessionEvent (T := T) hvalid h.enrolled hlearned hann
  have hview : id.view (manager.openGroup id.group group) = id.viewIn manager :=
    (viewIn_of_group h.known).symm
  have hwaiting : ∀ p ∈ (id.viewIn manager).waiting, p.outer.pubkey = id.eventKey := by
    rw [← hview]
    intro p hp
    obtain ⟨hmem, hkey⟩ := List.mem_filter.mp hp
    exact (h.keyed p hmem).symm.trans (of_decide_eq_true hkey)
  have hext := extends_learn (T := T) id (id.viewIn manager) h.kept dist
  have hreleased : ∀ events, (id.learn (T := T) (id.viewIn manager) dist).1 = .ok events →
      ∀ event ∈ events, id.Attributed event :=
    fun events hevents => attributed_learn hvalid hwaiting hevents
  have hstarts : ∀ events, (id.learn (T := T) (id.viewIn manager) dist).1 = .ok events →
      (id.viewIn manager).keys.get? (dist.keyId % 2 ^ 32) = none →
      ∃ state, (id.learn (T := T) (id.viewIn manager) dist).2.keys.get? dist.keyId = some state ∧
        SenderKeyState.Continues (NostrDoubleRatchet.SenderKeyState.new dist.keyId
          (GroupCodec.hexToBytes T dist.chainKey) dist.iteration) state :=
    fun events hevents hfresh => learn_starts id h.kept hfresh hevents
  rw [handleKnown_eq] at hrun
  rw [hview] at hfollows
  generalize (manager.openGroup id.group group).handleIncomingSessionEvent (T := T) first.event
    first.fromOwnerPubkey first.fromSenderDevicePubkey = outcome at hrun hfollows
  generalize id.learn (T := T) (id.viewIn manager) dist = expected
    at hfollows hext hreleased hstarts
  obtain ⟨result, opened⟩ := outcome
  obtain ⟨result', view'⟩ := expected
  obtain ⟨hholds, rfl, rfl⟩ := hfollows
  dsimp only at hrun hholds hext hreleased hstarts
  cases result with
  | error e => cases hrun
  | ok drainedFromGroup =>
      have hclear := clear_closeGroup_own h.clear opened
      have hget : (manager.closeGroup id.group opened).groups.get? id.group = some opened.group :=
        SortedMap.get?_insert_self _ _ _
      have hopen : id.Holds ((manager.closeGroup id.group opened).openGroup id.group
          opened.group) := by
        rw [openGroup_closeGroup]
        exact hholds
      have hclosed : (id.viewIn (manager.closeGroup id.group opened)).keys =
          (id.view opened).keys := by
        rw [viewIn_of_group hget, openGroup_closeGroup]
      have hqueue : (manager.closeGroup id.group opened).pendingOuterBySenderEvent.get?
          id.eventKey ≠ some [] := h.queue
      generalize manager.closeGroup id.group opened = closed
        at hrun hclear hget hopen hclosed hqueue
      have hfilter : (Option.bind (some dist) (fun d => d.senderEventPubkey)).filter isHex64 =
          some id.eventKey := by
        simp [hevent, hvalid.eventKey_hex]
      have hroute : closed.routeDistribution (T := T) id.group
          (GroupManager.distributionOf (K := K) (T := T) first.event) =
            (closed.bindSenderEventToGroup id.group
              id.eventKey).drainPendingOuterForSenderEvent (T := T) id.eventKey id.group
                opened.group := by
        unfold GroupManager.routeDistribution
        rw [hdist, hfilter, hget]
      unfold finishKnown at hrun
      dsimp only at hrun
      rw [hroute] at hrun
      split at hrun
      · cases hrun
      · rename_i drained drainedManager hdrained
        cases hrun
        obtain ⟨howned, hattributed, hkeys⟩ :=
          owned_drained hvalid hclear hget hopen hqueue hdrained
        have hlast := hkeys _ hext.kept hclosed
        have hrefresh := sparesIn_refreshGroupSenderMappings hvalid howned id.group
        rw [← hrefresh.view_eq] at hlast
        refine ⟨hrefresh.owned, ?_, hlast.kept, ?_⟩
        · intro event hmem
          rcases List.mem_append.mp hmem with hmem | hmem
          · exact hreleased drainedFromGroup rfl event hmem
          · exact hattributed event hmem
        · intro hfresh
          obtain ⟨state, hstate, hcontinues⟩ := hstarts drainedFromGroup rfl hfresh
          obtain ⟨final, hfinal, hfurther⟩ := hlast.chains dist.keyId state hstate
          exact ⟨final, hfinal, hcontinues.trans hfurther⟩

end Announcing

section Runs

variable [Primitives K T] [GroupCodec K T] {id : SenderIdentity} {manager next : GroupManager K}

/-- The inputs of the sender's machine: outer events and the sender's own distributions. -/
def concerns (id : SenderIdentity) : GroupInput → Bool
  | .session pending => (id.announcement (K := K) (T := T) pending).isSome
  | .outer _ => true

theorem steps_filter (inputs : List GroupInput) (machine : SenderMachine K) :
    id.steps (T := T) (inputs.filter (id.concerns (K := K) (T := T))) machine =
      id.steps (T := T) inputs machine := by
  induction inputs generalizing machine with
  | nil => rfl
  | cons input rest ih =>
      cases hconcerns : id.concerns (K := K) (T := T) input with
      | true =>
          rw [List.filter_cons_of_pos hconcerns, steps, steps]
          dsimp only
          rw [ih]
      | false =>
          cases input with
          | outer event => cases hconcerns
          | session pending =>
              have hann : id.announcement (K := K) (T := T) pending = none := by
                simpa [concerns] using hconcerns
              rw [List.filter_cons_of_neg (by simp [hconcerns]), ih, steps, step, hann]
              rfl

theorem steps_append (a b : List GroupInput) (machine : SenderMachine K) :
    (id.steps (T := T) (a ++ b) machine).2 =
      (id.steps (T := T) b (id.steps (T := T) a machine).2).2 := by
  induction a generalizing machine with
  | nil => rfl
  | cons input rest ih => exact ih _

omit [Primitives K T] [GroupCodec K T] in
theorem under_eq_singleton {decrypted : Option GroupDecryptedEvent} {event : GroupDecryptedEvent}
    (h : id.under decrypted.toList = [event]) : decrypted.toList = [event] := by
  cases decrypted with
  | none => cases h
  | some other =>
      have hmem : event ∈ id.under [other] := by
        have hsingle : event ∈ [event] := List.mem_singleton_self event
        rw [← h] at hsingle
        exact hsingle
      rw [List.mem_singleton.mp (List.mem_filter.mp hmem).1]
      rfl

/-- A message of the sender that its machine can still open is shown when it is delivered. -/
theorem shows_carried (hvalid : id.Valid) (h : id.Owned (T := T) manager)
    (hkept : WellKept (id.viewIn manager).keys) {outer : VerifiedEvent} {keyId number : Nat}
    {state : SenderKeyState K} {key : K} {plaintext : T}
    (hget : (id.viewIn manager).keys.get? keyId = some state)
    (hawaits : SenderKeyState.Awaits state number)
    (hkey : SenderKeyState.positionKey state number = some key)
    (hcarries : id.Carries outer keyId number key plaintext)
    (hseen : outer.id ∉ manager.seenOuterEventOrder) :
    ∃ k n, (manager.receive (T := T) (.outer outer)).1 = [id.decryptedEvent outer k n
      (OpenGroup.readInner (K := K) (T := T) id.group id.device outer.createdAt
        (GroupCodec.text K plaintext))] := by
  obtain ⟨parsed, hparse, -⟩ := hcarries.message
  obtain ⟨hkind, hverify⟩ := parseOuterEvent_eq_ok hparse
  obtain ⟨k, n, hreceive⟩ := receive_carried hkept hget hawaits hkey hcarries
  have htracks := tracks_ownOuter hvalid h hcarries.author hkind hverify hseen
  have hunder := htracks.under_eq
  rw [hreceive] at hunder
  exact ⟨k, n, under_eq_singleton hunder⟩

/-- A sender whose distribution has been processed keeps its key, as long as only its own
distributions name it: what is shown under the key is attributed to the sender, its messages
still open, and the rumors of others change nothing about either. -/
theorem sender_keeps_its_key (hvalid : id.Valid) {group : Group}
    (hstart : id.Unclaimed (T := T) manager group) {first : PendingSessionEvent}
    {dist : SenderKeyDistribution} (hann : id.announcement (K := K) (T := T) first = some dist)
    {released : List GroupDecryptedEvent}
    (hfirst : manager.handleIncomingSessionEventForKnownGroup (T := T) id.group group first
      (GroupManager.distributionOf (K := K) (T := T) first.event) = (.ok released, next))
    {inputs : List GroupInput}
    (hinputs : ∀ input ∈ inputs, id.Respects (K := K) (T := T) input) :
    (∀ event ∈ released ++ (GroupManager.receiveAll (T := T) inputs next).1,
      event.senderEventPubkey = id.eventKey →
        event.groupId = id.group ∧ event.senderDevicePubkey = id.device) ∧
    (∀ earlier middle outer later keyId number key plaintext origin state,
      inputs = earlier ++ middle ++ .outer outer :: later →
      (id.viewIn (GroupManager.receiveAll (T := T) earlier next).2).keys.get? keyId =
        some origin →
      SenderKeyState.positionKey origin number = some key →
      id.Carries outer keyId number key plaintext →
      (id.viewIn (GroupManager.receiveAll (T := T) (earlier ++ middle) next).2).keys.get? keyId =
        some state →
      SenderKeyState.Awaits state number →
      outer.id ∉ (GroupManager.receiveAll (T := T) (earlier ++ middle) next).2.seenOuterEventOrder →
      ∃ k n, ((GroupManager.receiveAll (T := T) (earlier ++ middle) next).2.receive (T := T)
        (.outer outer)).1 = [id.decryptedEvent outer k n (OpenGroup.readInner (K := K) (T := T)
          id.group id.device outer.createdAt (GroupCodec.text K plaintext))]) ∧
    (((id.viewIn manager).keys.get? (dist.keyId % 2 ^ 32) = none →
      ∃ state, (id.viewIn next).keys.get? dist.keyId = some state ∧
        SenderKeyState.Continues (NostrDoubleRatchet.SenderKeyState.new dist.keyId
          (GroupCodec.hexToBytes T dist.chainKey) dist.iteration) state)) ∧
    ∀ others, (∀ input ∈ others, id.Respects (K := K) (T := T) input) →
      others.filter (id.concerns (K := K) (T := T)) =
        inputs.filter (id.concerns (K := K) (T := T)) →
      id.under (GroupManager.receiveAll (T := T) others next).1 =
        id.under (GroupManager.receiveAll (T := T) inputs next).1 := by
  have hannounced := announced hvalid hstart hann hfirst
  have hall := tracks_receiveAll hvalid hinputs hannounced.owned
  refine ⟨?_, ?_, hannounced.started, ?_⟩
  · intro event hmem hkey
    have hattributed : id.Attributed event := by
      rcases List.mem_append.mp hmem with hmem | hmem
      · exact hannounced.attributed event hmem
      · apply hall.attributed event
        rw [← hall.under_eq]
        exact List.mem_filter.mpr ⟨hmem, by simpa using hkey⟩
    exact ⟨hattributed.groupId, hattributed.device⟩
  · intro earlier middle outer later keyId number key plaintext origin state hsplit horigin hkey
      hcarries hstate hawaits hseen
    have hrespects : ∀ input ∈ earlier ++ middle, id.Respects (K := K) (T := T) input := by
      intro input hmem
      apply hinputs
      rw [hsplit]
      exact List.mem_append_left _ hmem
    have hearlier := tracks_receiveAll hvalid
      (fun input hmem => hrespects input (List.mem_append_left _ hmem)) hannounced.owned
    have hreached := tracks_receiveAll hvalid hrespects hannounced.owned
    have hviewEarlier : id.viewIn (GroupManager.receiveAll (T := T) earlier next).2 =
        (id.steps (T := T) earlier (id.machineIn next)).2.view :=
      congrArg SenderMachine.view hearlier.machine_eq
    have hviewReached : id.viewIn (GroupManager.receiveAll (T := T) (earlier ++ middle) next).2 =
        (id.steps (T := T) middle (id.steps (T := T) earlier (id.machineIn next)).2).2.view := by
      rw [← steps_append]
      exact congrArg SenderMachine.view hreached.machine_eq
    have hkeptEarlier := (extends_steps (T := T) id earlier
      (show WellKept (id.machineIn next).view.keys from hannounced.kept)).kept
    have hext := extends_steps (T := T) id middle hkeptEarlier
    rw [← hviewEarlier, ← hviewReached] at hext
    obtain ⟨current, hcurrent, hcontinues⟩ := hext.chains keyId origin horigin
    rw [hstate] at hcurrent
    cases hcurrent
    exact shows_carried hvalid hreached.owned hext.kept hstate hawaits
      (hcontinues.awaited hawaits hkey) hcarries hseen
  · intro others hothers hsame
    have hother := tracks_receiveAll hvalid hothers hannounced.owned
    rw [hother.under_eq, hall.under_eq, ← steps_filter others, ← steps_filter inputs, hsame]

end Runs

end SenderIdentity

namespace Symbolic

open NostrDoubleRatchet.Symbolic

/-- A distribution of sender key `keyId` on the chain `11…1`, for the sender-event key `event`. -/
def announced (keyId : Nat) (event : Char) : SenderKeyDistribution :=
  ⟨"team", keyId, hexKey '1', 0, 1, some (hexKey event)⟩

def announcedJson (keyId : Nat) (event : Char) : JsonValue :=
  .object [("groupId", .string "team"), ("keyId", .number (some keyId)),
    ("chainKey", .string (hexKey '1')), ("iteration", .number (some 0)),
    ("createdAt", .number (some 1)), ("senderEventPubkey", .string (hexKey event))]

@[irreducible] def announcedText (keyId : Nat) (event : Char) : String :=
  "\x7b\"groupId\":\"team\",\"keyId\":" ++ toString keyId ++ ",\"chainKey\":\"" ++ hexKey '1' ++
    "\",\"iteration\":0,\"createdAt\":1,\"senderEventPubkey\":\"" ++ hexKey event ++ "\"\x7d"

/-- `JSON.parse` on the texts of the runs below: a message that is no JSON, the sender's
distribution and another member's. -/
def parseText (text : String) : Option JsonValue :=
  if text = "h" then none
  else if text = announcedText 20 '9' then some (announcedJson 20 '9')
  else some (announcedJson 1 'e')

@[reducible] def teamCodec : GroupCodec KeyTerm TextTerm := groupCodec parseText

attribute [local instance] teamCodec

def team : GroupData where
  id := "team"
  name := "team"
  description := none
  picture := none
  members := [hexKey 'a', hexKey 'b', hexKey 'c']
  admins := [hexKey 'a']
  createdAt := 1
  secret := none
  accepted := none

def teamManager : GroupManager KeyTerm :=
  (memberManager.upsertGroup (T := TextTerm) team).2

def teamGroup : Group :=
  { Group.new team (hexKey 'b') (hexKey 'b') with initialized := true }

/-- A distribution as the device `device` of `owner` sends it. -/
def distributionFrom (owner device : Char) (content : String) : PendingSessionEvent where
  event := {
    id := "", pubkey := hexKey device, kind := GROUP_SENDER_KEY_DISTRIBUTION_KIND, createdAt := 1
    tags := [["l", "team"]], content := content }
  fromOwnerPubkey := hexKey owner
  fromSenderDevicePubkey := some (hexKey device)

/-- The sender `dd…d` of the owner `aa…a`, with the sender-event key `ee…e`. -/
def sender : SenderIdentity where
  group := "team"
  device := hexKey 'd'
  owner := hexKey 'a'
  eventKey := hexKey 'e'
  ourOwner := hexKey 'b'
  ourDevice := hexKey 'b'

/-- The first message of sender key 1, with the text `h`. -/
def firstMessage : VerifiedEvent where
  id := "m"
  sig := "signed"
  pubkey := hexKey 'e'
  kind := MESSAGE_EVENT_KIND
  createdAt := 1
  tags := [["v", "2"]]
  content := String.ofList ([0, 0, 0, 1, 0, 0, 0, 0, 49, 0, 104].map Char.ofNat)

theorem hexKey_inj {c d : Char} : hexKey c = hexKey d ↔ c = d := by
  simp [hexKey]

theorem isHex64_hexKey {c : Char} (h : isAsciiHexDigit c = true) : isHex64 (hexKey c) = true := by
  simp [isHex64, hexKey, h]

theorem sender_valid : sender.Valid where
  group_ne := by decide
  owner_ne := hexKey_ne_empty 'a'
  device_ne := by simp [sender, hexKey_inj]
  device_hex := isHex64_hexKey (by decide)
  eventKey_hex := isHex64_hexKey (by decide)

theorem teamManager_eq : teamManager = { memberManager with
    groups := memberManager.groups.insert "team" teamGroup
    storage := memberManager.storage.insert "team" SortedMap.empty
    groupToSenderEvents := memberManager.groupToSenderEvents.insert "team" SortedSet.empty } := rfl

theorem sender_unclaimed : sender.Unclaimed (T := TextTerm) teamManager teamGroup := by
  rw [teamManager_eq]
  have hother : ∀ (groupId : String) {β : Type} (value : β), groupId ≠ "team" →
      (SortedMap.empty.insert "team" value : SortedMap String β).get? groupId = none := by
    intro groupId β value hne
    rw [SortedMap.get?_insert_ne _ _ (Ne.symm hne)]
    rfl
  refine ⟨⟨rfl, rfl, ?_, ?_, ?_, ?_, ?_⟩, ?_, ⟨rfl, ?_, rfl, rfl⟩, ?_, ?_, ?_, ?_, ?_⟩
  · intro groupId group hne hgroup
    change (SortedMap.empty.insert "team" teamGroup : SortedMap String Group).get? groupId = _
      at hgroup
    rw [hother groupId teamGroup hne] at hgroup
    cases hgroup
  · intro groupId hne device
    change ((((SortedMap.empty.insert "team" SortedMap.empty :
      SortedMap String (GroupStore KeyTerm)).get? groupId).getD _ :
        GroupStore KeyTerm).folder device).senderEventPubkey ≠ _
    rw [hother groupId _ hne]
    intro h
    cases h
  · intro groupId events hne hlisted
    change (SortedMap.empty.insert "team" SortedSet.empty :
      SortedMap String (SortedSet String)).get? groupId = _ at hlisted
    rw [hother groupId _ hne] at hlisted
    cases hlisted
  · intro key outers h
    cases h
  · intro groupId pendings h
    cases h
  · exact SortedMap.get?_insert_self _ _ _
  · exact List.mem_cons_self
  · intro p hp
    cases hp
  · intro device h
    cases h
  · intro event h
    cases h
  · intro h
    cases h
  · intro keyId state h
    cases h

theorem distributionOfFields_announced (keyId : Nat) (event : Char) :
    distributionOfFields [("groupId", .string "team"), ("keyId", .number (some keyId)),
      ("chainKey", .string (hexKey '1')), ("iteration", .number (some 0)),
      ("createdAt", .number (some 1)), ("senderEventPubkey", .string (hexKey event))] =
        some (announced keyId event) := by
  have hhex : isHex64 (hexKey '1') = true := isHex64_hexKey (by decide)
  simp [distributionOfFields, JsonValue.isString, JsonValue.isNatural, hhex, announced]

theorem announcedText_ne : announcedText 1 'e' ≠ announcedText 20 '9' ∧
    announcedText 1 'e' ≠ "h" ∧ announcedText 20 '9' ≠ "h" := by
  decide +kernel

theorem kind_distributionFrom (owner device : Char) (content : String) :
    (distributionFrom owner device content).event.kind = GROUP_SENDER_KEY_DISTRIBUTION_KIND := rfl

theorem truthy_hexKey (c : Char) : truthy (some (hexKey c)) = some (hexKey c) := by
  apply truthy_of_ne
  intro heq
  exact hexKey_ne_empty c (Option.some.inj heq)

theorem distributionOf_sender (owner device : Char) :
    GroupManager.distributionOf (K := KeyTerm) (T := TextTerm)
      (distributionFrom owner device (announcedText 1 'e')).event = some (announced 1 'e') := by
  obtain ⟨hforeign, hplain, -⟩ := announcedText_ne
  have hparsed : GroupCodec.jsonParse KeyTerm TextTerm
      (distributionFrom owner device (announcedText 1 'e')).event.content =
        some (announcedJson 1 'e') := by
    change parseText (announcedText 1 'e') = _
    rw [parseText, if_neg hplain, if_neg hforeign]
  rw [GroupManager.distributionOf, if_pos (kind_distributionFrom owner device _),
    parseSenderKeyDistribution, hparsed]
  exact distributionOfFields_announced 1 'e'

theorem distributionOf_foreign (owner device : Char) :
    GroupManager.distributionOf (K := KeyTerm) (T := TextTerm)
      (distributionFrom owner device (announcedText 20 '9')).event = some (announced 20 '9') := by
  obtain ⟨-, -, hplain⟩ := announcedText_ne
  have hparsed : GroupCodec.jsonParse KeyTerm TextTerm
      (distributionFrom owner device (announcedText 20 '9')).event.content =
        some (announcedJson 20 '9') := by
    change parseText (announcedText 20 '9') = _
    rw [parseText, if_neg hplain, if_pos rfl]
  rw [GroupManager.distributionOf, if_pos (kind_distributionFrom owner device _),
    parseSenderKeyDistribution, hparsed]
  exact distributionOfFields_announced 20 '9'

theorem sender_announces :
    sender.announcement (K := KeyTerm) (T := TextTerm)
      (distributionFrom 'a' 'd' (announcedText 1 'e')) = some (announced 1 'e') := by
  have hcontrol : OpenGroup.controlSender (distributionFrom 'a' 'd' (announcedText 1 'e')).event
      (distributionFrom 'a' 'd' (announcedText 1 'e')).fromSenderDevicePubkey =
        some (hexKey 'd') := by
    have hhex : isHex64 (hexKey 'd') = true := isHex64_hexKey (by decide)
    simp [OpenGroup.controlSender, distributionFrom, truthy_hexKey, hhex]
  rw [SenderIdentity.announcement, if_pos ⟨rfl, rfl, hcontrol⟩, distributionOf_sender]
  simp [announced, sender]

/-- The sender's distribution on the new group. -/
def announce : Except String (List GroupDecryptedEvent) × GroupManager KeyTerm :=
  teamManager.handleIncomingSessionEventForKnownGroup (T := TextTerm) "team" teamGroup
    (distributionFrom 'a' 'd' (announcedText 1 'e'))
    (GroupManager.distributionOf (K := KeyTerm) (T := TextTerm)
      (distributionFrom 'a' 'd' (announcedText 1 'e')).event)

def senderState : SenderKeyState KeyTerm :=
  NostrDoubleRatchet.SenderKeyState.new 1 (.secret 49) 0

set_option maxRecDepth 10000 in
theorem announce_ok : announce = (.ok [], announce.2) ∧
    (sender.viewIn announce.2).keys.get? 1 = some senderState ∧
    announce.2.seenOuterEventOrder = [] := by
  have hempty : announce.1.toOption.map List.isEmpty = some true ∧
      (sender.viewIn announce.2).keys.get? 1 = some senderState ∧
        announce.2.seenOuterEventOrder = [] := by decide +kernel
  generalize announce = outcome at hempty
  obtain ⟨result, next⟩ := outcome
  obtain ⟨hempty, hkeys, hseen⟩ := hempty
  cases result with
  | error e => cases hempty
  | ok events =>
      rw [List.isEmpty_iff.mp (Option.some.inj hempty)]
      exact ⟨rfl, hkeys, hseen⟩

theorem firstMessage_carries : sender.Carries firstMessage 1 0
    (KeyChain.messageKey deriveMessageKey (KeyTerm.secret 49) 0) (TextTerm.bytes "h") where
  author := rfl
  number_le := Nat.zero_le _
  message := by
    refine ⟨⟨1, 0, [49, 0, 104], false⟩, rfl, fun _ => ⟨rfl, rfl⟩, rfl, ?_⟩
    intro other opened hopen
    exact ((openText_sealed _ other (.secret 0) (.bytes "h") opened).mp hopen).2
  rumor := rfl

theorem foreign_respects : sender.RespectsSession (K := KeyTerm) (T := TextTerm)
    (distributionFrom 'c' 'f' (announcedText 20 '9')) where
  speaker := by
    simp [distributionFrom, truthy_hexKey, sender, hexKey_inj]
  distribution := by
    intro dist hdist hnames
    rw [distributionOf_foreign] at hdist
    cases hdist
    simp [announced, distributionFrom, sender, hexKey_inj] at hnames
  roster := by
    intro fact hfact
    cases hfact

/-- The sender's distribution, its first message, then a distribution of another member. -/
theorem sender_shown_as_itself :
    (∀ event ∈ (GroupManager.receiveAll (T := TextTerm) [.outer firstMessage,
        .session (distributionFrom 'c' 'f' (announcedText 20 '9'))] announce.2).1,
      event.senderEventPubkey = hexKey 'e' →
        event.groupId = "team" ∧ event.senderDevicePubkey = hexKey 'd') ∧
    ∃ k n, (announce.2.receive (T := TextTerm) (.outer firstMessage)).1 =
      [sender.decryptedEvent firstMessage k n
        (OpenGroup.readInner (K := KeyTerm) (T := TextTerm) "team" (hexKey 'd') 1 "h")] := by
  have hinputs : ∀ input ∈ [GroupInput.outer firstMessage,
      .session (distributionFrom 'c' 'f' (announcedText 20 '9'))],
      sender.Respects (K := KeyTerm) (T := TextTerm) input := by
    simp only [List.forall_mem_cons]
    exact ⟨trivial, foreign_respects, fun input hmem => by cases hmem⟩
  obtain ⟨hfirst, hkeys, hseen⟩ := announce_ok
  have hunseen : firstMessage.id ∉ announce.2.seenOuterEventOrder := by
    rw [hseen]
    exact List.not_mem_nil
  obtain ⟨hattributed, hdelivered, -, -⟩ := SenderIdentity.sender_keeps_its_key (T := TextTerm)
    sender_valid sender_unclaimed sender_announces hfirst hinputs
  have hshown := hdelivered [] [] firstMessage _ 1 0
    (KeyChain.messageKey deriveMessageKey (KeyTerm.secret 49) 0) (.bytes "h") senderState
    senderState rfl
  simp only [List.append_nil, GroupManager.receiveAll] at hshown
  rw [List.nil_append] at hattributed
  exact ⟨hattributed, hshown hkeys rfl firstMessage_carries hkeys ⟨by decide, by decide⟩ hunseen⟩

set_option maxRecDepth 10000 in
/-- Another member sends a copy of the sender's distribution: the sender's next message is shown
as that member's. -/
theorem copied_distribution_takes_key_over :
    sender.announcement (K := KeyTerm) (T := TextTerm)
        (distributionFrom 'a' 'd' (announcedText 1 'e')) = some (announced 1 'e') ∧
      (GroupManager.receiveAll (T := TextTerm)
        [.session (distributionFrom 'a' 'd' (announcedText 1 'e')), .outer firstMessage]
        teamManager).1.map (·.senderDevicePubkey) = [hexKey 'd'] ∧
      (GroupManager.receiveAll (T := TextTerm)
        [.session (distributionFrom 'a' 'd' (announcedText 1 'e')),
          .session (distributionFrom 'c' 'f' (announcedText 1 'e')), .outer firstMessage]
        teamManager).1.map (·.senderDevicePubkey) = [hexKey 'f'] := by
  refine ⟨sender_announces, ?_⟩
  decide +kernel

end Symbolic

end NostrDoubleRatchet.TypeScript
