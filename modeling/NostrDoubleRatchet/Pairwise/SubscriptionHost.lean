import NostrDoubleRatchet.Pairwise.Subscription
import NostrDoubleRatchet.Pairwise.SymbolicManager

/-!
The host that carries out the journal of a pairwise manager. It carries out what it fetched
in order and acknowledges an action on the subscription only after that; a new host starts
with no subscription. So with nothing left in the journal the host is subscribed to exactly
the authors of the state.
-/

namespace NostrDoubleRatchet

set_option linter.unusedSectionVars false

/-- A manager with the host that carries out its journal. The host keeps the subscription
actions it was shown and has not carried out, and those it has carried out since `open`.
The committed journal and all actions it ever held are recorded for the specification only. -/
structure SubscribedHost (K T J P : Type) [LinearOrder K] where
  manager : Option (PairwiseManager K T J)
  world : PairwiseWorld K P
  fetched : List (PairwiseAction K T J)
  executed : List (PairwiseAction K T J)
  journal : List (PairwiseAction K T J)
  known : List (PairwiseAction K T J)

inductive HostStep (K T : Type) where
  | opened (limits : RuntimeLimits) (now : UnixSeconds)
  | dropped
  | performed (op : PairwiseOp K T)
  | executed
  | forgot

section

variable {K T J P : Type} [LinearOrder K] [DecidableEq T] [DecidableEq J] [Primitives K T]
  [InvitePrimitives K T] [PairwiseCodec.RumorPrimitives K T] [EventCodec K T J]
  [StateSeal K T J P]

open Program PairwiseM PairwiseManager

namespace SubscribedHost

/-- An identity's store before its first use. -/
def initial (world : PairwiseWorld K P) : SubscribedHost K T J P where
  manager := none
  world := { world with store := StoredValue.empty }
  fetched := []
  executed := []
  journal := []
  known := []

/-- The host acknowledges a subscription action only after it has carried it out. -/
def mayPerform (host : SubscribedHost K T J P) (manager : PairwiseManager K T J) :
    PairwiseOp K T → Bool
  | .ackActions actionIds => manager.state.subscriptionActions.all (fun action =>
      action.id ∉ actionIds || action ∈ host.executed)
  | _ => true

/-- The subscription actions an output shows. -/
def shownActions (subscriptionId : String) :
    Except (PairwiseError K) (PairwiseOutput K T J) → List (PairwiseAction K T J)
  | .ok (.actions pending) => pending.filter (fun action =>
      isSubscriptionAction subscriptionId action.kind)
  | _ => []

/-- The host with another manager and world. -/
def withManager (host : SubscribedHost K T J P) (manager : PairwiseManager K T J)
    (world : PairwiseWorld K P) : SubscribedHost K T J P :=
  { host with
    manager := some manager
    world := world
    journal := manager.state.pendingActions
    known := host.known ++ manager.state.pendingActions }

/-- The host after a crash: it has no manager and no subscription. -/
def restarted (host : SubscribedHost K T J P) : SubscribedHost K T J P :=
  { host with
    manager := none
    fetched := []
    executed := [] }

def step (identityKeys : K) (host : SubscribedHost K T J P) :
    HostStep K T → SubscribedHost K T J P
  | .opened limits now =>
      match openManager identityKeys limits now host.world with
      | (.error _, world) => { host.restarted with world := world }
      | (.ok manager, world) => host.restarted.withManager manager world
  | .dropped => host.restarted
  | .performed op =>
      match host.manager with
      | none => host
      | some manager =>
          if host.mayPerform manager op then
            let (result, cell') := exec (op.run : PairwiseM K T J P (PairwiseOutput K T J))
              ⟨manager, host.world⟩
            { host.withManager cell'.manager cell'.world with
              fetched := host.fetched ++
                shownActions cell'.manager.state.messageSubscriptionId result }
          else host
  | .executed =>
      match host.fetched with
      | [] => host
      | action :: rest => { host with fetched := rest, executed := host.executed ++ [action] }
  | .forgot => { host with fetched := [] }

/-- New actions get new identifiers: an action whose id is known is one that was pending. -/
def FreshIds (host next : SubscribedHost K T J P) : Prop :=
  ∀ action ∈ next.journal, (∃ other ∈ host.known, other.id = action.id) → action ∈ host.journal

/-- Every host a run of openings, crashes, operations and executed actions can reach. -/
inductive Reachable (identityKeys : K) : SubscribedHost K T J P → Prop
  | initial (world : PairwiseWorld K P) : Reachable identityKeys (SubscribedHost.initial world)
  | step {host : SubscribedHost K T J P} (h : Reachable identityKeys host) (next : HostStep K T)
      (hfresh : host.FreshIds (host.step identityKeys next)) :
      Reachable identityKeys (host.step identityKeys next)

/-! The host and the journal agree. -/

/-- The last action the host has carried out describes the authors; without one, it is
subscribed to nobody. -/
def Subscribed (subscriptionId : String) (authors : List K)
    (executed : List (PairwiseAction K T J)) : Prop :=
  match executed.getLast? with
  | none => authors = []
  | some last => last.kind.Describes subscriptionId authors

/-- What the host has carried out, and what it still will, fits the pending actions: with
none pending, its last one describes the authors; with one pending, that one comes last. -/
def Agrees (subscriptionId : String) (authors : List K)
    (fetched executed : List (PairwiseAction K T J)) : List (PairwiseAction K T J) → Prop
  | [] => Subscribed subscriptionId authors executed ∧
      ∀ action ∈ fetched, executed.getLast? = some action
  | [pending] => ∃ older copies, fetched = older ++ List.replicate copies pending ∧
      pending ∉ older ∧ (pending ∈ executed → older = [] ∧ executed.getLast? = some pending)
  | _ => False

/-- The manager's journal is tidy, it has installed its authors, and the host agrees. -/
structure InStep (identityKeys : K) (host : SubscribedHost K T J P)
    (manager : PairwiseManager K T J) : Prop where
  keys : manager.identityKeys = identityKeys
  stored : Stored identityKeys host.world.store manager.state
  tidy : manager.state.Tidy
  installed : manager.installedMessageAuthors = manager.state.authorSet.toList
  bounded : manager.state.authorSet.length ≤ manager.limits.maxSubscriptionAuthors
  agrees : Agrees manager.state.messageSubscriptionId manager.state.authorSet.toList host.fetched
    host.executed manager.state.subscriptionActions

structure Invariant (identityKeys : K) (host : SubscribedHost K T J P) : Prop where
  store : host.world.store = StoredValue.empty ∧ host.manager = none ∨
    ∃ last, Stored identityKeys host.world.store last ∧ last.Tidy ∧
      host.journal = last.pendingActions
  manager : ∀ manager, host.manager = some manager → InStep identityKeys host manager
  fetchedKnown : ∀ action ∈ host.fetched, action ∈ host.known
  executedKnown : ∀ action ∈ host.executed, action ∈ host.known
  journalKnown : ∀ action ∈ host.journal, action ∈ host.known

namespace Agrees

variable {subscriptionId : String} {authors : List K}
  {fetched executed subs : List (PairwiseAction K T J)} {action : PairwiseAction K T J}

/-- A host that starts has carried out nothing. -/
theorem restarted (hone : subs.length ≤ 1) (hnone : subs = [] → authors = []) :
    Agrees subscriptionId authors [] [] subs := by
  match subs with
  | [] => exact ⟨hnone rfl, nofun⟩
  | [pending] => exact ⟨[], 0, rfl, nofun, nofun⟩
  | _ :: _ :: _ => simp at hone

/-- Carrying out the next action. -/
theorem execute (h : Agrees subscriptionId authors (action :: fetched) executed subs) :
    Agrees subscriptionId authors fetched (executed ++ [action]) subs := by
  match subs with
  | [] =>
      obtain ⟨hlast, hfetched⟩ := h
      have haction := hfetched action List.mem_cons_self
      rw [Subscribed, haction] at hlast
      refine ⟨?_, ?_⟩
      · rw [Subscribed, List.getLast?_concat]
        exact hlast
      · intro other hother
        rw [List.getLast?_concat, ← hfetched other (List.mem_cons_of_mem _ hother), haction]
  | [pending] =>
      obtain ⟨older, copies, hfetched, hnew, hdone⟩ := h
      cases older with
      | nil =>
          cases copies with
          | zero => cases hfetched
          | succ copies =>
              obtain ⟨rfl, rfl⟩ := List.cons.inj hfetched
              refine ⟨[], copies, rfl, nofun, fun _ => ⟨rfl, ?_⟩⟩
              exact List.getLast?_concat
      | cons first rest =>
          obtain ⟨rfl, rfl⟩ := List.cons.inj hfetched
          refine ⟨rest, copies, rfl, fun hmem => hnew (List.mem_cons_of_mem _ hmem), ?_⟩
          intro hmem
          rcases List.mem_append.mp hmem with hbefore | hsame
          · exact absurd (hdone hbefore).1 (List.cons_ne_nil _ _)
          · exact absurd (List.mem_singleton.mp hsame ▸ List.mem_cons_self) hnew
  | _ :: _ :: _ => exact h.elim

theorem forget (h : Agrees subscriptionId authors fetched executed subs) :
    Agrees subscriptionId authors [] executed subs := by
  match subs with
  | [] => exact ⟨h.1, nofun⟩
  | [pending] =>
      obtain ⟨older, copies, -, -, hdone⟩ := h
      exact ⟨[], 0, rfl, nofun, fun hmem => ⟨rfl, (hdone hmem).2⟩⟩
  | _ :: _ :: _ => exact h.elim

/-- The host is shown the pending actions once more. -/
theorem fetch (h : Agrees subscriptionId authors fetched executed subs) :
    Agrees subscriptionId authors (fetched ++ subs) executed subs := by
  match subs with
  | [] =>
      rw [List.append_nil]
      exact h
  | [pending] =>
      obtain ⟨older, copies, rfl, hnew, hdone⟩ := h
      refine ⟨older, copies + 1, ?_, hnew, hdone⟩
      rw [List.append_assoc, List.replicate_succ']
  | _ :: _ :: _ => exact h.elim

/-- Acknowledging actions that were carried out. -/
theorem ack (h : Agrees subscriptionId authors fetched executed subs)
    (hdescribes : ∀ action ∈ subs, action.kind.Describes subscriptionId authors)
    (keep : PairwiseAction K T J → Bool)
    (hdone : ∀ action ∈ subs, keep action = false → action ∈ executed) :
    Agrees subscriptionId authors fetched executed (subs.filter keep) := by
  match subs with
  | [] => exact h
  | [pending] =>
      cases hkeep : keep pending with
      | true =>
          rw [List.filter_cons_of_pos hkeep]
          exact h
      | false =>
          obtain ⟨older, copies, rfl, -, hcarried⟩ := h
          obtain ⟨rfl, hlast⟩ := hcarried (hdone pending List.mem_cons_self hkeep)
          rw [List.filter_cons_of_neg (by simp [hkeep])]
          refine ⟨?_, ?_⟩
          · rw [Subscribed, hlast]
            exact hdescribes pending List.mem_cons_self
          · intro action haction
            rw [List.nil_append, List.mem_replicate] at haction
            rw [hlast, haction.2]
  | _ :: _ :: _ => exact h.elim

/-- A new action is pending. -/
theorem renew (hfetched : action ∉ fetched) (hexecuted : action ∉ executed) :
    Agrees subscriptionId authors fetched executed [action] :=
  ⟨fetched, 0, by simp, hfetched, fun hmem => absurd hmem hexecuted⟩

end Agrees

/-- A committed change keeps the journal tidy and the host in agreement with it. -/
private theorem effect_agrees {identityKeys : K} {host : SubscribedHost K T J P}
    {manager : PairwiseManager K T J} {op : PairwiseOp K T} {next : PairwiseState K T J}
    {authors : List K} (h : InStep identityKeys host manager)
    (hmay : host.mayPerform manager op = true)
    (heffect : SubscriptionEffect manager op next authors)
    (hfetched : ∀ action ∈ host.fetched, action ∈ host.known)
    (hexecuted : ∀ action ∈ host.executed, action ∈ host.known)
    (hfresh : ∀ action ∈ next.pendingActions, (∃ other ∈ host.known, other.id = action.id) →
      action ∈ manager.state.pendingActions) :
    next.Tidy ∧ authors = next.authorSet.toList ∧
      next.authorSet.length ≤ manager.limits.maxSubscriptionAuthors ∧
      Agrees next.messageSubscriptionId next.authorSet.toList host.fetched host.executed
        next.subscriptionActions := by
  cases heffect with
  | kept hsame hauthors =>
      refine ⟨⟨?_, ?_⟩, ?_, ?_, ?_⟩
      · rw [hsame.actions]
        exact h.tidy.once
      · rw [hsame.actions, hsame.id, hauthors]
        exact h.tidy.describes
      · rw [hauthors]
        exact h.installed
      · rw [hauthors]
        exact h.bounded
      · rw [hsame.actions, hsame.id, hauthors]
        exact h.agrees
  | @acked actionIds hop =>
      subst hop
      have hsubs : ({ manager.state with
          pendingActions := manager.state.pendingActions.filter (fun action =>
            action.id ∉ actionIds) } : PairwiseState K T J).subscriptionActions =
          manager.state.subscriptionActions.filter (fun action => action.id ∉ actionIds) := by
        unfold PairwiseState.subscriptionActions
        dsimp only
        rw [List.filter_comm]
      refine ⟨⟨?_, ?_⟩, h.installed, h.bounded, ?_⟩
      · rw [hsubs]
        exact (List.length_filter_le _ _).trans h.tidy.once
      · rw [hsubs]
        intro action haction
        exact h.tidy.describes action (List.mem_of_mem_filter haction)
      · rw [hsubs]
        refine h.agrees.ack h.tidy.describes _ ?_
        intro action haction hacked
        have hguard := List.all_eq_true.mp hmay action haction
        simpa [of_decide_eq_false hacked] using hguard
  | @refreshed base next authors hsame hrefresh =>
      obtain ⟨rfl, hbounded⟩ := messageAuthors_ok hrefresh.authors_eq
      have hset : next.authorSet = base.authorSet :=
        PairwiseState.authorSet_congr hrefresh.peers_eq
      have hid : next.messageSubscriptionId = manager.state.messageSubscriptionId :=
        hrefresh.subscriptionId_eq.trans hsame.id
      have hdescribes : ∀ action ∈ base.subscriptionActions,
          action.kind.Describes base.messageSubscriptionId manager.installedMessageAuthors := by
        rw [hsame.actions, hsame.id, h.installed]
        exact h.tidy.describes
      rcases hrefresh.of_installed hdescribes with ⟨hkept, hinstalled⟩ | ⟨action, hnew, hkind⟩
      · rw [h.installed] at hinstalled
        have hsubs := hkept.trans hsame.actions
        refine ⟨⟨?_, ?_⟩, by rw [hset], by rw [hset]; exact hbounded, ?_⟩
        · rw [hsubs]
          exact h.tidy.once
        · rw [hsubs, hid, hset, hinstalled]
          exact h.tidy.describes
        · rw [hsubs, hid, hset, hinstalled]
          exact h.agrees
      · have htidy : next.Tidy := by
          refine ⟨?_, ?_⟩
          · rw [hnew]
            exact Nat.le_refl 1
          · intro found hfound
            rw [hnew, List.mem_singleton] at hfound
            rw [hfound, hset, hrefresh.subscriptionId_eq]
            exact hkind
        refine ⟨htidy, by rw [hset], by rw [hset]; exact hbounded, ?_⟩
        rw [hnew]
        have hmem : action ∈ next.subscriptionActions := by
          rw [hnew]
          exact List.mem_singleton.mpr rfl
        by_cases hknown : ∃ other ∈ host.known, other.id = action.id
        · -- The id is not new, so this is the action that was pending all along.
          have hwas : action ∈ manager.state.subscriptionActions := by
            refine List.mem_filter.mpr ⟨hfresh action (List.mem_of_mem_filter hmem) hknown, ?_⟩
            rw [← hid]
            exact (List.mem_filter.mp hmem).2
          have hsubs : manager.state.subscriptionActions = [action] := by
            have hone := h.tidy.once
            match hlist : manager.state.subscriptionActions with
            | [] =>
                rw [hlist] at hwas
                cases hwas
            | [pending] =>
                rw [hlist, List.mem_singleton] at hwas
                rw [hwas]
            | _ :: _ :: _ =>
                rw [hlist] at hone
                simp at hone
          have hagrees := h.agrees
          rw [hsubs] at hagrees
          exact hagrees
        · refine Agrees.renew ?_ ?_
          · intro hmem'
            exact hknown ⟨action, hfetched action hmem', rfl⟩
          · intro hmem'
            exact hknown ⟨action, hexecuted action hmem', rfl⟩

/-! Operations. -/

section

variable {identityKeys : K} {host : SubscribedHost K T J P}

private theorem isExposed_subscription {subscriptionId : String}
    {kind : PairwiseActionKind K T J} (h : isSubscriptionAction subscriptionId kind = true) :
    isExposed kind = true := by
  cases kind with
  | publish sessionId eventJson innerEventId => cases h
  | outOfBand peer sessionId eventJson => cases h
  | subscribe pending filter => rfl
  | unsubscribe pending => rfl
  | delivery peer innerEventJson innerEventId outerEventId expiresAt => rfl

/-- An output shows the pending subscription actions or none. -/
private theorem shownActions_run {op : PairwiseOp K T} {cell cell' : PairwiseCell K T J P}
    {result : Except (PairwiseError K) (PairwiseOutput K T J)}
    (hrun : exec op.run cell = (result, cell')) :
    shownActions cell'.manager.state.messageSubscriptionId result = [] ∨
    shownActions cell'.manager.state.messageSubscriptionId result =
      cell'.manager.state.subscriptionActions := by
  match result with
  | .error error => exact Or.inl rfl
  | .ok (.accepted accepted) => exact Or.inl rfl
  | .ok (.sent sent) => exact Or.inl rfl
  | .ok (.retired known) => exact Or.inl rfl
  | .ok .done => exact Or.inl rfl
  | .ok (.actions pending) =>
      refine Or.inr ?_
      rw [shownActions, op.run_actions hrun, PairwiseState.subscriptionActions,
        List.filter_filter]
      refine List.filter_congr fun action _ => ?_
      cases hsub : isSubscriptionAction cell'.manager.state.messageSubscriptionId action.kind with
      | false => rfl
      | true => exact isExposed_subscription hsub

private theorem agrees_shown {subscriptionId : String} {authors : List K}
    {fetched executed subs shown : List (PairwiseAction K T J)}
    (h : Agrees subscriptionId authors fetched executed subs) (hshown : shown = [] ∨ shown = subs) :
    Agrees subscriptionId authors (fetched ++ shown) executed subs := by
  rcases hshown with rfl | rfl
  · rw [List.append_nil]
    exact h
  · exact h.fetch

/-- What a performed operation leaves its manager and its host with. -/
private theorem performed_inStep (hlaws : StorageLaws K T J P) (hinv : Invariant identityKeys host)
    {manager : PairwiseManager K T J} (hmanager : host.manager = some manager)
    {op : PairwiseOp K T} (hmay : host.mayPerform manager op = true)
    {cell' : PairwiseCell K T J P} (hsettled : PairwiseCell.Settled op ⟨manager, host.world⟩ cell')
    (hfresh : ∀ action ∈ cell'.manager.state.pendingActions,
      (∃ other ∈ host.known, other.id = action.id) → action ∈ host.journal) :
    InStep identityKeys { host with manager := some cell'.manager, world := cell'.world }
      cell'.manager := by
  have h := hinv.manager manager hmanager
  rcases hsettled with huntouched | ⟨next, authors, hchange, hcommitted⟩
  · obtain ⟨hkeys, hstored, htidy, hinstalled, hbounded, hagrees⟩ := h
    refine ⟨?_, ?_, ?_, ?_, ?_, ?_⟩
    · rw [huntouched.manager]
      exact hkeys
    · dsimp only
      rw [huntouched.manager, huntouched.store]
      exact hstored
    · rw [huntouched.manager]
      exact htidy
    · rw [huntouched.manager]
      exact hinstalled
    · rw [huntouched.manager]
      exact hbounded
    · rw [huntouched.manager]
      exact hagrees
  · have hjournal : host.journal = manager.state.pendingActions := by
      rcases hinv.store with ⟨-, hnone⟩ | ⟨last, hlast, -, hpending⟩
      · rw [hmanager] at hnone
        cases hnone
      · rw [hpending, Stored.unique hlast h.stored]
    have hstate : cell'.manager.state = manager.successor next := by
      rw [hcommitted.manager]
    have hnew : ∀ action ∈ next.pendingActions, (∃ other ∈ host.known, other.id = action.id) →
        action ∈ manager.state.pendingActions := by
      intro action haction hknown
      rw [← hjournal]
      refine hfresh action ?_ hknown
      rw [hstate]
      exact haction
    obtain ⟨htidy, hauthors, hbounded, hagrees⟩ := effect_agrees h hmay
      hchange.subscriptionEffect hinv.fetchedKnown hinv.executedKnown hnew
    have hversion : next.localInvite.metadataPrivacyVersion = METADATA_PRIVACY_VERSION :=
      hchange.version.trans h.stored.current
    refine ⟨?_, ?_, ?_, ?_, ?_, ?_⟩
    · rw [hcommitted.manager]
      exact h.keys
    · rw [hstate, ← h.keys]
      exact hcommitted.isStored hlaws hversion
    · rw [hstate]
      exact ⟨htidy.once, htidy.describes⟩
    · rw [hcommitted.manager]
      exact hauthors
    · rw [hcommitted.manager]
      exact hbounded
    · rw [hstate]
      exact hagrees

/-! Opening. -/

/-- The host that opens a store with a tidy journal. -/
private theorem restored_inStep (hlaws : StorageLaws K T J P) {last : PairwiseState K T J}
    {limits : RuntimeLimits} {manager : PairwiseManager K T J} {world : PairwiseWorld K P}
    {store : StoredValue P} (hlast : Stored identityKeys store last) (htidy : last.Tidy)
    (h : Restored identityKeys limits store last manager world.store) :
    InStep identityKeys (host.restarted.withManager manager world) manager := by
  obtain ⟨-, -, next, authors, hrefresh, hend⟩ := h
  obtain ⟨rfl, hbounded⟩ := messageAuthors_ok hrefresh.authors_eq
  have hset : next.authorSet = last.authorSet := PairwiseState.authorSet_congr hrefresh.peers_eq
  have hid := hrefresh.subscriptionId_eq
  -- Nothing is installed yet, so a journal without actions means no authors.
  have hfits : next.Tidy ∧ (next.subscriptionActions = [] → last.authorSet.toList = []) := by
    rcases hrefresh.subscriptionActions with ⟨rfl, ⟨-, hforce⟩ | ⟨-, action, haction, -⟩⟩ |
      ⟨hnone, hauthors, -, -⟩ | ⟨action, hone, hkind⟩
    · cases hforce
    · refine ⟨htidy, fun hnone => ?_⟩
      rw [hnone] at haction
      cases haction
    · refine ⟨⟨?_, ?_⟩, fun _ => hauthors⟩
      · rw [hnone]
        exact Nat.zero_le 1
      · rw [hnone]
        exact nofun
    · refine ⟨⟨?_, ?_⟩, fun hnone => ?_⟩
      · rw [hone]
        exact Nat.le_refl 1
      · intro found hfound
        rw [hone, List.mem_singleton] at hfound
        rw [hfound, hset, hid]
        exact hkind
      · rw [hone] at hnone
        cases hnone
  obtain ⟨hnextTidy, hnone⟩ := hfits
  rw [← hset] at hnone hbounded
  rcases hend with ⟨rfl, hstore, rfl⟩ | ⟨cell, cell', hcell, hworld, hcommitted, rfl, hstore⟩
  · refine ⟨rfl, ?_, hnextTidy, rfl, hbounded, Agrees.restarted hnextTidy.once hnone⟩
    change Stored identityKeys world.store _
    rw [hstore]
    exact hlast
  · have hstate : cell'.manager.state = cell.manager.successor next := by
      rw [hcommitted.manager]
    have hversion : next.localInvite.metadataPrivacyVersion = METADATA_PRIVACY_VERSION := by
      rw [hrefresh.localInvite_eq]
      exact hlast.current
    have hstored := hcommitted.isStored hlaws hversion
    rw [hstore, ← hstate] at hstored
    refine ⟨?_, ?_, ?_, ?_, ?_, ?_⟩
    · rw [hcommitted.manager, hcell]
    · change Stored identityKeys world.store _
      rw [hcell] at hstored
      exact hstored
    · rw [hstate]
      exact ⟨hnextTidy.once, hnextTidy.describes⟩
    · rw [hcommitted.manager]
      exact congrArg SortedSet.toList hset.symm
    · rw [hcommitted.manager, hcell]
      exact hbounded
    · rw [hstate]
      exact Agrees.restarted hnextTidy.once hnone

/-- The host of a new identity. -/
private theorem fresh_inStep (hlaws : StorageLaws K T J P) {base : PairwiseState K T J}
    {limits : RuntimeLimits} {now : UnixSeconds} {cell cell' : PairwiseCell K T J P}
    {world : PairwiseWorld K P} (hfresh : IsFresh identityKeys now base)
    (hcell : cell.manager = ⟨identityKeys, base, limits, []⟩)
    (hcommitted : cell.Committed base [] cell') (hstore : cell'.world.store = world.store) :
    InStep identityKeys (host.restarted.withManager cell'.manager world) cell'.manager := by
  have hstate : cell'.manager.state = cell.manager.successor base := by
    rw [hcommitted.manager]
  have hsubs : cell'.manager.state.subscriptionActions = [] := by
    rw [hstate]
    refine List.filter_eq_nil_iff.mpr fun action haction => ?_
    have hpending : action ∈ base.pendingActions := haction
    rw [hfresh.pendingActions] at hpending
    cases hpending
  have hauthors : cell'.manager.state.authorSet = SortedSet.empty := by
    rw [hstate]
    unfold PairwiseState.authorSet PairwiseManager.successor
    dsimp only
    rw [hfresh.peers]
    rfl
  have hstored := hcommitted.isStored hlaws hfresh.version
  rw [hstore, ← hstate, hcell] at hstored
  refine ⟨?_, hstored, ⟨?_, ?_⟩, ?_, ?_, ?_⟩
  · rw [hcommitted.manager, hcell]
  · rw [hsubs]
    exact Nat.zero_le 1
  · rw [hsubs]
    exact nofun
  · rw [hauthors, hcommitted.manager]
    rfl
  · rw [hauthors]
    exact Nat.zero_le _
  · rw [hsubs]
    refine Agrees.restarted (Nat.zero_le 1) fun _ => ?_
    rw [hauthors]
    rfl

/-- A host without a manager keeps what the store and the records say. -/
private theorem Invariant.restarted (hinv : Invariant identityKeys host)
    {world : PairwiseWorld K P} (hstore : world.store = host.world.store) :
    Invariant identityKeys { host.restarted with world := world } where
  store := by
    rcases hinv.store with ⟨hempty, -⟩ | ⟨last, hlast, htidy, hjournal⟩
    · exact Or.inl ⟨hstore.trans hempty, rfl⟩
    · refine Or.inr ⟨last, ?_, htidy, hjournal⟩
      dsimp only
      rw [hstore]
      exact hlast
  manager manager hmanager := by cases hmanager
  fetchedKnown action haction := by cases haction
  executedKnown action haction := by cases haction
  journalKnown := hinv.journalKnown

/-- A host that has just opened its manager. -/
private theorem Invariant.opened {manager : PairwiseManager K T J} {world : PairwiseWorld K P}
    (h : InStep identityKeys (host.restarted.withManager manager world) manager) :
    Invariant identityKeys (host.restarted.withManager manager world) where
  store := Or.inr ⟨manager.state, h.stored, h.tidy, rfl⟩
  manager found hfound := by
    cases hfound
    exact h
  fetchedKnown action haction := by cases haction
  executedKnown action haction := by cases haction
  journalKnown action haction := List.mem_append_right _ haction

private theorem Invariant.step_opened (hlaws : StorageLaws K T J P)
    (hinv : Invariant identityKeys host) (limits : RuntimeLimits) (now : UnixSeconds) :
    Invariant identityKeys (host.step identityKeys (.opened limits now)) := by
  rcases hopen : openManager (T := T) (J := J) identityKeys limits now host.world with
    ⟨error | manager, world⟩
  · have hstore : world.store = host.world.store := by
      rcases hinv.store with ⟨hempty, -⟩ | ⟨last, hlast, -, -⟩
      · exact openManager_empty_error hlaws (by rw [hempty]; rfl) hopen
      · exact openManager_stored_error hlast hopen
    have hstep : host.step identityKeys (.opened limits now) =
        { host.restarted with world := world } := by
      rw [SubscribedHost.step, hopen]
    rw [hstep]
    exact hinv.restarted hstore
  · have hstep : host.step identityKeys (.opened limits now) =
        host.restarted.withManager manager world := by
      rw [SubscribedHost.step, hopen]
    rw [hstep]
    refine Invariant.opened ?_
    rcases hinv.store with ⟨hempty, -⟩ | ⟨last, hlast, htidy, -⟩
    · obtain ⟨-, base, cell, cell', hfresh, hcell, -, hcommitted, rfl, hstore⟩ :=
        openManager_fresh (by rw [hempty]; rfl) hopen
      exact fresh_inStep hlaws hfresh hcell hcommitted hstore
    · exact restored_inStep hlaws hlast htidy (openManager_restored hlast hopen)

private theorem Invariant.step_performed (hlaws : StorageLaws K T J P)
    (hinv : Invariant identityKeys host) (op : PairwiseOp K T)
    (hfresh : host.FreshIds (host.step identityKeys (.performed op))) :
    Invariant identityKeys (host.step identityKeys (.performed op)) := by
  cases hmanager : host.manager with
  | none =>
      have hstep : host.step identityKeys (.performed op) = host := by
        rw [SubscribedHost.step, hmanager]
      rw [hstep]
      exact hinv
  | some manager =>
      cases hmay : host.mayPerform manager op with
      | false =>
          have hstep : host.step identityKeys (.performed op) = host := by
            rw [SubscribedHost.step, hmanager]
            dsimp only
            rw [hmay]
            rfl
          rw [hstep]
          exact hinv
      | true =>
          rcases hrun : exec (op.run : PairwiseM K T J P (PairwiseOutput K T J))
            ⟨manager, host.world⟩ with ⟨result, cell'⟩
          have hstep : host.step identityKeys (.performed op) =
              { host.withManager cell'.manager cell'.world with
                fetched := host.fetched ++
                  shownActions cell'.manager.state.messageSubscriptionId result } := by
            rw [SubscribedHost.step, hmanager]
            dsimp only
            rw [hmay, hrun]
            rfl
          rw [hstep] at hfresh ⊢
          have hsettled := op.run_settled
            (⟨manager, host.world⟩ : PairwiseCell K T J P)
          rw [hrun] at hsettled
          obtain ⟨hkeys, hstored, htidy, hinstalled, hbounded, hagrees⟩ :=
            performed_inStep hlaws hinv hmanager hmay hsettled hfresh
          have hshown := shownActions_run hrun
          refine ⟨Or.inr ⟨cell'.manager.state, hstored, htidy, rfl⟩, ?_, ?_, ?_, ?_⟩
          · intro found hfound
            cases hfound
            exact ⟨hkeys, hstored, htidy, hinstalled, hbounded, agrees_shown hagrees hshown⟩
          · intro action haction
            rcases List.mem_append.mp haction with hold | hnew
            · exact List.mem_append_left _ (hinv.fetchedKnown action hold)
            · refine List.mem_append_right _ ?_
              rcases hshown with hnone | hsubs
              · rw [hnone] at hnew
                cases hnew
              · rw [hsubs] at hnew
                exact List.mem_of_mem_filter hnew
          · intro action haction
            exact List.mem_append_left _ (hinv.executedKnown action haction)
          · intro action haction
            exact List.mem_append_right _ haction

private theorem Invariant.step_executed (hinv : Invariant identityKeys host) :
    Invariant identityKeys (host.step identityKeys (.executed : HostStep K T)) := by
  cases hfetched : host.fetched with
  | nil =>
      have hstep : host.step identityKeys (.executed : HostStep K T) = host := by
        rw [SubscribedHost.step, hfetched]
      rw [hstep]
      exact hinv
  | cons action rest =>
      have hstep : host.step identityKeys (.executed : HostStep K T) =
          { host with fetched := rest, executed := host.executed ++ [action] } := by
        rw [SubscribedHost.step, hfetched]
      have hknown := hinv.fetchedKnown
      rw [hfetched] at hknown
      rw [hstep]
      refine ⟨hinv.store, ?_, ?_, ?_, hinv.journalKnown⟩
      · intro manager hmanager
        obtain ⟨hkeys, hstored, htidy, hinstalled, hbounded, hagrees⟩ :=
          hinv.manager manager hmanager
        rw [hfetched] at hagrees
        exact ⟨hkeys, hstored, htidy, hinstalled, hbounded, hagrees.execute⟩
      · intro found hfound
        exact hknown found (List.mem_cons_of_mem _ hfound)
      · intro found hfound
        rcases List.mem_append.mp hfound with hold | hnew
        · exact hinv.executedKnown found hold
        · rw [List.mem_singleton.mp hnew]
          exact hknown action List.mem_cons_self

theorem Invariant.step (hlaws : StorageLaws K T J P) (hinv : Invariant identityKeys host)
    (next : HostStep K T) (hfresh : host.FreshIds (host.step identityKeys next)) :
    Invariant identityKeys (host.step identityKeys next) := by
  cases next with
  | opened limits now => exact hinv.step_opened hlaws limits now
  | dropped => exact hinv.restarted rfl
  | performed op => exact hinv.step_performed hlaws op hfresh
  | executed => exact hinv.step_executed
  | forgot =>
      refine ⟨hinv.store, ?_, nofun, hinv.executedKnown, hinv.journalKnown⟩
      intro manager hmanager
      obtain ⟨hkeys, hstored, htidy, hinstalled, hbounded, hagrees⟩ :=
        hinv.manager manager hmanager
      exact ⟨hkeys, hstored, htidy, hinstalled, hbounded, hagrees.forget⟩

theorem Reachable.invariant (hlaws : StorageLaws K T J P) (h : Reachable identityKeys host) :
    Invariant identityKeys host := by
  induction h with
  | initial world => exact ⟨Or.inl ⟨rfl, rfl⟩, nofun, nofun, nofun, nofun⟩
  | step h next hfresh ih => exact ih.step hlaws next hfresh

/-- Whatever the host and its manager do: at most one action on the message subscription is
pending, it describes the authors of the state, and when none is pending the last one the
host has carried out since `open` does, or there are no authors and it carried out none. -/
theorem subscription_journal_is_complete (hlaws : StorageLaws K T J P)
    (h : Reachable identityKeys host) {manager : PairwiseManager K T J}
    (hmanager : host.manager = some manager) :
    ∃ authors, messageAuthors manager.state manager.limits = .ok authors ∧
      manager.state.subscriptionActions.length ≤ 1 ∧
      (∀ action ∈ manager.state.subscriptionActions,
        action.kind.Describes manager.state.messageSubscriptionId authors) ∧
      (manager.state.subscriptionActions = [] →
        Subscribed manager.state.messageSubscriptionId authors host.executed) := by
  have hstep := (h.invariant hlaws).manager manager hmanager
  refine ⟨manager.state.authorSet.toList, ?_, hstep.tidy.once, hstep.tidy.describes, ?_⟩
  · rw [messageAuthors_eq, if_pos hstep.bounded]
  · intro hnone
    have hagrees := hstep.agrees
    rw [hnone] at hagrees
    exact hagrees.1

end

/-- The new actions of a whole run get new identifiers. -/
def FreshRun (identityKeys : K) (host : SubscribedHost K T J P) : List (HostStep K T) → Prop
  | [] => True
  | next :: rest => host.FreshIds (host.step identityKeys next) ∧
      FreshRun identityKeys (host.step identityKeys next) rest

instance (host next : SubscribedHost K T J P) : Decidable (host.FreshIds next) :=
  inferInstanceAs (Decidable (∀ action ∈ next.journal,
    (∃ other ∈ host.known, other.id = action.id) → action ∈ host.journal))

instance decidableFreshRun (identityKeys : K) :
    (host : SubscribedHost K T J P) → (steps : List (HostStep K T)) →
      Decidable (FreshRun identityKeys host steps)
  | _, [] => isTrue trivial
  | host, next :: rest =>
      have := decidableFreshRun identityKeys (host.step identityKeys next) rest
      inferInstanceAs (Decidable (_ ∧ _))

theorem Reachable.run {identityKeys : K} {host : SubscribedHost K T J P}
    (h : Reachable identityKeys host) {steps : List (HostStep K T)}
    (hfresh : FreshRun identityKeys host steps) :
    Reachable identityKeys (steps.foldl (SubscribedHost.step identityKeys) host) := by
  induction steps generalizing host with
  | nil => exact h
  | cons next rest ih => exact ih (h.step next hfresh.1) hfresh.2

end SubscribedHost

end

namespace Symbolic

attribute [local instance] pairwiseRumors

/-- A host that accepts an invite, subscribes, acknowledges it, crashes, and subscribes
again. -/
def subscribedSteps : List (HostStep KeyTerm TextTerm) :=
  [.opened RuntimeLimits.standard 1000,
    .performed (.acceptInvite (pairwiseInvite 2 900) (identity 2) 1000),
    .performed (.pendingActionsAt 1001),
    .executed,
    .performed (.ackActions [⟨identity 1, "uuid-3"⟩]),
    .dropped,
    .opened RuntimeLimits.standard 1002,
    .performed (.pendingActionsAt 1003),
    .executed,
    .performed (.ackActions [⟨identity 1, "uuid-4"⟩])]

def subscribedHost : SubscribedHost KeyTerm TextTerm PairwiseJson SealedState :=
  subscribedSteps.foldl (SubscribedHost.step (.secret 1))
    (SubscribedHost.initial (pairwiseWorld 100 fun _ => false))

theorem subscribed_host_is_complete :
    ∃ manager, subscribedHost.manager = some manager ∧ manager.state.subscriptionActions = [] ∧
      subscribedHost.executed.length = 1 ∧
      ∃ authors, messageAuthors manager.state manager.limits = .ok authors ∧
        SubscribedHost.Subscribed manager.state.messageSubscriptionId authors
          subscribedHost.executed := by
  have hcomplete : ∀ host : SubscribedHost KeyTerm TextTerm PairwiseJson SealedState,
      SubscribedHost.Reachable (.secret 1) host → ∀ manager, host.manager = some manager →
      manager.state.subscriptionActions = [] →
      ∃ authors, messageAuthors manager.state manager.limits = .ok authors ∧
        SubscribedHost.Subscribed manager.state.messageSubscriptionId authors host.executed := by
    intro host hreachable manager hmanager hnone
    obtain ⟨authors, hauthors, -, -, hdone⟩ :=
      SubscribedHost.subscription_journal_is_complete storageLaws hreachable hmanager
    exact ⟨authors, hauthors, hdone hnone⟩
  have hreachable : SubscribedHost.Reachable (.secret 1) subscribedHost :=
    (SubscribedHost.Reachable.initial (pairwiseWorld 100 fun _ => false)).run
      (by decide +kernel : SubscribedHost.FreshRun _ _ subscribedSteps)
  obtain ⟨manager, hmanager⟩ := Option.isSome_iff_exists.mp
    (by decide +kernel : subscribedHost.manager.isSome = true)
  have hnone : (subscribedHost.manager.map (·.state.subscriptionActions)) = some [] := by
    decide +kernel
  rw [hmanager] at hnone
  have hsubs : manager.state.subscriptionActions = [] := Option.some.inj hnone
  exact ⟨manager, hmanager, hsubs, by decide +kernel,
    hcomplete subscribedHost hreachable manager hmanager hsubs⟩

end Symbolic

end NostrDoubleRatchet
