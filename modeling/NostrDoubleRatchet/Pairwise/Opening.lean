import NostrDoubleRatchet.Pairwise.Changes

/-!
Opening a manager over a store. A store is empty or holds the sealed state of its
generation; opening it restores that state, and commits again only when the journal has
to name the subscription anew.
-/

namespace NostrDoubleRatchet

set_option linter.unusedSectionVars false

section

variable {K T J P : Type} [LinearOrder K] [DecidableEq T] [DecidableEq J] [Primitives K T]
  [InvitePrimitives K T] [PairwiseCodec.RumorPrimitives K T] [EventCodec K T J]
  [StateSeal K T J P]

open Program PairwiseM PairwiseManager

variable (K T J P) in
/-- What the manager relies on: a sealed state opens to itself and is of the current format,
and a filter has a JSON text. -/
structure StorageLaws : Prop where
  open_sealed : ∀ (identityKeys nonce : K) (state : PairwiseState K T J) (payload : P),
    StateSeal.sealBytes identityKeys nonce state = .ok payload →
      StateSeal.openBytes identityKeys payload = .ok state
  current : ∀ (identityKeys nonce : K) (state : PairwiseState K T J) (payload : P),
    StateSeal.sealBytes identityKeys nonce state = .ok payload →
      StateSeal.isLegacyStatePayload K T J payload = false
  filter : ∀ authors : List K, ∃ text : T,
    EventCodec.filterToJson MESSAGE_EVENT_KIND authors = .ok text

/-- The store holds the state, under its generation. -/
structure Stored (identityKeys : K) (store : StoredValue P) (state : PairwiseState K T J) :
    Prop where
  payload : ∃ payload, store.payload = some payload ∧
    StateSeal.openBytes identityKeys payload = .ok state ∧
    StateSeal.isLegacyStatePayload K T J payload = false
  generation : store.generation = state.generation
  current : state.localInvite.metadataPrivacyVersion = METADATA_PRIVACY_VERSION

/-- A store holds one state. -/
theorem Stored.unique {identityKeys : K} {store : StoredValue P} {state other : PairwiseState K T J}
    (h : Stored identityKeys store state) (h' : Stored identityKeys store other) :
    state = other := by
  obtain ⟨payload, hpayload, hopen, -⟩ := h.payload
  obtain ⟨payload', hpayload', hopen', -⟩ := h'.payload
  rw [hpayload] at hpayload'
  cases hpayload'
  rw [hopen] at hopen'
  exact Except.ok.inj hopen'

theorem sealState_eq_ok {state : PairwiseState K T J} {identityKeys nonce : K} {maxBytes : Nat}
    {payload : P} (h : sealState state identityKeys nonce maxBytes = .ok payload) :
    StateSeal.sealBytes identityKeys nonce state = .ok payload := by
  unfold sealState at h
  obtain ⟨sealed, hsealed, hrest⟩ := except_bind_eq_ok.mp h
  obtain ⟨⟨⟩, -, hpure⟩ := except_bind_eq_ok.mp hrest
  cases hpure
  exact hsealed

theorem openState_eq_ok {payload : P} {identityKeys : K} {limits : RuntimeLimits}
    {state : PairwiseState K T J} (h : openState payload identityKeys limits = .ok state) :
    StateSeal.openBytes identityKeys payload = .ok state ∧
      state.validate (Primitives.publicKey identityKeys) limits = .ok () := by
  unfold openState at h
  obtain ⟨⟨⟩, -, hrest⟩ := except_bind_eq_ok.mp h
  obtain ⟨opened, hopened, hchecked⟩ := except_bind_eq_ok.mp hrest
  obtain ⟨⟨⟩, hvalid, hpure⟩ := except_bind_eq_ok.mp hchecked
  cases hpure
  exact ⟨hopened, hvalid⟩

theorem PairwiseCell.Committed.isStored {cell cell' : PairwiseCell K T J P}
    {next : PairwiseState K T J} {authors : List K} (hlaws : StorageLaws K T J P)
    (h : cell.Committed next authors cell')
    (hcurrent : next.localInvite.metadataPrivacyVersion = METADATA_PRIVACY_VERSION) :
    Stored cell.manager.identityKeys cell'.world.store (cell.manager.successor next) := by
  obtain ⟨nonce, payload, hseal, hstore⟩ := h.stored
  have hsealed := sealState_eq_ok hseal
  rw [hstore]
  exact ⟨⟨payload, rfl, hlaws.open_sealed _ _ _ _ hsealed, hlaws.current _ _ _ _ hsealed⟩, rfl,
    hcurrent⟩

/-! Refreshing touches only the journal. -/

/-- The states differ in their journals only. -/
def PairwiseState.SameButJournal (state next : PairwiseState K T J) : Prop :=
  next = { state with pendingActions := next.pendingActions }

theorem Refreshed.sameButJournal {state next : PairwiseState K T J} {installed : List K}
    {force : Bool} {limits : RuntimeLimits} {authors : List K}
    (h : Refreshed state installed force limits next authors) : state.SameButJournal next := by
  cases h with
  | queued hauthors hfilter hinstalled hpending => rfl
  | same hauthors hforce hinstalled => rfl
  | closed uuid hauthors hinstalled => rfl
  | cleared hauthors hinstalled hforce => rfl
  | opened uuid hauthors hsome hfilter => rfl

theorem Refreshed.authors_eq {state next : PairwiseState K T J} {installed : List K}
    {force : Bool} {limits : RuntimeLimits} {authors : List K}
    (h : Refreshed state installed force limits next authors) :
    messageAuthors state limits = .ok authors := by
  cases h with
  | queued hauthors hfilter hinstalled hpending => exact hauthors
  | same hauthors hforce hinstalled => exact hauthors
  | closed uuid hauthors hinstalled => exact hauthors
  | cleared hauthors hinstalled hforce => exact hauthors
  | opened uuid hauthors hsome hfilter => exact hauthors

theorem atomic_refreshMessageSubscription (force : Bool) :
    Atomic (refreshMessageSubscription force : PairwiseM K T J P Unit) := by
  refine Atomic.bind Quiet.manager fun manager => ?_
  refine Atomic.bind (quiet_refreshSubscriptionActions _ _ _ _) fun refreshed => ?_
  refine Atomic.ite ?_ (atomic_commitNext _ _)
  intro cell error cell' hrun
  cases hrun

/-- The manager's own refresh: nothing to queue, or one more commit. -/
theorem refreshMessageSubscription_ok {force : Bool} {cell cell' : PairwiseCell K T J P}
    (h : exec (refreshMessageSubscription force) cell = (.ok (), cell')) :
    ∃ next authors, Refreshed cell.manager.state cell.manager.installedMessageAuthors force
        cell.manager.limits next authors ∧
      ((next = cell.manager.state ∧ cell'.world.store = cell.world.store ∧
          cell'.manager = { cell.manager with installedMessageAuthors := authors }) ∨
        (next.pendingActions ≠ cell.manager.state.pendingActions ∧
          cell.Committed next authors cell')) := by
  unfold refreshMessageSubscription at h
  rw [exec_manager_bind] at h
  obtain ⟨⟨next, authors⟩, mid, hrefreshed, h1⟩ := bind_eq_ok.mp h
  have hmid : cell.Untouched mid :=
    (quiet_refreshSubscriptionActions _ _ _ _).untouched hrefreshed
  have hrefresh := refreshSubscriptionActions_ok hrefreshed
  refine ⟨next, authors, hrefresh, ?_⟩
  dsimp only at h1
  split at h1
  · rename_i hsame
    cases h1
    refine Or.inl ⟨?_, hmid.store, ?_⟩
    · have hjournal := hrefresh.sameButJournal
      rw [PairwiseState.SameButJournal, hsame] at hjournal
      exact hjournal
    · dsimp only
      rw [hmid.manager]
  · rename_i hchanged
    exact Or.inr ⟨hchanged, (commitNext_ok h1).of_untouched hmid⟩

/-- What opening a store with a state gives. -/
structure Restored (identityKeys : K) (limits : RuntimeLimits) (store : StoredValue P)
    (state : PairwiseState K T J) (manager : PairwiseManager K T J) (store' : StoredValue P) :
    Prop where
  limitsValid : limits.validate (K := K) = .ok ()
  valid : state.validate (Primitives.publicKey identityKeys) limits = .ok ()
  refreshed : ∃ next authors, Refreshed state [] true limits next authors ∧
    ((next = state ∧ store' = store ∧ manager = ⟨identityKeys, state, limits, authors⟩) ∨
      ∃ cell cell' : PairwiseCell K T J P, cell.manager = ⟨identityKeys, state, limits, []⟩ ∧
        cell.world.store = store ∧ cell.Committed next authors cell' ∧
        cell'.manager = manager ∧ cell'.world.store = store')

section

variable {identityKeys : K} {limits : RuntimeLimits} {now : UnixSeconds}
  {world world' : PairwiseWorld K P} {state : PairwiseState K T J}
  {manager : PairwiseManager K T J}

private theorem storeLoad_store {result : Except (PairwiseError K) (Option P)}
    (h : storeLoad world = (result, world')) : world'.store = world.store := by
  cases h
  rfl

private theorem storeLoad_ok {payload : Option P} (h : storeLoad world = (.ok payload, world')) :
    payload = world.store.payload := by
  unfold storeLoad at h
  obtain ⟨hpayload, -⟩ := Prod.mk.inj h
  split at hpayload
  · cases hpayload
  · cases hpayload
    rfl

/-- The sequence of `open`: where it stops when it fails, and how it starts its manager. -/
private theorem openManager_cases (result : Except (PairwiseError K) (PairwiseManager K T J))
    (h : openManager identityKeys limits now world = (result, world')) :
    (∃ error, result = .error error ∧ world'.store = world.store) ∨
    ∃ mid mid' : PairwiseWorld K P, ∃ base needsStorageCommit,
      limits.validate (K := K) = .ok () ∧ mid.store = world.store ∧ mid'.store = world.store ∧
      startingState identityKeys limits now world.store.payload mid =
        (.ok (base, needsStorageCommit), mid') ∧
      ∃ outcome cell', exec (start (needsStorageCommit ||
          base.localInvite.metadataPrivacyVersion ≠ METADATA_PRIVACY_VERSION))
          ⟨⟨identityKeys, upgradeInvite now base, limits, []⟩, mid'⟩ = (outcome, cell') ∧
        result = outcome.map (fun _ => cell'.manager) ∧ world' = cell'.world := by
  unfold openManager at h
  split at h
  · cases h
    exact Or.inl ⟨_, rfl, rfl⟩
  rename_i hlimits
  split at h
  · rename_i hload
    cases h
    exact Or.inl ⟨_, rfl, storeLoad_store hload⟩
  rename_i payload loaded hload
  obtain rfl := storeLoad_ok hload
  have hstarting : ∀ outcome mid', startingState (T := T) (J := J) identityKeys limits now
      world.store.payload loaded = (outcome, mid') → mid'.store = loaded.store := by
    intro outcome mid' hstart
    unfold startingState at hstart
    split at hstart
    · cases hstart
      rfl
    · split at hstart
      · cases hstart
        rfl
      · cases hstart
        rfl
  split at h
  · rename_i hstart
    cases h
    exact Or.inl ⟨_, rfl, (hstarting _ _ hstart).trans (storeLoad_store hload)⟩
  rename_i base needsStorageCommit mid' hstart
  refine Or.inr ⟨loaded, mid', base, needsStorageCommit, hlimits, storeLoad_store hload,
    (hstarting _ _ hstart).trans (storeLoad_store hload), hstart, ?_⟩
  dsimp only at h
  split at h
  · rename_i error cell' hrun
    cases h
    exact ⟨.error error, cell', hrun, rfl, rfl⟩
  · rename_i cell' hrun
    cases h
    exact ⟨.ok (), cell', hrun, rfl, rfl⟩

private theorem upgradeInvite_current {base : PairwiseState K T J}
    (h : base.localInvite.metadataPrivacyVersion = METADATA_PRIVACY_VERSION) :
    upgradeInvite now base = base := by
  unfold upgradeInvite
  rw [if_neg (not_not.mpr h)]

/-- Over a stored state, `open` runs its refresh and nothing else. -/
private theorem startingState_stored {mid mid' : PairwiseWorld K P}
    {base : PairwiseState K T J} {needsStorageCommit : Bool}
    (hstored : Stored identityKeys world.store state)
    (h : startingState identityKeys limits now world.store.payload mid =
      (.ok (base, needsStorageCommit), mid')) :
    base = state ∧ needsStorageCommit = false ∧
      state.validate (Primitives.publicKey identityKeys) limits = .ok () := by
  obtain ⟨payload, hpayload, hopen, hcurrent⟩ := hstored.payload
  rw [hpayload] at h
  obtain ⟨hread, -⟩ := Prod.mk.inj h
  obtain ⟨opened, hopened, hpure⟩ := except_bind_eq_ok.mp hread
  obtain ⟨hbytes, hvalid⟩ := openState_eq_ok hopened
  cases hpure
  rw [hopen] at hbytes
  cases hbytes
  exact ⟨rfl, hcurrent, hvalid⟩

theorem openManager_restored (hstored : Stored identityKeys world.store state)
    (h : openManager identityKeys limits now world = (.ok manager, world')) :
    Restored identityKeys limits world.store state manager world'.store := by
  rcases openManager_cases _ h with ⟨error, herror, -⟩ | ⟨mid, mid', base, needs, hlimits, -,
    hmid', hstarting, outcome, cell', hrun, hresult, rfl⟩
  · cases herror
  obtain ⟨rfl, rfl, hvalid⟩ := startingState_stored hstored hstarting
  cases outcome with
  | error error => cases hresult
  | ok u =>
      obtain rfl : manager = cell'.manager := by
        cases hresult
        rfl
      rw [upgradeInvite_current hstored.current] at hrun
      simp only [hstored.current, ne_eq, not_true_eq_false, decide_false, Bool.or_false] at hrun
      have hrefresh : exec (refreshMessageSubscription true)
          (⟨⟨identityKeys, base, limits, []⟩, mid'⟩ : PairwiseCell K T J P) = (.ok (), cell') :=
        hrun
      obtain ⟨next, authors, hrefreshed, hend⟩ := refreshMessageSubscription_ok hrefresh
      refine ⟨hlimits, hvalid, next, authors, hrefreshed, ?_⟩
      rcases hend with ⟨hsame, hstore, hmanager⟩ | ⟨-, hcommitted⟩
      · exact Or.inl ⟨hsame, hstore.trans hmid', hmanager⟩
      · exact Or.inr ⟨_, cell', rfl, hmid', hcommitted, rfl, rfl⟩

/-- A failed `open` over a stored state leaves the store alone. -/
theorem openManager_stored_error {error : PairwiseError K}
    (hstored : Stored identityKeys world.store state)
    (h : openManager (T := T) (J := J) identityKeys limits now world = (.error error, world')) :
    world'.store = world.store := by
  rcases openManager_cases _ h with ⟨error', -, hstore⟩ | ⟨mid, mid', base, needs, -, -,
    hmid', hstarting, outcome, cell', hrun, hresult, rfl⟩
  · exact hstore
  obtain ⟨rfl, rfl, -⟩ := startingState_stored hstored hstarting
  cases outcome with
  | ok u => cases hresult
  | error error' =>
      rw [upgradeInvite_current hstored.current] at hrun
      simp only [hstored.current, ne_eq, not_true_eq_false, decide_false, Bool.or_false] at hrun
      have hrefresh : exec (refreshMessageSubscription true)
          (⟨⟨identityKeys, base, limits, []⟩, mid'⟩ : PairwiseCell K T J P) =
            (.error error', cell') := hrun
      exact (atomic_refreshMessageSubscription true _ _ _ hrefresh).store.trans hmid'

/-! A new identity. -/

/-- The state of a new identity. -/
structure IsFresh (identityKeys : K) (now : UnixSeconds) (state : PairwiseState K T J) : Prop where
  made : ∃ invite uuid, state = PairwiseState.new (Primitives.publicKey identityKeys) invite uuid
  version : state.localInvite.metadataPrivacyVersion = METADATA_PRIVACY_VERSION
  unused : state.localInvite.usedBy = [] ∧ state.localInvite.usedResponseContents = [] ∧
    state.localInvite.maxUses = none
  createdAt : state.localInvite.createdAt = now

namespace IsFresh

theorem peers {state : PairwiseState K T J} (h : IsFresh identityKeys now state) :
    state.peers = SortedMap.empty := by
  obtain ⟨invite, uuid, rfl⟩ := h.made
  rfl

theorem pendingActions {state : PairwiseState K T J} (h : IsFresh identityKeys now state) :
    state.pendingActions = [] := by
  obtain ⟨invite, uuid, rfl⟩ := h.made
  rfl

theorem generation {state : PairwiseState K T J} (h : IsFresh identityKeys now state) :
    state.generation = 0 := by
  obtain ⟨invite, uuid, rfl⟩ := h.made
  rfl

end IsFresh

theorem freshState_ok {uuid : String} {rng rng' : Rng K} {base : PairwiseState K T J}
    (h : freshState identityKeys now uuid rng = (.ok base, rng')) :
    IsFresh identityKeys now base := by
  unfold freshState at h
  obtain ⟨invite, mid, hinvite, hpure⟩ := RandM.bind_eq_ok.mp h
  cases hpure
  unfold Invite.createNewWithContext at hinvite
  obtain ⟨ephemeral, r1, -, h1⟩ := RandM.bind_eq_ok.mp hinvite
  obtain ⟨ephemeralPublic, r2, -, h2⟩ := RandM.bind_eq_ok.mp h1
  obtain ⟨sharedSecret, r3, -, h3⟩ := RandM.bind_eq_ok.mp h2
  obtain ⟨inviter, r4, -, h4⟩ := RandM.bind_eq_ok.mp h3
  obtain ⟨owner, r5, -, h5⟩ := RandM.bind_eq_ok.mp h4
  cases h5
  exact ⟨⟨_, _, rfl⟩, rfl, ⟨rfl, rfl, rfl⟩, rfl⟩

private theorem messageAuthors_no_peers {base : PairwiseState K T J}
    (h : base.peers = SortedMap.empty) : messageAuthors base limits = .ok [] := by
  unfold messageAuthors
  rw [h]
  rfl

private theorem startingState_none {mid mid' : PairwiseWorld K P} {base : PairwiseState K T J}
    {needsStorageCommit : Bool}
    (h : startingState (P := P) identityKeys limits now none mid =
      (.ok (base, needsStorageCommit), mid')) :
    IsFresh identityKeys now base ∧ needsStorageCommit = true := by
  unfold startingState at h
  dsimp only at h
  split at h
  · cases h
  · rename_i hfresh
    cases h
    exact ⟨freshState_ok hfresh, rfl⟩

theorem openManager_fresh (hempty : world.store.payload = none)
    (h : openManager identityKeys limits now world = (.ok manager, world')) :
    limits.validate (K := K) = .ok () ∧
    ∃ (base : PairwiseState K T J) (cell cell' : PairwiseCell K T J P),
      IsFresh identityKeys now base ∧ cell.manager = ⟨identityKeys, base, limits, []⟩ ∧
      cell.world.store = world.store ∧ cell.Committed base [] cell' ∧
      cell'.manager = manager ∧ cell'.world.store = world'.store := by
  rcases openManager_cases _ h with ⟨error, herror, -⟩ | ⟨mid, mid', base, needs, hlimits, -,
    hmid', hstarting, outcome, cell', hrun, hresult, rfl⟩
  · cases herror
  rw [hempty] at hstarting
  obtain ⟨hfresh, rfl⟩ := startingState_none hstarting
  refine ⟨hlimits, ?_⟩
  cases outcome with
  | error error => cases hresult
  | ok u =>
      obtain rfl : manager = cell'.manager := by
        cases hresult
        rfl
      rw [upgradeInvite_current hfresh.version, Bool.true_or] at hrun
      have hsplit : exec (commitNext base [] >>= fun _ => refreshMessageSubscription true)
          (⟨⟨identityKeys, base, limits, []⟩, mid'⟩ : PairwiseCell K T J P) = (.ok (), cell') :=
        hrun
      obtain ⟨⟨⟩, cell1, hcommit, hrefresh⟩ := bind_eq_ok.mp hsplit
      have hcommitted := commitNext_ok hcommit
      obtain ⟨next, authors, hrefreshed, hend⟩ := refreshMessageSubscription_ok hrefresh
      have hmanager1 : cell1.manager = ⟨identityKeys,
          (⟨identityKeys, base, limits, []⟩ : PairwiseManager K T J).successor base, limits, []⟩ :=
        hcommitted.manager
      have hauthors := hrefreshed.authors_eq
      have hnone : messageAuthors cell1.manager.state cell1.manager.limits = .ok [] := by
        rw [hmanager1]
        exact messageAuthors_no_peers hfresh.peers
      rw [hnone] at hauthors
      cases hauthors
      have hpending : cell1.manager.state.pendingActions = [] := by
        rw [hmanager1]
        exact hfresh.pendingActions
      rcases hend with ⟨-, hstore, hmanager⟩ | ⟨hchanged, -⟩
      · refine ⟨base, _, cell1, hfresh, rfl, hmid', hcommitted, ?_, hstore.symm⟩
        rw [hmanager, hmanager1]
      · refine absurd ?_ hchanged
        rw [hpending]
        rw [hmanager1] at hrefreshed
        have hbase : (PairwiseManager.successor (⟨identityKeys, base, limits, []⟩ :
            PairwiseManager K T J) base).pendingActions = [] := hfresh.pendingActions
        cases hrefreshed with
        | queued _ _ _ _ => exact hbase
        | same _ hforce _ => cases hforce
        | closed _ _ hinstalled => exact absurd rfl hinstalled
        | cleared _ _ _ =>
            unfold PairwiseState.withoutSubscriptions
            dsimp only
            rw [hbase]
            rfl
        | opened _ _ hsome _ => exact absurd rfl hsome

/-- With no peer, no subscription and an empty journal there is nothing to refresh. -/
private theorem refresh_nothing (hlaws : StorageLaws K T J P) {cell : PairwiseCell K T J P}
    (hpeers : cell.manager.state.peers = SortedMap.empty)
    (hpending : cell.manager.state.pendingActions = [])
    (hinstalled : cell.manager.installedMessageAuthors = []) :
    ∃ cell', exec (refreshMessageSubscription true) cell = (.ok (), cell') := by
  obtain ⟨text, htext⟩ := hlaws.filter []
  have hcleared : exec (refreshSubscriptionActions cell.manager.state [] true
      cell.manager.limits) cell =
        (.ok (cell.manager.state.withoutSubscriptions, []), cell) := by
    unfold refreshSubscriptionActions
    rw [exec_bind_ok (check_eq_ok.mpr ⟨messageAuthors_no_peers hpeers, rfl⟩),
      exec_bind_ok (json_eq_ok.mpr ⟨htext, rfl⟩)]
    simp only [hpending, List.any_nil, Bool.false_eq_true, and_false, or_self, if_false,
      Bool.not_true, false_and, ne_eq, not_true_eq_false, List.filter_nil]
    unfold PairwiseState.withoutSubscriptions
    rw [hpending]
    rfl
  unfold refreshMessageSubscription
  rw [exec_manager_bind, hinstalled, exec_bind_ok hcleared]
  have hsame : cell.manager.state.withoutSubscriptions.pendingActions =
      cell.manager.state.pendingActions := by
    unfold PairwiseState.withoutSubscriptions
    dsimp only
    rw [hpending]
    rfl
  dsimp only
  rw [if_pos hsame]
  exact ⟨_, rfl⟩

/-- A failed first `open` leaves the store alone. -/
theorem openManager_empty_error {error : PairwiseError K} (hlaws : StorageLaws K T J P)
    (hempty : world.store.payload = none)
    (h : openManager (T := T) (J := J) identityKeys limits now world = (.error error, world')) :
    world'.store = world.store := by
  rcases openManager_cases _ h with ⟨error', -, hstore⟩ | ⟨mid, mid', base, needs, -, -,
    hmid', hstarting, outcome, cell', hrun, hresult, rfl⟩
  · exact hstore
  rw [hempty] at hstarting
  obtain ⟨hfresh, rfl⟩ := startingState_none hstarting
  cases outcome with
  | ok u => cases hresult
  | error error' =>
      rw [upgradeInvite_current hfresh.version, Bool.true_or] at hrun
      have hsplit : exec (commitNext base [] >>= fun _ => refreshMessageSubscription true)
          (⟨⟨identityKeys, base, limits, []⟩, mid'⟩ : PairwiseCell K T J P) =
            (.error error', cell') := hrun
      rcases bind_eq_error.mp hsplit with hcommit | ⟨⟨⟩, cell1, hcommit, hrefresh⟩
      · exact (atomic_commitNext _ _ _ _ _ hcommit).store.trans hmid'
      · have hmanager := (commitNext_ok hcommit).manager
        have hpeers : cell1.manager.state.peers = SortedMap.empty := by
          rw [hmanager]
          exact hfresh.peers
        have hpending : cell1.manager.state.pendingActions = [] := by
          rw [hmanager]
          exact hfresh.pendingActions
        have hinstalled : cell1.manager.installedMessageAuthors = [] := by
          rw [hmanager]
        obtain ⟨cell2, hok⟩ := refresh_nothing hlaws hpeers hpending hinstalled
        rw [hok] at hrefresh
        cases hrefresh

end

end

end NostrDoubleRatchet
