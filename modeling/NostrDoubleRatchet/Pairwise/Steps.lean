import NostrDoubleRatchet.Pairwise.Operations

/-!
What the operations of a pairwise manager do, said once. Computing a next state leaves the
manager and the store alone; a commit is the only step that changes them, and it changes
both or neither. `PairwiseChange` lists the states an operation may commit.
-/

namespace NostrDoubleRatchet

set_option linter.unusedSectionVars false

section

variable {K T J P : Type} [LinearOrder K]

/-- Neither the manager nor the store has changed. -/
structure PairwiseCell.Untouched (cell cell' : PairwiseCell K T J P) : Prop where
  manager : cell'.manager = cell.manager
  store : cell'.world.store = cell.world.store

namespace PairwiseCell.Untouched

theorem refl (cell : PairwiseCell K T J P) : Untouched cell cell := ⟨rfl, rfl⟩

theorem trans (a b c : PairwiseCell K T J P) (hab : Untouched a b) (hbc : Untouched b c) :
    Untouched a c :=
  ⟨hbc.manager.trans hab.manager, hbc.store.trans hab.store⟩

end PairwiseCell.Untouched

/-- However it ends, the program leaves the manager and the store alone. -/
def PairwiseM.Quiet {α : Type} (x : PairwiseM K T J P α) : Prop :=
  Program.Moves PairwiseCell.Untouched x

/-- A failed run leaves the manager and the store alone. -/
def PairwiseM.Atomic {α : Type} (x : PairwiseM K T J P α) : Prop :=
  ∀ cell error cell', Program.exec x cell = (.error error, cell') → cell.Untouched cell'

/-- The program never fails. -/
def PairwiseM.Total {α : Type} (x : PairwiseM K T J P α) : Prop :=
  ∀ cell error cell', Program.exec x cell ≠ (.error error, cell')

namespace PairwiseM

open Program

variable {α β : Type}

namespace Quiet

theorem pure (a : α) : Quiet (Pure.pure a : PairwiseM K T J P α) :=
  Moves.pure PairwiseCell.Untouched.refl a

theorem throw (error : PairwiseError K) :
    Quiet (MonadExcept.throw error : PairwiseM K T J P α) :=
  Moves.throw PairwiseCell.Untouched.refl error

theorem bind {x : PairwiseM K T J P α} {f : α → PairwiseM K T J P β} (hx : Quiet x)
    (hf : ∀ a, Quiet (f a)) : Quiet (x >>= f) :=
  Moves.bind PairwiseCell.Untouched.trans hx hf

theorem ite {c : Prop} [Decidable c] {x y : PairwiseM K T J P α} (hx : Quiet x)
    (hy : Quiet y) : Quiet (if c then x else y) :=
  Moves.ite hx hy

theorem manager : Quiet (PairwiseM.manager : PairwiseM K T J P _) :=
  Moves.read PairwiseCell.Untouched.refl _

theorem check (x : Except (PairwiseError K) α) : Quiet (PairwiseM.check x : PairwiseM K T J P α) :=
  Moves.ofExcept PairwiseCell.Untouched.refl x

theorem wire (x : Except Error α) : Quiet (PairwiseM.wire x : PairwiseM K T J P α) :=
  check _

theorem core (x : Except Error α) : Quiet (PairwiseM.core x : PairwiseM K T J P α) :=
  check _

theorem rumor (x : Except PairwiseCodec.Error α) :
    Quiet (PairwiseM.rumor x : PairwiseM K T J P α) :=
  check _

theorem json (x : Except String α) : Quiet (PairwiseM.json x : PairwiseM K T J P α) :=
  check _

theorem liftRand (x : RandM K α) : Quiet (PairwiseM.liftRand x : PairwiseM K T J P α) :=
  fun _ => ⟨rfl, rfl⟩

theorem liftRng (x : StateM (Rng K) α) : Quiet (PairwiseM.liftRng x : PairwiseM K T J P α) :=
  fun _ => ⟨rfl, rfl⟩

theorem newUuid : Quiet (PairwiseM.newUuid : PairwiseM K T J P String) :=
  fun _ => ⟨rfl, rfl⟩

theorem untouched {x : PairwiseM K T J P α} (h : Quiet x) {cell cell' : PairwiseCell K T J P}
    {result : Except (PairwiseError K) α} (hrun : exec x cell = (result, cell')) :
    cell.Untouched cell' := by
  have hmoved := h cell
  rw [hrun] at hmoved
  exact hmoved

end Quiet

namespace Atomic

theorem of_quiet {x : PairwiseM K T J P α} (h : Quiet x) : Atomic x :=
  fun _ _ _ hrun => h.untouched hrun

theorem bind {x : PairwiseM K T J P α} {f : α → PairwiseM K T J P β} (hx : Quiet x)
    (hf : ∀ a, Atomic (f a)) : Atomic (x >>= f) := by
  intro cell error cell' hrun
  rcases bind_eq_error.mp hrun with hfirst | ⟨a, mid, hfirst, hsecond⟩
  · exact hx.untouched hfirst
  · exact PairwiseCell.Untouched.trans _ _ _ (hx.untouched hfirst) (hf a mid error cell' hsecond)

/-- After the commit nothing may fail. -/
theorem bind_total {x : PairwiseM K T J P α} {f : α → PairwiseM K T J P β} (hx : Atomic x)
    (hf : ∀ a, Total (f a)) : Atomic (x >>= f) := by
  intro cell error cell' hrun
  rcases bind_eq_error.mp hrun with hfirst | ⟨a, mid, -, hsecond⟩
  · exact hx cell error cell' hfirst
  · exact absurd hsecond (hf a mid error cell')

theorem ite {c : Prop} [Decidable c] {x y : PairwiseM K T J P α} (hx : Atomic x)
    (hy : Atomic y) : Atomic (if c then x else y) := by
  split
  · exact hx
  · exact hy

end Atomic

theorem total_pure (a : α) : Total (Pure.pure a : PairwiseM K T J P α) := by
  intro cell error cell' hrun
  cases hrun

end PairwiseM

end

section

variable {K T J P : Type} [LinearOrder K] [DecidableEq T] [DecidableEq J] [Primitives K T]
  [InvitePrimitives K T] [EventCodec K T J] [StateSeal K T J P]

open Program PairwiseM

/-- The state under the generation a commit gives it. -/
def PairwiseManager.successor (manager : PairwiseManager K T J) (next : PairwiseState K T J) :
    PairwiseState K T J :=
  { next with generation := manager.state.generation + 1 }

/-- A successful commit: the next state, under the next generation, is in the manager and
sealed in the store. -/
structure PairwiseCell.Committed (cell : PairwiseCell K T J P) (next : PairwiseState K T J)
    (authors : List K) (cell' : PairwiseCell K T J P) : Prop where
  manager : cell'.manager = { cell.manager with
    state := cell.manager.successor next
    installedMessageAuthors := authors }
  bounded : cell.manager.state.generation < u64Max
  valid : (cell.manager.successor next).validate cell.manager.publicKey cell.manager.limits =
    .ok ()
  previous : cell.world.store.generation = cell.manager.state.generation
  stored : ∃ nonce payload,
    sealState (cell.manager.successor next) cell.manager.identityKeys nonce
      cell.manager.limits.maxPersistedStateBytes = .ok payload ∧
    cell'.world.store = ⟨cell.manager.state.generation + 1, some payload⟩

theorem PairwiseCell.Committed.of_untouched {cell mid cell' : PairwiseCell K T J P}
    {next : PairwiseState K T J} {authors : List K} (h : cell.Untouched mid)
    (hcommit : mid.Committed next authors cell') : cell.Committed next authors cell' := by
  obtain ⟨hmanager, hbounded, hvalid, hprevious, hstored⟩ := hcommit
  rw [h.manager] at hmanager hbounded hvalid hprevious hstored
  rw [h.store] at hprevious
  exact ⟨hmanager, hbounded, hvalid, hprevious, hstored⟩

/-! Committing. -/

private theorem storeCommit_ok {generation : Nat} {payload : P} {cell cell' : PairwiseCell K T J P}
    (h : exec (storeCommit generation payload) cell = (.ok (), cell')) :
    cell'.manager = cell.manager ∧ generation ≠ 0 ∧
      cell.world.store.generation = generation - 1 ∧
      cell'.world.store = ⟨generation, some payload⟩ := by
  unfold exec storeCommit StoredValue.commit at h
  split at h
  · cases h
  · split at h
    · cases h
    · rename_i store hstore
      cases h
      split at hstore
      · cases hstore
      · split at hstore
        · cases hstore
        · rename_i hzero hsame
          cases hstore
          exact ⟨rfl, hzero, not_not.mp hsame, rfl⟩

private theorem atomic_storeCommit (generation : Nat) (payload : P) :
    Atomic (storeCommit generation payload : PairwiseM K T J P Unit) := by
  intro cell error cell' hrun
  unfold exec storeCommit at hrun
  split at hrun
  · cases hrun
    exact ⟨rfl, rfl⟩
  · split at hrun
    · cases hrun
      exact ⟨rfl, rfl⟩
    · cases hrun

private theorem total_update (f : PairwiseCell K T J P → PairwiseCell K T J P) :
    Total (update f : PairwiseM K T J P Unit) := by
  intro cell error cell' hrun
  cases hrun

theorem atomic_commitNext (next : PairwiseState K T J) (authors : List K) :
    Atomic (commitNext next authors : PairwiseM K T J P Unit) := by
  refine Atomic.bind Quiet.manager fun manager => ?_
  refine Atomic.ite (Atomic.of_quiet (Quiet.throw _)) ?_
  refine Atomic.bind (Quiet.check _) fun _ => ?_
  refine Atomic.bind (Quiet.liftRand _) fun nonce => ?_
  refine Atomic.bind (Quiet.check _) fun payload => ?_
  exact Atomic.bind_total (atomic_storeCommit _ _) fun _ => total_update _

theorem commitNext_ok {next : PairwiseState K T J} {authors : List K}
    {cell cell' : PairwiseCell K T J P}
    (h : exec (commitNext next authors) cell = (.ok (), cell')) :
    cell.Committed next authors cell' := by
  unfold commitNext PairwiseM.manager at h
  rw [exec_read_bind] at h
  split at h
  · cases h
  rename_i hbounded
  dsimp only at h
  obtain ⟨⟨⟩, afterCheck, hvalid, hrest⟩ := bind_eq_ok.mp h
  obtain ⟨nonce, afterNonce, hnonce, hsealing⟩ := bind_eq_ok.mp hrest
  obtain ⟨payload, afterSeal, hseal, hstoring⟩ := bind_eq_ok.mp hsealing
  obtain ⟨⟨⟩, afterStore, hstore, hupdate⟩ := bind_eq_ok.mp hstoring
  have hafterCheck : afterCheck = cell := (Prod.mk.inj hvalid).2.symm
  have hafterSeal : afterSeal = afterNonce := (Prod.mk.inj hseal).2.symm
  subst hafterCheck hafterSeal
  have hquiet : afterCheck.Untouched afterSeal := (Quiet.liftRand randomNonce).untouched hnonce
  obtain ⟨hmanager, -, hprevious, hstored⟩ := storeCommit_ok hstore
  rw [exec_update, Prod.mk.injEq] at hupdate
  obtain ⟨-, rfl⟩ := hupdate
  refine ⟨?_, Nat.lt_of_not_le hbounded, (Prod.mk.inj hvalid).1, ?_,
    nonce, payload, (Prod.mk.inj hseal).1, hstored⟩
  · rw [hmanager, hquiet.manager]
    rfl
  · rw [← hquiet.store, hprevious, Nat.add_sub_cancel]

/-! Actions and the subscription. -/

namespace PairwiseState

/-- The state with one more action in its journal. -/
def withAction (state : PairwiseState K T J) (uuid : String) (kind : PairwiseActionKind K T J) :
    PairwiseState K T J :=
  { state with pendingActions := state.pendingActions ++ [⟨⟨state.localPubkey, uuid⟩, kind⟩] }

/-- The state without the actions on its message subscription. -/
def withoutSubscriptions (state : PairwiseState K T J) : PairwiseState K T J :=
  { state with
    pendingActions := state.pendingActions.filter (fun action =>
      !isSubscriptionAction state.messageSubscriptionId action.kind) }

end PairwiseState

theorem exec_pushAction (state : PairwiseState K T J) (kind : PairwiseActionKind K T J)
    (cell : PairwiseCell K T J P) :
    exec (pushAction state kind) cell = (.ok (state.withAction cell.world.uuids.head kind),
      { cell with world := { cell.world with uuids := cell.world.uuids.tail } }) := rfl

theorem quiet_pushAction (state : PairwiseState K T J) (kind : PairwiseActionKind K T J) :
    Quiet (pushAction state kind : PairwiseM K T J P _) :=
  Quiet.bind Quiet.newUuid fun _ => Quiet.pure _

/-- What refreshing the subscription makes of a state. -/
inductive Refreshed (state : PairwiseState K T J) (installed : List K) (force : Bool)
    (limits : RuntimeLimits) : PairwiseState K T J → List K → Prop
  | queued {authors : List K} {filter : T}
      (hauthors : messageAuthors state limits = .ok authors)
      (hfilter : EventCodec.filterToJson MESSAGE_EVENT_KIND authors = .ok filter)
      (hinstalled : installed = [])
      (hpending : (∃ action ∈ state.pendingActions,
          action.kind = .subscribe state.messageSubscriptionId filter) ∨
        (authors = [] ∧ ∃ action ∈ state.pendingActions,
          action.kind = .unsubscribe state.messageSubscriptionId)) :
      Refreshed state installed force limits state authors
  | same {authors : List K} (hauthors : messageAuthors state limits = .ok authors)
      (hforce : force = false) (hinstalled : authors = installed) :
      Refreshed state installed force limits state authors
  | closed (uuid : String) (hauthors : messageAuthors state limits = .ok [])
      (hinstalled : installed ≠ []) :
      Refreshed state installed force limits
        (state.withoutSubscriptions.withAction uuid (.unsubscribe state.messageSubscriptionId)) []
  | cleared (hauthors : messageAuthors state limits = .ok []) (hinstalled : installed = [])
      (hforce : force = true) :
      Refreshed state installed force limits state.withoutSubscriptions []
  | opened {authors : List K} {filter : T} (uuid : String)
      (hauthors : messageAuthors state limits = .ok authors) (hsome : authors ≠ [])
      (hfilter : EventCodec.filterToJson MESSAGE_EVENT_KIND authors = .ok filter) :
      Refreshed state installed force limits
        (state.withoutSubscriptions.withAction uuid
          (.subscribe state.messageSubscriptionId filter)) authors

theorem quiet_refreshSubscriptionActions (state : PairwiseState K T J) (installed : List K)
    (force : Bool) (limits : RuntimeLimits) :
    Quiet (refreshSubscriptionActions state installed force limits : PairwiseM K T J P _) := by
  refine Quiet.bind (Quiet.check _) fun authors => ?_
  refine Quiet.bind (Quiet.json _) fun filter => ?_
  refine Quiet.ite (Quiet.pure _) (Quiet.ite (Quiet.pure _) ?_)
  refine Quiet.bind (Quiet.ite (quiet_pushAction _ _) (Quiet.pure _)) fun closed => ?_
  refine Quiet.bind (Quiet.ite (quiet_pushAction _ _) (Quiet.pure _)) fun opened => ?_
  exact Quiet.pure _

/-! Results of the parts an operation is made of. -/

theorem check_eq_ok {α : Type} {x : Except (PairwiseError K) α} {a : α}
    {cell cell' : PairwiseCell K T J P} :
    exec (check x : PairwiseM K T J P α) cell = (.ok a, cell') ↔ x = .ok a ∧ cell' = cell := by
  unfold check
  rw [exec_ofExcept, Prod.mk.injEq, eq_comm (a := cell)]

private theorem check_mapError_eq_ok {α ε : Type} {x : Except ε α} {f : ε → PairwiseError K}
    {a : α} {cell cell' : PairwiseCell K T J P} :
    exec (check (x.mapError f) : PairwiseM K T J P α) cell = (.ok a, cell') ↔
      x = .ok a ∧ cell' = cell := by
  rw [check_eq_ok]
  cases x with
  | error e => simp [Except.mapError]
  | ok b => simp [Except.mapError]

theorem json_eq_ok {α : Type} {x : Except String α} {a : α} {cell cell' : PairwiseCell K T J P} :
    exec (json x : PairwiseM K T J P α) cell = (.ok a, cell') ↔ x = .ok a ∧ cell' = cell :=
  check_mapError_eq_ok

theorem wire_eq_ok {α : Type} {x : Except Error α} {a : α} {cell cell' : PairwiseCell K T J P} :
    exec (wire x : PairwiseM K T J P α) cell = (.ok a, cell') ↔ x = .ok a ∧ cell' = cell :=
  check_mapError_eq_ok

theorem core_eq_ok {α : Type} {x : Except Error α} {a : α} {cell cell' : PairwiseCell K T J P} :
    exec (core x : PairwiseM K T J P α) cell = (.ok a, cell') ↔ x = .ok a ∧ cell' = cell :=
  check_mapError_eq_ok

theorem rumor_eq_ok {α : Type} {x : Except PairwiseCodec.Error α} {a : α}
    {cell cell' : PairwiseCell K T J P} :
    exec (rumor x : PairwiseM K T J P α) cell = (.ok a, cell') ↔ x = .ok a ∧ cell' = cell :=
  check_mapError_eq_ok

/-- The cell with its generator moved on. -/
def PairwiseCell.withRng (cell : PairwiseCell K T J P) (rng : Rng K) : PairwiseCell K T J P :=
  { cell with world := { cell.world with rng := rng } }

theorem liftRand_eq_ok {α : Type} {x : RandM K α} {a : α} {cell cell' : PairwiseCell K T J P} :
    exec (liftRand x : PairwiseM K T J P α) cell = (.ok a, cell') ↔
      x cell.world.rng = (.ok a, cell'.world.rng) ∧ cell' = cell.withRng cell'.world.rng := by
  have hexec : exec (liftRand x : PairwiseM K T J P α) cell =
      ((x cell.world.rng).1.mapError PairwiseError.fromCore,
        cell.withRng (x cell.world.rng).2) := rfl
  rw [hexec, Prod.mk.injEq]
  rcases x cell.world.rng with ⟨_ | b, rng⟩
  · constructor
    · rintro ⟨hvalue, -⟩
      cases hvalue
    · rintro ⟨hvalue, -⟩
      cases hvalue
  · constructor
    · rintro ⟨hvalue, rfl⟩
      cases hvalue
      exact ⟨rfl, rfl⟩
    · rintro ⟨hvalue, hcell⟩
      obtain ⟨hb, rfl⟩ := Prod.mk.inj hvalue
      cases hb
      exact ⟨rfl, hcell.symm⟩

@[simp] theorem exec_manager_bind {α : Type} (f : PairwiseManager K T J → PairwiseM K T J P α)
    (cell : PairwiseCell K T J P) :
    exec (PairwiseM.manager >>= f) cell = exec (f cell.manager) cell := rfl

theorem refreshSubscriptionActions_ok {state next : PairwiseState K T J} {installed : List K}
    {force : Bool} {limits : RuntimeLimits} {authors : List K} {cell cell' : PairwiseCell K T J P}
    (h : exec (refreshSubscriptionActions state installed force limits) cell =
      (.ok (next, authors), cell')) :
    Refreshed state installed force limits next authors := by
  unfold refreshSubscriptionActions at h
  obtain ⟨found, mid, hfound, hrest⟩ := bind_eq_ok.mp h
  obtain ⟨hauthors, rfl⟩ := check_eq_ok.mp hfound
  obtain ⟨filter, mid', hjson, hrest'⟩ := bind_eq_ok.mp hrest
  obtain ⟨hfilter, rfl⟩ := json_eq_ok.mp hjson
  dsimp only at hrest'
  split at hrest'
  · rename_i hqueued
    cases hrest'
    refine Refreshed.queued hauthors hfilter hqueued.1 ?_
    simpa only [List.any_eq_true, decide_eq_true_eq] using hqueued.2
  · split at hrest'
    · rename_i hsame
      cases hrest'
      exact Refreshed.same hauthors (by simpa using hsame.1) hsame.2
    · rename_i hnotQueued hnotSame
      by_cases hnone : found = []
      · subst hnone
        by_cases hinstalled : installed = []
        · simp only [hinstalled, ne_eq, not_true_eq_false, and_false, if_false] at hrest'
          cases hrest'
          refine Refreshed.cleared hauthors hinstalled ?_
          by_contra hforce
          exact hnotSame ⟨by simpa using hforce, hinstalled.symm⟩
        · simp only [hinstalled, ne_eq, not_true_eq_false, not_false_eq_true, and_self, if_true,
            if_false] at hrest'
          cases hrest'
          exact Refreshed.closed _ hauthors hinstalled
      · simp only [hnone, ne_eq, not_false_eq_true, false_and, if_false, if_true] at hrest'
        cases hrest'
        exact Refreshed.opened _ hauthors hnone hfilter

/-- The commit at the end of an operation that refreshes the subscription. -/
theorem refreshAndCommit_ok {state : PairwiseState K T J} {cell cell' : PairwiseCell K T J P}
    (h : exec (refreshAndCommit state) cell = (.ok (), cell')) :
    ∃ next authors, Refreshed state cell.manager.installedMessageAuthors false
      cell.manager.limits next authors ∧ cell.Committed next authors cell' := by
  unfold refreshAndCommit at h
  rw [exec_manager_bind] at h
  obtain ⟨⟨next, authors⟩, mid, hrefresh, hcommit⟩ := bind_eq_ok.mp h
  exact ⟨next, authors, refreshSubscriptionActions_ok hrefresh,
    (commitNext_ok hcommit).of_untouched
      ((quiet_refreshSubscriptionActions _ _ _ _).untouched hrefresh)⟩

theorem atomic_refreshAndCommit (state : PairwiseState K T J) :
    Atomic (refreshAndCommit state : PairwiseM K T J P Unit) := by
  refine Atomic.bind Quiet.manager fun manager => ?_
  exact Atomic.bind (quiet_refreshSubscriptionActions _ _ _ _) fun _ => atomic_commitNext _ _

end

end NostrDoubleRatchet
