import NostrDoubleRatchet.Pairwise.SessionMoves
import NostrDoubleRatchet.Pairwise.SymbolicManager

/-!
Any number of pairwise managers over one store. The store takes a commit only on top of
the generation it holds, so the committed states form one line whichever managers commit
them, and every message event a host is ever shown was encrypted at its own place in that
line. A place is a session, told by the peer and the generation that installed it, and a
position of that session's sending ratchet.
-/

namespace NostrDoubleRatchet

set_option linter.unusedSectionVars false

/-- A committed message event, with the session state it was encrypted from. -/
structure CommittedMessage (K J : Type) [LinearOrder K] where
  peer : K
  born : Nat
  state : SessionState K
  eventJson : J

/-- What a host learns about a message event: the event itself or its id. -/
inductive Exposure (K J : Type) where
  | event (eventJson : J)
  | id (eventId : K)

/-- The managers over one store. The committed states, the generation each peer's session
was installed at, the committed messages and what the hosts were shown are recorded for the
specification only. -/
structure PairwiseFleet (K T J P : Type) [LinearOrder K] where
  managers : Nat → Option (PairwiseManager K T J)
  world : PairwiseWorld K P
  history : List (PairwiseState K T J)
  born : K → Nat
  sent : List (CommittedMessage K J)
  shown : List (Exposure K J)

inductive FleetStep (K T : Type) where
  | opened (index : Nat) (limits : RuntimeLimits) (now : UnixSeconds)
  | dropped (index : Nat)
  | performed (index : Nat) (op : PairwiseOp K T)

section

variable {K T J P : Type} [LinearOrder K] [DecidableEq T] [DecidableEq J] [Primitives K T]
  [InvitePrimitives K T] [PairwiseCodec.RumorPrimitives K T] [EventCodec K T J]
  [StateSeal K T J P]

open Program PairwiseM PairwiseManager

/-- The message events a host learns from an output. -/
def PairwiseOutput.exposures : PairwiseOutput K T J → List (Exposure K J)
  | .sent result => [.id result.outerEventId]
  | .actions pending => pending.filterMap (fun action => match action.kind with
      | .publish _ eventJson _ => some (.event eventJson)
      | _ => none)
  | _ => []

/-- The exposure is of this message. -/
def CommittedMessage.Shows (message : CommittedMessage K J) : Exposure K J → Prop
  | .event eventJson => message.eventJson = eventJson
  | .id eventId => ∃ event : SignedEvent K T,
      EventCodec.eventToJson event = .ok message.eventJson ∧ event.id = eventId

namespace PairwiseFleet

/-- An identity's store before its first use. -/
def initial (world : PairwiseWorld K P) : PairwiseFleet K T J P where
  managers _ := none
  world := { world with store := StoredValue.empty }
  history := []
  born _ := 0
  sent := []
  shown := []

/-- Note what the host is shown. -/
def expose (fleet : PairwiseFleet K T J P) : Except (PairwiseError K) (PairwiseOutput K T J) →
    PairwiseFleet K T J P
  | .ok output => { fleet with shown := fleet.shown ++ output.exposures }
  | .error _ => fleet

/-- Note what an operation has committed. -/
def record (fleet : PairwiseFleet K T J P) (index : Nat) (op : PairwiseOp K T)
    (cell cell' : PairwiseCell K T J P) : PairwiseFleet K T J P :=
  let managers := Function.update fleet.managers index (some cell'.manager)
  if cell'.world.store.generation = cell.world.store.generation then
    { fleet with managers := managers, world := cell'.world }
  else
    let born := match cell.manager.installedPeer op with
      | some peer => Function.update fleet.born peer cell'.world.store.generation
      | none => fleet.born
    { fleet with
      managers := managers
      world := cell'.world
      history := fleet.history ++ [cell'.manager.state]
      born := born
      sent := fleet.sent ++ ((cell.manager.messageOf cell.world.rng cell'.manager.state
        op).map (fun message => ⟨message.1, born message.1, message.2.1, message.2.2⟩)).toList }

def step (identityKeys : K) (fleet : PairwiseFleet K T J P) :
    FleetStep K T → PairwiseFleet K T J P
  | .opened index limits now =>
      match openManager identityKeys limits now fleet.world with
      | (.error _, world) => { fleet with world := world }
      | (.ok manager, world) => { fleet with
          managers := Function.update fleet.managers index (some manager)
          world := world
          history := if world.store.generation = fleet.world.store.generation then fleet.history
            else fleet.history ++ [manager.state] }
  | .dropped index =>
      { fleet with managers := Function.update fleet.managers index none }
  | .performed index op =>
      match fleet.managers index with
      | none => fleet
      | some manager =>
          let (result, cell') := exec (op.run : PairwiseM K T J P (PairwiseOutput K T J))
            ⟨manager, fleet.world⟩
          (fleet.record index op ⟨manager, fleet.world⟩ cell').expose result

/-- Every fleet a run of openings, crashes and operations can reach. -/
inductive Reachable (identityKeys : K) : PairwiseFleet K T J P → Prop
  | initial (world : PairwiseWorld K P) : Reachable identityKeys (PairwiseFleet.initial world)
  | step {fleet : PairwiseFleet K T J P} (h : Reachable identityKeys fleet)
      (next : FleetStep K T) : Reachable identityKeys (fleet.step identityKeys next)

/-! One line of states. -/

/-- The committed states are the whole past of the store, and every manager holds one of
them. -/
structure OneLine (identityKeys : K) (fleet : PairwiseFleet K T J P) : Prop where
  generations : ∀ i state, fleet.history[i]? = some state → state.generation = i + 1
  unused : fleet.history = [] → fleet.world.store = StoredValue.empty
  stored : ∀ state, fleet.history.getLast? = some state →
    Stored identityKeys fleet.world.store state
  holds : ∀ index manager, fleet.managers index = some manager →
    manager.identityKeys = identityKeys ∧ manager.state ∈ fleet.history

/-- The step has committed the state, and its manager holds it. -/
structure Extends (identityKeys : K) (fleet : PairwiseFleet K T J P)
    (state : PairwiseState K T J) (next : PairwiseFleet K T J P) : Prop where
  history : next.history = fleet.history ++ [state]
  generation : state.generation = fleet.history.length + 1
  stored : Stored identityKeys next.world.store state
  managers : ∀ index manager, next.managers index = some manager →
    manager.identityKeys = identityKeys ∧
      (fleet.managers index = some manager ∨ manager.state = state)

/-- Everything a step of the fleet can do. -/
inductive Advance (identityKeys : K) (fleet next : PairwiseFleet K T J P) : Prop
  | idle (hhistory : next.history = fleet.history)
      (hstore : next.world.store = fleet.world.store)
      (hborn : next.born = fleet.born) (hsent : next.sent = fleet.sent)
      (hmanagers : ∀ index manager, next.managers index = some manager →
        manager.identityKeys = identityKeys ∧ manager.state ∈ fleet.history)
  | started {now : UnixSeconds} {base state : PairwiseState K T J}
      (hnone : fleet.history = []) (hfresh : IsFresh identityKeys now base)
      (hstate : state.peers = base.peers ∧ state.pendingActions = base.pendingActions)
      (hextends : Extends identityKeys fleet state next)
      (hborn : next.born = fleet.born) (hsent : next.sent = fleet.sent)
  | reopened {last refreshed state : PairwiseState K T J} {limits : RuntimeLimits}
      {authors : List K} (hlast : fleet.history.getLast? = some last)
      (hrefresh : Refreshed last [] true limits refreshed authors)
      (hstate : state.peers = refreshed.peers ∧ state.pendingActions = refreshed.pendingActions)
      (hextends : Extends identityKeys fleet state next)
      (hborn : next.born = fleet.born) (hsent : next.sent = fleet.sent)
  | changed {manager : PairwiseManager K T J} {op : PairwiseOp K T}
      {changed : PairwiseState K T J} {authors : List K}
      (hlast : fleet.history.getLast? = some manager.state)
      (hchange : PairwiseChange manager fleet.world.rng op changed authors)
      (hextends : Extends identityKeys fleet (manager.successor changed) next)
      (hborn : next.born = (manager.installedPeer op).elim fleet.born
        (fun peer => Function.update fleet.born peer (fleet.history.length + 1)))
      (hsent : next.sent = fleet.sent ++ ((manager.messageOf fleet.world.rng changed op).map
        (fun message => ⟨message.1, next.born message.1, message.2.1, message.2.2⟩)).toList)

namespace OneLine

variable {identityKeys : K} {fleet : PairwiseFleet K T J P}

theorem generation_eq (h : OneLine identityKeys fleet) :
    fleet.world.store.generation = fleet.history.length := by
  cases hlast : fleet.history.getLast? with
  | none =>
      have hnil := List.getLast?_eq_none_iff.mp hlast
      rw [h.unused hnil, hnil]
      rfl
  | some state =>
      rw [(h.stored state hlast).generation]
      rw [List.getLast?_eq_getElem?] at hlast
      rw [h.generations _ _ hlast]
      have hpos : fleet.history.length ≠ 0 := by
        intro hzero
        rw [List.getElem?_eq_none (by omega)] at hlast
        cases hlast
      omega

/-- A manager at the store's generation holds the last committed state. -/
theorem current (h : OneLine identityKeys fleet) {index : Nat} {manager : PairwiseManager K T J}
    (hmanager : fleet.managers index = some manager)
    (hgeneration : fleet.world.store.generation = manager.state.generation) :
    fleet.history.getLast? = some manager.state := by
  obtain ⟨i, hi⟩ := List.mem_iff_getElem?.mp (h.holds index manager hmanager).2
  have hnumber := h.generations i _ hi
  rw [h.generation_eq] at hgeneration
  rw [List.getLast?_eq_getElem?]
  have hsame : fleet.history.length - 1 = i := by omega
  rw [hsame]
  exact hi

/-- Committing one more state. -/
theorem extend (h : OneLine identityKeys fleet) {state : PairwiseState K T J}
    {next : PairwiseFleet K T J P} (hextends : Extends identityKeys fleet state next) :
    OneLine identityKeys next where
  generations i found hfound := by
    rw [hextends.history] at hfound
    by_cases hlt : i < fleet.history.length
    · rw [List.getElem?_append_left hlt] at hfound
      exact h.generations i found hfound
    · rw [List.getElem?_append_right (by omega)] at hfound
      have hzero : i - fleet.history.length = 0 := by
        by_contra hpos
        rw [List.getElem?_eq_none (by simp; omega)] at hfound
        cases hfound
      rw [hzero] at hfound
      cases hfound
      rw [hextends.generation]
      omega
  unused hnil := by
    rw [hextends.history] at hnil
    exact absurd hnil (List.append_ne_nil_of_right_ne_nil _ (List.cons_ne_nil _ _))
  stored found hfound := by
    rw [hextends.history, List.getLast?_append, List.getLast?_singleton] at hfound
    cases hfound
    exact hextends.stored
  holds index manager hmanager := by
    obtain ⟨hkeys, hold | hnew⟩ := hextends.managers index manager hmanager
    · refine ⟨hkeys, ?_⟩
      rw [hextends.history]
      exact List.mem_append_left _ (h.holds index manager hold).2
    · refine ⟨hkeys, ?_⟩
      rw [hextends.history, hnew]
      exact List.mem_append_right _ (List.mem_singleton.mpr rfl)

/-- A step that commits nothing. -/
theorem keep (h : OneLine identityKeys fleet) {next : PairwiseFleet K T J P}
    (hhistory : next.history = fleet.history)
    (hstore : next.world.store = fleet.world.store)
    (hmanagers : ∀ index manager, next.managers index = some manager →
      manager.identityKeys = identityKeys ∧ manager.state ∈ fleet.history) :
    OneLine identityKeys next where
  generations i state hstate := by
    rw [hhistory] at hstate
    exact h.generations i state hstate
  unused hnil := by
    rw [hstore]
    exact h.unused (hhistory.symm.trans hnil)
  stored state hlast := by
    rw [hstore]
    exact h.stored state (hhistory ▸ hlast)
  holds index manager hmanager := by
    rw [hhistory]
    exact hmanagers index manager hmanager

end OneLine

section

variable {identityKeys : K} {fleet : PairwiseFleet K T J P}

private theorem messageOf_successor (manager : PairwiseManager K T J) (rng : Rng K)
    (changed : PairwiseState K T J) (op : PairwiseOp K T) :
    manager.messageOf rng (manager.successor changed) op = manager.messageOf rng changed op := by
  cases op with
  | acceptInvite invite peer now => rfl
  | processOutOfBandResponse event peer => rfl
  | sendText peer text expiresAt now millis => rfl
  | sendUnsignedEvent peer inner now => rfl
  | processEventAt event now => rfl
  | pendingActionsAt now => rfl
  | ackActions actionIds => rfl
  | retirePeer peer => rfl

private theorem managers_update {managers : Nat → Option (PairwiseManager K T J)} {index other : Nat}
    {manager found : PairwiseManager K T J}
    (h : Function.update managers index (some manager) other = some found) :
    found = manager ∨ managers other = some found := by
  by_cases hsame : other = index
  · subst hsame
    rw [Function.update_self] at h
    exact Or.inl (Option.some.inj h).symm
  · rw [Function.update_of_ne hsame] at h
    exact Or.inr h

private theorem record_advance (hlaws : StorageLaws K T J P) (hline : OneLine identityKeys fleet)
    {index : Nat} {manager : PairwiseManager K T J} (hmanager : fleet.managers index = some manager)
    {op : PairwiseOp K T} {cell' : PairwiseCell K T J P}
    (hsettled : PairwiseCell.Settled op ⟨manager, fleet.world⟩ cell') :
    Advance identityKeys fleet (fleet.record index op ⟨manager, fleet.world⟩ cell') := by
  obtain ⟨hkeys, hmem⟩ := hline.holds index manager hmanager
  rcases hsettled with huntouched | ⟨changed, authors, hchange, hcommitted⟩
  · unfold record
    dsimp only
    rw [if_pos (congrArg StoredValue.generation huntouched.store), huntouched.manager]
    refine Advance.idle rfl huntouched.store rfl rfl ?_
    intro other found hfound
    rcases managers_update hfound with rfl | hold
    · exact ⟨hkeys, hmem⟩
    · exact hline.holds other found hold
  · have hlast := hline.current hmanager hcommitted.previous
    obtain ⟨nonce, payload, -, hstore⟩ := hcommitted.stored
    have hgeneration : cell'.world.store.generation = fleet.history.length + 1 := by
      rw [hstore, ← hline.generation_eq, hcommitted.previous]
    have hmoved : cell'.world.store.generation ≠ fleet.world.store.generation := by
      rw [hgeneration, hline.generation_eq]
      omega
    have hversion : changed.localInvite.metadataPrivacyVersion = METADATA_PRIVACY_VERSION :=
      hchange.version.trans (hline.stored _ hlast).current
    have hstate : cell'.manager.state = manager.successor changed := by
      rw [hcommitted.manager]
    unfold record
    dsimp only
    rw [if_neg hmoved, hstate, messageOf_successor, hgeneration]
    refine Advance.changed hlast hchange ⟨rfl, ?_, ?_, ?_⟩ ?_ rfl
    · rw [PairwiseManager.successor, ← hline.generation_eq, hcommitted.previous]
    · rw [← hkeys]
      exact hcommitted.isStored hlaws hversion
    · intro other found hfound
      rcases managers_update hfound with rfl | hold
      · exact ⟨by rw [hcommitted.manager]; exact hkeys, Or.inr hstate⟩
      · exact ⟨(hline.holds other found hold).1, Or.inl hold⟩
    · cases manager.installedPeer op with
      | none => rfl
      | some peer => rfl

private theorem opened_advance (hlaws : StorageLaws K T J P) (hline : OneLine identityKeys fleet)
    (index : Nat) (limits : RuntimeLimits) (now : UnixSeconds) :
    Advance identityKeys fleet (fleet.step identityKeys (.opened index limits now)) := by
  unfold step
  dsimp only
  cases hlast : fleet.history.getLast? with
  | none =>
      have hnil := List.getLast?_eq_none_iff.mp hlast
      have hempty : fleet.world.store.payload = none := by
        rw [hline.unused hnil]
        rfl
      split
      · rename_i error world hopen
        exact Advance.idle rfl (openManager_empty_error hlaws hempty hopen) rfl rfl hline.holds
      · rename_i manager world hopen
        obtain ⟨-, base, cell, cell', hfresh, hcell, hworld, hcommitted, rfl, hstore⟩ :=
          openManager_fresh hempty hopen
        obtain ⟨nonce, payload, -, hstored⟩ := hcommitted.stored
        have hstate : cell'.manager.state = cell.manager.successor base := by
          rw [hcommitted.manager]
        have hgeneration : cell.manager.state.generation = 0 := by
          rw [hcell]
          exact hfresh.generation
        have hmoved : world.store.generation ≠ fleet.world.store.generation := by
          rw [← hstore, hstored, hline.unused hnil]
          exact Nat.succ_ne_zero _
        rw [if_neg hmoved, hstate]
        refine Advance.started hnil hfresh ?_ ⟨rfl, ?_, ?_, ?_⟩ rfl rfl
        · exact ⟨rfl, rfl⟩
        · rw [PairwiseManager.successor, hgeneration, hnil]
          rfl
        · have hisStored := hcommitted.isStored hlaws hfresh.version
          rw [hstore, hcell] at hisStored
          rw [hcell]
          exact hisStored
        · intro other found hfound
          rcases managers_update hfound with rfl | hold
          · refine ⟨?_, Or.inr hstate⟩
            rw [hcommitted.manager, hcell]
          · exact ⟨(hline.holds other found hold).1, Or.inl hold⟩
  | some last =>
      have hlastStored := hline.stored last hlast
      split
      · rename_i error world hopen
        exact Advance.idle rfl (openManager_stored_error hlastStored hopen) rfl rfl hline.holds
      · rename_i manager world hopen
        obtain ⟨hlimits, hvalid, refreshed, authors, hrefresh, hend⟩ :=
          openManager_restored hlastStored hopen
        rcases hend with ⟨-, hstore, rfl⟩ | ⟨cell, cell', hcell, hworld, hcommitted, rfl, hstore⟩
        · rw [if_pos (congrArg StoredValue.generation hstore)]
          refine Advance.idle rfl hstore rfl rfl ?_
          intro other found hfound
          rcases managers_update hfound with rfl | hold
          · exact ⟨rfl, List.mem_of_getLast? hlast⟩
          · exact hline.holds other found hold
        · obtain ⟨nonce, payload, -, hstored⟩ := hcommitted.stored
          have hstate : cell'.manager.state = cell.manager.successor refreshed := by
            rw [hcommitted.manager]
          have hprevious : cell.manager.state.generation = fleet.history.length := by
            rw [← hcommitted.previous, hworld, hline.generation_eq]
          have hmoved : world.store.generation ≠ fleet.world.store.generation := by
            rw [← hstore, hstored, hline.generation_eq, ← hprevious]
            exact Nat.succ_ne_self _
          have hversion : refreshed.localInvite.metadataPrivacyVersion =
              METADATA_PRIVACY_VERSION := by
            rw [hrefresh.localInvite_eq]
            exact hlastStored.current
          rw [if_neg hmoved, hstate]
          refine Advance.reopened hlast hrefresh ?_ ⟨rfl, ?_, ?_, ?_⟩ rfl rfl
          · exact ⟨rfl, rfl⟩
          · rw [PairwiseManager.successor, hprevious]
          · have hisStored := hcommitted.isStored hlaws hversion
            rw [hstore, hcell] at hisStored
            rw [hcell]
            exact hisStored
          · intro other found hfound
            rcases managers_update hfound with rfl | hold
            · refine ⟨?_, Or.inr hstate⟩
              rw [hcommitted.manager, hcell]
            · exact ⟨(hline.holds other found hold).1, Or.inl hold⟩

private theorem Extends.expose {state : PairwiseState K T J} {next : PairwiseFleet K T J P}
    (h : Extends identityKeys fleet state next)
    (result : Except (PairwiseError K) (PairwiseOutput K T J)) :
    Extends identityKeys fleet state (next.expose result) := by
  cases result with
  | error error => exact h
  | ok output => exact ⟨h.history, h.generation, h.stored, h.managers⟩

private theorem Advance.expose {next : PairwiseFleet K T J P}
    (h : Advance identityKeys fleet next)
    (result : Except (PairwiseError K) (PairwiseOutput K T J)) :
    Advance identityKeys fleet (next.expose result) := by
  cases result with
  | error error => exact h
  | ok output =>
      cases h with
      | idle hhistory hstore hborn hsent hmanagers =>
          exact Advance.idle hhistory hstore hborn hsent hmanagers
      | started hnone hfresh hstate hextends hborn hsent =>
          exact Advance.started hnone hfresh hstate (hextends.expose (.ok output)) hborn hsent
      | reopened hlast hrefresh hstate hextends hborn hsent =>
          exact Advance.reopened hlast hrefresh hstate (hextends.expose (.ok output)) hborn hsent
      | changed hlast hchange hextends hborn hsent =>
          exact Advance.changed hlast hchange (hextends.expose (.ok output)) hborn hsent

theorem step_advance (hlaws : StorageLaws K T J P) (hline : OneLine identityKeys fleet)
    (next : FleetStep K T) : Advance identityKeys fleet (fleet.step identityKeys next) := by
  cases next with
  | opened index limits now => exact opened_advance hlaws hline index limits now
  | dropped index =>
      refine Advance.idle rfl rfl rfl rfl ?_
      intro other found hfound
      by_cases hsame : other = index
      · subst hsame
        simp [step] at hfound
      · refine hline.holds other found ?_
        rw [← hfound]
        exact (Function.update_of_ne hsame _ _).symm
  | performed index op =>
      unfold step
      dsimp only
      split
      · exact Advance.idle rfl rfl rfl rfl hline.holds
      · rename_i manager hmanager
        exact (record_advance hlaws hline hmanager (op.run_settled _)).expose _

theorem OneLine.advance (hline : OneLine identityKeys fleet) {next : PairwiseFleet K T J P}
    (h : Advance identityKeys fleet next) : OneLine identityKeys next := by
  cases h with
  | idle hhistory hstore hborn hsent hmanagers => exact hline.keep hhistory hstore hmanagers
  | started hnone hfresh hstate hextends hborn hsent => exact hline.extend hextends
  | reopened hlast hrefresh hstate hextends hborn hsent => exact hline.extend hextends
  | changed hlast hchange hextends hborn hsent => exact hline.extend hextends

theorem OneLine.initial (world : PairwiseWorld K P) :
    OneLine identityKeys (PairwiseFleet.initial world : PairwiseFleet K T J P) where
  generations i state hstate := by cases hstate
  unused _ := rfl
  stored state hlast := by cases hlast
  holds index manager hmanager := by cases hmanager

theorem Reachable.oneLine (hlaws : StorageLaws K T J P) (h : Reachable identityKeys fleet) :
    OneLine identityKeys fleet := by
  induction h with
  | initial world => exact OneLine.initial world
  | step h next ih => exact ih.advance (step_advance hlaws ih next)

end

/-! Every message at a place of its own. -/

/-- The messages of one session were encrypted further and further along its sending
ratchet, and its committed state is past them all. -/
structure Ahead (rank : K → Nat) (fleet : PairwiseFleet K T J P) : Prop where
  one : ∀ state ∈ fleet.history, state.OneSessionEach
  rooted : ∀ state ∈ fleet.history, ∀ peer record, state.sessionOf peer = some record →
    record.state.Rooted
  messageRooted : ∀ message ∈ fleet.sent, message.state.Rooted
  encrypted : ∀ message ∈ fleet.sent, EncryptedUnder message.state message.eventJson
  born : ∀ message ∈ fleet.sent, message.born ≤ fleet.history.length
  passed : ∀ last, fleet.history.getLast? = some last → ∀ message ∈ fleet.sent,
    message.born = fleet.born message.peer → ∀ record, last.sessionOf message.peer = some record →
      message.state.position rank < record.state.position rank
  increasing : fleet.sent.Pairwise (fun message later => message.peer = later.peer →
    message.born = later.born → message.state.position rank < later.state.position rank)
  bornBound : ∀ peer, fleet.born peer ≤ fleet.history.length
  queued : ∀ state ∈ fleet.history, ∀ eventJson,
    state.Publishes eventJson ∨ state.Bootstraps eventJson →
      ∃ message ∈ fleet.sent, message.eventJson = eventJson

namespace Ahead

variable {rank : K → Nat} {fleet next : PairwiseFleet K T J P}

theorem initial (world : PairwiseWorld K P) :
    Ahead rank (PairwiseFleet.initial world : PairwiseFleet K T J P) where
  one state hstate := by cases hstate
  rooted state hstate := by cases hstate
  messageRooted message hmessage := by cases hmessage
  encrypted message hmessage := by cases hmessage
  born message hmessage := by cases hmessage
  passed last hlast := by cases hlast
  increasing := List.Pairwise.nil
  bornBound peer := Nat.le_refl 0
  queued state hstate := by cases hstate

/-- A step that commits nothing. -/
theorem keep (h : Ahead rank fleet) (hhistory : next.history = fleet.history)
    (hborn : next.born = fleet.born) (hsent : next.sent = fleet.sent) : Ahead rank next where
  one := by rw [hhistory]; exact h.one
  rooted := by rw [hhistory]; exact h.rooted
  messageRooted := by rw [hsent]; exact h.messageRooted
  encrypted := by rw [hsent]; exact h.encrypted
  born := by rw [hsent, hhistory]; exact h.born
  passed := by rw [hsent, hhistory, hborn]; exact h.passed
  increasing := by rw [hsent]; exact h.increasing
  bornBound := by rw [hborn, hhistory]; exact h.bornBound
  queued := by rw [hsent, hhistory]; exact h.queued

/-- Where the new messages and the new sessions stand after a commit. -/
structure Forward (rank : K → Nat) (fleet : PairwiseFleet K T J P) (state : PairwiseState K T J)
    (next : PairwiseFleet K T J P) : Prop where
  one : state.OneSessionEach
  rooted : ∀ peer record, state.sessionOf peer = some record → record.state.Rooted
  messageRooted : ∀ message ∈ next.sent, message.state.Rooted
  encrypted : ∀ message ∈ next.sent, EncryptedUnder message.state message.eventJson
  born : ∀ message ∈ next.sent, message.born ≤ fleet.history.length + 1
  passed : ∀ message ∈ next.sent, message.born = next.born message.peer →
    ∀ record, state.sessionOf message.peer = some record →
      message.state.position rank < record.state.position rank
  increasing : next.sent.Pairwise (fun message later => message.peer = later.peer →
    message.born = later.born → message.state.position rank < later.state.position rank)
  bornBound : ∀ peer, next.born peer ≤ fleet.history.length + 1
  kept : ∀ message ∈ fleet.sent, message ∈ next.sent
  queued : ∀ eventJson, state.Publishes eventJson ∨ state.Bootstraps eventJson →
    ∃ message ∈ next.sent, message.eventJson = eventJson

theorem extend (h : Ahead rank fleet) {state : PairwiseState K T J}
    (hhistory : next.history = fleet.history ++ [state])
    (hforward : Forward rank fleet state next) : Ahead rank next where
  one := by
    rw [hhistory, List.forall_mem_append, List.forall_mem_singleton]
    exact ⟨h.one, hforward.one⟩
  rooted := by
    rw [hhistory, List.forall_mem_append, List.forall_mem_singleton]
    exact ⟨h.rooted, hforward.rooted⟩
  messageRooted := hforward.messageRooted
  encrypted := hforward.encrypted
  born := by
    rw [hhistory, List.length_append, List.length_singleton]
    exact hforward.born
  passed last hlast := by
    rw [hhistory, List.getLast?_append, List.getLast?_singleton] at hlast
    cases hlast
    exact hforward.passed
  increasing := hforward.increasing
  bornBound := by
    rw [hhistory, List.length_append, List.length_singleton]
    exact hforward.bornBound
  queued := by
    rw [hhistory, List.forall_mem_append, List.forall_mem_singleton]
    refine ⟨?_, hforward.queued⟩
    intro found hfound eventJson hqueued
    obtain ⟨message, hmessage, heq⟩ := h.queued found hfound eventJson hqueued
    exact ⟨message, hforward.kept message hmessage, heq⟩

/-- The born generation of a peer after a change. -/
private theorem born_elim {installed : Option K} {peer : K} (hpeer : installed ≠ some peer)
    (born : K → Nat) (generation : Nat) :
    installed.elim born (fun other => Function.update born other generation) peer =
      born peer := by
  cases installed with
  | none => rfl
  | some other =>
      have hne : peer ≠ other := fun hsame => hpeer (congrArg some hsame.symm)
      exact Function.update_of_ne hne _ _

private theorem born_installed {peer : K} (born : K → Nat) (generation : Nat) :
    (some peer).elim born (fun other => Function.update born other generation) peer =
      generation :=
  Function.update_self _ _ _

/-- The new message of a change, noted with its place. -/
private theorem mem_sent {message : Option (K × SessionState K × J)} {found : CommittedMessage K J}
    {sent sent' : List (CommittedMessage K J)} {born : K → Nat}
    (hsent : sent' = sent ++ (message.map (fun message =>
      (⟨message.1, born message.1, message.2.1, message.2.2⟩ : CommittedMessage K J))).toList)
    (hfound : found ∈ sent') :
    found ∈ sent ∨ message = some (found.peer, found.state, found.eventJson) ∧
      found.born = born found.peer := by
  subst hsent
  rcases List.mem_append.mp hfound with hold | hnew
  · exact Or.inl hold
  · obtain ⟨sent, hmessage, rfl⟩ := Option.map_eq_some_iff.mp (Option.mem_toList.mp hnew)
    exact Or.inr ⟨hmessage, rfl⟩

section

variable {last state : PairwiseState K T J} {installed : Option K}
  {message : Option (K × SessionState K × J)}

private theorem passed_change (hlaws : DerivationLaws K rank) (h : Ahead rank fleet)
    (hlast : fleet.history.getLast? = some last)
    (hmove : SessionMove last state installed message)
    (hborn : next.born = installed.elim fleet.born
      (fun peer => Function.update fleet.born peer (fleet.history.length + 1)))
    (hsent : next.sent = fleet.sent ++ (message.map
      (fun message => ⟨message.1, next.born message.1, message.2.1, message.2.2⟩)).toList) :
    ∀ found ∈ next.sent, found.born = next.born found.peer →
      ∀ record, state.sessionOf found.peer = some record →
        found.state.position rank < record.state.position rank := by
  intro found hfound hsame record hrecord
  rcases mem_sent hsent hfound with hold | ⟨hmessage, -⟩
  · rcases hmove.session_le hlaws hrecord with hinstalled | ⟨before, hbefore, hle⟩
    · have hnumber := h.born found hold
      rw [hsame, hborn, hinstalled, born_installed] at hnumber
      omega
    · by_cases hinstalled : installed = some found.peer
      · have hnumber := h.born found hold
        rw [hsame, hborn, hinstalled, born_installed] at hnumber
        omega
      · rw [hborn, born_elim hinstalled] at hsame
        exact lt_of_lt_of_le (h.passed last hlast found hold hsame before hbefore) hle
  · obtain ⟨-, after, hafter, hlt⟩ := hmove.message_lt hlaws hmessage
    rw [hrecord] at hafter
    cases hafter
    exact hlt

private theorem increasing_change (hlaws : DerivationLaws K rank) (h : Ahead rank fleet)
    (hlast : fleet.history.getLast? = some last)
    (hmove : SessionMove last state installed message)
    (hborn : next.born = installed.elim fleet.born
      (fun peer => Function.update fleet.born peer (fleet.history.length + 1)))
    (hsent : next.sent = fleet.sent ++ (message.map
      (fun message => ⟨message.1, next.born message.1, message.2.1, message.2.2⟩)).toList) :
    next.sent.Pairwise (fun message later => message.peer = later.peer →
      message.born = later.born → message.state.position rank < later.state.position rank) := by
  rw [hsent, List.pairwise_append]
  refine ⟨h.increasing, ?_, ?_⟩
  · cases message with
    | none => exact List.Pairwise.nil
    | some sent => exact List.pairwise_singleton _ _
  · intro found hfound later hlater hpeer hsame
    obtain ⟨⟨peer, sent, eventJson⟩, hmessage, rfl⟩ :=
      Option.map_eq_some_iff.mp (Option.mem_toList.mp hlater)
    dsimp only at hpeer hsame ⊢
    subst hpeer
    obtain ⟨hinstalled | ⟨hinstalled, before, hbefore, rfl⟩, -⟩ := hmove.message_lt hlaws hmessage
    · have hnumber := h.born found hfound
      rw [hsame, hborn, hinstalled, born_installed] at hnumber
      omega
    · have hkept : installed ≠ some found.peer := by
        rw [hinstalled]
        exact nofun
      rw [hborn, born_elim hkept] at hsame
      exact h.passed last hlast found hfound hsame before hbefore

/-- A change keeps the messages of every session apart. -/
theorem change (hlaws : DerivationLaws K rank) (h : Ahead rank fleet)
    (hlast : fleet.history.getLast? = some last)
    (hmove : SessionMove last state installed message) (hone : state.OneSessionEach)
    (hpublishes : ∀ eventJson, state.Publishes eventJson → last.Publishes eventJson ∨
      last.Bootstraps eventJson ∨ ∃ peer sent, message = some (peer, sent, eventJson))
    (hborn : next.born = installed.elim fleet.born
      (fun peer => Function.update fleet.born peer (fleet.history.length + 1)))
    (hsent : next.sent = fleet.sent ++ (message.map
      (fun message => ⟨message.1, next.born message.1, message.2.1, message.2.2⟩)).toList) :
    Forward rank fleet state next := by
  have hmem := List.mem_of_getLast? hlast
  obtain ⟨hrooted, hsentRooted⟩ := hmove.rooted (h.rooted last hmem)
  have hbornBound : ∀ peer, next.born peer ≤ fleet.history.length + 1 := by
    intro peer
    rw [hborn]
    by_cases hinstalled : installed = some peer
    · rw [hinstalled, born_installed]
    · rw [born_elim hinstalled]
      exact Nat.le_succ_of_le (h.bornBound peer)
  have hkept : ∀ message ∈ fleet.sent, message ∈ next.sent := by
    intro message hmessage
    rw [hsent]
    exact List.mem_append_left _ hmessage
  have hnew : ∀ peer sent eventJson, message = some (peer, sent, eventJson) →
      ∃ message ∈ next.sent, message.eventJson = eventJson := by
    intro peer sent eventJson hmessage
    rw [hsent, hmessage]
    exact ⟨_, List.mem_append_right _ (List.mem_singleton.mpr rfl), rfl⟩
  have hold : ∀ eventJson, last.Publishes eventJson ∨ last.Bootstraps eventJson →
      ∃ message ∈ next.sent, message.eventJson = eventJson := by
    intro eventJson hqueued
    obtain ⟨message, hmessage, heq⟩ := h.queued last hmem eventJson hqueued
    exact ⟨message, hkept message hmessage, heq⟩
  refine ⟨hone, hrooted, ?_, ?_, ?_, passed_change hlaws h hlast hmove hborn hsent,
    increasing_change hlaws h hlast hmove hborn hsent, hbornBound, hkept, ?_⟩
  · intro found hfound
    rcases mem_sent hsent hfound with hbefore | ⟨hmessage, -⟩
    · exact h.messageRooted found hbefore
    · exact hsentRooted _ hmessage
  · intro found hfound
    rcases mem_sent hsent hfound with hbefore | ⟨hmessage, -⟩
    · exact h.encrypted found hbefore
    · exact hmove.message_under hmessage
  · intro found hfound
    rcases mem_sent hsent hfound with hbefore | ⟨-, hplace⟩
    · exact Nat.le_succ_of_le (h.born found hbefore)
    · rw [hplace]
      exact hbornBound found.peer
  · rintro eventJson (hqueued | hqueued)
    · rcases hpublishes eventJson hqueued with hbefore | hbefore | ⟨peer, sent, hmessage⟩
      · exact hold eventJson (Or.inl hbefore)
      · exact hold eventJson (Or.inr hbefore)
      · exact hnew peer sent eventJson hmessage
    · rcases hmove.bootstraps hqueued with hbefore | ⟨peer, sent, hmessage⟩
      · exact hold eventJson (Or.inr hbefore)
      · exact hnew peer sent eventJson hmessage

end

private theorem started {identityKeys : K} {now : UnixSeconds} {base state : PairwiseState K T J}
    (h : Ahead rank fleet) (hfresh : IsFresh identityKeys now base)
    (hstate : state.peers = base.peers ∧ state.pendingActions = base.pendingActions)
    (hborn : next.born = fleet.born) (hsent : next.sent = fleet.sent) :
    Forward rank fleet state next := by
  have hpeers : state.peers = SortedMap.empty := hstate.1.trans hfresh.peers
  have hsession : ∀ peer, state.sessionOf peer = none := by
    intro peer
    unfold PairwiseState.sessionOf
    rw [hpeers]
    rfl
  refine ⟨?_, ?_, ?_, ?_, ?_, ?_, ?_, ?_, ?_, ?_⟩
  · intro peer peerState hget
    rw [hpeers] at hget
    cases hget
  · intro peer record hrecord
    rw [hsession peer] at hrecord
    cases hrecord
  · rw [hsent]
    exact h.messageRooted
  · rw [hsent]
    exact h.encrypted
  · intro message hmessage
    rw [hsent] at hmessage
    exact Nat.le_succ_of_le (h.born message hmessage)
  · intro message hmessage hplace record hrecord
    rw [hsession] at hrecord
    cases hrecord
  · rw [hsent]
    exact h.increasing
  · intro peer
    rw [hborn]
    exact Nat.le_succ_of_le (h.bornBound peer)
  · rw [hsent]
    exact fun message hmessage => hmessage
  · rintro eventJson (⟨action, haction, -⟩ | ⟨peer, record, hrecord, -⟩)
    · rw [hstate.2, hfresh.pendingActions] at haction
      cases haction
    · rw [hsession peer] at hrecord
      cases hrecord

theorem advance {identityKeys : K} (hlaws : DerivationLaws K rank) (h : Ahead rank fleet)
    (hadvance : Advance identityKeys fleet next) : Ahead rank next := by
  cases hadvance with
  | idle hhistory hstore hborn hsent hmanagers => exact h.keep hhistory hborn hsent
  | started hnone hfresh hstate hextends hborn hsent =>
      exact h.extend hextends.history (h.started hfresh hstate hborn hsent)
  | @reopened last refreshed state limits authors hlast hrefresh hstate hextends hborn hsent =>
      have hpeers : state.peers = last.peers := hstate.1.trans hrefresh.peers_eq
      have hmove : SessionMove last state none none :=
        SessionMove.kept (PairwiseState.sessionOf_congr hpeers)
      refine h.extend hextends.history (h.change hlaws hlast hmove ?_ ?_ hborn ?_)
      · exact (h.one last (List.mem_of_getLast? hlast)).congr hpeers
      · rintro eventJson ⟨action, haction, sessionId, innerEventId, hkind⟩
        rw [hstate.2] at haction
        have hcontent : action.kind.IsContent := by
          intro subscriptionId
          rw [hkind]
          rfl
        exact Or.inl ⟨action, (hrefresh.mem_iff hcontent).mp haction, sessionId, innerEventId,
          hkind⟩
      · rw [hsent]
        exact (List.append_nil _).symm
  | @changed manager op changed authors hlast hchange hextends hborn hsent =>
      have hone := h.one manager.state (List.mem_of_getLast? hlast)
      have hmove := (hchange.move hone).congr
        (show (manager.successor changed).peers = changed.peers from rfl)
      refine h.extend hextends.history (h.change hlaws hlast hmove ?_ ?_ hborn hsent)
      · exact (hone.change hchange).congr rfl
      · intro eventJson hpublishes
        exact hchange.publishes hone hpublishes

end Ahead

theorem Reachable.ahead {identityKeys : K} {rank : K → Nat} {fleet : PairwiseFleet K T J P}
    (hstorage : StorageLaws K T J P) (hlaws : DerivationLaws K rank)
    (h : Reachable identityKeys fleet) : Ahead rank fleet := by
  induction h with
  | initial world => exact Ahead.initial world
  | step h next ih => exact ih.advance hlaws (step_advance hstorage (h.oneLine hstorage) next)

/-! What the hosts are shown. -/

section

variable {identityKeys : K} {rank : K → Nat} {fleet next : PairwiseFleet K T J P}

theorem Advance.mem_sent (h : Advance identityKeys fleet next) {message : CommittedMessage K J}
    (hmessage : message ∈ fleet.sent) : message ∈ next.sent := by
  cases h with
  | idle hhistory hstore hborn hsent hmanagers => rwa [hsent]
  | started hnone hfresh hstate hextends hborn hsent => rwa [hsent]
  | reopened hlast hrefresh hstate hextends hborn hsent => rwa [hsent]
  | changed hlast hchange hextends hborn hsent =>
      rw [hsent]
      exact List.mem_append_left _ hmessage

/-- Everything the fleet has shown is one of its messages. -/
def AllSent (fleet : PairwiseFleet K T J P) : Prop :=
  ∀ exposure ∈ fleet.shown, ∃ message ∈ fleet.sent, message.Shows exposure

/-- What an operation shows was queued by the state it ends in. -/
private theorem exposures_sent (hahead : Ahead rank fleet) {op : PairwiseOp K T}
    {output : PairwiseOutput K T J} {cell cell' : PairwiseCell K T J P}
    (hrun : exec op.run cell = (.ok output, cell')) (hmem : cell'.manager.state ∈ fleet.history) :
    ∀ exposure ∈ output.exposures, ∃ message ∈ fleet.sent, message.Shows exposure := by
  intro exposure hexposure
  cases output with
  | accepted result => cases hexposure
  | retired known => cases hexposure
  | done => cases hexposure
  | sent result =>
      rw [PairwiseOutput.exposures, List.mem_singleton] at hexposure
      subst hexposure
      obtain ⟨event, eventJson, hjson, hid, action, haction, sessionId, hkind⟩ := op.run_names hrun
      obtain ⟨message, hmessage, heq⟩ := hahead.queued _ hmem eventJson
        (Or.inl ⟨action, haction, sessionId, _, hkind⟩)
      refine ⟨message, hmessage, event, ?_, hid.symm⟩
      rw [heq]
      exact hjson
  | actions pending =>
      obtain ⟨action, haction, hshown⟩ := List.mem_filterMap.mp hexposure
      rw [op.run_actions hrun] at haction
      have hpending := List.mem_of_mem_filter haction
      split at hshown
      · rename_i sessionId eventJson innerEventId hkind
        cases hshown
        exact hahead.queued _ hmem eventJson
          (Or.inl ⟨action, hpending, sessionId, innerEventId, hkind⟩)
      · cases hshown

private theorem record_managers (fleet : PairwiseFleet K T J P) (index : Nat)
    (op : PairwiseOp K T) (cell cell' : PairwiseCell K T J P) :
    (fleet.record index op cell cell').managers index = some cell'.manager := by
  unfold record
  dsimp only
  split
  · exact Function.update_self _ _ _
  · exact Function.update_self _ _ _

private theorem record_shown (fleet : PairwiseFleet K T J P) (index : Nat)
    (op : PairwiseOp K T) (cell cell' : PairwiseCell K T J P) :
    (fleet.record index op cell cell').shown = fleet.shown := by
  unfold record
  dsimp only
  split
  · rfl
  · rfl

theorem AllSent.step (hshown : AllSent fleet) {next : FleetStep K T}
    (hadvance : Advance identityKeys fleet (fleet.step identityKeys next))
    (hline : OneLine identityKeys (fleet.step identityKeys next))
    (hahead : Ahead rank (fleet.step identityKeys next)) :
    AllSent (fleet.step identityKeys next) := by
  have hold : ∀ exposure ∈ fleet.shown,
      ∃ message ∈ (fleet.step identityKeys next).sent, message.Shows exposure := by
    intro exposure hexposure
    obtain ⟨message, hmessage, hshows⟩ := hshown exposure hexposure
    exact ⟨message, hadvance.mem_sent hmessage, hshows⟩
  cases next with
  | opened index limits now =>
      have hsame : (fleet.step identityKeys (.opened index limits now)).shown = fleet.shown := by
        rw [PairwiseFleet.step]
        split
        · rfl
        · rfl
      rw [AllSent, hsame]
      exact hold
  | dropped index => exact hold
  | performed index op =>
      rw [AllSent]
      cases hmanager : fleet.managers index with
      | none =>
          have hsame : fleet.step identityKeys (.performed index op) = fleet := by
            rw [PairwiseFleet.step, hmanager]
          rw [hsame] at hold ⊢
          exact hold
      | some manager =>
          rcases hrun : exec (op.run : PairwiseM K T J P (PairwiseOutput K T J))
            ⟨manager, fleet.world⟩ with ⟨result, cell'⟩
          have hstep : fleet.step identityKeys (.performed index op) =
              (fleet.record index op ⟨manager, fleet.world⟩ cell').expose result := by
            rw [PairwiseFleet.step, hmanager]
            dsimp only
            rw [hrun]
          rw [hstep] at hold hline hahead ⊢
          cases result with
          | error error =>
              intro exposure hexposure
              refine hold exposure ?_
              rw [← record_shown fleet index op ⟨manager, fleet.world⟩ cell']
              exact hexposure
          | ok output =>
              have hmem := (hline.holds index cell'.manager (record_managers ..)).2
              intro exposure hexposure
              rcases List.mem_append.mp hexposure with hbefore | hnew
              · rw [record_shown] at hbefore
                exact hold exposure hbefore
              · exact exposures_sent hahead hrun hmem exposure hnew

theorem Reachable.allSent (hstorage : StorageLaws K T J P) (hlaws : DerivationLaws K rank)
    (h : Reachable identityKeys fleet) : AllSent fleet := by
  induction h with
  | initial world =>
      intro exposure hexposure
      cases hexposure
  | step h next ih =>
      have hadvance := step_advance hstorage (h.oneLine hstorage) next
      exact ih.step hadvance ((h.oneLine hstorage).advance hadvance)
        ((h.ahead hstorage hlaws).advance hlaws hadvance)

/-- Two messages of one session have different message keys. -/
theorem Ahead.eq_of_messageKey (hlaws : DerivationLaws K rank) (h : Ahead rank fleet)
    {message other : CommittedMessage K J} (hmessage : message ∈ fleet.sent)
    (hother : other ∈ fleet.sent) (hpeer : message.peer = other.peer)
    (hborn : message.born = other.born)
    (hkey : message.state.messageKey = other.state.messageKey) : message = other := by
  obtain ⟨-, key, -, -, -, -, hsome, -, -⟩ := h.encrypted message hmessage
  have hsame : message.state.position rank = other.state.position rank :=
    (h.messageRooted message hmessage).position_eq hlaws (h.messageRooted other hother) hsome
      (hkey.symm.trans hsome)
  by_contra hne
  rcases (List.pairwise_iff_getElem.mp h.increasing) with hincreasing
  obtain ⟨i, hi, rfl⟩ := List.getElem_of_mem hmessage
  obtain ⟨j, hj, rfl⟩ := List.getElem_of_mem hother
  rcases Nat.lt_trichotomy i j with hlt | rfl | hlt
  · exact absurd hsame (ne_of_lt (hincreasing i j hi hj hlt hpeer hborn))
  · exact hne rfl
  · exact absurd hsame.symm (ne_of_lt (hincreasing j i hj hi hlt hpeer.symm hborn.symm))

/-- The state an `open` gives: the last committed one, or the one it has committed on top
of it. -/
def ReturnsLast (identityKeys : K) (fleet : PairwiseFleet K T J P) (limits : RuntimeLimits)
    (manager : PairwiseManager K T J) : Prop :=
  match fleet.history.getLast? with
  | none => ∃ now base, IsFresh identityKeys now base ∧
      manager.state = { base with generation := 1 }
  | some last => manager.state = last ∨ ∃ next authors,
      Refreshed last [] true limits next authors ∧
      manager.state = { next with generation := last.generation + 1 }

theorem OneLine.returnsLast (h : OneLine identityKeys fleet) {limits : RuntimeLimits}
    {now : UnixSeconds} {manager : PairwiseManager K T J} {world' : PairwiseWorld K P}
    (hopen : openManager identityKeys limits now fleet.world = (.ok manager, world')) :
    ReturnsLast identityKeys fleet limits manager := by
  unfold ReturnsLast
  split
  · rename_i hlast
    have hempty : fleet.world.store.payload = none := by
      rw [h.unused (List.getLast?_eq_none_iff.mp hlast)]
      rfl
    obtain ⟨-, base, cell, cell', hfresh, hcell, -, hcommitted, rfl, -⟩ :=
      openManager_fresh hempty hopen
    refine ⟨now, base, hfresh, ?_⟩
    rw [hcommitted.manager, PairwiseManager.successor, hcell]
    dsimp only
    rw [hfresh.generation]
  · rename_i last hlast
    obtain ⟨-, -, next, authors, hrefresh, hend⟩ :=
      openManager_restored (h.stored last hlast) hopen
    rcases hend with ⟨-, -, rfl⟩ | ⟨cell, cell', hcell, -, hcommitted, rfl, -⟩
    · exact Or.inl rfl
    · refine Or.inr ⟨next, authors, hrefresh, ?_⟩
      rw [hcommitted.manager, PairwiseManager.successor, hcell]

theorem OneLine.open_error (h : OneLine identityKeys fleet) (hlaws : StorageLaws K T J P)
    {limits : RuntimeLimits} {now : UnixSeconds} {error : PairwiseError K}
    {world' : PairwiseWorld K P}
    (hopen : openManager (T := T) (J := J) identityKeys limits now fleet.world =
      (.error error, world')) :
    world'.store = fleet.world.store := by
  cases hlast : fleet.history.getLast? with
  | none =>
      have hempty : fleet.world.store.payload = none := by
        rw [h.unused (List.getLast?_eq_none_iff.mp hlast)]
        rfl
      exact openManager_empty_error hlaws hempty hopen
  | some last => exact openManager_stored_error (h.stored last hlast) hopen

/-- Whatever the managers over one store do, and whichever commits fail: a failed operation
leaves its manager and the store alone; a manager at generation `g` holds the state committed
at generation `g`, and `open` gives the last committed state; every message event shown to a
host was encrypted under the message key of a state of its session, and no two of them under
the same one. -/
theorem reachable_fleet_has_one_lineage (hstorage : StorageLaws K T J P)
    (hlaws : DerivationLaws K rank) (h : Reachable identityKeys fleet) :
    (∀ index manager (op : PairwiseOp K T) error (cell' : PairwiseCell K T J P),
      fleet.managers index = some manager →
      exec (op.run : PairwiseM K T J P (PairwiseOutput K T J)) ⟨manager, fleet.world⟩ =
        (.error error, cell') →
      cell'.manager = manager ∧ cell'.world.store = fleet.world.store) ∧
    (∀ limits now error world',
      openManager (T := T) (J := J) identityKeys limits now fleet.world =
        (.error error, world') → world'.store = fleet.world.store) ∧
    (∀ index manager, fleet.managers index = some manager → 0 < manager.state.generation ∧
      fleet.history[manager.state.generation - 1]? = some manager.state) ∧
    (∀ state, fleet.history.getLast? = some state →
      Stored identityKeys fleet.world.store state) ∧
    (∀ limits now manager world',
      openManager identityKeys limits now fleet.world = (.ok manager, world') →
        ReturnsLast identityKeys fleet limits manager) ∧
    (∀ exposure ∈ fleet.shown, ∃ message ∈ fleet.sent, message.Shows exposure) ∧
    (∀ message ∈ fleet.sent, EncryptedUnder message.state message.eventJson) ∧
    ∀ message ∈ fleet.sent, ∀ other ∈ fleet.sent, message.peer = other.peer →
      message.born = other.born → message.state.messageKey = other.state.messageKey →
        message = other := by
  have hline := h.oneLine hstorage
  have hahead := h.ahead hstorage hlaws
  refine ⟨?_, ?_, ?_, hline.stored, ?_, h.allSent hstorage hlaws, hahead.encrypted, ?_⟩
  · intro index manager op error cell' hmanager hrun
    have huntouched := op.run_error _ error cell' hrun
    exact ⟨huntouched.manager, huntouched.store⟩
  · intro limits now error world' hopen
    exact hline.open_error hstorage hopen
  · intro index manager hmanager
    obtain ⟨i, hi⟩ := List.mem_iff_getElem?.mp (hline.holds index manager hmanager).2
    have hgeneration := hline.generations i _ hi
    rw [hgeneration, Nat.add_sub_cancel]
    exact ⟨Nat.succ_pos i, hi⟩
  · intro limits now manager world' hopen
    exact hline.returnsLast hopen
  · intro message hmessage other hother hpeer hborn hkey
    exact hahead.eq_of_messageKey hlaws hmessage hother hpeer hborn hkey

end

theorem Reachable.run {identityKeys : K} {fleet : PairwiseFleet K T J P}
    (h : Reachable identityKeys fleet) (steps : List (FleetStep K T)) :
    Reachable identityKeys (steps.foldl (PairwiseFleet.step identityKeys) fleet) := by
  induction steps generalizing fleet with
  | nil => exact h
  | cons next rest ih => exact ih (h.step next)

end PairwiseFleet

end

namespace Symbolic

attribute [local instance] pairwiseRumors

/-- Two managers of one identity: the second reads a state, loses the race for the next
commit, shows what it holds, and sends after it has read the store again. -/
def racingFleet : PairwiseFleet KeyTerm TextTerm PairwiseJson SealedState :=
  [FleetStep.opened 0 RuntimeLimits.standard 1000,
    .performed 0 (.acceptInvite (pairwiseInvite 2 900) (identity 2) 1000),
    .opened 1 RuntimeLimits.standard 1001,
    .performed 0 (.sendText (identity 2) "first" none 1002 1002000),
    .performed 1 (.sendText (identity 2) "lost" none 1003 1003000),
    .performed 1 (.pendingActionsAt 1004),
    .dropped 1,
    .opened 1 RuntimeLimits.standard 1005,
    .performed 1 (.sendText (identity 2) "second" none 1006 1006000)].foldl
    (PairwiseFleet.step (.secret 1)) (PairwiseFleet.initial (pairwiseWorld 100 fun _ => false))

/-- The racing managers have committed three messages, none under the key of another. -/
theorem racing_fleet_has_one_lineage :
    racingFleet.sent.length = 3 ∧ racingFleet.shown.length = 3 ∧
    (∀ exposure ∈ racingFleet.shown, ∃ message ∈ racingFleet.sent, message.Shows exposure) ∧
    ∀ message ∈ racingFleet.sent, ∀ other ∈ racingFleet.sent, message.peer = other.peer →
      message.born = other.born → message.state.messageKey = other.state.messageKey →
        message = other := by
  have hreachable : PairwiseFleet.Reachable (.secret 1) racingFleet :=
    (PairwiseFleet.Reachable.initial _).run _
  obtain ⟨-, -, -, -, -, hshown, -, hkeys⟩ :=
    PairwiseFleet.reachable_fleet_has_one_lineage storageLaws derivationLaws hreachable
  exact ⟨by decide +kernel, by decide +kernel, hshown, hkeys⟩

end Symbolic

end NostrDoubleRatchet
