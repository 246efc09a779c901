import NostrDoubleRatchet.Pairwise.Opening

/-!
What the changes do to the journal and to the sessions. Apart from the subscription, an
action enters the journal only in the change that makes it, and a peer's one session is
replaced by a handshake, moved on by a message, or removed with the peer.
-/

namespace NostrDoubleRatchet

set_option linter.unusedSectionVars false

section

variable {K T J P : Type} [LinearOrder K] [DecidableEq T] [DecidableEq J] [Primitives K T]
  [InvitePrimitives K T] [PairwiseCodec.RumorPrimitives K T] [EventCodec K T J]
  [StateSeal K T J P]

open PairwiseManager

/-- Not an action on the message subscription. -/
def PairwiseActionKind.IsContent (kind : PairwiseActionKind K T J) : Prop :=
  ∀ subscriptionId, isSubscriptionAction subscriptionId kind = false

namespace PairwiseState

theorem mem_withAction {state : PairwiseState K T J} {uuid : String}
    {kind : PairwiseActionKind K T J} {action : PairwiseAction K T J} :
    action ∈ (state.withAction uuid kind).pendingActions ↔
      action ∈ state.pendingActions ∨ action = ⟨⟨state.localPubkey, uuid⟩, kind⟩ := by
  unfold withAction
  rw [List.mem_append, List.mem_singleton]

theorem mem_withoutSubscriptions {state : PairwiseState K T J} {action : PairwiseAction K T J} :
    action ∈ state.withoutSubscriptions.pendingActions ↔ action ∈ state.pendingActions ∧
      isSubscriptionAction state.messageSubscriptionId action.kind = false := by
  unfold withoutSubscriptions
  rw [List.mem_filter, Bool.not_eq_true']

end PairwiseState

/-- Refreshing keeps every action that is not about the subscription and adds none. -/
theorem Refreshed.mem_iff {state next : PairwiseState K T J} {installed : List K}
    {force : Bool} {limits : RuntimeLimits} {authors : List K}
    (h : Refreshed state installed force limits next authors)
    {action : PairwiseAction K T J} (hcontent : action.kind.IsContent) :
    action ∈ next.pendingActions ↔ action ∈ state.pendingActions := by
  cases h with
  | queued hauthors hfilter hinstalled hpending => exact Iff.rfl
  | same hauthors hforce hinstalled => exact Iff.rfl
  | closed uuid hauthors hinstalled =>
      rw [PairwiseState.mem_withAction, PairwiseState.mem_withoutSubscriptions]
      constructor
      · rintro (⟨hmem, -⟩ | rfl)
        · exact hmem
        · have hnot := hcontent state.messageSubscriptionId
          simp [isSubscriptionAction] at hnot
      · intro hmem
        exact Or.inl ⟨hmem, hcontent _⟩
  | cleared hauthors hinstalled hforce =>
      rw [PairwiseState.mem_withoutSubscriptions]
      constructor
      · exact And.left
      · intro hmem
        exact ⟨hmem, hcontent _⟩
  | opened uuid hauthors hsome hfilter =>
      rw [PairwiseState.mem_withAction, PairwiseState.mem_withoutSubscriptions]
      constructor
      · rintro (⟨hmem, -⟩ | rfl)
        · exact hmem
        · have hnot := hcontent state.messageSubscriptionId
          simp [isSubscriptionAction] at hnot
      · intro hmem
        exact Or.inl ⟨hmem, hcontent _⟩

theorem Refreshed.peers_eq {state next : PairwiseState K T J} {installed : List K}
    {force : Bool} {limits : RuntimeLimits} {authors : List K}
    (h : Refreshed state installed force limits next authors) : next.peers = state.peers := by
  have hjournal := h.sameButJournal
  rw [PairwiseState.SameButJournal] at hjournal
  rw [hjournal]

/-! The replay windows touch nothing else. -/

namespace PairwiseState

theorem pushSeenEvent_rest (state : PairwiseState K T J) (eventId : K) (limit : Nat) :
    state.pushSeenEvent eventId limit = { state with
      seenEventIds := (state.pushSeenEvent eventId limit).seenEventIds
      responseEventPeers := (state.pushSeenEvent eventId limit).responseEventPeers } := by
  unfold pushSeenEvent
  split
  · rfl
  · dsimp only
    split
    · rfl
    · rfl

theorem pushSeenInnerEvent_rest (state : PairwiseState K T J) (eventId : K) (limit : Nat) :
    state.pushSeenInnerEvent eventId limit = { state with
      seenInnerEventIds := (state.pushSeenInnerEvent eventId limit).seenInnerEventIds } := by
  unfold pushSeenInnerEvent
  split
  · rfl
  · rfl

theorem withResponse_rest (state : PairwiseState K T J) (eventId peer : K) (limit : Nat) :
    state.withResponse eventId peer limit = { state with
      seenEventIds := (state.withResponse eventId peer limit).seenEventIds
      responseEventPeers := (state.withResponse eventId peer limit).responseEventPeers } := by
  unfold withResponse
  rw [pushSeenEvent_rest]

theorem withMessage_rest (state : PairwiseState K T J) (eventId innerEventId : K)
    (limits : RuntimeLimits) :
    state.withMessage eventId innerEventId limits = { state with
      seenEventIds := (state.withMessage eventId innerEventId limits).seenEventIds
      seenInnerEventIds := (state.withMessage eventId innerEventId limits).seenInnerEventIds
      responseEventPeers :=
        (state.withMessage eventId innerEventId limits).responseEventPeers } := by
  unfold withMessage
  rw [pushSeenInnerEvent_rest, pushSeenEvent_rest]

theorem withResponse_peers {state : PairwiseState K T J} {eventId peer : K} {limit : Nat} :
    (state.withResponse eventId peer limit).peers = state.peers := by
  rw [withResponse_rest]

theorem withResponse_pendingActions {state : PairwiseState K T J} {eventId peer : K}
    {limit : Nat} :
    (state.withResponse eventId peer limit).pendingActions = state.pendingActions := by
  rw [withResponse_rest]

theorem withResponse_localInvite {state : PairwiseState K T J} {eventId peer : K} {limit : Nat} :
    (state.withResponse eventId peer limit).localInvite = state.localInvite := by
  rw [withResponse_rest]

theorem withMessage_peers {state : PairwiseState K T J} {eventId innerEventId : K}
    {limits : RuntimeLimits} :
    (state.withMessage eventId innerEventId limits).peers = state.peers := by
  rw [withMessage_rest]

theorem withMessage_pendingActions {state : PairwiseState K T J} {eventId innerEventId : K}
    {limits : RuntimeLimits} :
    (state.withMessage eventId innerEventId limits).pendingActions = state.pendingActions := by
  rw [withMessage_rest]

theorem withMessage_localInvite {state : PairwiseState K T J} {eventId innerEventId : K}
    {limits : RuntimeLimits} :
    (state.withMessage eventId innerEventId limits).localInvite = state.localInvite := by
  rw [withMessage_rest]

end PairwiseState

theorem Refreshed.localInvite_eq {state next : PairwiseState K T J} {installed : List K}
    {force : Bool} {limits : RuntimeLimits} {authors : List K}
    (h : Refreshed state installed force limits next authors) :
    next.localInvite = state.localInvite := by
  have hjournal := h.sameButJournal
  rw [PairwiseState.SameButJournal] at hjournal
  rw [hjournal]

/-! Installing a session. -/

/-- What a successful installation gives. -/
structure PairwiseState.Installed (state : PairwiseState K T J) (peer : K)
    (record : SessionRecord K T J) (base : PairwiseState K T J) : Prop where
  peers : base.peers = state.peers.insert peer { state.peerOrNew peer with sessions := [record] }
  journal : ∀ action, action ∈ base.pendingActions ↔ action ∈ state.pendingActions ∧
    (actionSessionId action.kind).all (fun sessionId =>
      sessionId ∉ (state.peerOrNew peer).sessions.map SessionRecord.handshakeId) = true
  rest : base = { state with peers := base.peers, pendingActions := base.pendingActions }

theorem PairwiseState.install_ok {state base : PairwiseState K T J} {limits : RuntimeLimits}
    {peer : K} {record : SessionRecord K T J} {created : Bool}
    (h : state.install limits peer record = .ok (base, created)) :
    state.Installed peer record base := by
  unfold PairwiseState.install at h
  obtain ⟨⟨installed, made, retired⟩, hinstall, hpure⟩ := except_bind_eq_ok.mp h
  unfold PeerState.installSession at hinstall
  split at hinstall
  · cases hinstall
  dsimp only at hinstall
  split at hinstall
  · cases hinstall
  split at hinstall
  · cases hinstall
  cases hinstall
  cases hpure
  refine ⟨rfl, ?_, rfl⟩
  intro action
  unfold retireSessions
  dsimp only
  rw [List.mem_filter]

/-! Moving a session on. -/

/-- The peer's session at `index`. -/
def PairwiseState.HasSession (state : PairwiseState K T J) (peer : K) (index : Nat)
    (record : SessionRecord K T J) : Prop :=
  ∃ peerState, state.peers.get? peer = some peerState ∧ peerState.sessions[index]? = some record

/-- The state with another state of the session at that place. -/
def PairwiseState.Advanced (state : PairwiseState K T J) (peer : K) (index : Nat)
    (nextState : SessionState K) (advanced : PairwiseState K T J) : Prop :=
  ∃ peerState record, state.peers.get? peer = some peerState ∧
    peerState.sessions[index]? = some record ∧
    advanced = { state with
      peers := state.peers.insert peer { peerState with
        sessions := peerState.sessions.set index { record with state := nextState } } }

theorem PairwiseState.setSessionState_ok {state advanced : PairwiseState K T J} {peer : K}
    {index : Nat} {nextState : SessionState K}
    (h : state.setSessionState peer index nextState = .ok advanced) :
    state.Advanced peer index nextState advanced := by
  unfold PairwiseState.setSessionState at h
  split at h
  · cases h
  rename_i peerState hpeer
  split at h
  · cases h
  rename_i record hrecord
  cases h
  exact ⟨peerState, record, hpeer, hrecord, rfl⟩

theorem PairwiseState.mem_sessionPlaces {state : PairwiseState K T J} {peer : K} {index : Nat}
    {record : SessionRecord K T J} :
    (peer, index, record) ∈ state.sessionPlaces ↔ state.HasSession peer index record := by
  unfold PairwiseState.sessionPlaces PairwiseState.HasSession
  rw [List.mem_flatMap]
  constructor
  · rintro ⟨⟨key, peerState⟩, hentry, hplace⟩
    obtain ⟨⟨found, place⟩, hfound, heq⟩ := List.mem_map.mp hplace
    cases heq
    exact ⟨peerState, SortedMap.mem_entries.mp hentry, List.mem_zipIdx_iff_getElem?.mp hfound⟩
  · rintro ⟨peerState, hpeer, hrecord⟩
    exact ⟨(peer, peerState), SortedMap.mem_entries.mpr hpeer,
      List.mem_map.mpr ⟨(record, index), List.mem_zipIdx_iff_getElem?.mpr hrecord, rfl⟩⟩

/-- The session the receive loop selects has decrypted the message. -/
theorem decryptWithSession_some {envelope : MessageEnvelope K T}
    {places : List (K × Nat × SessionRecord K T J)} {rng rng' : Rng K} {peer : K} {index : Nat}
    {plan : ReceivePlan K T}
    (h : decryptWithSession envelope places rng = (some (peer, index, plan), rng')) :
    ∃ record, (peer, index, record) ∈ places ∧ ∃ before after,
      (Session.fromState record.state).planReceive envelope before = (.ok plan, after) := by
  induction places generalizing rng with
  | nil => cases h
  | cons place rest ih =>
      obtain ⟨key, place, record⟩ := place
      unfold decryptWithSession at h
      dsimp only at h
      split at h
      · obtain ⟨found, hmem, hplan⟩ := ih h
        exact ⟨found, List.mem_cons_of_mem _ hmem, hplan⟩
      · dsimp only [bind, StateT.bind, ExceptT.run] at h
        generalize hresult : (Session.fromState record.state).planReceive envelope rng = result at h
        obtain ⟨_ | found, after⟩ := result
        · obtain ⟨found, hmem, hplan⟩ := ih h
          exact ⟨found, List.mem_cons_of_mem _ hmem, hplan⟩
        · cases h
          exact ⟨record, List.mem_cons_self, rng, _, hresult⟩

/-! One session for each peer. -/

namespace PairwiseState

/-- Every peer has exactly one session. -/
def OneSessionEach (state : PairwiseState K T J) : Prop :=
  ∀ peer peerState, state.peers.get? peer = some peerState → ∃ record, peerState.sessions = [record]

/-- The peer's session. -/
def sessionOf (state : PairwiseState K T J) (peer : K) : Option (SessionRecord K T J) :=
  (state.peers.get? peer).bind (fun peerState => peerState.sessions.getLast?)

theorem sessionOf_congr {state next : PairwiseState K T J} (h : next.peers = state.peers)
    (peer : K) : next.sessionOf peer = state.sessionOf peer := by
  unfold sessionOf
  rw [h]

theorem OneSessionEach.congr {state next : PairwiseState K T J} (h : state.OneSessionEach)
    (hpeers : next.peers = state.peers) : next.OneSessionEach := by
  intro peer peerState hget
  rw [hpeers] at hget
  exact h peer peerState hget

/-- A session that is put in a peer's place. -/
theorem sessionOf_insert {state next : PairwiseState K T J} {peer : K}
    {peerState : PeerState K T J} {record : SessionRecord K T J}
    (hpeers : next.peers = state.peers.insert peer { peerState with sessions := [record] })
    (other : K) :
    next.sessionOf other = if peer = other then some record else state.sessionOf other := by
  unfold sessionOf
  rw [hpeers, SortedMap.get?_insert]
  split
  · rfl
  · rfl

theorem OneSessionEach.insert {state next : PairwiseState K T J} (h : state.OneSessionEach)
    {peer : K} {peerState : PeerState K T J} {record : SessionRecord K T J}
    (hpeers : next.peers = state.peers.insert peer { peerState with sessions := [record] }) :
    next.OneSessionEach := by
  unfold OneSessionEach
  rw [hpeers]
  exact SortedMap.forall_get?_insert h ⟨record, rfl⟩

/-- Moving a peer's session on replaces its state. -/
theorem Advanced.peers_eq {state advanced : PairwiseState K T J} {peer : K} {index : Nat}
    {nextState : SessionState K} (hone : state.OneSessionEach)
    (h : state.Advanced peer index nextState advanced) :
    ∃ peerState record, state.peers.get? peer = some peerState ∧ peerState.sessions = [record] ∧
      index = 0 ∧ advanced.peers = state.peers.insert peer { peerState with
        sessions := [{ record with state := nextState }] } := by
  obtain ⟨peerState, record, hget, hrecord, rfl⟩ := h
  obtain ⟨only, honly⟩ := hone peer peerState hget
  rw [honly] at hrecord
  cases index with
  | succ index => simp at hrecord
  | zero =>
      have hsame : only = record := by simpa using hrecord
      subst hsame
      refine ⟨peerState, only, hget, honly, rfl, ?_⟩
      dsimp only
      rw [honly]
      rfl

theorem sessionOf_eq {state : PairwiseState K T J} {peer : K} {peerState : PeerState K T J}
    {record : SessionRecord K T J} (hget : state.peers.get? peer = some peerState)
    (honly : peerState.sessions = [record]) : state.sessionOf peer = some record := by
  unfold sessionOf
  rw [hget, Option.bind_some, honly]
  rfl

theorem sessionOf_erase {state next : PairwiseState K T J} {peer : K}
    (hpeers : next.peers = state.peers.erase peer) (other : K) :
    next.sessionOf other = if peer = other then none else state.sessionOf other := by
  unfold sessionOf
  rw [hpeers, SortedMap.get?_erase]
  split
  · rfl
  · rfl

theorem OneSessionEach.erase {state next : PairwiseState K T J} (h : state.OneSessionEach)
    {peer : K} (hpeers : next.peers = state.peers.erase peer) : next.OneSessionEach := by
  intro other peerState hget
  rw [hpeers, SortedMap.get?_erase] at hget
  split at hget
  · cases hget
  · exact h other peerState hget

theorem Advanced.hasSession {state advanced : PairwiseState K T J} {peer : K} {index : Nat}
    {nextState : SessionState K} (h : state.Advanced peer index nextState advanced) :
    ∃ record, state.HasSession peer index record := by
  obtain ⟨peerState, record, hget, hrecord, -⟩ := h
  exact ⟨record, peerState, hget, hrecord⟩

end PairwiseState

end

end NostrDoubleRatchet
