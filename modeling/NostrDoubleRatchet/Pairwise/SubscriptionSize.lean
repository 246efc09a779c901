import NostrDoubleRatchet.Pairwise.Subscription
import NostrDoubleRatchet.Pairwise.SymbolicManager

/-!
The size of the message subscription. The authors are bounded by one limit and the bytes of
the filter that lists them by another; an action that subscribes to the authors is valid
exactly when the filter has room for all of them.
-/

namespace NostrDoubleRatchet

set_option linter.unusedSectionVars false

/-- The bytes of `{"authors":["…","…"],"kinds":[1060]}` for `count` authors: 64 digits, two
quotes and a comma for each, and 28 for the rest. -/
def filterJsonLength (count : Nat) : Nat := 67 * count + 28

section

variable {K T J P : Type} [LinearOrder K] [DecidableEq T] [DecidableEq J] [Primitives K T]
  [InvitePrimitives K T] [PairwiseCodec.RumorPrimitives K T] [EventCodec K T J]
  [StateSeal K T J P]

open Program PairwiseM PairwiseManager

variable (K T J) in
/-- What the JSON of a filter looks like. -/
structure FilterLaw : Prop where
  total (authors : List K) :
    ∃ filter, EventCodec.filterToJson (T := T) (J := J) MESSAGE_EVENT_KIND authors = .ok filter
  length (authors : List K) (filter : T) (hsome : authors ≠ [])
    (hfilter : EventCodec.filterToJson (J := J) MESSAGE_EVENT_KIND authors = .ok filter) :
    EventCodec.textLength K (J := J) filter = filterJsonLength authors.length

namespace PairwiseState

/-- A refresh queues a new action that subscribes to `authors`. -/
def Resubscribes (state : PairwiseState K T J) (installed authors : List K) (force : Bool)
    (filter : T) : Prop :=
  authors ≠ [] ∧ (force = true ∨ authors ≠ installed) ∧
    ¬(installed = [] ∧ ∃ action ∈ state.pendingActions,
      action.kind = .subscribe state.messageSubscriptionId filter)

end PairwiseState

theorem exec_refreshSubscriptionActions_opened {state : PairwiseState K T J}
    {installed authors : List K} {force : Bool} {limits : RuntimeLimits} {filter : T}
    (hauthors : messageAuthors state limits = .ok authors)
    (hfilter : EventCodec.filterToJson MESSAGE_EVENT_KIND authors = .ok filter)
    (hnew : state.Resubscribes installed authors force filter) (cell : PairwiseCell K T J P) :
    exec (refreshSubscriptionActions state installed force limits) cell =
      (.ok (state.withoutSubscriptions.withAction cell.world.uuids.head
          (.subscribe state.messageSubscriptionId filter), authors),
        { cell with world := { cell.world with uuids := cell.world.uuids.tail } }) := by
  obtain ⟨hsome, hchanged, hnotQueued⟩ := hnew
  have hqueued : ¬(installed = [] ∧ ((state.pendingActions.any (fun action =>
        action.kind = .subscribe state.messageSubscriptionId filter)) = true ∨
      (authors = [] ∧ (state.pendingActions.any (fun action =>
        action.kind = .unsubscribe state.messageSubscriptionId)) = true))) := by
    rintro ⟨hinstalled, hsub | ⟨hnone, -⟩⟩
    · refine hnotQueued ⟨hinstalled, ?_⟩
      simpa only [List.any_eq_true, decide_eq_true_eq] using hsub
    · exact hsome hnone
  have hsame : ¬((!force) = true ∧ authors = installed) := by
    rintro ⟨hforce, heq⟩
    obtain hforced | hne := hchanged
    · rw [hforced] at hforce
      cases hforce
    · exact hne heq
  have hopen : ¬(authors = [] ∧ installed ≠ []) := fun h => hsome h.1
  unfold refreshSubscriptionActions
  rw [exec_bind_ok (check_eq_ok.mpr ⟨hauthors, rfl⟩)]
  rw [exec_bind_ok (json_eq_ok.mpr ⟨hfilter, rfl⟩)]
  dsimp only
  rw [if_neg hqueued, if_neg hsame, if_neg hopen]
  refine (exec_bind_ok (exec_pure _ _) _).trans ?_
  rw [if_pos hsome]
  rfl

/-! Validating a journal with one more action. -/

private theorem validateAction_congr {state next : PairwiseState K T J} {limits : RuntimeLimits}
    (hpeers : next.peers = state.peers)
    (hid : next.messageSubscriptionId = state.messageSubscriptionId)
    (kind : PairwiseActionKind K T J) :
    next.validateAction limits kind = state.validateAction limits kind := by
  cases kind with
  | publish sessionId eventJson innerEventId =>
      unfold PairwiseState.validateAction PairwiseState.session PairwiseState.allSessions
      rw [hpeers]
  | outOfBand peer sessionId eventJson =>
      unfold PairwiseState.validateAction
      rw [hpeers]
  | subscribe id filter =>
      unfold PairwiseState.validateAction
      rw [hid]
  | unsubscribe id =>
      unfold PairwiseState.validateAction
      rw [hid]
  | delivery peer innerEventJson innerEventId outerEventId expiresAt => rfl

/-- The journal loop on a journal with one more action, whose id is new. -/
private theorem validateActions_append (state next : PairwiseState K T J) {limits : RuntimeLimits}
    (hlocal : next.localPubkey = state.localPubkey) (hpeers : next.peers = state.peers)
    (hid : next.messageSubscriptionId = state.messageSubscriptionId)
    {uuid : String} {kind : PairwiseActionKind K T J}
    (actions : List (PairwiseAction K T J)) (actionIds : List (PairwiseActionId K))
    (hfresh : ∀ action ∈ actions, action.id ≠ ⟨state.localPubkey, uuid⟩)
    (hunused : (⟨state.localPubkey, uuid⟩ : PairwiseActionId K) ∉ actionIds)
    (hvalid : state.validateActions limits actions actionIds = .ok ()) :
    next.validateActions limits (actions ++ [⟨⟨state.localPubkey, uuid⟩, kind⟩]) actionIds =
      next.validateAction limits kind := by
  induction actions generalizing actionIds with
  | nil =>
      change (if _ then _ else _) = _
      rw [if_neg (by
        rintro (hne | hmem)
        · exact hne hlocal.symm
        · exact hunused hmem)]
      cases next.validateAction limits kind with
      | error error => rfl
      | ok result => rfl
  | cons action rest ih =>
      unfold PairwiseState.validateActions at hvalid
      rw [List.cons_append]
      unfold PairwiseState.validateActions
      split at hvalid
      · cases hvalid
      · rename_i hkept
        rw [hlocal, if_neg hkept, validateAction_congr hpeers hid]
        obtain ⟨⟨⟩, haction, hrest⟩ := except_bind_eq_ok.mp hvalid
        rw [haction]
        refine ih (action.id :: actionIds) (fun other hother =>
          hfresh other (List.mem_cons_of_mem _ hother)) ?_ hrest
        intro hmem
        obtain heq | hmem := List.mem_cons.mp hmem
        · exact hfresh action List.mem_cons_self heq.symm
        · exact hunused hmem

private theorem validateSessions_congr {state next : PairwiseState K T J} {limits : RuntimeLimits}
    (hresponses : next.responseEventPeers = state.responseEventPeers) (peer : K)
    (sessions : List (SessionRecord K T J)) (handshakeIds : List K) :
    next.validateSessions limits peer sessions handshakeIds =
      state.validateSessions limits peer sessions handshakeIds := by
  induction sessions generalizing handshakeIds with
  | nil => rfl
  | cons session rest ih =>
      have hbound : next.sessionIsBound limits peer session =
          state.sessionIsBound limits peer session := by
        unfold PairwiseState.sessionIsBound
        rw [hresponses]
      unfold PairwiseState.validateSessions
      rw [hbound, ih]

private theorem validatePeers_congr {state next : PairwiseState K T J} {limits : RuntimeLimits}
    (hresponses : next.responseEventPeers = state.responseEventPeers)
    (peers : List (K × PeerState K T J)) (handshakeIds : List K) :
    next.validatePeers limits peers handshakeIds =
      state.validatePeers limits peers handshakeIds := by
  induction peers generalizing handshakeIds with
  | nil => rfl
  | cons entry rest ih =>
      obtain ⟨peer, peerState⟩ := entry
      unfold PairwiseState.validatePeers
      rw [validateSessions_congr hresponses]
      simp only [ih]

private theorem ite_error_eq_ok {ε : Type} {c : Prop} [Decidable c] {error : ε}
    {rest : Except ε Unit} :
    (if c then .error error else rest) = .ok () ↔ ¬c ∧ rest = .ok () := by
  split
  · rename_i hc
    simp [hc]
  · rename_i hc
    simp [hc]

/-- A valid state with one more subscribing action under a new id is valid when the action
is. -/
private theorem validate_withAction {state : PairwiseState K T J} {limits : RuntimeLimits}
    {publicKey : K} {uuid id : String} {filter : T}
    (hfresh : ∀ action ∈ state.pendingActions, action.id.uuid ≠ uuid)
    (hvalid : state.validate publicKey limits = .ok ()) :
    (state.withAction uuid (.subscribe id filter)).validate publicKey limits = .ok () ↔
      (state.withAction uuid (.subscribe id filter)).validateAction limits
        (.subscribe id filter) = .ok () := by
  have houtbound : (state.withAction uuid (.subscribe id filter)).pendingOutboundCount =
      state.pendingOutboundCount := by
    unfold PairwiseState.pendingOutboundCount PairwiseState.withAction
    rw [List.filter_append, List.length_append]
    rfl
  have hdelivery : (state.withAction uuid (.subscribe id filter)).pendingDeliveryCount =
      state.pendingDeliveryCount := by
    unfold PairwiseState.pendingDeliveryCount PairwiseState.withAction
    rw [List.filter_append, List.length_append]
    rfl
  have hactions : ∀ u, state.validateActions limits state.pendingActions [] = .ok u →
      (state.withAction uuid (.subscribe id filter)).validateActions limits
        (state.withAction uuid (.subscribe id filter)).pendingActions [] =
      (state.withAction uuid (.subscribe id filter)).validateAction limits
        (.subscribe id filter) := by
    intro u hu
    refine validateActions_append state (state.withAction uuid (.subscribe id filter)) rfl rfl
      rfl state.pendingActions [] ?_ List.not_mem_nil hu
    intro action haction heq
    exact hfresh action haction (congrArg PairwiseActionId.uuid heq)
  unfold PairwiseState.validate at hvalid ⊢
  simp only [ite_error_eq_ok, except_bind_eq_ok] at hvalid ⊢
  obtain ⟨h1, h2, h3, h4, h5, h6, h7, h8, h9, h10, h11, h12, u, hu, v, hv, h13⟩ := hvalid
  constructor
  · rintro ⟨-, -, -, -, -, -, -, -, -, -, -, -, u', hu', -⟩
    rw [hactions u hu] at hu'
    exact hu'
  · intro haction
    refine ⟨h1, h2, h3, h4, ?_, ?_, h7, h8, h9, h10, h11, h12, (), ?_, v, ?_, h13⟩
    · rw [houtbound]
      exact h5
    · rw [hdelivery]
      exact h6
    · rw [hactions u hu]
      exact haction
    · have hpeers : (state.withAction uuid (.subscribe id filter)).responseEventPeers =
          state.responseEventPeers := rfl
      exact (validatePeers_congr hpeers _ _).trans hv

/-- A refresh that subscribes to new authors queues one action for it. That action is valid,
and a journal that is valid without it stays so, exactly when the JSON of the authors is no
longer than an event may be. -/
theorem subscribe_valid_iff (hjson : FilterLaw K T J) (limits : RuntimeLimits)
    (state : PairwiseState K T J) (authors : List K)
    (hauthors : messageAuthors state limits = .ok authors) (filter : T)
    (hfilter : EventCodec.filterToJson (J := J) MESSAGE_EVENT_KIND authors = .ok filter)
    (installed : List K) (force : Bool)
    (hnew : state.Resubscribes installed authors force filter) (cell : PairwiseCell K T J P) :
    ∃ next action cell',
      exec (refreshSubscriptionActions state installed force limits) cell =
        (.ok (next, authors), cell') ∧
      next.subscriptionActions = [action] ∧
      action.kind = .subscribe state.messageSubscriptionId filter ∧
      (next.validateAction limits action.kind = .ok () ↔
        67 * authors.length + 28 ≤ limits.maxEventBytes) ∧
      ∀ publicKey, state.withoutSubscriptions.validate publicKey limits = .ok () →
        (∀ pending ∈ state.pendingActions, pending.id.uuid ≠ cell.world.uuids.head) →
        (next.validate publicKey limits = .ok () ↔
          67 * authors.length + 28 ≤ limits.maxEventBytes) := by
  have hlength := hjson.length authors filter hnew.1 hfilter
  unfold filterJsonLength at hlength
  have haction : (state.withoutSubscriptions.withAction cell.world.uuids.head
      (.subscribe state.messageSubscriptionId filter)).validateAction limits
        (.subscribe state.messageSubscriptionId filter) = .ok () ↔
      67 * authors.length + 28 ≤ limits.maxEventBytes := by
    change (if state.messageSubscriptionId ≠ state.messageSubscriptionId ∨
      EventCodec.textLength K (J := J) filter > limits.maxEventBytes then _ else _) = _ ↔ _
    rw [ite_error_eq_ok, hlength]
    simp
  refine ⟨_, ⟨⟨state.localPubkey, cell.world.uuids.head⟩, _⟩, _,
    exec_refreshSubscriptionActions_opened hauthors hfilter hnew cell, ?_, rfl, haction, ?_⟩
  · exact subscriptionActions_renewed (by simp [isSubscriptionAction])
  · intro publicKey hvalid hfresh
    rw [validate_withAction ?_ hvalid]
    · exact haction
    · intro action hmem
      exact hfresh action (PairwiseState.mem_withoutSubscriptions.mp hmem).1

end

namespace Symbolic

/-- The codec with filters as long as their JSON. -/
@[reducible] def filterCodec : EventCodec KeyTerm TextTerm PairwiseJson :=
  { eventCodec with
    filterToJson := fun _ authors => .ok (authors.foldr (fun author rest =>
      .payload author rest none none) (.bytes "\x7b\"authors\":],\"kinds\":[1060]\x7d")) }

attribute [local instance] pairwiseRumors filterCodec

private theorem textLength_filter (authors : List KeyTerm) :
    textLength (authors.foldr (fun author rest => .payload author rest none none)
      (.bytes "\x7b\"authors\":],\"kinds\":[1060]\x7d")) = filterJsonLength authors.length := by
  induction authors with
  | nil => decide
  | cons author rest ih =>
      rw [List.foldr_cons]
      change 67 + textLength _ = _
      rw [ih, List.length_cons]
      unfold filterJsonLength
      omega

theorem filterLaw : FilterLaw KeyTerm TextTerm PairwiseJson where
  total authors := ⟨_, rfl⟩
  length authors filter _ hfilter := by
    cases hfilter
    exact textLength_filter authors

/-- The key the numbered peer writes under next. -/
def peerSessionKey (number : Nat) : KeyTerm := .point (.secret (10000 + number))

/-- A session in which the numbered peer has not written yet. -/
def quietSession (number : Nat) : SessionRecord KeyTerm TextTerm PairwiseJson where
  handshakeId := .digest (toString number)
  handshakeCreatedAt := 5
  state := {
    metadataPrivacyVersion := METADATA_PRIVACY_VERSION
    rootKey := .secret number
    theirCurrentNostrPublicKey := none
    theirNextNostrPublicKey := some ⟨peerSessionKey number⟩
    ourPreviousNostrKey := none
    ourCurrentNostrKey := some ⟨⟨.point (.secret 4)⟩, .secret 4⟩
    ourNextNostrKey := ⟨⟨.point (.secret 5)⟩, .secret 5⟩
    receivingChainKey := none
    sendingChainKey := some (.secret 6)
    sendingChainMessageNumber := 0
    receivingChainMessageNumber := 0
    previousSendingChainMessageCount := 0
    skippedKeys := SortedMap.empty }
  inviteResponseEventJson := none
  bootstrapEventJson := none
  acceptedResponseEventId := none

/-- A manager's state with a session for each of `count` peers. -/
def crowdedState (count : Nat) : PairwiseState KeyTerm TextTerm PairwiseJson :=
  { PairwiseState.new (identity 0) (pairwiseInvite 0 1) "state" with
    peers := SortedMap.ofList ((List.range count).map (fun number =>
      (identity (number + 1), ⟨identity (number + 1), [quietSession number]⟩))) }

private theorem crowdedState_peer {count : Nat} {peer : KeyTerm}
    {peerState : PeerState KeyTerm TextTerm PairwiseJson} :
    (crowdedState count).peers.get? peer = some peerState ↔
      ∃ number < count, peer = identity (number + 1) ∧
        peerState = ⟨identity (number + 1), [quietSession number]⟩ := by
  have hlisted : ∀ {key value}, (crowdedState count).peers.get? key = some value →
      ∃ number < count, key = identity (number + 1) ∧
        value = ⟨identity (number + 1), [quietSession number]⟩ := by
    intro key value hget
    obtain ⟨number, hnumber, heq⟩ := List.mem_map.mp (SortedMap.mem_of_get?_ofList hget)
    obtain ⟨hkey, hvalue⟩ := Prod.mk.inj heq
    exact ⟨number, List.mem_range.mp hnumber, hkey.symm, hvalue.symm⟩
  constructor
  · exact hlisted
  · rintro ⟨number, hnumber, rfl, rfl⟩
    have hkey : identity (number + 1) ∈ (crowdedState count).peers.keys := by
      refine SortedMap.mem_keys_ofList.mpr (List.mem_map.mpr ⟨_, List.mem_map.mpr
        ⟨number, List.mem_range.mpr hnumber, rfl⟩, rfl⟩)
    obtain ⟨value, hvalue⟩ := SortedMap.mem_keys.mp hkey
    obtain ⟨other, -, hother, rfl⟩ := hlisted hvalue
    have hsame : number = other := by
      unfold identity at hother
      injection hother with hsecret
      injection hsecret with hnumber
      omega
    rw [hvalue, hsame]

private theorem mem_authorSet_crowdedState {count : Nat} {author : KeyTerm} :
    author ∈ (crowdedState count).authorSet ↔
      ∃ number < count, author = peerSessionKey number := by
  rw [PairwiseState.mem_authorSet]
  constructor
  · rintro ⟨peer, peerState, hget, hauthor⟩
    obtain ⟨number, hnumber, rfl, rfl⟩ := crowdedState_peer.mp hget
    obtain ⟨record, hrecord, device, hdevice, hkey⟩ := mem_trackedSenderPubkeys.mp hauthor
    rw [List.mem_singleton.mp hrecord] at hdevice
    obtain ⟨-, hcurrent | hnext | hskipped⟩ := mem_sessionSenderKeys.mp hdevice
    · cases hcurrent
    · cases hnext
      cases hkey
      exact ⟨number, hnumber, rfl⟩
    · cases hskipped
  · rintro ⟨number, hnumber, rfl⟩
    refine ⟨_, _, crowdedState_peer.mpr ⟨number, hnumber, rfl, rfl⟩, ?_⟩
    exact mem_trackedSenderPubkeys.mpr ⟨_, List.mem_singleton_self _, ⟨peerSessionKey number⟩,
      mem_sessionSenderKeys.mpr ⟨rfl, Or.inr (Or.inl rfl)⟩, rfl⟩

private theorem length_authorSet_crowdedState (count : Nat) :
    (crowdedState count).authorSet.length = count := by
  have hnodup : ((List.range count).map peerSessionKey).Nodup := by
    refine (List.nodup_range).map ?_
    intro a b hab
    unfold peerSessionKey at hab
    injection hab with hsecret
    injection hsecret with hnumber
    omega
  have hperm : (crowdedState count).authorSet.toList.Perm
      ((List.range count).map peerSessionKey) := by
    refine (List.perm_ext_iff_of_nodup (SortedSet.nodup_toList _) hnodup).mpr fun author => ?_
    rw [SortedSet.mem_toList, mem_authorSet_crowdedState, List.mem_map]
    constructor
    · rintro ⟨number, hnumber, rfl⟩
      exact ⟨number, List.mem_range.mpr hnumber, rfl⟩
    · rintro ⟨number, hnumber, rfl⟩
      exact ⟨number, List.mem_range.mp hnumber, rfl⟩
  rw [← SortedSet.length_toList, hperm.length_eq, List.length_map, List.length_range]

private theorem messageAuthors_crowdedState {count : Nat} {limits : RuntimeLimits}
    (hcount : count ≤ limits.maxSubscriptionAuthors) :
    messageAuthors (crowdedState count) limits = .ok (crowdedState count).authorSet.toList := by
  rw [messageAuthors_eq, length_authorSet_crowdedState, if_pos hcount]

private theorem resubscribes_crowdedState {count : Nat} (hcount : 0 < count) (filter : TextTerm) :
    (crowdedState count).Resubscribes [] (crowdedState count).authorSet.toList true filter := by
  refine ⟨?_, Or.inl rfl, ?_⟩
  · intro hnil
    have hlength := length_authorSet_crowdedState count
    rw [← SortedSet.length_toList, hnil] at hlength
    rw [List.length_nil] at hlength
    omega
  · rintro ⟨-, action, haction, -⟩
    cases haction

/-- A manager that holds `state`. -/
def managerOf (state : PairwiseState KeyTerm TextTerm PairwiseJson) :
    PairwiseCell KeyTerm TextTerm PairwiseJson SealedState where
  manager := ⟨.secret 0, state, RuntimeLimits.standard, []⟩
  world := pairwiseWorld 100 (fun _ => false)

private theorem crowd_rejected {count : Nat} (hsome : 0 < count)
    (hcount : count ≤ RuntimeLimits.standard.maxSubscriptionAuthors)
    (hlong : RuntimeLimits.standard.maxEventBytes < filterJsonLength count) :
    ∃ authors, messageAuthors (crowdedState count) RuntimeLimits.standard = .ok authors ∧
      authors.length = count ∧
      ∃ next action cell',
        Program.exec (refreshSubscriptionActions (crowdedState count) [] true
          RuntimeLimits.standard) (managerOf (crowdedState count)) =
            (.ok (next, authors), cell') ∧
        next.subscriptionActions = [action] ∧
        next.validateAction RuntimeLimits.standard action.kind ≠ .ok () := by
  have hauthors := messageAuthors_crowdedState hcount
  have hlength : (crowdedState count).authorSet.toList.length = count := by
    rw [SortedSet.length_toList, length_authorSet_crowdedState]
  have hnew := resubscribes_crowdedState hsome
  generalize (crowdedState count).authorSet.toList = authors at hauthors hlength hnew
  obtain ⟨filter, hfilter⟩ := filterLaw.total authors
  refine ⟨authors, hauthors, hlength, _, _, _,
    exec_refreshSubscriptionActions_opened hauthors hfilter (hnew filter) _,
    subscriptionActions_renewed (by simp [isSubscriptionAction]), ?_⟩
  intro hvalid
  have hsize := filterLaw.length authors filter (hnew filter).1 hfilter
  rw [hlength] at hsize
  refine (ite_error_eq_ok.mp hvalid).1 (Or.inr ?_)
  rw [hsize]
  exact hlong

/-- Within the standard limits a manager may have 978 peers to listen to, and cannot subscribe
to them. -/
theorem subscription_of_978_invalid :
    (RuntimeLimits.standard.validate : Except (PairwiseError KeyTerm) Unit) = .ok () ∧
    ∃ authors, messageAuthors (crowdedState 978) RuntimeLimits.standard = .ok authors ∧
      authors.length = 978 ∧
      ∃ next action cell',
        Program.exec (refreshSubscriptionActions (crowdedState 978) [] true
          RuntimeLimits.standard) (managerOf (crowdedState 978)) =
            (.ok (next, authors), cell') ∧
        next.subscriptionActions = [action] ∧
        next.validateAction RuntimeLimits.standard action.kind ≠ .ok () :=
  ⟨rfl, crowd_rejected (by decide) (by decide) (by decide)⟩

/-- One peer to listen to. -/
theorem subscription_of_one_valid :
    ∃ next action cell',
      Program.exec (refreshSubscriptionActions (crowdedState 1) [] true RuntimeLimits.standard)
        (managerOf (crowdedState 1)) =
          (.ok (next, [peerSessionKey 0]), cell') ∧
      next.subscriptionActions = [action] ∧
      action.kind = .subscribe (crowdedState 1).messageSubscriptionId
        (.payload (peerSessionKey 0) (.bytes "\x7b\"authors\":],\"kinds\":[1060]\x7d") none none) ∧
      (next.validateAction RuntimeLimits.standard action.kind = .ok () ↔
        67 * 1 + 28 ≤ RuntimeLimits.standard.maxEventBytes) ∧
      ∀ publicKey, (crowdedState 1).withoutSubscriptions.validate publicKey
          RuntimeLimits.standard = .ok () →
        (∀ pending ∈ (crowdedState 1).pendingActions, pending.id.uuid ≠
          (managerOf (crowdedState 1)).world.uuids.head) →
        (next.validate publicKey RuntimeLimits.standard = .ok () ↔
          67 * 1 + 28 ≤ RuntimeLimits.standard.maxEventBytes) :=
  subscribe_valid_iff filterLaw RuntimeLimits.standard (crowdedState 1) [peerSessionKey 0]
    (by decide +kernel) _ rfl [] true
    ⟨List.cons_ne_nil _ _, Or.inl rfl, fun h => by
      obtain ⟨-, action, haction, -⟩ := h
      cases haction⟩
    (managerOf (crowdedState 1))

end Symbolic

end NostrDoubleRatchet
