import NostrDoubleRatchet.Pairwise.Authors

/-!
The message subscription in the journal of a pairwise manager. Only a refresh touches the
actions on it, and a refresh leaves the pending action alone or puts in its place the one
that describes the authors of the state.
-/

namespace NostrDoubleRatchet

set_option linter.unusedSectionVars false

section

variable {K T J P : Type} [LinearOrder K] [DecidableEq T] [DecidableEq J] [Primitives K T]
  [InvitePrimitives K T] [PairwiseCodec.RumorPrimitives K T] [EventCodec K T J]
  [StateSeal K T J P]

open Program PairwiseM PairwiseManager

/-- The pending actions on the message subscription. -/
def PairwiseState.subscriptionActions (state : PairwiseState K T J) :
    List (PairwiseAction K T J) :=
  state.pendingActions.filter (fun action =>
    isSubscriptionAction state.messageSubscriptionId action.kind)

/-- Carrying the action out leaves the host subscribed to exactly these authors. -/
def PairwiseActionKind.Describes (subscriptionId : String) (authors : List K) :
    PairwiseActionKind K T J → Prop
  | .subscribe id filter => id = subscriptionId ∧ authors ≠ [] ∧
      EventCodec.filterToJson MESSAGE_EVENT_KIND authors = .ok filter
  | .unsubscribe id => id = subscriptionId ∧ authors = []
  | _ => False

/-- The journal asks for the authors of its state, at most once. -/
structure PairwiseState.Tidy (state : PairwiseState K T J) : Prop where
  once : state.subscriptionActions.length ≤ 1
  describes : ∀ action ∈ state.subscriptionActions,
    action.kind.Describes state.messageSubscriptionId state.authorSet.toList

/-! What the changes do to the subscription. -/

/-- The two states agree on the subscription and its actions. -/
structure PairwiseState.SameSubscription (state next : PairwiseState K T J) : Prop where
  id : next.messageSubscriptionId = state.messageSubscriptionId
  actions : next.subscriptionActions = state.subscriptionActions

namespace PairwiseState.SameSubscription

variable {state next last : PairwiseState K T J}

theorem refl (state : PairwiseState K T J) : state.SameSubscription state := ⟨rfl, rfl⟩

theorem trans (h : state.SameSubscription next) (h' : next.SameSubscription last) :
    state.SameSubscription last :=
  ⟨h'.id.trans h.id, h'.actions.trans h.actions⟩

/-- A journal without some actions that are not about the subscription. -/
theorem of_filter {keep : PairwiseAction K T J → Bool}
    (hid : next.messageSubscriptionId = state.messageSubscriptionId)
    (hactions : next.pendingActions = state.pendingActions.filter keep)
    (hkeep : ∀ action, isSubscriptionAction state.messageSubscriptionId action.kind = true →
      keep action = true) : state.SameSubscription next := by
  refine ⟨hid, ?_⟩
  unfold subscriptionActions
  rw [hid, hactions, List.filter_filter]
  refine List.filter_congr fun action _ => ?_
  cases hsub : isSubscriptionAction state.messageSubscriptionId action.kind with
  | false => rfl
  | true => exact hkeep action hsub

/-- A journal with more actions that are not about the subscription. -/
theorem of_append {more : List (PairwiseAction K T J)}
    (hid : next.messageSubscriptionId = state.messageSubscriptionId)
    (hactions : next.pendingActions = state.pendingActions ++ more)
    (hmore : ∀ action ∈ more, action.kind.IsContent) : state.SameSubscription next := by
  refine ⟨hid, ?_⟩
  have hnone : more.filter (fun action =>
      isSubscriptionAction state.messageSubscriptionId action.kind) = [] := by
    refine List.filter_eq_nil_iff.mpr fun action haction => ?_
    rw [hmore action haction]
    exact Bool.false_ne_true
  unfold subscriptionActions
  rw [hid, hactions, List.filter_append, hnone, List.append_nil]

theorem of_eq (hid : next.messageSubscriptionId = state.messageSubscriptionId)
    (hactions : next.pendingActions = state.pendingActions) : state.SameSubscription next := by
  refine ⟨hid, ?_⟩
  unfold subscriptionActions
  rw [hid, hactions]

theorem withAction {kind : PairwiseActionKind K T J} (hcontent : kind.IsContent)
    (state : PairwiseState K T J) (uuid : String) :
    state.SameSubscription (state.withAction uuid kind) := by
  refine of_append rfl rfl ?_
  intro action haction
  rw [List.mem_singleton.mp haction]
  exact hcontent

end PairwiseState.SameSubscription

/-- How a committed change treats the subscription. -/
inductive SubscriptionEffect (manager : PairwiseManager K T J) (op : PairwiseOp K T) :
    PairwiseState K T J → List K → Prop
  | kept {next : PairwiseState K T J} (hsame : manager.state.SameSubscription next)
      (hauthors : next.authorSet = manager.state.authorSet) :
      SubscriptionEffect manager op next manager.installedMessageAuthors
  | acked {actionIds : List (PairwiseActionId K)} (hop : op = .ackActions actionIds) :
      SubscriptionEffect manager op
        { manager.state with
          pendingActions := manager.state.pendingActions.filter (fun action =>
            action.id ∉ actionIds) } manager.installedMessageAuthors
  | refreshed {base next : PairwiseState K T J} {authors : List K}
      (hsame : manager.state.SameSubscription base)
      (hrefresh : Refreshed base manager.installedMessageAuthors false manager.limits next
        authors) :
      SubscriptionEffect manager op next authors

private theorem isContent_outOfBand (peer sessionId : K) (eventJson : J) :
    (PairwiseActionKind.outOfBand peer sessionId eventJson :
      PairwiseActionKind K T J).IsContent :=
  fun _ => rfl

private theorem isContent_publish (sessionId : K) (eventJson : J) (innerEventId : Option K) :
    (PairwiseActionKind.publish sessionId eventJson innerEventId :
      PairwiseActionKind K T J).IsContent :=
  fun _ => rfl

private theorem isContent_delivery (peer : K) (innerEventJson : T) (innerEventId outerEventId : K)
    (expiresAt : Option UInt64) :
    (PairwiseActionKind.delivery peer innerEventJson innerEventId outerEventId expiresAt :
      PairwiseActionKind K T J).IsContent :=
  fun _ => rfl

private theorem actionSessionId_subscription {subscriptionId : String}
    {kind : PairwiseActionKind K T J} (h : isSubscriptionAction subscriptionId kind = true) :
    actionSessionId kind = none := by
  cases kind with
  | publish sessionId eventJson innerEventId => cases h
  | outOfBand peer sessionId eventJson => cases h
  | subscribe pending filter => rfl
  | unsubscribe pending => rfl
  | delivery peer innerEventJson innerEventId outerEventId expiresAt => cases h

private theorem sameSubscription_retireSessions (state : PairwiseState K T J)
    (retired : List (SessionRecord K T J)) :
    state.SameSubscription (retireSessions state retired) := by
  refine PairwiseState.SameSubscription.of_filter rfl rfl ?_
  intro action haction
  rw [actionSessionId_subscription haction]
  rfl

private theorem sameSubscription_install {state base : PairwiseState K T J}
    {limits : RuntimeLimits} {peer : K} {record : SessionRecord K T J} {created : Bool}
    (h : state.install limits peer record = .ok (base, created)) :
    state.SameSubscription base := by
  unfold PairwiseState.install at h
  obtain ⟨⟨installed, made, retired⟩, -, hpure⟩ := except_bind_eq_ok.mp h
  cases hpure
  have hretired := sameSubscription_retireSessions
    { state with peers := state.peers.insert peer installed } retired
  exact ⟨hretired.id, hretired.actions⟩

private theorem sameSubscription_advanced {state advanced : PairwiseState K T J} {peer : K}
    {index : Nat} {nextState : SessionState K}
    (h : state.setSessionState peer index nextState = .ok advanced) :
    state.SameSubscription advanced := by
  obtain ⟨peerState, record, -, -, rfl⟩ := PairwiseState.setSessionState_ok h
  exact PairwiseState.SameSubscription.of_eq rfl rfl

private theorem sameSubscription_withMessage (state : PairwiseState K T J)
    (eventId innerEventId : K) (limits : RuntimeLimits) :
    state.SameSubscription (state.withMessage eventId innerEventId limits) := by
  rw [PairwiseState.withMessage_rest]
  exact PairwiseState.SameSubscription.of_eq rfl rfl

private theorem sameSubscription_withResponse (state : PairwiseState K T J) (eventId peer : K)
    (limit : Nat) : state.SameSubscription (state.withResponse eventId peer limit) := by
  rw [PairwiseState.withResponse_rest]
  exact PairwiseState.SameSubscription.of_eq rfl rfl

theorem PairwiseChange.subscriptionEffect {manager : PairwiseManager K T J} {rng : Rng K}
    {op : PairwiseOp K T} {next : PairwiseState K T J} {authors : List K}
    (h : PairwiseChange manager rng op next authors) :
    SubscriptionEffect manager op next authors := by
  cases h with
  | requeued hanswered hqueued =>
      refine SubscriptionEffect.kept (PairwiseState.SameSubscription.of_append rfl rfl ?_)
        (PairwiseState.authorSet_congr rfl)
      intro action haction
      rcases hqueued action haction with hkind | hkind
      · rw [hkind]
        exact isContent_outOfBand _ _ _
      · rw [hkind]
        exact isContent_publish _ _ _
  | answered hpeer hunanswered hopened hinstall hrefresh =>
      refine SubscriptionEffect.refreshed ?_ hrefresh
      exact ((sameSubscription_install hinstall).trans
        (PairwiseState.SameSubscription.withAction (isContent_outOfBand _ _ _) _ _)).trans
        (PairwiseState.SameSubscription.withAction (isContent_publish _ _ _) _ _)
  | bound hparse hunseen hprocess hpeer hinstall hrefresh =>
      refine SubscriptionEffect.refreshed ?_ hrefresh
      have hinstalled := sameSubscription_install hinstall
      exact (PairwiseState.SameSubscription.mk hinstalled.id hinstalled.actions :
        manager.state.SameSubscription _).trans (sameSubscription_withResponse _ _ _ _)
  | sent hop hstate hindex hrecord hencrypted hadvanced =>
      have hmoved := sameSubscription_advanced hadvanced
      refine SubscriptionEffect.kept (PairwiseState.SameSubscription.trans ?_
        (PairwiseState.SameSubscription.withAction (isContent_publish _ _ _) _ _)) ?_
      · exact ⟨hmoved.id, hmoved.actions⟩
      · exact (PairwiseState.setSessionState_ok hadvanced).authorSet_eq ⟨_, hstate, hrecord⟩
          hencrypted.sessionSenderKeys_eq
  | delivered hunseen hparse hselected hdecoded hauthor hinner hinnerJson hadvanced halive hnew
      hroom hrefresh =>
      refine SubscriptionEffect.refreshed ?_ hrefresh
      exact ((sameSubscription_advanced hadvanced).trans
        (sameSubscription_withMessage _ _ _ _)).trans
        (PairwiseState.SameSubscription.withAction (isContent_delivery _ _ _ _ _) _ _)
  | absorbed hunseen hparse hselected hdecoded hauthor hinner hadvanced hskipped hrefresh =>
      refine SubscriptionEffect.refreshed ?_ hrefresh
      exact (sameSubscription_advanced hadvanced).trans (sameSubscription_withMessage _ _ _ _)
  | pruned =>
      refine SubscriptionEffect.kept (PairwiseState.SameSubscription.of_filter rfl rfl ?_)
        (PairwiseState.authorSet_congr rfl)
      intro action haction
      cases hkind : action.kind with
      | delivery peer innerEventJson innerEventId outerEventId expiresAt =>
          rw [hkind] at haction
          cases haction
      | publish sessionId eventJson innerEventId => rfl
      | outOfBand peer sessionId eventJson => rfl
      | subscribe pending filter => rfl
      | unsubscribe pending => rfl
  | acked => exact SubscriptionEffect.acked rfl
  | @retired peer peerState next authors hstate hrefresh =>
      refine SubscriptionEffect.refreshed ?_ hrefresh
      have hretired := sameSubscription_retireSessions
        { manager.state with peers := manager.state.peers.erase peer } peerState.sessions
      refine (PairwiseState.SameSubscription.mk hretired.id hretired.actions :
        manager.state.SameSubscription _).trans
        (PairwiseState.SameSubscription.of_filter rfl rfl ?_)
      intro action haction
      cases hkind : action.kind with
      | delivery sender innerEventJson innerEventId outerEventId expiresAt =>
          rw [hkind] at haction
          cases haction
      | publish sessionId eventJson innerEventId => rfl
      | outOfBand target sessionId eventJson => rfl
      | subscribe pending filter => rfl
      | unsubscribe pending => rfl

/-! Refreshing a tidy journal. -/

private theorem subscriptionActions_withoutSubscriptions (state : PairwiseState K T J) :
    state.withoutSubscriptions.subscriptionActions = [] := by
  refine List.filter_eq_nil_iff.mpr fun action haction htrue => ?_
  exact Bool.false_ne_true ((PairwiseState.mem_withoutSubscriptions.mp haction).2.symm.trans htrue)

theorem subscriptionActions_renewed {state : PairwiseState K T J} {uuid : String}
    {kind : PairwiseActionKind K T J}
    (hkind : isSubscriptionAction state.messageSubscriptionId kind = true) :
    (state.withoutSubscriptions.withAction uuid kind).subscriptionActions =
      [⟨⟨state.localPubkey, uuid⟩, kind⟩] := by
  have hnone : state.withoutSubscriptions.pendingActions.filter (fun action =>
      isSubscriptionAction state.messageSubscriptionId action.kind) = [] :=
    subscriptionActions_withoutSubscriptions state
  have hone : [(⟨⟨state.localPubkey, uuid⟩, kind⟩ : PairwiseAction K T J)].filter (fun action =>
      isSubscriptionAction state.messageSubscriptionId action.kind) =
        [⟨⟨state.localPubkey, uuid⟩, kind⟩] := by
    simp [hkind]
  change (state.withoutSubscriptions.pendingActions ++
    [(⟨⟨state.localPubkey, uuid⟩, kind⟩ : PairwiseAction K T J)]).filter
    (fun action => isSubscriptionAction state.messageSubscriptionId action.kind) = _
  rw [List.filter_append, hnone, hone, List.nil_append]

theorem Refreshed.subscriptionId_eq {state next : PairwiseState K T J} {installed : List K}
    {force : Bool} {limits : RuntimeLimits} {authors : List K}
    (h : Refreshed state installed force limits next authors) :
    next.messageSubscriptionId = state.messageSubscriptionId := by
  have hjournal := h.sameButJournal
  rw [PairwiseState.SameButJournal] at hjournal
  rw [hjournal]

/-- A refresh keeps the pending action, or queues the one the authors need, or finds that
no author is left and nobody to tell. -/
theorem Refreshed.subscriptionActions {state next : PairwiseState K T J} {installed : List K}
    {force : Bool} {limits : RuntimeLimits} {authors : List K}
    (h : Refreshed state installed force limits next authors) :
    (next = state ∧ (authors = installed ∧ force = false ∨ installed = [] ∧
      ∃ action ∈ state.subscriptionActions,
        action.kind.Describes state.messageSubscriptionId authors ∨
        ∃ filter, action.kind = .subscribe state.messageSubscriptionId filter ∧
          EventCodec.filterToJson MESSAGE_EVENT_KIND authors = .ok filter)) ∨
    (next.subscriptionActions = [] ∧ authors = [] ∧ installed = [] ∧ force = true) ∨
    ∃ action, next.subscriptionActions = [action] ∧
      action.kind.Describes state.messageSubscriptionId authors := by
  cases h with
  | @queued authors filter hauthors hfilter hinstalled hpending =>
      refine Or.inl ⟨rfl, Or.inr ⟨hinstalled, ?_⟩⟩
      rcases hpending with ⟨action, haction, hkind⟩ | ⟨hnone, action, haction, hkind⟩
      · refine ⟨action, List.mem_filter.mpr ⟨haction, ?_⟩, Or.inr ⟨filter, hkind, hfilter⟩⟩
        rw [hkind]
        exact decide_eq_true rfl
      · refine ⟨action, List.mem_filter.mpr ⟨haction, ?_⟩, Or.inl ?_⟩
        · rw [hkind]
          exact decide_eq_true rfl
        · rw [hkind]
          exact ⟨rfl, hnone⟩
  | same hauthors hforce hinstalled => exact Or.inl ⟨rfl, Or.inl ⟨hinstalled, hforce⟩⟩
  | closed uuid hauthors hinstalled =>
      refine Or.inr (Or.inr ⟨_, subscriptionActions_renewed (decide_eq_true rfl), ?_⟩)
      exact ⟨rfl, rfl⟩
  | cleared hauthors hinstalled hforce =>
      exact Or.inr (Or.inl ⟨subscriptionActions_withoutSubscriptions state, rfl, hinstalled,
        hforce⟩)
  | opened uuid hauthors hsome hfilter =>
      refine Or.inr (Or.inr ⟨_, subscriptionActions_renewed (decide_eq_true rfl), ?_⟩)
      exact ⟨rfl, hsome, hfilter⟩

/-- The refresh at the end of an operation, over a journal that describes what the manager
has installed. -/
theorem Refreshed.of_installed {state next : PairwiseState K T J} {installed : List K}
    {limits : RuntimeLimits} {authors : List K}
    (h : Refreshed state installed false limits next authors)
    (hdescribes : ∀ action ∈ state.subscriptionActions,
      action.kind.Describes state.messageSubscriptionId installed) :
    (next.subscriptionActions = state.subscriptionActions ∧ authors = installed) ∨
    ∃ action, next.subscriptionActions = [action] ∧
      action.kind.Describes state.messageSubscriptionId authors := by
  rcases h.subscriptionActions with ⟨rfl, ⟨hsame, -⟩ | ⟨hinstalled, action, haction, hkind⟩⟩ |
    ⟨-, -, -, hforce⟩ | hnew
  · exact Or.inl ⟨rfl, hsame⟩
  · refine Or.inl ⟨rfl, ?_⟩
    have hwas := hdescribes action haction
    rw [hinstalled] at hwas ⊢
    cases hshape : action.kind with
    | subscribe id filter =>
        rw [hshape] at hwas
        exact absurd rfl hwas.2.1
    | unsubscribe id =>
        rw [hshape] at hkind
        rcases hkind with hkind | ⟨filter, hkind, -⟩
        · exact hkind.2
        · cases hkind
    | publish sessionId eventJson innerEventId =>
        rw [hshape] at hwas
        exact hwas.elim
    | outOfBand peer sessionId eventJson =>
        rw [hshape] at hwas
        exact hwas.elim
    | delivery peer innerEventJson innerEventId outerEventId expiresAt =>
        rw [hshape] at hwas
        exact hwas.elim
  · cases hforce
  · exact Or.inr hnew

end

end NostrDoubleRatchet
