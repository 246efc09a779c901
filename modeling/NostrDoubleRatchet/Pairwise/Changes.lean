import NostrDoubleRatchet.Pairwise.Steps

/-!
The operations a host calls on a pairwise manager, as data, with every state each of them
may commit. A successful operation has committed one of these changes or has left the
manager and the store alone; a failed one has always left them alone.
-/

namespace NostrDoubleRatchet

set_option linter.unusedSectionVars false

inductive PairwiseOp (K T : Type) where
  | acceptInvite (invite : Invite K T) (peer : K) (now : UInt64)
  | processOutOfBandResponse (event : SignedEvent K T) (peer : K)
  | sendText (peer : K) (text : String) (expiresAt : Option UInt64) (now millis : UInt64)
  | sendUnsignedEvent (peer : K) (inner : PairwiseCodec.UnsignedEvent K) (now : UInt64)
  | processEventAt (event : SignedEvent K T) (now : UInt64)
  | pendingActionsAt (now : UInt64)
  | ackActions (actionIds : List (PairwiseActionId K))
  | retirePeer (peer : K)

inductive PairwiseOutput (K T J : Type) where
  | accepted (result : PairwiseAcceptResult K)
  | sent (result : PairwiseSendResult K)
  | actions (pending : List (PairwiseAction K T J))
  | retired (known : Bool)
  | done

section

variable {K T J P : Type} [LinearOrder K] [DecidableEq T] [DecidableEq J] [Primitives K T]
  [InvitePrimitives K T] [PairwiseCodec.RumorPrimitives K T] [EventCodec K T J]
  [StateSeal K T J P]

open Program PairwiseM PairwiseManager

namespace PairwiseOp

def run : PairwiseOp K T → PairwiseM K T J P (PairwiseOutput K T J)
  | acceptInvite invite peer now => .accepted <$> PairwiseManager.acceptInvite invite peer now
  | processOutOfBandResponse event peer => do
      PairwiseManager.processOutOfBandResponse event peer
      pure .done
  | sendText peer text expiresAt now millis =>
      .sent <$> PairwiseManager.sendText peer text expiresAt now millis
  | sendUnsignedEvent peer inner now =>
      .sent <$> PairwiseManager.sendUnsignedEvent peer inner now
  | processEventAt event now => do
      PairwiseManager.processEventAt event now
      pure .done
  | pendingActionsAt now => .actions <$> PairwiseManager.pendingActionsAt now
  | ackActions actionIds => do
      PairwiseManager.ackActions actionIds
      pure .done
  | retirePeer peer => .retired <$> PairwiseManager.retirePeer peer

/-- The operation sends to the peer. -/
def SendsTo (peer : K) : PairwiseOp K T → Prop
  | sendText target _ _ _ _ => target = peer
  | sendUnsignedEvent target _ _ => target = peer
  | _ => False

end PairwiseOp

/-- A message event made from a session state, which becomes `nextState`. -/
inductive Encrypted (state nextState : SessionState K) (payload : T) (now : UnixSeconds) :
    SignedEvent K T → J → Prop
  | intro {bodyNonce headerNonce aux : K} {plan : SendPlan K T} {event : SignedEvent K T}
      {eventJson : J}
      (hplan : (Session.fromState state).planSend bodyNonce headerNonce payload now = .ok plan)
      (hnext : plan.nextState = nextState)
      (hevent : messageEvent plan.envelope aux = .ok event)
      (hpublish : validateRelayPublish event = .ok ())
      (hjson : EventCodec.eventToJson event = .ok eventJson) :
      Encrypted state nextState payload now event eventJson

/-- The record, response and bootstrap message of an invite answered with `rng`. -/
inductive OpenedHandshake (manager : PairwiseManager K T J) (invite : Invite K T)
    (now : UInt64) (rng : Rng K) : SessionState K → SessionRecord K T J → J → J → Prop
  | intro {session : Session K} {envelope : InviteResponseEnvelope K T} {rng' : Rng K} {aux : K}
      {responseEvent bootstrapEvent : SignedEvent K T} {responseJson bootstrapJson : J}
      {bootstrapPayload : T} {nextState : SessionState K}
      (haccept : invite.acceptWithOwnerContext now.toNat ⟨manager.publicKey⟩
        manager.identityKeys (some ⟨manager.publicKey⟩) rng = (.ok (session, envelope), rng'))
      (hresponse : inviteResponseEvent envelope aux = .ok responseEvent)
      (hjson : EventCodec.eventToJson responseEvent = .ok responseJson)
      (hbootstrap : Encrypted session.state nextState bootstrapPayload now.toNat bootstrapEvent
        bootstrapJson) :
      OpenedHandshake manager invite now rng session.state {
        handshakeId := handshakeId invite manager.publicKey
        handshakeCreatedAt := invite.createdAt
        state := nextState
        inviteResponseEventJson := some responseJson
        bootstrapEventJson := some bootstrapJson
        acceptedResponseEventId := none } responseJson bootstrapJson

/-- The record of a bound response. -/
def responseRecord (event : SignedEvent K T) (invite : Invite K T) (peer : K)
    (response : InviteResponse K) : SessionRecord K T J where
  handshakeId := handshakeId invite peer
  handshakeCreatedAt := invite.createdAt
  state := response.session.state
  inviteResponseEventJson := none
  bootstrapEventJson := none
  acceptedResponseEventId := some event.id

namespace PairwiseState

def withMillis (state : PairwiseState K T J) (messageMillis : Option UInt64) :
    PairwiseState K T J :=
  { state with
    lastMessageMillis := messageMillis.elim state.lastMessageMillis
      (fun millis => max state.lastMessageMillis millis) }

/-- The state that knows the response's event and the peer it is bound to. -/
def withResponse (state : PairwiseState K T J) (eventId peer : K) (limit : Nat) :
    PairwiseState K T J :=
  ({ state with
    responseEventPeers := state.responseEventPeers.insert eventId peer }).pushSeenEvent
      eventId limit

/-- The state that knows the outer and the inner event of a message. -/
def withMessage (state : PairwiseState K T J) (eventId innerEventId : K)
    (limits : RuntimeLimits) : PairwiseState K T J :=
  (state.pushSeenEvent eventId limits.maxSeenEventIds).pushSeenInnerEvent innerEventId
    limits.maxSeenInnerEventIds

/-- The state without the peer and everything queued for it. -/
def withoutPeer (state : PairwiseState K T J) (peer : K) (peerState : PeerState K T J) :
    PairwiseState K T J :=
  let retired := retireSessions { state with peers := state.peers.erase peer } peerState.sessions
  { retired with
    pendingActions := retired.pendingActions.filter (fun action =>
      !isDeliveryFrom peer action.kind) }

end PairwiseState

/-- The next states an operation may commit, with the authors it installs. -/
inductive PairwiseChange (manager : PairwiseManager K T J) (rng : Rng K) :
    PairwiseOp K T → PairwiseState K T J → List K → Prop
  | requeued {invite : Invite K T} {peer : K} {now : UInt64} {response bootstrap : J}
      {queued : List (PairwiseAction K T J)}
      (hanswered : manager.state.answeredHandshake peer
        (handshakeId invite manager.publicKey) = some (response, bootstrap))
      (hqueued : ∀ action ∈ queued,
        action.kind = .outOfBand peer (handshakeId invite manager.publicKey) response ∨
        action.kind = .publish (handshakeId invite manager.publicKey) bootstrap none) :
      PairwiseChange manager rng (.acceptInvite invite peer now)
        { manager.state with pendingActions := manager.state.pendingActions ++ queued }
        manager.installedMessageAuthors
  | answered {invite : Invite K T} {peer : K} {now : UInt64} {initial : SessionState K}
      {record : SessionRecord K T J} {response bootstrap : J} {base next : PairwiseState K T J}
      {created : Bool} {uuid uuid' : String} {authors : List K}
      (hpeer : validateInvitePeer invite peer = .ok ())
      (hunanswered : manager.state.answeredHandshake peer
        (handshakeId invite manager.publicKey) = none)
      (hopened : OpenedHandshake manager invite now rng initial record response bootstrap)
      (hinstall : manager.state.install manager.limits peer record = .ok (base, created))
      (hrefresh : Refreshed ((base.withAction uuid (.outOfBand peer record.handshakeId
        response)).withAction uuid' (.publish record.handshakeId bootstrap none))
        manager.installedMessageAuthors false manager.limits next authors) :
      PairwiseChange manager rng (.acceptInvite invite peer now) next authors
  | bound {event : SignedEvent K T} {peer : K} {envelope : InviteResponseEnvelope K T}
      {response : InviteResponse K} {invite : Invite K T} {rng' : Rng K}
      {base next : PairwiseState K T J} {created : Bool} {authors : List K}
      (hparse : parseInviteResponseEvent event = .ok envelope)
      (hunseen : event.id ∉ manager.state.seenEventIds)
      (hprocess : manager.state.localInvite.processResponse envelope manager.identityKeys rng =
        (.ok (response, invite), rng'))
      (hpeer : validateResponsePeer response peer = .ok ())
      (hinstall : ({ manager.state with localInvite := invite }).install manager.limits peer
        (responseRecord event invite peer response) = .ok (base, created))
      (hrefresh : Refreshed (base.withResponse event.id peer manager.limits.maxSeenEventIds)
        manager.installedMessageAuthors false manager.limits next authors) :
      PairwiseChange manager rng (.processOutOfBandResponse event peer) next authors
  | sent {op : PairwiseOp K T} {peer : K} {peerState : PeerState K T J} {index : Nat}
      {record : SessionRecord K T J} {nextState : SessionState K} {payload : T}
      {now : UnixSeconds} {event : SignedEvent K T} {eventJson : J}
      {advanced : PairwiseState K T J} {messageMillis : Option UInt64} {innerEventId : K}
      {uuid : String} (hop : op.SendsTo peer)
      (hstate : manager.state.peers.get? peer = some peerState)
      (hindex : peerState.preferredSendSessionIndex = some index)
      (hrecord : peerState.sessions[index]? = some record)
      (hencrypted : Encrypted record.state nextState payload now event eventJson)
      (hadvanced : manager.state.setSessionState peer index nextState = .ok advanced) :
      PairwiseChange manager rng op
        ((advanced.withMillis messageMillis).withAction uuid
          (.publish record.handshakeId eventJson (some innerEventId)))
        manager.installedMessageAuthors
  | delivered {event : SignedEvent K T} {now : UInt64} {envelope : MessageEnvelope K T}
      {rng' : Rng K} {peer : K} {index : Nat} {plan : ReceivePlan K T}
      {decoded : PairwiseCodec.DecodedPairwiseRumor K} {innerEventId : K}
      {innerEventJson : T} {advanced next : PairwiseState K T J} {uuid : String}
      {authors : List K}
      (hunseen : event.id ∉ manager.state.seenEventIds)
      (hparse : parseMessageEvent event = .ok envelope)
      (hselected : decryptWithSession envelope manager.state.sessionPlaces rng =
        (some (peer, index, plan), rng'))
      (hdecoded : PairwiseCodec.decodeStrict plan.payload = .ok decoded)
      (hauthor : decoded.event.pubkey = peer)
      (hinner : decoded.event.id = some innerEventId)
      (hinnerJson : PairwiseCodec.RumorPrimitives.eventToJson decoded.event = .ok innerEventJson)
      (hadvanced : manager.state.setSessionState peer index plan.nextState = .ok advanced)
      (halive : decoded.expiration.all (fun expiration => expiration > now))
      (hnew : innerEventId ∉ manager.state.seenInnerEventIds)
      (hroom : manager.state.pendingDeliveryCount < manager.limits.maxPendingDeliveries)
      (hrefresh : Refreshed ((advanced.withMessage event.id innerEventId
        manager.limits).withAction uuid (.delivery peer innerEventJson innerEventId event.id
          decoded.expiration)) manager.installedMessageAuthors false manager.limits next
        authors) :
      PairwiseChange manager rng (.processEventAt event now) next authors
  | absorbed {event : SignedEvent K T} {now : UInt64} {envelope : MessageEnvelope K T}
      {rng' : Rng K} {peer : K} {index : Nat} {plan : ReceivePlan K T}
      {decoded : PairwiseCodec.DecodedPairwiseRumor K} {innerEventId : K}
      {advanced next : PairwiseState K T J} {authors : List K}
      (hunseen : event.id ∉ manager.state.seenEventIds)
      (hparse : parseMessageEvent event = .ok envelope)
      (hselected : decryptWithSession envelope manager.state.sessionPlaces rng =
        (some (peer, index, plan), rng'))
      (hdecoded : PairwiseCodec.decodeStrict plan.payload = .ok decoded)
      (hauthor : decoded.event.pubkey = peer)
      (hinner : decoded.event.id = some innerEventId)
      (hadvanced : manager.state.setSessionState peer index plan.nextState = .ok advanced)
      (hskipped : ¬ (decoded.expiration.all (fun expiration => expiration > now) ∧
        innerEventId ∉ manager.state.seenInnerEventIds))
      (hrefresh : Refreshed (advanced.withMessage event.id innerEventId manager.limits)
        manager.installedMessageAuthors false manager.limits next authors) :
      PairwiseChange manager rng (.processEventAt event now) next authors
  | pruned {now : UInt64} :
      PairwiseChange manager rng (.pendingActionsAt now)
        { manager.state with
          pendingActions := manager.state.pendingActions.filter (fun action =>
            !isExpiredDelivery now action.kind) } manager.installedMessageAuthors
  | acked {actionIds : List (PairwiseActionId K)} :
      PairwiseChange manager rng (.ackActions actionIds)
        { manager.state with
          pendingActions := manager.state.pendingActions.filter (fun action =>
            action.id ∉ actionIds) } manager.installedMessageAuthors
  | retired {peer : K} {peerState : PeerState K T J} {next : PairwiseState K T J}
      {authors : List K} (hstate : manager.state.peers.get? peer = some peerState)
      (hrefresh : Refreshed (manager.state.withoutPeer peer peerState)
        manager.installedMessageAuthors false manager.limits next authors) :
      PairwiseChange manager rng (.retirePeer peer) next authors

/-- The send result names an event the state has queued. -/
def PairwiseSendResult.Names (result : PairwiseSendResult K) (state : PairwiseState K T J) :
    Prop :=
  ∃ event eventJson, (EventCodec.eventToJson event : Except String J) = .ok eventJson ∧
    result.outerEventId = event.id ∧ ∃ action ∈ state.pendingActions, ∃ sessionId,
      action.kind = .publish sessionId eventJson (some result.innerEventId)

/-- What a successful operation has done. -/
def PairwiseCell.Settled (op : PairwiseOp K T) (cell cell' : PairwiseCell K T J P) : Prop :=
  cell.Untouched cell' ∨ ∃ next authors,
    PairwiseChange cell.manager cell.world.rng op next authors ∧
      cell.Committed next authors cell'

theorem quiet_openHandshake (invite : Invite K T) (now : UInt64) :
    Quiet (openHandshake invite now : PairwiseM K T J P _) := by
  refine Quiet.bind Quiet.manager fun manager => ?_
  refine Quiet.bind (Quiet.liftRand _) fun opened => ?_
  refine Quiet.bind (Quiet.liftRand _) fun aux => ?_
  refine Quiet.bind (Quiet.wire _) fun responseEvent => ?_
  refine Quiet.bind (Quiet.json _) fun responseJson => ?_
  refine Quiet.bind (Quiet.rumor _) fun bootstrap => ?_
  refine Quiet.bind (Quiet.json _) fun payload => ?_
  refine Quiet.bind (Quiet.liftRand _) fun bodyNonce => ?_
  refine Quiet.bind (Quiet.liftRand _) fun headerNonce => ?_
  refine Quiet.bind (Quiet.core _) fun plan => ?_
  refine Quiet.bind (Quiet.liftRand _) fun aux' => ?_
  refine Quiet.bind (Quiet.wire _) fun event => ?_
  refine Quiet.bind (Quiet.check _) fun _ => ?_
  refine Quiet.bind (Quiet.check _) fun _ => ?_
  exact Quiet.bind (Quiet.json _) fun bootstrapJson => Quiet.pure _

theorem openHandshake_ok {invite : Invite K T} {now : UInt64} {record : SessionRecord K T J}
    {response bootstrap : J} {cell cell' : PairwiseCell K T J P}
    (h : exec (openHandshake invite now) cell = (.ok (record, response, bootstrap), cell')) :
    ∃ initial, OpenedHandshake cell.manager invite now cell.world.rng initial record response
      bootstrap := by
  unfold openHandshake at h
  rw [exec_manager_bind] at h
  obtain ⟨⟨session, envelope⟩, c1, haccept, h1⟩ := bind_eq_ok.mp h
  obtain ⟨aux, c2, -, h2⟩ := bind_eq_ok.mp h1
  obtain ⟨responseEvent, c3, hresponse, h3⟩ := bind_eq_ok.mp h2
  obtain ⟨responseJson, c4, hjson, h4⟩ := bind_eq_ok.mp h3
  obtain ⟨bootstrapRumor, c5, -, h5⟩ := bind_eq_ok.mp h4
  obtain ⟨payload, c6, -, h6⟩ := bind_eq_ok.mp h5
  obtain ⟨bodyNonce, c7, -, h7⟩ := bind_eq_ok.mp h6
  obtain ⟨headerNonce, c8, -, h8⟩ := bind_eq_ok.mp h7
  obtain ⟨plan, c9, hplan, h9⟩ := bind_eq_ok.mp h8
  obtain ⟨aux', c10, -, h10⟩ := bind_eq_ok.mp h9
  obtain ⟨event, c11, hevent, h11⟩ := bind_eq_ok.mp h10
  obtain ⟨⟨⟩, c12, hpublish, h12⟩ := bind_eq_ok.mp h11
  obtain ⟨⟨⟩, c13, -, h13⟩ := bind_eq_ok.mp h12
  obtain ⟨bootstrapJson, c14, hbootstrapJson, h14⟩ := bind_eq_ok.mp h13
  cases h14
  exact ⟨session.state, OpenedHandshake.intro (liftRand_eq_ok.mp haccept).1
    (wire_eq_ok.mp hresponse).1 (json_eq_ok.mp hjson).1
    (Encrypted.intro (core_eq_ok.mp hplan).1 rfl (wire_eq_ok.mp hevent).1
      (check_eq_ok.mp hpublish).1 (json_eq_ok.mp hbootstrapJson).1)⟩

private theorem exec_ite {α : Type} {c : Prop} [Decidable c] (x y : PairwiseM K T J P α)
    (cell : PairwiseCell K T J P) :
    exec (if c then x else y) cell = if c then exec x cell else exec y cell := by
  split
  · rfl
  · rfl

/-- Queueing an action if it is wanted. -/
private theorem pushWanted_ok {wanted : Prop} [Decidable wanted] {state next : PairwiseState K T J}
    {kind : PairwiseActionKind K T J} {cell cell' : PairwiseCell K T J P}
    (h : exec (if wanted then pushAction state kind else pure state) cell = (.ok next, cell')) :
    cell.Untouched cell' ∧ ∃ queued, (∀ action ∈ queued, action.kind = kind) ∧
      next = { state with pendingActions := state.pendingActions ++ queued } := by
  rw [exec_ite] at h
  split at h
  · cases h
    refine ⟨⟨rfl, rfl⟩, [⟨⟨state.localPubkey, cell.world.uuids.head⟩, kind⟩], ?_, rfl⟩
    intro action haction
    rw [List.mem_singleton.mp haction]
  · cases h
    refine ⟨⟨rfl, rfl⟩, [], ?_, ?_⟩
    · intro action haction
      cases haction
    · rw [List.append_nil]

theorem requeueHandshake_ok {invite : Invite K T} {peer : K} (now : UInt64)
    {response bootstrap : J} {cell cell' : PairwiseCell K T J P}
    (hanswered : cell.manager.state.answeredHandshake peer
      (handshakeId invite cell.manager.publicKey) = some (response, bootstrap))
    (h : exec (requeueHandshake peer (handshakeId invite cell.manager.publicKey) response
      bootstrap) cell = (.ok (), cell')) :
    PairwiseCell.Settled (.acceptInvite invite peer now) cell cell' := by
  unfold requeueHandshake at h
  rw [exec_manager_bind] at h
  dsimp only at h
  split at h
  · obtain ⟨⟨⟩, c1, hcheck, h1⟩ := bind_eq_ok.mp h
    obtain ⟨-, rfl⟩ := check_eq_ok.mp hcheck
    obtain ⟨first, c2, hfirst, h2⟩ := bind_eq_ok.mp h1
    obtain ⟨second, c3, hsecond, h3⟩ := bind_eq_ok.mp h2
    obtain ⟨huntouched, queued, hqueued, rfl⟩ := pushWanted_ok hfirst
    obtain ⟨huntouched', queued', hqueued', rfl⟩ := pushWanted_ok hsecond
    refine Or.inr ⟨_, _, ?_, (commitNext_ok h3).of_untouched
      (PairwiseCell.Untouched.trans _ _ _ huntouched huntouched')⟩
    dsimp only
    rw [List.append_assoc]
    refine PairwiseChange.requeued hanswered ?_
    intro action haction
    rcases List.mem_append.mp haction with hmem | hmem
    · exact Or.inl (hqueued action hmem)
    · exact Or.inr (hqueued' action hmem)
  · cases h
    exact Or.inl (PairwiseCell.Untouched.refl _)

theorem answerInvite_ok {invite : Invite K T} {peer : K} {now : UInt64} {created : Bool}
    {cell cell' : PairwiseCell K T J P}
    (hpeer : validateInvitePeer invite peer = .ok ())
    (hunanswered : cell.manager.state.answeredHandshake peer
      (handshakeId invite cell.manager.publicKey) = none)
    (h : exec (answerInvite invite peer now) cell = (.ok created, cell')) :
    PairwiseCell.Settled (.acceptInvite invite peer now) cell cell' := by
  unfold answerInvite at h
  rw [exec_manager_bind] at h
  obtain ⟨⟨⟩, c1, hwins, h1⟩ := bind_eq_ok.mp h
  obtain ⟨-, rfl⟩ := check_eq_ok.mp hwins
  obtain ⟨⟨record, response, bootstrap⟩, c2, hopen, h2⟩ := bind_eq_ok.mp h1
  obtain ⟨⟨base, created'⟩, c3, hinstalled, h3⟩ := bind_eq_ok.mp h2
  obtain ⟨hinstall, rfl⟩ := check_eq_ok.mp hinstalled
  obtain ⟨⟨⟩, c4, hcapacity, h4⟩ := bind_eq_ok.mp h3
  obtain ⟨-, rfl⟩ := check_eq_ok.mp hcapacity
  obtain ⟨first, c5, hfirst, h5⟩ := bind_eq_ok.mp h4
  obtain ⟨second, c6, hsecond, h6⟩ := bind_eq_ok.mp h5
  obtain ⟨⟨⟩, c7, hcommit, h7⟩ := bind_eq_ok.mp h6
  rw [exec_pushAction] at hfirst hsecond
  obtain ⟨hfirst, rfl⟩ := Prod.mk.inj hfirst
  obtain ⟨hsecond, rfl⟩ := Prod.mk.inj hsecond
  cases hfirst
  cases hsecond
  cases h7
  obtain ⟨initial, hopened⟩ := openHandshake_ok hopen
  have hid : record.handshakeId = handshakeId invite c1.manager.publicKey := by
    cases hopened
    rfl
  obtain ⟨next, authors, hrefresh, hcommitted⟩ := refreshAndCommit_ok hcommit
  have huntouched : c1.Untouched c4 := (quiet_openHandshake invite now).untouched hopen
  rw [← hid] at hrefresh
  simp only [huntouched.manager] at hrefresh
  refine Or.inr ⟨next, authors, PairwiseChange.answered hpeer hunanswered hopened hinstall
    hrefresh, hcommitted.of_untouched ?_⟩
  exact PairwiseCell.Untouched.trans _ _ _ huntouched ⟨rfl, rfl⟩

theorem acceptInvite_ok {invite : Invite K T} {peer : K} {now : UInt64}
    {result : PairwiseAcceptResult K} {cell cell' : PairwiseCell K T J P}
    (h : exec (acceptInvite invite peer now) cell = (.ok result, cell')) :
    PairwiseCell.Settled (.acceptInvite invite peer now) cell cell' := by
  unfold acceptInvite at h
  rw [exec_manager_bind] at h
  obtain ⟨encoded, c1, hjson, h1⟩ := bind_eq_ok.mp h
  obtain ⟨-, rfl⟩ := json_eq_ok.mp hjson
  obtain ⟨⟨⟩, c2, hsize, h2⟩ := bind_eq_ok.mp h1
  obtain ⟨-, rfl⟩ := check_eq_ok.mp hsize
  obtain ⟨⟨⟩, c3, hvalidated, h3⟩ := bind_eq_ok.mp h2
  obtain ⟨hpeer, rfl⟩ := check_eq_ok.mp hvalidated
  split at h3
  · cases h3
  obtain ⟨⟨⟩, c4, hcapacity, h4⟩ := bind_eq_ok.mp h3
  obtain ⟨-, rfl⟩ := check_eq_ok.mp hcapacity
  dsimp only at h4
  split at h4
  · rename_i response bootstrap hanswered
    obtain ⟨⟨⟩, c5, hrequeue, h5⟩ := bind_eq_ok.mp h4
    cases h5
    exact requeueHandshake_ok now hanswered hrequeue
  · rename_i hunanswered
    obtain ⟨created, c5, hanswer, h5⟩ := bind_eq_ok.mp h4
    cases h5
    exact answerInvite_ok hpeer hunanswered hanswer

theorem bindResponse_ok {event : SignedEvent K T} {envelope : InviteResponseEnvelope K T}
    {peer : K} {cell cell' : PairwiseCell K T J P}
    (hparse : parseInviteResponseEvent event = .ok envelope)
    (hunseen : event.id ∉ cell.manager.state.seenEventIds)
    (h : exec (bindResponse event envelope peer) cell = (.ok (), cell')) :
    PairwiseCell.Settled (.processOutOfBandResponse event peer) cell cell' := by
  unfold bindResponse at h
  rw [exec_manager_bind] at h
  obtain ⟨⟨response, invite⟩, c1, hdrawn, h1⟩ := bind_eq_ok.mp h
  obtain ⟨hprocess, hcell⟩ := liftRand_eq_ok.mp hdrawn
  obtain ⟨⟨⟩, c2, hvalidated, h2⟩ := bind_eq_ok.mp h1
  obtain ⟨hpeer, rfl⟩ := check_eq_ok.mp hvalidated
  obtain ⟨⟨⟩, c3, hcapacity, h3⟩ := bind_eq_ok.mp h2
  obtain ⟨-, rfl⟩ := check_eq_ok.mp hcapacity
  obtain ⟨⟨⟩, c4, hwins, h4⟩ := bind_eq_ok.mp h3
  obtain ⟨-, rfl⟩ := check_eq_ok.mp hwins
  obtain ⟨⟨base, created⟩, c5, hinstalled, h5⟩ := bind_eq_ok.mp h4
  obtain ⟨hinstall, rfl⟩ := check_eq_ok.mp hinstalled
  obtain ⟨next, authors, hrefresh, hcommitted⟩ := refreshAndCommit_ok h5
  have huntouched : cell.Untouched c5 := (Quiet.liftRand _).untouched hdrawn
  simp only [huntouched.manager] at hrefresh
  exact Or.inr ⟨next, authors, PairwiseChange.bound hparse hunseen hprocess hpeer hinstall
    hrefresh, hcommitted.of_untouched huntouched⟩

theorem processOutOfBandResponse_ok {event : SignedEvent K T} {peer : K}
    {cell cell' : PairwiseCell K T J P}
    (h : exec (processOutOfBandResponse event peer) cell = (.ok (), cell')) :
    PairwiseCell.Settled (.processOutOfBandResponse event peer) cell cell' := by
  unfold processOutOfBandResponse at h
  rw [exec_manager_bind] at h
  obtain ⟨⟨⟩, c1, hsize, h1⟩ := bind_eq_ok.mp h
  obtain ⟨-, rfl⟩ := check_eq_ok.mp hsize
  split at h1
  · cases h1
  obtain ⟨envelope, c2, hparsed, h2⟩ := bind_eq_ok.mp h1
  obtain ⟨hparse, rfl⟩ := wire_eq_ok.mp hparsed
  split at h2
  · cases h2
  split at h2
  · split at h2
    · split at h2
      · cases h2
        exact Or.inl (PairwiseCell.Untouched.refl _)
      · cases h2
    · cases h2
  · rename_i hunseen
    exact bindResponse_ok hparse (by simpa [PairwiseState.hasSeenEvent] using hunseen) h2

theorem sendInnerEvent_ok {op : PairwiseOp K T} {peer : K} {inner : PairwiseCodec.UnsignedEvent K}
    {now : UInt64} {messageMillis : Option UInt64} {result : PairwiseSendResult K}
    {cell cell' : PairwiseCell K T J P} (hop : op.SendsTo peer)
    (h : exec (sendInnerEvent peer inner now messageMillis) cell = (.ok result, cell')) :
    PairwiseCell.Settled op cell cell' ∧ result.Names cell'.manager.state := by
  unfold sendInnerEvent at h
  rw [exec_manager_bind] at h
  split at h
  · cases h
  dsimp only at h
  obtain ⟨⟨⟩, c1, hverify, h1⟩ := bind_eq_ok.mp h
  obtain ⟨-, rfl⟩ := rumor_eq_ok.mp hverify
  split at h1
  · cases h1
  split at h1
  · cases h1
  rename_i innerEventId hinner peerState hstate
  split at h1
  · cases h1
  rename_i index record hselected
  obtain ⟨index', hindex, hfound⟩ := Option.bind_eq_some_iff.mp hselected
  obtain ⟨record', hrecord, hpair⟩ := Option.map_eq_some_iff.mp hfound
  obtain ⟨rfl, rfl⟩ := Prod.mk.inj hpair
  obtain ⟨payload, c2, hjson, h2⟩ := bind_eq_ok.mp h1
  obtain ⟨-, rfl⟩ := json_eq_ok.mp hjson
  obtain ⟨bodyNonce, c3, hbody, h3⟩ := bind_eq_ok.mp h2
  obtain ⟨headerNonce, c4, hheader, h4⟩ := bind_eq_ok.mp h3
  obtain ⟨plan, c5, hplanned, h5⟩ := bind_eq_ok.mp h4
  obtain ⟨hplan, rfl⟩ := core_eq_ok.mp hplanned
  obtain ⟨aux, c6, haux, h6⟩ := bind_eq_ok.mp h5
  obtain ⟨event, c7, hmade, h7⟩ := bind_eq_ok.mp h6
  obtain ⟨hevent, rfl⟩ := wire_eq_ok.mp hmade
  obtain ⟨⟨⟩, c8, hpublished, h8⟩ := bind_eq_ok.mp h7
  obtain ⟨hpublish, rfl⟩ := check_eq_ok.mp hpublished
  obtain ⟨⟨⟩, c9, hsize, h9⟩ := bind_eq_ok.mp h8
  obtain ⟨-, rfl⟩ := check_eq_ok.mp hsize
  obtain ⟨advanced, c10, hset, h10⟩ := bind_eq_ok.mp h9
  obtain ⟨hadvanced, rfl⟩ := check_eq_ok.mp hset
  obtain ⟨eventJson, c11, hencoded, h11⟩ := bind_eq_ok.mp h10
  obtain ⟨heventJson, rfl⟩ := json_eq_ok.mp hencoded
  obtain ⟨queued, c12, hqueued, h12⟩ := bind_eq_ok.mp h11
  obtain ⟨⟨⟩, c13, hcommit, h13⟩ := bind_eq_ok.mp h12
  cases h13
  rw [exec_pushAction] at hqueued
  obtain ⟨hqueued, rfl⟩ := Prod.mk.inj hqueued
  cases hqueued
  have huntouched : c2.Untouched c11 :=
    PairwiseCell.Untouched.trans _ _ _ ((Quiet.liftRand _).untouched hbody)
      (PairwiseCell.Untouched.trans _ _ _ ((Quiet.liftRand _).untouched hheader)
        ((Quiet.liftRand _).untouched haux))
  have hcommitted := commitNext_ok hcommit
  refine ⟨Or.inr ⟨_, _, PairwiseChange.sent hop hstate hindex hrecord
    (Encrypted.intro hplan rfl hevent hpublish heventJson) hadvanced,
    hcommitted.of_untouched ?_⟩, event, eventJson, heventJson, rfl, ?_⟩
  · exact PairwiseCell.Untouched.trans _ _ _ huntouched ⟨rfl, rfl⟩
  · rw [hcommitted.manager]
    exact ⟨_, List.mem_append_right _ (List.mem_singleton.mpr rfl), _, rfl⟩

theorem validateAndSendUnsignedEvent_ok {op : PairwiseOp K T} {peer : K}
    {inner : PairwiseCodec.UnsignedEvent K} {now : UInt64} {messageMillis : Option UInt64}
    {result : PairwiseSendResult K} {cell cell' : PairwiseCell K T J P} (hop : op.SendsTo peer)
    (h : exec (validateAndSendUnsignedEvent peer inner now messageMillis) cell =
      (.ok result, cell')) :
    PairwiseCell.Settled op cell cell' ∧ result.Names cell'.manager.state := by
  unfold validateAndSendUnsignedEvent at h
  rw [exec_manager_bind] at h
  obtain ⟨⟨⟩, c1, hcapacity, h1⟩ := bind_eq_ok.mp h
  obtain ⟨-, rfl⟩ := check_eq_ok.mp hcapacity
  obtain ⟨encoded, c2, hjson, h2⟩ := bind_eq_ok.mp h1
  obtain ⟨-, rfl⟩ := json_eq_ok.mp hjson
  obtain ⟨⟨⟩, c3, hsize, h3⟩ := bind_eq_ok.mp h2
  obtain ⟨-, rfl⟩ := check_eq_ok.mp hsize
  obtain ⟨decoded, c4, hdecoded, h4⟩ := bind_eq_ok.mp h3
  obtain ⟨-, rfl⟩ := rumor_eq_ok.mp hdecoded
  exact sendInnerEvent_ok hop h4

theorem sendText_ok {peer : K} {text : String} {expiresAt : Option UInt64} {now millis : UInt64}
    {result : PairwiseSendResult K} {cell cell' : PairwiseCell K T J P}
    (h : exec (sendText peer text expiresAt now millis) cell = (.ok result, cell')) :
    PairwiseCell.Settled (.sendText peer text expiresAt now millis) cell cell' ∧
      result.Names cell'.manager.state := by
  unfold sendText at h
  rw [exec_manager_bind] at h
  obtain ⟨⟨⟩, c1, hsize, h1⟩ := bind_eq_ok.mp h
  obtain ⟨-, rfl⟩ := check_eq_ok.mp hsize
  split at h1
  · cases h1
  obtain ⟨inner, c2, hinner, h2⟩ := bind_eq_ok.mp h1
  obtain ⟨-, rfl⟩ := rumor_eq_ok.mp hinner
  exact validateAndSendUnsignedEvent_ok rfl h2

theorem deliverPlan_ok {event : SignedEvent K T} {now : UInt64} {envelope : MessageEnvelope K T}
    {rng' : Rng K} {peer : K} {index : Nat} {plan : ReceivePlan K T}
    {cell mid cell' : PairwiseCell K T J P} (hmid : cell.Untouched mid)
    (hunseen : event.id ∉ cell.manager.state.seenEventIds)
    (hparse : parseMessageEvent event = .ok envelope)
    (hselected : decryptWithSession envelope cell.manager.state.sessionPlaces cell.world.rng =
      (some (peer, index, plan), rng'))
    (h : exec (deliverPlan event now peer index plan) mid = (.ok (), cell')) :
    PairwiseCell.Settled (.processEventAt event now) cell cell' := by
  unfold deliverPlan at h
  rw [exec_manager_bind, hmid.manager] at h
  obtain ⟨decoded, c1, hread, h1⟩ := bind_eq_ok.mp h
  obtain ⟨hdecoded, rfl⟩ := rumor_eq_ok.mp hread
  obtain ⟨⟨⟩, c2, hsize, h2⟩ := bind_eq_ok.mp h1
  obtain ⟨-, rfl⟩ := check_eq_ok.mp hsize
  split at h2
  · cases h2
  rename_i hauthor
  split at h2
  · cases h2
  rename_i innerEventId hinner
  dsimp only at h2
  split at h2
  · cases h2
  rename_i hroom
  obtain ⟨advanced, c3, hset, h3⟩ := bind_eq_ok.mp h2
  obtain ⟨hadvanced, rfl⟩ := check_eq_ok.mp hset
  obtain ⟨base, c4, hqueued, h4⟩ := bind_eq_ok.mp h3
  obtain ⟨next, authors, hrefresh, hcommitted⟩ := refreshAndCommit_ok h4
  rw [exec_ite] at hqueued
  split at hqueued
  · rename_i hwanted
    obtain ⟨innerEventJson, c5, hencoded, hpushed⟩ := bind_eq_ok.mp hqueued
    obtain ⟨hinnerJson, rfl⟩ := json_eq_ok.mp hencoded
    rw [exec_pushAction] at hpushed
    obtain ⟨hpushed, rfl⟩ := Prod.mk.inj hpushed
    cases hpushed
    have hnew : innerEventId ∉ cell.manager.state.seenInnerEventIds := by
      simpa [PairwiseState.hasSeenInnerEvent] using hwanted.2
    have hfree : cell.manager.state.pendingDeliveryCount <
        cell.manager.limits.maxPendingDeliveries :=
      Nat.lt_of_not_le fun hfull => hroom ⟨hwanted.1, hwanted.2, hfull⟩
    simp only [hmid.manager] at hrefresh
    refine Or.inr ⟨next, authors, PairwiseChange.delivered hunseen hparse hselected hdecoded
      (not_not.mp hauthor) hinner hinnerJson hadvanced hwanted.1 hnew hfree hrefresh,
      hcommitted.of_untouched ?_⟩
    exact PairwiseCell.Untouched.trans _ _ _ hmid ⟨rfl, rfl⟩
  · rename_i hskipped
    cases hqueued
    rw [hmid.manager] at hrefresh
    refine Or.inr ⟨next, authors, PairwiseChange.absorbed hunseen hparse hselected hdecoded
      (not_not.mp hauthor) hinner hadvanced ?_ hrefresh, hcommitted.of_untouched hmid⟩
    rintro ⟨halive, hnew⟩
    exact hskipped ⟨halive, by simpa [PairwiseState.hasSeenInnerEvent] using hnew⟩

theorem processEventAt_ok {event : SignedEvent K T} {now : UInt64}
    {cell cell' : PairwiseCell K T J P}
    (h : exec (processEventAt event now) cell = (.ok (), cell')) :
    PairwiseCell.Settled (.processEventAt event now) cell cell' := by
  unfold processEventAt at h
  rw [exec_manager_bind] at h
  obtain ⟨⟨⟩, c1, hsize, h1⟩ := bind_eq_ok.mp h
  obtain ⟨-, rfl⟩ := check_eq_ok.mp hsize
  split at h1
  · cases h1
  obtain ⟨⟨⟩, c2, hverify, h2⟩ := bind_eq_ok.mp h1
  obtain ⟨-, rfl⟩ := wire_eq_ok.mp hverify
  split at h2
  · cases h2
    exact Or.inl (PairwiseCell.Untouched.refl _)
  rename_i hunseen
  obtain ⟨envelope, c3, hparsed, h3⟩ := bind_eq_ok.mp h2
  obtain ⟨hparse, rfl⟩ := wire_eq_ok.mp hparsed
  split at h3
  · cases h3
  obtain ⟨selected, c4, hloop, h4⟩ := bind_eq_ok.mp h3
  have huntouched : c3.Untouched c4 := (Quiet.liftRng _).untouched hloop
  have hselected : decryptWithSession envelope c3.manager.state.sessionPlaces c3.world.rng =
      (selected, (decryptWithSession envelope c3.manager.state.sessionPlaces c3.world.rng).2) := by
    have hvalue := (Prod.mk.inj hloop).1
    cases hvalue
    rfl
  split at h4
  · cases h4
  · exact deliverPlan_ok huntouched (by simpa [PairwiseState.hasSeenEvent] using hunseen) hparse
      hselected h4

theorem pendingActionsAt_ok {now : UInt64} {pending : List (PairwiseAction K T J)}
    {cell cell' : PairwiseCell K T J P}
    (h : exec (pendingActionsAt now) cell = (.ok pending, cell')) :
    PairwiseCell.Settled (.pendingActionsAt now) cell cell' ∧
      pending = cell'.manager.state.pendingActions.filter (fun action =>
        isExposed action.kind) := by
  unfold pendingActionsAt at h
  rw [exec_manager_bind] at h
  dsimp only at h
  obtain ⟨⟨⟩, c1, hcommit, h1⟩ := bind_eq_ok.mp h
  rw [exec_manager_bind] at h1
  cases h1
  refine ⟨?_, rfl⟩
  rw [exec_ite] at hcommit
  split at hcommit
  · exact Or.inr ⟨_, _, PairwiseChange.pruned, commitNext_ok hcommit⟩
  · cases hcommit
    exact Or.inl (PairwiseCell.Untouched.refl _)

theorem ackActions_ok {actionIds : List (PairwiseActionId K)} {cell cell' : PairwiseCell K T J P}
    (h : exec (ackActions actionIds) cell = (.ok (), cell')) :
    PairwiseCell.Settled (.ackActions actionIds) cell cell' := by
  unfold ackActions at h
  rw [exec_manager_bind] at h
  dsimp only at h
  split at h
  · cases h
    exact Or.inl (PairwiseCell.Untouched.refl _)
  · exact Or.inr ⟨_, _, PairwiseChange.acked, commitNext_ok h⟩

theorem retirePeer_ok {peer : K} {known : Bool} {cell cell' : PairwiseCell K T J P}
    (h : exec (retirePeer peer) cell = (.ok known, cell')) :
    PairwiseCell.Settled (.retirePeer peer) cell cell' := by
  unfold retirePeer at h
  rw [exec_manager_bind] at h
  split at h
  · cases h
    exact Or.inl (PairwiseCell.Untouched.refl _)
  rename_i peerState hstate
  obtain ⟨⟨⟩, c1, hcommit, h1⟩ := bind_eq_ok.mp h
  cases h1
  obtain ⟨next, authors, hrefresh, hcommitted⟩ := refreshAndCommit_ok hcommit
  exact Or.inr ⟨next, authors, PairwiseChange.retired hstate hrefresh, hcommitted⟩

/-! Failed operations. -/

private theorem atomic_throw {α : Type} (error : PairwiseError K) :
    Atomic (throw error : PairwiseM K T J P α) :=
  Atomic.of_quiet (Quiet.throw error)

theorem atomic_acceptInvite (invite : Invite K T) (peer : K) (now : UInt64) :
    Atomic (acceptInvite invite peer now : PairwiseM K T J P _) := by
  refine Atomic.bind Quiet.manager fun manager => ?_
  refine Atomic.bind (Quiet.json _) fun encoded => ?_
  refine Atomic.bind (Quiet.check _) fun _ => ?_
  refine Atomic.bind (Quiet.check _) fun _ => ?_
  refine Atomic.ite (atomic_throw _) ?_
  refine Atomic.bind (Quiet.check _) fun _ => ?_
  dsimp only
  split
  · refine Atomic.bind_total ?_ fun _ => total_pure _
    refine Atomic.bind Quiet.manager fun manager => ?_
    refine Atomic.ite ?_ (Atomic.of_quiet (Quiet.pure _))
    refine Atomic.bind (Quiet.check _) fun _ => ?_
    refine Atomic.bind (Quiet.ite (quiet_pushAction _ _) (Quiet.pure _)) fun first => ?_
    refine Atomic.bind (Quiet.ite (quiet_pushAction _ _) (Quiet.pure _)) fun second => ?_
    exact atomic_commitNext _ _
  · refine Atomic.bind_total ?_ fun _ => total_pure _
    refine Atomic.bind Quiet.manager fun manager => ?_
    refine Atomic.bind (Quiet.check _) fun _ => ?_
    refine Atomic.bind (quiet_openHandshake _ _) fun opened => ?_
    refine Atomic.bind (Quiet.check _) fun installed => ?_
    refine Atomic.bind (Quiet.check _) fun _ => ?_
    refine Atomic.bind (quiet_pushAction _ _) fun first => ?_
    refine Atomic.bind (quiet_pushAction _ _) fun second => ?_
    exact Atomic.bind_total (atomic_refreshAndCommit _) fun _ => total_pure _

theorem atomic_processOutOfBandResponse (event : SignedEvent K T) (peer : K) :
    Atomic (processOutOfBandResponse event peer : PairwiseM K T J P _) := by
  refine Atomic.bind Quiet.manager fun manager => ?_
  refine Atomic.bind (Quiet.check _) fun _ => ?_
  refine Atomic.ite (atomic_throw _) ?_
  refine Atomic.bind (Quiet.wire _) fun envelope => ?_
  refine Atomic.ite (atomic_throw _) (Atomic.ite ?_ ?_)
  · split
    · exact Atomic.ite (Atomic.of_quiet (Quiet.pure _)) (atomic_throw _)
    · exact atomic_throw _
  · refine Atomic.bind Quiet.manager fun manager => ?_
    refine Atomic.bind (Quiet.liftRand _) fun processed => ?_
    refine Atomic.bind (Quiet.check _) fun _ => ?_
    refine Atomic.bind (Quiet.check _) fun _ => ?_
    refine Atomic.bind (Quiet.check _) fun _ => ?_
    refine Atomic.bind (Quiet.check _) fun installed => ?_
    exact atomic_refreshAndCommit _

theorem atomic_sendInnerEvent (peer : K) (inner : PairwiseCodec.UnsignedEvent K) (now : UInt64)
    (messageMillis : Option UInt64) :
    Atomic (sendInnerEvent peer inner now messageMillis : PairwiseM K T J P _) := by
  refine Atomic.bind Quiet.manager fun manager => ?_
  refine Atomic.ite (atomic_throw _) ?_
  refine Atomic.bind (Quiet.rumor _) fun _ => ?_
  split
  · exact atomic_throw _
  split
  · exact atomic_throw _
  split
  · exact atomic_throw _
  refine Atomic.bind (Quiet.json _) fun payload => ?_
  refine Atomic.bind (Quiet.liftRand _) fun bodyNonce => ?_
  refine Atomic.bind (Quiet.liftRand _) fun headerNonce => ?_
  refine Atomic.bind (Quiet.core _) fun plan => ?_
  refine Atomic.bind (Quiet.liftRand _) fun aux => ?_
  refine Atomic.bind (Quiet.wire _) fun event => ?_
  refine Atomic.bind (Quiet.check _) fun _ => ?_
  refine Atomic.bind (Quiet.check _) fun _ => ?_
  refine Atomic.bind (Quiet.check _) fun advanced => ?_
  refine Atomic.bind (Quiet.json _) fun eventJson => ?_
  refine Atomic.bind (quiet_pushAction _ _) fun queued => ?_
  exact Atomic.bind_total (atomic_commitNext _ _) fun _ => total_pure _

theorem atomic_validateAndSendUnsignedEvent (peer : K) (inner : PairwiseCodec.UnsignedEvent K)
    (now : UInt64) (messageMillis : Option UInt64) :
    Atomic (validateAndSendUnsignedEvent peer inner now messageMillis :
      PairwiseM K T J P _) := by
  refine Atomic.bind Quiet.manager fun manager => ?_
  refine Atomic.bind (Quiet.check _) fun _ => ?_
  refine Atomic.bind (Quiet.json _) fun encoded => ?_
  refine Atomic.bind (Quiet.check _) fun _ => ?_
  exact Atomic.bind (Quiet.rumor _) fun decoded => atomic_sendInnerEvent _ _ _ _

theorem atomic_sendText (peer : K) (text : String) (expiresAt : Option UInt64)
    (now millis : UInt64) :
    Atomic (sendText peer text expiresAt now millis : PairwiseM K T J P _) := by
  refine Atomic.bind Quiet.manager fun manager => ?_
  refine Atomic.bind (Quiet.check _) fun _ => ?_
  refine Atomic.ite (atomic_throw _) ?_
  exact Atomic.bind (Quiet.rumor _) fun inner => atomic_validateAndSendUnsignedEvent _ _ _ _

theorem atomic_deliverPlan (event : SignedEvent K T) (now : UInt64) (peer : K) (index : Nat)
    (plan : ReceivePlan K T) :
    Atomic (deliverPlan event now peer index plan : PairwiseM K T J P _) := by
  refine Atomic.bind Quiet.manager fun manager => ?_
  refine Atomic.bind (Quiet.rumor _) fun decoded => ?_
  refine Atomic.bind (Quiet.check _) fun _ => ?_
  refine Atomic.ite (atomic_throw _) ?_
  split
  · exact atomic_throw _
  refine Atomic.ite (atomic_throw _) ?_
  refine Atomic.bind (Quiet.check _) fun advanced => ?_
  refine Atomic.bind (Quiet.ite ?_ (Quiet.pure _)) fun next => atomic_refreshAndCommit _
  exact Quiet.bind (Quiet.json _) fun innerEventJson => quiet_pushAction _ _

theorem atomic_processEventAt (event : SignedEvent K T) (now : UInt64) :
    Atomic (processEventAt event now : PairwiseM K T J P _) := by
  refine Atomic.bind Quiet.manager fun manager => ?_
  refine Atomic.bind (Quiet.check _) fun _ => ?_
  refine Atomic.ite (atomic_throw _) ?_
  refine Atomic.bind (Quiet.wire _) fun _ => ?_
  refine Atomic.ite (Atomic.of_quiet (Quiet.pure _)) ?_
  refine Atomic.bind (Quiet.wire _) fun envelope => ?_
  refine Atomic.ite (atomic_throw _) ?_
  refine Atomic.bind (Quiet.liftRng _) fun selected => ?_
  split
  · exact atomic_throw _
  · exact atomic_deliverPlan _ _ _ _ _

theorem atomic_pendingActionsAt (now : UInt64) :
    Atomic (pendingActionsAt now : PairwiseM K T J P _) := by
  refine Atomic.bind Quiet.manager fun manager => ?_
  refine Atomic.bind_total ?_ fun _ => ?_
  · exact Atomic.ite (atomic_commitNext _ _) (Atomic.of_quiet (Quiet.pure _))
  · intro cell error cell' hrun
    cases hrun

theorem atomic_ackActions (actionIds : List (PairwiseActionId K)) :
    Atomic (ackActions actionIds : PairwiseM K T J P _) := by
  refine Atomic.bind Quiet.manager fun manager => ?_
  exact Atomic.ite (Atomic.of_quiet (Quiet.pure _)) (atomic_commitNext _ _)

theorem atomic_retirePeer (peer : K) : Atomic (retirePeer peer : PairwiseM K T J P _) := by
  refine Atomic.bind Quiet.manager fun manager => ?_
  split
  · exact Atomic.of_quiet (Quiet.pure _)
  · exact Atomic.bind_total (atomic_refreshAndCommit _) fun _ => total_pure _

private theorem atomic_map {α β : Type} {x : PairwiseM K T J P α} (h : Atomic x) (f : α → β) :
    Atomic (f <$> x) :=
  Atomic.bind_total h fun _ => total_pure _

namespace PairwiseOp

/-- A failed operation has left the manager and the store alone. -/
theorem run_error (op : PairwiseOp K T) :
    Atomic (op.run : PairwiseM K T J P (PairwiseOutput K T J)) := by
  cases op with
  | acceptInvite invite peer now => exact atomic_map (atomic_acceptInvite invite peer now) _
  | processOutOfBandResponse event peer =>
      exact Atomic.bind_total (atomic_processOutOfBandResponse event peer) fun _ => total_pure _
  | sendText peer text expiresAt now millis =>
      exact atomic_map (atomic_sendText peer text expiresAt now millis) _
  | sendUnsignedEvent peer inner now =>
      exact atomic_map (atomic_validateAndSendUnsignedEvent peer inner now none) _
  | processEventAt event now =>
      exact Atomic.bind_total (atomic_processEventAt event now) fun _ => total_pure _
  | pendingActionsAt now => exact atomic_map (atomic_pendingActionsAt now) _
  | ackActions actionIds =>
      exact Atomic.bind_total (atomic_ackActions actionIds) fun _ => total_pure _
  | retirePeer peer => exact atomic_map (atomic_retirePeer peer) _

private theorem map_eq_ok {α β : Type} {x : PairwiseM K T J P α} {f : α → β} {b : β}
    {cell cell' : PairwiseCell K T J P} (h : exec (f <$> x) cell = (.ok b, cell')) :
    ∃ a, exec x cell = (.ok a, cell') ∧ f a = b := by
  have hbind : exec (x >>= fun a => pure (f a)) cell = (.ok b, cell') := h
  obtain ⟨a, mid, hx, hpure⟩ := bind_eq_ok.mp hbind
  cases hpure
  exact ⟨a, hx, rfl⟩

/-- A successful operation has left the manager and the store alone, or has committed one
of its changes. -/
theorem run_ok {op : PairwiseOp K T} {output : PairwiseOutput K T J}
    {cell cell' : PairwiseCell K T J P} (h : exec op.run cell = (.ok output, cell')) :
    cell.Settled op cell' := by
  cases op with
  | acceptInvite invite peer now =>
      obtain ⟨result, hrun, -⟩ := map_eq_ok h
      exact acceptInvite_ok hrun
  | processOutOfBandResponse event peer =>
      obtain ⟨⟨⟩, mid, hrun, hpure⟩ := bind_eq_ok.mp h
      cases hpure
      exact processOutOfBandResponse_ok hrun
  | sendText peer text expiresAt now millis =>
      obtain ⟨result, hrun, -⟩ := map_eq_ok h
      exact (sendText_ok hrun).1
  | sendUnsignedEvent peer inner now =>
      obtain ⟨result, hrun, -⟩ := map_eq_ok h
      have hop : (PairwiseOp.sendUnsignedEvent peer inner now : PairwiseOp K T).SendsTo peer := rfl
      exact (validateAndSendUnsignedEvent_ok hop hrun).1
  | processEventAt event now =>
      obtain ⟨⟨⟩, mid, hrun, hpure⟩ := bind_eq_ok.mp h
      cases hpure
      exact processEventAt_ok hrun
  | pendingActionsAt now =>
      obtain ⟨pending, hrun, -⟩ := map_eq_ok h
      exact (pendingActionsAt_ok hrun).1
  | ackActions actionIds =>
      obtain ⟨⟨⟩, mid, hrun, hpure⟩ := bind_eq_ok.mp h
      cases hpure
      exact ackActions_ok hrun
  | retirePeer peer =>
      obtain ⟨known, hrun, -⟩ := map_eq_ok h
      exact retirePeer_ok hrun

/-- However it ends, an operation has committed a change or left everything alone. -/
theorem run_settled (op : PairwiseOp K T) (cell : PairwiseCell K T J P) :
    cell.Settled op (exec (op.run : PairwiseM K T J P (PairwiseOutput K T J)) cell).2 := by
  rcases hrun : exec (op.run : PairwiseM K T J P (PairwiseOutput K T J)) cell with
    ⟨error | output, cell'⟩
  · exact Or.inl (op.run_error cell error cell' hrun)
  · exact op.run_ok hrun

/-- The result of a send names an event the manager has queued. -/
theorem run_names {op : PairwiseOp K T} {result : PairwiseSendResult K}
    {cell cell' : PairwiseCell K T J P} (h : exec op.run cell = (.ok (.sent result), cell')) :
    result.Names cell'.manager.state := by
  cases op with
  | sendText peer text expiresAt now millis =>
      obtain ⟨result', hrun, hsame⟩ := map_eq_ok h
      cases hsame
      exact (sendText_ok hrun).2
  | sendUnsignedEvent peer inner now =>
      obtain ⟨result', hrun, hsame⟩ := map_eq_ok h
      cases hsame
      have hop : (PairwiseOp.sendUnsignedEvent peer inner now : PairwiseOp K T).SendsTo peer := rfl
      exact (validateAndSendUnsignedEvent_ok hop hrun).2
  | acceptInvite invite peer now =>
      obtain ⟨accepted, -, hsame⟩ := map_eq_ok h
      cases hsame
  | processOutOfBandResponse event peer =>
      obtain ⟨⟨⟩, mid, -, hpure⟩ := bind_eq_ok.mp h
      cases hpure
  | processEventAt event now =>
      obtain ⟨⟨⟩, mid, -, hpure⟩ := bind_eq_ok.mp h
      cases hpure
  | pendingActionsAt now =>
      obtain ⟨pending, -, hsame⟩ := map_eq_ok h
      cases hsame
  | ackActions actionIds =>
      obtain ⟨⟨⟩, mid, -, hpure⟩ := bind_eq_ok.mp h
      cases hpure
  | retirePeer peer =>
      obtain ⟨known, -, hsame⟩ := map_eq_ok h
      cases hsame

theorem run_actions {op : PairwiseOp K T} {pending : List (PairwiseAction K T J)}
    {cell cell' : PairwiseCell K T J P} (h : exec op.run cell = (.ok (.actions pending), cell')) :
    pending = cell'.manager.state.pendingActions.filter (fun action =>
      isExposed action.kind) := by
  cases op with
  | pendingActionsAt now =>
      obtain ⟨pending', hrun, hsame⟩ := map_eq_ok h
      cases hsame
      exact (pendingActionsAt_ok hrun).2
  | acceptInvite invite peer now =>
      obtain ⟨accepted, -, hsame⟩ := map_eq_ok h
      cases hsame
  | processOutOfBandResponse event peer =>
      obtain ⟨⟨⟩, mid, -, hpure⟩ := bind_eq_ok.mp h
      cases hpure
  | sendText peer text expiresAt now millis =>
      obtain ⟨result, -, hsame⟩ := map_eq_ok h
      cases hsame
  | sendUnsignedEvent peer inner now =>
      obtain ⟨result, -, hsame⟩ := map_eq_ok h
      cases hsame
  | processEventAt event now =>
      obtain ⟨⟨⟩, mid, -, hpure⟩ := bind_eq_ok.mp h
      cases hpure
  | ackActions actionIds =>
      obtain ⟨⟨⟩, mid, -, hpure⟩ := bind_eq_ok.mp h
      cases hpure
  | retirePeer peer =>
      obtain ⟨known, -, hsame⟩ := map_eq_ok h
      cases hsame

end PairwiseOp

end

end NostrDoubleRatchet
