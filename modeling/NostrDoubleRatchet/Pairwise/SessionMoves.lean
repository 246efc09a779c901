import NostrDoubleRatchet.Pairwise.Handshake

/-!
What the changes of a pairwise manager do to its sessions, and which message each of them
encrypts. A session is installed by a handshake, moved on by a message sent or received,
and removed with its peer. Every event in the journal is a message some change encrypted.
-/

namespace NostrDoubleRatchet

set_option linter.unusedSectionVars false

section

variable {K T J P : Type} [LinearOrder K] [DecidableEq T] [DecidableEq J] [Primitives K T]
  [InvitePrimitives K T] [PairwiseCodec.RumorPrimitives K T] [EventCodec K T J]
  [StateSeal K T J P]

open PairwiseManager

namespace PairwiseManager

/-- The peer whose session the operation replaces when it commits. -/
def installedPeer (manager : PairwiseManager K T J) : PairwiseOp K T → Option K
  | .acceptInvite invite peer _ =>
      if manager.state.answeredHandshake peer (handshakeId invite manager.publicKey) = none then
        some peer
      else none
  | .processOutOfBandResponse _ peer => some peer
  | _ => none

/-- The session the next message to the peer is encrypted with. -/
def sendingSession (manager : PairwiseManager K T J) (peer : K) :
    Option (SessionRecord K T J) := do
  let peerState ← manager.state.peers.get? peer
  let index ← peerState.preferredSendSessionIndex
  peerState.sessions[index]?

/-- The last event queued for publication. -/
def lastPublished (next : PairwiseState K T J) : Option J := do
  match (← next.pendingActions.getLast?).kind with
  | .publish _ eventJson _ => some eventJson
  | _ => none

/-- The message a committed operation has encrypted: whom it is for, the session state it
was encrypted from, and the event. -/
def messageOf (manager : PairwiseManager K T J) (rng : Rng K) (next : PairwiseState K T J) :
    PairwiseOp K T → Option (K × SessionState K × J)
  | .acceptInvite invite peer now =>
      if manager.state.answeredHandshake peer (handshakeId invite manager.publicKey) = none then
        match (invite.acceptWithOwnerContext now.toNat ⟨manager.publicKey⟩
          manager.identityKeys (some ⟨manager.publicKey⟩) rng).1 with
        | .ok (session, _) => do
            let peerState ← next.peers.get? peer
            let record ← peerState.sessions.getLast?
            let bootstrap ← record.bootstrapEventJson
            pure (peer, session.state, bootstrap)
        | .error _ => none
      else none
  | .sendText peer _ _ _ _ => do
      pure (peer, (← manager.sendingSession peer).state, ← lastPublished next)
  | .sendUnsignedEvent peer _ _ => do
      pure (peer, (← manager.sendingSession peer).state, ← lastPublished next)
  | _ => none

end PairwiseManager

/-! What the changes do to the sessions. -/

/-- The state and the message state agree on every peer's session but this one's. -/
def PairwiseState.SetsSession (state : PairwiseState K T J) (peer : K)
    (session : Option (SessionRecord K T J)) (next : PairwiseState K T J) : Prop :=
  ∀ other, next.sessionOf other = if peer = other then session else state.sessionOf other

/-- The effect of a change on the sessions, with the peer whose session it installs and the
message it encrypts. -/
inductive SessionMove (state next : PairwiseState K T J) :
    Option K → Option (K × SessionState K × J) → Prop
  | kept (h : ∀ peer, next.sessionOf peer = state.sessionOf peer) : SessionMove state next none none
  | removed {peer : K} (h : state.SetsSession peer none next) : SessionMove state next none none
  | opened {peer : K} {initial : SessionState K} {record : SessionRecord K T J} {payload : T}
      {now : UnixSeconds} {event : SignedEvent K T} {bootstrap : J} (hrooted : initial.Rooted)
      (hencrypted : Encrypted initial record.state payload now event bootstrap)
      (hbootstrap : record.bootstrapEventJson = some bootstrap)
      (h : state.SetsSession peer (some record) next) :
      SessionMove state next (some peer) (some (peer, initial, bootstrap))
  | bound {peer : K} {record : SessionRecord K T J} (hrooted : record.state.Rooted)
      (hbootstrap : record.bootstrapEventJson = none)
      (h : state.SetsSession peer (some record) next) : SessionMove state next (some peer) none
  | sent {peer : K} {record : SessionRecord K T J} {nextState : SessionState K} {payload : T}
      {now : UnixSeconds} {event : SignedEvent K T} {eventJson : J}
      (hrecord : state.sessionOf peer = some record)
      (hencrypted : Encrypted record.state nextState payload now event eventJson)
      (h : state.SetsSession peer (some { record with state := nextState }) next) :
      SessionMove state next none (some (peer, record.state, eventJson))
  | received {peer : K} {record : SessionRecord K T J} {envelope : MessageEnvelope K T}
      {plan : ReceivePlan K T} {rng rng' : Rng K} (hrecord : state.sessionOf peer = some record)
      (hplan : (Session.fromState record.state).planReceive envelope rng = (.ok plan, rng'))
      (h : state.SetsSession peer (some { record with state := plan.nextState }) next) :
      SessionMove state next none none

section

variable {manager : PairwiseManager K T J} {rng : Rng K} {op : PairwiseOp K T}
  {next : PairwiseState K T J} {authors : List K}

private theorem setsSession_installed {state base : PairwiseState K T J} {peer : K}
    {record : SessionRecord K T J} (h : state.Installed peer record base)
    (hpeers : next.peers = base.peers) : state.SetsSession peer (some record) next := by
  intro other
  rw [PairwiseState.sessionOf_congr hpeers]
  exact PairwiseState.sessionOf_insert h.peers other

/-- Moving a session on, seen from the only session a peer has. -/
private theorem setsSession_advanced {state advanced : PairwiseState K T J} {peer : K}
    {index : Nat} {record : SessionRecord K T J} {nextState : SessionState K}
    (hone : state.OneSessionEach) (hplace : state.HasSession peer index record)
    (h : state.Advanced peer index nextState advanced) (hpeers : next.peers = advanced.peers) :
    state.sessionOf peer = some record ∧
      state.SetsSession peer (some { record with state := nextState }) next := by
  obtain ⟨peerState, only, hget, honly, rfl, hinsert⟩ := h.peers_eq hone
  obtain ⟨peerState', hget', hrecord⟩ := hplace
  rw [hget] at hget'
  cases hget'
  have hsame : only = record := by simpa [honly] using hrecord
  subst hsame
  refine ⟨PairwiseState.sessionOf_eq hget honly, ?_⟩
  intro other
  rw [PairwiseState.sessionOf_congr hpeers]
  exact PairwiseState.sessionOf_insert hinsert other

theorem OpenedHandshake.rooted {invite : Invite K T} {now : UInt64} {initial : SessionState K}
    {record : SessionRecord K T J} {response bootstrap : J}
    (h : OpenedHandshake manager invite now rng initial record response bootstrap) :
    initial.Rooted := by
  cases h with
  | intro haccept hresponse hjson hbootstrap =>
      obtain ⟨-, sessionKey, before, after, hsession⟩ := Invite.acceptWithOwnerContext_ok haccept
      exact initWithContext_rooted hsession

theorem PairwiseState.OneSessionEach.change (hone : manager.state.OneSessionEach)
    (h : PairwiseChange manager rng op next authors) : next.OneSessionEach := by
  cases h with
  | requeued hanswered hqueued => exact hone.congr rfl
  | answered hpeer hunanswered hopened hinstall hrefresh =>
      refine (hone.insert (PairwiseState.install_ok hinstall).peers).congr ?_
      exact hrefresh.peers_eq
  | @bound event peer envelope response invite rng' base next created authors hparse hunseen
      hprocess hpeer hinstall hrefresh =>
      have hbase : PairwiseState.OneSessionEach { manager.state with localInvite := invite } :=
        hone.congr rfl
      refine (hbase.insert (PairwiseState.install_ok hinstall).peers).congr ?_
      rw [hrefresh.peers_eq]
      exact PairwiseState.withResponse_peers
  | sent hop hstate hindex hrecord hencrypted hadvanced =>
      obtain ⟨peerState, record, -, -, -, hinsert⟩ :=
        (PairwiseState.setSessionState_ok hadvanced).peers_eq hone
      exact (hone.insert hinsert).congr rfl
  | delivered hunseen hparse hselected hdecoded hauthor hinner hinnerJson hadvanced halive hnew
      hroom hrefresh =>
      obtain ⟨peerState, record, -, -, -, hinsert⟩ :=
        (PairwiseState.setSessionState_ok hadvanced).peers_eq hone
      refine (hone.insert hinsert).congr ?_
      rw [hrefresh.peers_eq]
      exact PairwiseState.withMessage_peers
  | absorbed hunseen hparse hselected hdecoded hauthor hinner hadvanced hskipped hrefresh =>
      obtain ⟨peerState, record, -, -, -, hinsert⟩ :=
        (PairwiseState.setSessionState_ok hadvanced).peers_eq hone
      refine (hone.insert hinsert).congr ?_
      rw [hrefresh.peers_eq]
      exact PairwiseState.withMessage_peers
  | pruned => exact hone.congr rfl
  | acked => exact hone.congr rfl
  | retired hstate hrefresh => exact hone.erase hrefresh.peers_eq

private theorem messageOf_sent {peer : K} {peerState : PeerState K T J} {index : Nat}
    {record : SessionRecord K T J} {eventJson : J} (hop : op.SendsTo peer)
    (hstate : manager.state.peers.get? peer = some peerState)
    (hindex : peerState.preferredSendSessionIndex = some index)
    (hrecord : peerState.sessions[index]? = some record)
    (hlast : lastPublished next = some eventJson) :
    manager.messageOf rng next op = some (peer, record.state, eventJson) ∧
      manager.installedPeer op = none := by
  have hsession : manager.sendingSession peer = some record := by
    unfold sendingSession
    rw [hstate]
    change peerState.preferredSendSessionIndex.bind _ = _
    rw [hindex]
    exact hrecord
  cases op with
  | sendText target text expiresAt now millis =>
      obtain rfl : target = peer := hop
      refine ⟨?_, rfl⟩
      unfold messageOf
      dsimp only
      rw [hsession, hlast]
      rfl
  | sendUnsignedEvent target inner now =>
      obtain rfl : target = peer := hop
      refine ⟨?_, rfl⟩
      unfold messageOf
      dsimp only
      rw [hsession, hlast]
      rfl
  | acceptInvite invite target now => cases hop
  | processOutOfBandResponse event target => cases hop
  | processEventAt event now => cases hop
  | pendingActionsAt now => cases hop
  | ackActions actionIds => cases hop
  | retirePeer target => cases hop

theorem lastPublished_withAction (state : PairwiseState K T J) (uuid : String) (sessionId : K)
    (eventJson : J) (innerEventId : Option K) :
    lastPublished (state.withAction uuid (.publish sessionId eventJson innerEventId)) =
      some eventJson := by
  unfold lastPublished PairwiseState.withAction
  simp

private theorem messageOf_requeued {invite : Invite K T} {peer : K} {now : UInt64}
    {events : J × J} (hanswered : manager.state.answeredHandshake peer
      (handshakeId invite manager.publicKey) = some events) :
    manager.installedPeer (.acceptInvite invite peer now) = none ∧
      manager.messageOf rng next (.acceptInvite invite peer now) = none := by
  unfold installedPeer messageOf
  dsimp only
  rw [hanswered]
  exact ⟨if_neg nofun, if_neg nofun⟩

private theorem messageOf_answered {invite : Invite K T} {peer : K} {now : UInt64}
    {initial : SessionState K} {record : SessionRecord K T J} {response bootstrap : J}
    (hunanswered : manager.state.answeredHandshake peer
      (handshakeId invite manager.publicKey) = none)
    (hopened : OpenedHandshake manager invite now rng initial record response bootstrap)
    (hsession : next.sessionOf peer = some record) :
    manager.messageOf rng next (.acceptInvite invite peer now) =
      some (peer, initial, bootstrap) := by
  obtain ⟨peerState, hget, hlast⟩ := Option.bind_eq_some_iff.mp hsession
  cases hopened with
  | intro haccept hresponse hjson hbootstrap =>
      unfold messageOf
      dsimp only
      rw [if_pos hunanswered, haccept, hget]
      change (peerState.sessions.getLast?).bind _ = _
      rw [hlast]
      rfl

/-- What a committed operation has done to the sessions. -/
theorem PairwiseChange.move (hone : manager.state.OneSessionEach)
    (h : PairwiseChange manager rng op next authors) :
    SessionMove manager.state next (manager.installedPeer op) (manager.messageOf rng next op) := by
  cases h with
  | requeued hanswered hqueued =>
      obtain ⟨hinstalled, hmessage⟩ := messageOf_requeued hanswered
      rw [hinstalled, hmessage]
      exact SessionMove.kept fun peer => rfl
  | @answered invite peer now initial record response bootstrap base next created uuid uuid'
      authors hpeer hunanswered hopened hinstall hrefresh =>
      have hset : manager.state.SetsSession peer (some record) next :=
        setsSession_installed (PairwiseState.install_ok hinstall) hrefresh.peers_eq
      have hown : next.sessionOf peer = some record := by
        rw [hset peer, if_pos rfl]
      have hinstalled : manager.installedPeer (.acceptInvite invite peer now) = some peer :=
        if_pos hunanswered
      rw [messageOf_answered hunanswered hopened hown, hinstalled]
      have hrooted := hopened.rooted
      cases hopened with
      | intro haccept hresponse hjson hbootstrap =>
          exact SessionMove.opened hrooted hbootstrap rfl hset
  | @bound event peer envelope response invite rng' base next created authors hparse hunseen
      hprocess hpeer hinstall hrefresh =>
      obtain ⟨-, -, -, -, sessionKey, ephemeral, before, after, -, hsession⟩ :=
        Invite.processResponse_ok hprocess
      have hrooted : (responseRecord event invite peer response :
          SessionRecord K T J).state.Rooted := initWithContext_rooted hsession
      have hset := setsSession_installed (PairwiseState.install_ok hinstall)
        (hrefresh.peers_eq.trans PairwiseState.withResponse_peers)
      exact SessionMove.bound hrooted rfl hset
  | sent hop hstate hindex hrecord hencrypted hadvanced =>
      obtain ⟨hmessage, hinstalled⟩ := messageOf_sent hop hstate hindex hrecord
        (lastPublished_withAction _ _ _ _ _)
      rw [hmessage, hinstalled]
      obtain ⟨hown, hset⟩ := setsSession_advanced hone ⟨_, hstate, hrecord⟩
        (PairwiseState.setSessionState_ok hadvanced) rfl
      exact SessionMove.sent hown hencrypted hset
  | delivered hunseen hparse hselected hdecoded hauthor hinner hinnerJson hadvanced halive hnew
      hroom hrefresh =>
      obtain ⟨record, hplace, before, after, hplan⟩ := decryptWithSession_some hselected
      obtain ⟨hown, hset⟩ := setsSession_advanced hone
        (PairwiseState.mem_sessionPlaces.mp hplace) (PairwiseState.setSessionState_ok hadvanced)
        (hrefresh.peers_eq.trans PairwiseState.withMessage_peers)
      exact SessionMove.received hown hplan hset
  | absorbed hunseen hparse hselected hdecoded hauthor hinner hadvanced hskipped hrefresh =>
      obtain ⟨record, hplace, before, after, hplan⟩ := decryptWithSession_some hselected
      obtain ⟨hown, hset⟩ := setsSession_advanced hone
        (PairwiseState.mem_sessionPlaces.mp hplace) (PairwiseState.setSessionState_ok hadvanced)
        (hrefresh.peers_eq.trans PairwiseState.withMessage_peers)
      exact SessionMove.received hown hplan hset
  | pruned => exact SessionMove.kept fun peer => rfl
  | acked => exact SessionMove.kept fun peer => rfl
  | @retired peer peerState next authors hstate hrefresh =>
      have hset : manager.state.SetsSession peer none next :=
        PairwiseState.sessionOf_erase hrefresh.peers_eq
      exact SessionMove.removed hset

/-- A state that has the event queued for publication. -/
def PairwiseState.Publishes (state : PairwiseState K T J) (eventJson : J) : Prop :=
  ∃ action ∈ state.pendingActions, ∃ sessionId innerEventId,
    action.kind = .publish sessionId eventJson innerEventId

/-- A state with a session that keeps the event as its first message. -/
def PairwiseState.Bootstraps (state : PairwiseState K T J) (eventJson : J) : Prop :=
  ∃ peer record, state.sessionOf peer = some record ∧ record.bootstrapEventJson = some eventJson

private theorem publishes_of_mem {state : PairwiseState K T J} {eventJson : J}
    (h : next.Publishes eventJson)
    (hmem : ∀ action ∈ next.pendingActions, action.kind.IsContent →
      action ∈ state.pendingActions) : state.Publishes eventJson := by
  obtain ⟨action, haction, sessionId, innerEventId, hkind⟩ := h
  refine ⟨action, hmem action haction ?_, sessionId, innerEventId, hkind⟩
  intro subscriptionId
  rw [hkind]
  rfl

private theorem publishes_withAction {state : PairwiseState K T J} {uuid : String}
    {kind : PairwiseActionKind K T J} {eventJson : J}
    (h : (state.withAction uuid kind).Publishes eventJson) :
    state.Publishes eventJson ∨ ∃ sessionId innerEventId,
      kind = .publish sessionId eventJson innerEventId := by
  obtain ⟨action, haction, sessionId, innerEventId, hkind⟩ := h
  rcases PairwiseState.mem_withAction.mp haction with hmem | rfl
  · exact Or.inl ⟨action, hmem, sessionId, innerEventId, hkind⟩
  · exact Or.inr ⟨sessionId, innerEventId, hkind⟩

private theorem bootstraps_of_answered {peer sessionId : K} {response bootstrap : J}
    (hone : manager.state.OneSessionEach)
    (h : manager.state.answeredHandshake peer sessionId = some (response, bootstrap)) :
    manager.state.Bootstraps bootstrap := by
  unfold PairwiseState.answeredHandshake at h
  obtain ⟨peerState, hget, h1⟩ := Option.bind_eq_some_iff.mp h
  obtain ⟨session, hfound, h2⟩ := Option.bind_eq_some_iff.mp h1
  obtain ⟨response', -, h3⟩ := Option.bind_eq_some_iff.mp h2
  obtain ⟨bootstrap', hbootstrap, h4⟩ := Option.bind_eq_some_iff.mp h3
  cases h4
  obtain ⟨only, honly⟩ := hone peer peerState hget
  have hmem := List.mem_of_find?_eq_some hfound
  rw [honly, List.mem_singleton] at hmem
  subst hmem
  exact ⟨peer, session, PairwiseState.sessionOf_eq hget honly, hbootstrap⟩

/-- An event queued for publication was queued before, is the first message of a session,
or is the message the change has encrypted. -/
theorem PairwiseChange.publishes (hone : manager.state.OneSessionEach)
    (h : PairwiseChange manager rng op next authors) {eventJson : J}
    (hpublishes : next.Publishes eventJson) :
    manager.state.Publishes eventJson ∨ manager.state.Bootstraps eventJson ∨
      ∃ peer state, manager.messageOf rng next op = some (peer, state, eventJson) := by
  cases h with
  | requeued hanswered hqueued =>
      obtain ⟨action, haction, sessionId, innerEventId, hkind⟩ := hpublishes
      rcases List.mem_append.mp haction with hmem | hmem
      · exact Or.inl ⟨action, hmem, sessionId, innerEventId, hkind⟩
      · rcases hqueued action hmem with hresponse | hbootstrap
        · rw [hresponse] at hkind
          cases hkind
        · rw [hbootstrap] at hkind
          cases hkind
          exact Or.inr (Or.inl (bootstraps_of_answered hone hanswered))
  | @answered invite peer now initial record response bootstrap base next created uuid uuid'
      authors hpeer hunanswered hopened hinstall hrefresh =>
      have hinstalled := PairwiseState.install_ok hinstall
      have hown : next.sessionOf peer = some record := by
        rw [setsSession_installed hinstalled hrefresh.peers_eq peer, if_pos rfl]
      rcases publishes_withAction (publishes_of_mem hpublishes fun action hmem hcontent =>
        (hrefresh.mem_iff hcontent).mp hmem) with hbefore | ⟨sessionId, innerEventId, hkind⟩
      · rcases publishes_withAction hbefore with hbase | ⟨sessionId, innerEventId, hkind⟩
        · refine Or.inl (publishes_of_mem hbase fun action hmem hcontent => ?_)
          exact ((hinstalled.journal action).mp hmem).1
        · cases hkind
      · cases hkind
        exact Or.inr (Or.inr ⟨peer, initial, messageOf_answered hunanswered hopened hown⟩)
  | bound hparse hunseen hprocess hpeer hinstall hrefresh =>
      refine Or.inl (publishes_of_mem hpublishes fun action hmem hcontent => ?_)
      have hbase := (hrefresh.mem_iff hcontent).mp hmem
      rw [PairwiseState.withResponse_pendingActions] at hbase
      exact (((PairwiseState.install_ok hinstall).journal action).mp hbase).1
  | sent hop hstate hindex hrecord hencrypted hadvanced =>
      rcases publishes_withAction hpublishes with hbefore | ⟨sessionId, innerEventId, hkind⟩
      · obtain ⟨peerState, record, -, -, rfl⟩ := PairwiseState.setSessionState_ok hadvanced
        exact Or.inl hbefore
      · cases hkind
        refine Or.inr (Or.inr ⟨_, _, (messageOf_sent hop hstate hindex hrecord ?_).1⟩)
        exact lastPublished_withAction _ _ _ _ _
  | delivered hunseen hparse hselected hdecoded hauthor hinner hinnerJson hadvanced halive hnew
      hroom hrefresh =>
      rcases publishes_withAction (publishes_of_mem hpublishes fun action hmem hcontent =>
        (hrefresh.mem_iff hcontent).mp hmem) with hbefore | ⟨sessionId, innerEventId, hkind⟩
      · refine Or.inl (publishes_of_mem hbefore fun action hmem hcontent => ?_)
        rw [PairwiseState.withMessage_pendingActions] at hmem
        obtain ⟨peerState, record, -, -, rfl⟩ := PairwiseState.setSessionState_ok hadvanced
        exact hmem
      · cases hkind
  | absorbed hunseen hparse hselected hdecoded hauthor hinner hadvanced hskipped hrefresh =>
      refine Or.inl (publishes_of_mem hpublishes fun action hmem hcontent => ?_)
      have hbase := (hrefresh.mem_iff hcontent).mp hmem
      rw [PairwiseState.withMessage_pendingActions] at hbase
      obtain ⟨peerState, record, -, -, rfl⟩ := PairwiseState.setSessionState_ok hadvanced
      exact hbase
  | pruned =>
      refine Or.inl (publishes_of_mem hpublishes fun action hmem hcontent => ?_)
      exact List.mem_of_mem_filter hmem
  | acked =>
      refine Or.inl (publishes_of_mem hpublishes fun action hmem hcontent => ?_)
      exact List.mem_of_mem_filter hmem
  | retired hstate hrefresh =>
      refine Or.inl (publishes_of_mem hpublishes fun action hmem hcontent => ?_)
      have hbase := (hrefresh.mem_iff hcontent).mp hmem
      exact List.mem_of_mem_filter (List.mem_of_mem_filter hbase)

/-- The invite's version never changes. -/
theorem PairwiseChange.version (h : PairwiseChange manager rng op next authors) :
    next.localInvite.metadataPrivacyVersion =
      manager.state.localInvite.metadataPrivacyVersion := by
  cases h with
  | requeued hanswered hqueued => rfl
  | answered hpeer hunanswered hopened hinstall hrefresh =>
      rw [hrefresh.localInvite_eq, (PairwiseState.install_ok hinstall).rest]
      rfl
  | bound hparse hunseen hprocess hpeer hinstall hrefresh =>
      obtain ⟨-, -, -, rfl, -⟩ := Invite.processResponse_ok hprocess
      rw [hrefresh.localInvite_eq, PairwiseState.withResponse_localInvite,
        (PairwiseState.install_ok hinstall).rest]
      dsimp only
      rw [Invite.answeredBy_rest]
  | sent hop hstate hindex hrecord hencrypted hadvanced =>
      obtain ⟨peerState, record, -, -, rfl⟩ := PairwiseState.setSessionState_ok hadvanced
      rfl
  | delivered hunseen hparse hselected hdecoded hauthor hinner hinnerJson hadvanced halive hnew
      hroom hrefresh =>
      obtain ⟨peerState, record, -, -, rfl⟩ := PairwiseState.setSessionState_ok hadvanced
      rw [hrefresh.localInvite_eq]
      change (PairwiseState.withMessage _ _ _ _).localInvite.metadataPrivacyVersion = _
      rw [PairwiseState.withMessage_localInvite]
  | absorbed hunseen hparse hselected hdecoded hauthor hinner hadvanced hskipped hrefresh =>
      obtain ⟨peerState, record, -, -, rfl⟩ := PairwiseState.setSessionState_ok hadvanced
      rw [hrefresh.localInvite_eq, PairwiseState.withMessage_localInvite]
  | pruned => rfl
  | acked => rfl
  | retired hstate hrefresh =>
      rw [hrefresh.localInvite_eq]
      rfl

end

/-! The sending ratchets only move forward. -/

theorem messageEvent_content {envelope : MessageEnvelope K T} {aux : K} {event : SignedEvent K T}
    (h : messageEvent (J := J) envelope aux = .ok event) : event.content = envelope.ciphertext := by
  unfold messageEvent at h
  obtain ⟨⟨⟩, -, h1⟩ := except_bind_eq_ok.mp h
  obtain ⟨secret, -, h2⟩ := except_bind_eq_ok.mp h1
  obtain ⟨version, -, h3⟩ := except_bind_eq_ok.mp h2
  obtain ⟨header, -, h4⟩ := except_bind_eq_ok.mp h3
  obtain ⟨recipient, -, h5⟩ := except_bind_eq_ok.mp h4
  obtain ⟨pubkey, -, h6⟩ := except_bind_eq_ok.mp h5
  cases h6
  rfl

theorem Encrypted.position_lt {rank : K → Nat} (hlaws : DerivationLaws K rank)
    {state nextState : SessionState K} {payload : T} {now : UnixSeconds}
    {event : SignedEvent K T} {eventJson : J}
    (h : Encrypted state nextState payload now event eventJson) :
    state.position rank < nextState.position rank := by
  cases h with
  | intro hplan hnext hevent hpublish hjson =>
      subst hnext
      exact planSend_position hlaws hplan

theorem Encrypted.rooted {state nextState : SessionState K} {payload : T} {now : UnixSeconds}
    {event : SignedEvent K T} {eventJson : J}
    (h : Encrypted state nextState payload now event eventJson) (hrooted : state.Rooted) :
    nextState.Rooted := by
  cases h with
  | intro hplan hnext hevent hpublish hjson =>
      subst hnext
      exact planSend_rooted hrooted hplan

/-- The event carries a body encrypted under the message key of the state. -/
def EncryptedUnder (state : SessionState K) (eventJson : J) : Prop :=
  ∃ (event : SignedEvent K T) (key nonce : K) (payload encrypted : T),
    EventCodec.eventToJson event = .ok eventJson ∧ state.messageKey = some key ∧
    Primitives.encryptToBytes key nonce payload = .ok encrypted ∧
    event.content = Primitives.base64Encode K encrypted

theorem Encrypted.under {state nextState : SessionState K} {payload : T} {now : UnixSeconds}
    {event : SignedEvent K T} {eventJson : J}
    (h : Encrypted state nextState payload now event eventJson) :
    EncryptedUnder state eventJson := by
  cases h with
  | @intro bodyNonce headerNonce aux plan event eventJson hplan hnext hevent hpublish hjson =>
      obtain ⟨key, encrypted, hkey, hencrypted, hciphertext⟩ := planSend_ciphertext hplan
      refine ⟨event, key, bodyNonce, payload, encrypted, hjson, hkey, hencrypted, ?_⟩
      rw [← hciphertext]
      exact messageEvent_content hevent

namespace SessionMove

variable {state next : PairwiseState K T J} {installed : Option K}
  {message : Option (K × SessionState K × J)}

theorem congr (h : SessionMove state next installed message) {next' : PairwiseState K T J}
    (hpeers : next'.peers = next.peers) : SessionMove state next' installed message := by
  have hsame := PairwiseState.sessionOf_congr hpeers
  have hset : ∀ peer session, state.SetsSession peer session next →
      state.SetsSession peer session next' := by
    intro peer session hset other
    rw [hsame other]
    exact hset other
  cases h with
  | kept hkept => exact kept fun peer => (hsame peer).trans (hkept peer)
  | removed hremoved => exact removed (hset _ _ hremoved)
  | opened hinitial hencrypted hbootstrap hopened =>
      exact opened hinitial hencrypted hbootstrap (hset _ _ hopened)
  | bound hrooted hbootstrap hbound => exact bound hrooted hbootstrap (hset _ _ hbound)
  | sent hbefore hencrypted hsent => exact sent hbefore hencrypted (hset _ _ hsent)
  | received hbefore hplan hreceived => exact received hbefore hplan (hset _ _ hreceived)

private theorem forall_setsSession {p : SessionRecord K T J → Prop} {peer : K}
    {session : Option (SessionRecord K T J)} (h : state.SetsSession peer session next)
    (hold : ∀ other record, state.sessionOf other = some record → p record)
    (hnew : ∀ record, session = some record → p record) :
    ∀ other record, next.sessionOf other = some record → p record := by
  intro other record hrecord
  rw [h other] at hrecord
  split at hrecord
  · exact hnew record hrecord
  · exact hold other record hrecord

/-- The sessions of the next state are rooted, and so is the state the message comes from. -/
theorem rooted (h : SessionMove state next installed message)
    (hrooted : ∀ peer record, state.sessionOf peer = some record → record.state.Rooted) :
    (∀ peer record, next.sessionOf peer = some record → record.state.Rooted) ∧
      ∀ sent, message = some sent → sent.2.1.Rooted := by
  cases h with
  | kept hkept =>
      refine ⟨?_, nofun⟩
      intro peer record hrecord
      exact hrooted peer record ((hkept peer).symm.trans hrecord)
  | removed hset => exact ⟨forall_setsSession hset hrooted nofun, nofun⟩
  | opened hinitial hencrypted hbootstrap hset =>
      refine ⟨forall_setsSession hset hrooted ?_, ?_⟩
      · rintro record ⟨⟩
        exact hencrypted.rooted hinitial
      · rintro sent ⟨⟩
        exact hinitial
  | bound hrecord hbootstrap hset =>
      refine ⟨forall_setsSession hset hrooted ?_, nofun⟩
      rintro record ⟨⟩
      exact hrecord
  | sent hrecord hencrypted hset =>
      refine ⟨forall_setsSession hset hrooted ?_, ?_⟩
      · rintro record ⟨⟩
        exact hencrypted.rooted (hrooted _ _ hrecord)
      · rintro sent ⟨⟩
        exact hrooted _ _ hrecord
  | received hrecord hplan hset =>
      refine ⟨forall_setsSession hset hrooted ?_, nofun⟩
      rintro record ⟨⟩
      exact planReceive_rooted (hrooted _ _ hrecord) hplan

/-- A session is new or has not gone back. -/
theorem session_le {rank : K → Nat} (hlaws : DerivationLaws K rank)
    (h : SessionMove state next installed message) {peer : K} {record : SessionRecord K T J}
    (hrecord : next.sessionOf peer = some record) :
    installed = some peer ∨ ∃ before, state.sessionOf peer = some before ∧
      before.state.position rank ≤ record.state.position rank := by
  cases h with
  | kept hkept =>
      rw [hkept peer] at hrecord
      exact Or.inr ⟨record, hrecord, le_refl _⟩
  | removed hset =>
      rw [hset peer] at hrecord
      split at hrecord
      · cases hrecord
      · exact Or.inr ⟨record, hrecord, le_refl _⟩
  | opened hinitial hencrypted hbootstrap hset =>
      rw [hset peer] at hrecord
      split at hrecord
      · rename_i hsame
        exact Or.inl (congrArg some hsame)
      · exact Or.inr ⟨record, hrecord, le_refl _⟩
  | bound hrooted hbootstrap hset =>
      rw [hset peer] at hrecord
      split at hrecord
      · rename_i hsame
        exact Or.inl (congrArg some hsame)
      · exact Or.inr ⟨record, hrecord, le_refl _⟩
  | sent hbefore hencrypted hset =>
      rw [hset peer] at hrecord
      split at hrecord
      · rename_i hsame
        subst hsame
        cases hrecord
        exact Or.inr ⟨_, hbefore, le_of_lt (hencrypted.position_lt hlaws)⟩
      · exact Or.inr ⟨record, hrecord, le_refl _⟩
  | received hbefore hplan hset =>
      rw [hset peer] at hrecord
      split at hrecord
      · rename_i hsame
        subst hsame
        cases hrecord
        exact Or.inr ⟨_, hbefore, planReceive_position hlaws hplan⟩
      · exact Or.inr ⟨record, hrecord, le_refl _⟩

/-- The message comes from the peer's session, or starts a new one, and the session is past
it afterwards. -/
theorem message_lt {rank : K → Nat} (hlaws : DerivationLaws K rank)
    (h : SessionMove state next installed message) {peer : K} {sent : SessionState K}
    {eventJson : J} (hmessage : message = some (peer, sent, eventJson)) :
    (installed = some peer ∨ installed = none ∧ ∃ before, state.sessionOf peer = some before ∧
      sent = before.state) ∧
    ∃ record, next.sessionOf peer = some record ∧
      sent.position rank < record.state.position rank := by
  cases h with
  | kept hkept => cases hmessage
  | removed hset => cases hmessage
  | opened hinitial hencrypted hbootstrap hset =>
      cases hmessage
      refine ⟨Or.inl rfl, _, ?_, hencrypted.position_lt hlaws⟩
      rw [hset peer, if_pos rfl]
  | bound hrooted hbootstrap hset => cases hmessage
  | sent hbefore hencrypted hset =>
      cases hmessage
      refine ⟨Or.inr ⟨rfl, _, hbefore, rfl⟩, _, (hset peer).trans (if_pos rfl), ?_⟩
      exact hencrypted.position_lt hlaws
  | received hbefore hplan hset => cases hmessage

/-- The message is encrypted under the message key of its state. -/
theorem message_under (h : SessionMove state next installed message) {peer : K}
    {sent : SessionState K} {eventJson : J}
    (hmessage : message = some (peer, sent, eventJson)) : EncryptedUnder sent eventJson := by
  cases h with
  | kept hkept => cases hmessage
  | removed hset => cases hmessage
  | opened hinitial hencrypted hbootstrap hset =>
      cases hmessage
      exact hencrypted.under
  | bound hrooted hbootstrap hset => cases hmessage
  | sent hbefore hencrypted hset =>
      cases hmessage
      exact hencrypted.under
  | received hbefore hplan hset => cases hmessage

/-- The first messages the sessions keep were kept before, or are new. -/
theorem bootstraps (h : SessionMove state next installed message) {eventJson : J}
    (hbootstraps : next.Bootstraps eventJson) :
    state.Bootstraps eventJson ∨ ∃ peer sent, message = some (peer, sent, eventJson) := by
  obtain ⟨peer, record, hrecord, hjson⟩ := hbootstraps
  cases h with
  | kept hkept => exact Or.inl ⟨peer, record, (hkept peer).symm.trans hrecord, hjson⟩
  | removed hset =>
      rw [hset peer] at hrecord
      split at hrecord
      · cases hrecord
      · exact Or.inl ⟨peer, record, hrecord, hjson⟩
  | opened hinitial hencrypted hbootstrap hset =>
      rw [hset peer] at hrecord
      split at hrecord
      · cases hrecord
        rw [hbootstrap] at hjson
        cases hjson
        exact Or.inr ⟨_, _, rfl⟩
      · exact Or.inl ⟨peer, record, hrecord, hjson⟩
  | bound hrooted hbootstrap hset =>
      rw [hset peer] at hrecord
      split at hrecord
      · cases hrecord
        rw [hbootstrap] at hjson
        cases hjson
      · exact Or.inl ⟨peer, record, hrecord, hjson⟩
  | sent hbefore hencrypted hset =>
      rw [hset peer] at hrecord
      split at hrecord
      · cases hrecord
        exact Or.inl ⟨_, _, hbefore, hjson⟩
      · exact Or.inl ⟨peer, record, hrecord, hjson⟩
  | received hbefore hplan hset =>
      rw [hset peer] at hrecord
      split at hrecord
      · cases hrecord
        exact Or.inl ⟨_, _, hbefore, hjson⟩
      · exact Or.inl ⟨peer, record, hrecord, hjson⟩

end SessionMove

end

end NostrDoubleRatchet
